import DomainSchema.Text.Hidden

namespace DomainSchema.Text

def hexDigits (n : Nat) : List Char := Nat.toDigits 16 n

def hexValue? (c : Char) : Option Nat :=
  if '0' ≤ c ∧ c ≤ '9' then some (c.toNat - '0'.toNat)
  else if 'a' ≤ c ∧ c ≤ 'f' then some (c.toNat - 'a'.toNat + 10)
  else none

def literalChar (hidden : Char → Bool) (c : Char) : List Char :=
  if c = '\x00' then ['\\','0']
  else if c = '\t' then ['\\','t']
  else if c = '\r' then ['\\','r']
  else if c = '\n' then ['\\','n']
  else if c = '"' then ['\\','"']
  else if c = '\\' then ['\\','\\']
  else if hidden c then ['\\','u','\x7b'] ++ hexDigits c.toNat ++ ['\x7d']
  else [c]

def literalChars (hidden : Char → Bool) (text : List Char) : List Char :=
  '"' :: (text.flatMap (literalChar hidden) ++ ['"'])

def hexNumber? (digits : List Char) : Option Nat := digits.foldlM (fun n d => (hexValue? d).map (16 * n + ·)) 0

def coded? (digits : List Char) : Option Char :=
  if digits.isEmpty ∨ 6 < digits.length then none
  else (hexNumber? digits).bind fun code => if code.isValidChar then some (Char.ofNat code) else none

def named? : Char → Option Char
  | '0' => some '\x00'
  | 't' => some '\t'
  | 'r' => some '\r'
  | 'n' => some '\n'
  | '"' => some '"'
  | '\\' => some '\\'
  | _ => none

-- Reads what is left of a literal after its opening quote: its text, and what follows its closing quote.
-- `code` holds the digits so far inside the code of a character. A literal has no line break in it.
def readLiteral : Option (List Char) → List Char → Option (List Char × List Char)
  | _, [] => none
  | none, '"' :: rest => some ([],rest)
  | none, '\\' :: 'u' :: '\x7b' :: rest => readLiteral (some []) rest
  | none, '\\' :: e :: rest => do
    let c ← named? e
    let (text,rest) ← readLiteral none rest
    return (c :: text,rest)
  | none, c :: rest => do
    if c = '\n' ∨ c = '\r' ∨ c = '\\' then none
    let (text,rest) ← readLiteral none rest
    return (c :: text,rest)
  | some digits, '\x7d' :: rest => do
    let c ← coded? digits
    let (text,rest) ← readLiteral none rest
    return (c :: text,rest)
  | some digits, d :: rest => readLiteral (some (digits ++ [d])) rest

def literal (text : String) : String := String.ofList (literalChars isHidden text.toList)

end DomainSchema.Text

import DomainSchema.Json.Number

namespace DomainSchema.Json

inductive Fault where
  | endInList | endInObject | endInString | endInValue
  | noColon | noCommaInList | noCommaInObject
  | unknownWord | noValue
  | unknownEscape | badHexDigits | loneSurrogate | noLowSurrogate | controlCharacter
  | badNumber | numberOutOfRange
  | keyNotString | trailingComma | trailingCharacters
  | nestedTooDeep
deriving DecidableEq, Repr

def Fault.isEnd : Fault → Bool
  | .endInList | .endInObject | .endInString | .endInValue => true
  | _ => false

def Fault.message : Fault → String
  | .endInList => "EOF while parsing a list"
  | .endInObject => "EOF while parsing an object"
  | .endInString => "EOF while parsing a string"
  | .endInValue => "EOF while parsing a value"
  | .noColon => "expected `:`"
  | .noCommaInList => "expected `,` or `]`"
  | .noCommaInObject => "expected `,` or `\x7d`"
  | .unknownWord => "expected ident"
  | .noValue => "expected value"
  | .unknownEscape => "invalid escape"
  | .badHexDigits => "invalid escape"
  | .loneSurrogate => "lone leading surrogate in hex escape"
  | .noLowSurrogate => "unexpected end of hex escape"
  | .controlCharacter => "control character (\\u0000-\\u001F) found while parsing a string"
  | .badNumber => "invalid number"
  | .numberOutOfRange => "number out of range"
  | .keyNotString => "key must be a string"
  | .trailingComma => "trailing comma"
  | .trailingCharacters => "trailing characters"
  | .nestedTooDeep => "recursion limit exceeded"

-- One element of a string: a character, or the 16-bit code of a `\u` escape, which may be half a character.
inductive TextUnit where
  | char (c : Char)
  | code (n : Nat)
deriving DecidableEq, Repr

structure Quoted where
  units : List TextUnit
  fault : Option Fault
deriving DecidableEq, Repr

inductive Ending where
  | closed
  | textEnd
  | noComma
  | trailingComma
  | textEndAfterComma
  | keyNotString
deriving DecidableEq, Repr

-- A value of the text as far as it can be read. Nothing follows a damaged part: it is the last one of the
-- document, and whatever holds it is damaged as well. So a reader that walks the nodes in order meets
-- what is wrong with the shape and what is wrong with the text in the order of the text.
inductive Node where
  | null
  | bool (b : Bool)
  | number (value? : Option Number)
  | string (s : Quoted)
  | array (items : List Node) (ending : Ending)
  | object (entries : List (Quoted × Node)) (ending : Ending)
  | misKeyed
  -- A word or number that breaks off, by its first character: what its reader finds, and what one that
  -- skips it finds.
  | damaged (first : Char) (read skipped : Fault)
  | unreached (fault : Fault)

structure Taken where
  node : Node
  rest : Option (List Char)

def isSpace (c : Char) : Bool := c == ' ' || c == '\n' || c == '\t' || c == '\r'

def skipSpace (cs : List Char) : List Char := cs.dropWhile isSpace

def hexValue? (c : Char) : Option Nat :=
  if '0' ≤ c ∧ c ≤ '9' then some (c.toNat - '0'.toNat)
  else if 'a' ≤ c ∧ c ≤ 'f' then some (c.toNat - 'a'.toNat + 10)
  else if 'A' ≤ c ∧ c ≤ 'F' then some (c.toNat - 'A'.toNat + 10)
  else none

def hexCode? (a b c d : Char) : Option Nat := do
  return (((← hexValue? a) * 16 + (← hexValue? b)) * 16 + (← hexValue? c)) * 16 + (← hexValue? d)

def simpleEscape? : Char → Option Char
  | '"' => some '"'
  | '\\' => some '\\'
  | '/' => some '/'
  | 'b' => some '\x08'
  | 'f' => some '\x0c'
  | 'n' => some '\n'
  | 'r' => some '\r'
  | 't' => some '\t'
  | _ => none

def takeUnits : List Char → Quoted × List Char
  | [] => (⟨[],some .endInString⟩,[])
  | '"' :: rest => (⟨[],none⟩,rest)
  | ['\\'] => (⟨[],some .endInString⟩,[])
  | '\\' :: 'u' :: a :: b :: c :: d :: rest =>
    match hexCode? a b c d with
    | some n => let (s,rest) := takeUnits rest; (⟨.code n :: s.units,s.fault⟩,rest)
    | none => (⟨[],some .badHexDigits⟩,[])
  | '\\' :: 'u' :: rest =>
    (⟨[],some (if 4 ≤ (String.ofList rest).utf8ByteSize then .badHexDigits else .endInString)⟩,[])
  | '\\' :: e :: rest =>
    match simpleEscape? e with
    | some c => let (s,rest) := takeUnits rest; (⟨.char c :: s.units,s.fault⟩,rest)
    | none => (⟨[],some .unknownEscape⟩,[])
  | c :: rest =>
    if c.toNat < 0x20 then (⟨[],some .controlCharacter⟩,[])
    else let (s,rest) := takeUnits rest; (⟨.char c :: s.units,s.fault⟩,rest)

def isHighSurrogate (n : Nat) : Bool := 0xd800 ≤ n && n ≤ 0xdbff
def isLowSurrogate (n : Nat) : Bool := 0xdc00 ≤ n && n ≤ 0xdfff

-- The characters of a string: a high and a low surrogate are one character together, and neither stands
-- alone. After a high one only `\u` may follow, which an escape that breaks off later still begins.
def characters (fault : Option Fault) : List TextUnit → Except Fault (List Char)
  | [] => match fault with
    | none => .ok []
    | some f => .error f
  | .char c :: units => return c :: (← characters fault units)
  | .code n :: units =>
    if isLowSurrogate n then .error .loneSurrogate
    else if isHighSurrogate n then
      match units with
      | .code low :: units =>
        if isLowSurrogate low then
          return Char.ofNat (0x10000 + (n - 0xd800) * 0x400 + (low - 0xdc00)) :: (← characters fault units)
        else .error .loneSurrogate
      | .char _ :: _ => .error .noLowSurrogate
      | [] => match fault with
        | some .endInString => .error .endInString
        | some .badHexDigits => .error .badHexDigits
        | _ => .error .noLowSurrogate
    else return Char.ofNat n :: (← characters fault units)

def Quoted.text (s : Quoted) : Except Fault String := (characters s.fault s.units).map String.ofList

def digitsMissing (rest : List Char) : Node :=
  .damaged '0' (if rest.isEmpty then .endInValue else .badNumber) .badNumber

def takeExponent (n : Numeral) (rest : List Char) : Taken :=
  match rest with
  | e :: rest =>
    if e = 'e' ∨ e = 'E' then
      let (negative,rest) := match rest with
        | '-' :: rest => (true,rest)
        | '+' :: rest => (false,rest)
        | _ => (false,rest)
      let digits := rest.takeWhile Char.isDigit
      if digits.isEmpty then ⟨digitsMissing rest,none⟩
      else ⟨.number (Numeral.value? { n with exponent := some (negative,digits) }),some (rest.dropWhile Char.isDigit)⟩
    else ⟨.number n.value?,some (e :: rest)⟩
  | [] => ⟨.number n.value?,some []⟩

def takeNumber (negative : Bool) (cs : List Char) : Taken :=
  let whole := cs.takeWhile Char.isDigit
  let rest := cs.dropWhile Char.isDigit
  match whole with
  | [] => ⟨digitsMissing rest,none⟩
  | '0' :: _ :: _ => ⟨.damaged '0' .badNumber .badNumber,none⟩
  | _ =>
    let n : Numeral := ⟨negative,whole,[],none⟩
    match rest with
    | '.' :: rest =>
      let fraction := rest.takeWhile Char.isDigit
      let rest := rest.dropWhile Char.isDigit
      if fraction.isEmpty then ⟨digitsMissing rest,none⟩ else takeExponent { n with fraction } rest
    | _ => takeExponent n rest

def takeWord (first : Char) (node : Node) : List Char → List Char → Taken
  | [], rest => ⟨node,some rest⟩
  | _ :: _, [] => ⟨.damaged first .endInValue .endInValue,none⟩
  | w :: word, c :: rest =>
    if w = c then takeWord first node word rest else ⟨.damaged first .unknownWord .unknownWord,none⟩

structure TakenItems (α : Type) where
  items : List α
  ending : Ending
  rest : Option (List Char)

def TakenItems.push (item : α) (more : TakenItems α) : TakenItems α := { more with items := item :: more.items }

mutual

-- The value at the start of the text. Every step takes a character, so fuel above the length is never used up.
def takeValue (fuel : Nat) (cs : List Char) : Taken :=
  match fuel with
  | 0 => ⟨.unreached .endInValue,none⟩
  | fuel + 1 =>
    match skipSpace cs with
    | [] => ⟨.unreached .endInValue,none⟩
    | 'n' :: rest => takeWord 'n' .null ['u','l','l'] rest
    | 't' :: rest => takeWord 't' (.bool true) ['r','u','e'] rest
    | 'f' :: rest => takeWord 'f' (.bool false) ['a','l','s','e'] rest
    | '"' :: rest =>
      let (s,rest) := takeUnits rest
      ⟨.string s,if s.fault.isNone then some rest else none⟩
    | '-' :: rest => takeNumber true rest
    | '[' :: rest =>
      match skipSpace rest with
      | [] => ⟨.array [] .textEnd,none⟩
      | ']' :: rest => ⟨.array [] .closed,some rest⟩
      | rest => let taken := takeItems fuel rest; ⟨.array taken.items taken.ending,taken.rest⟩
    | '\x7b' :: rest =>
      match skipSpace rest with
      | [] => ⟨.object [] .textEnd,none⟩
      | '\x7d' :: rest => ⟨.object [] .closed,some rest⟩
      | '"' :: rest => let taken := takeEntries fuel rest; ⟨.object taken.items taken.ending,taken.rest⟩
      | _ => ⟨.misKeyed,none⟩
    | c :: rest => if c.isDigit then takeNumber false (c :: rest) else ⟨.damaged c .noValue .noValue,none⟩

def takeItems (fuel : Nat) (cs : List Char) : TakenItems Node :=
  match fuel with
  | 0 => ⟨[],.textEnd,none⟩
  | fuel + 1 =>
    let item := takeValue fuel cs
    match item.rest with
    | none => ⟨[item.node],.closed,none⟩
    | some rest =>
      match skipSpace rest with
      | [] => ⟨[item.node],.textEnd,none⟩
      | ']' :: rest => ⟨[item.node],.closed,some rest⟩
      | ',' :: rest =>
        match skipSpace rest with
        | [] => ⟨[item.node],.textEndAfterComma,none⟩
        | ']' :: _ => ⟨[item.node],.trailingComma,none⟩
        | rest => (takeItems fuel rest).push item.node
      | _ => ⟨[item.node],.noComma,none⟩

def takeEntries (fuel : Nat) (cs : List Char) : TakenItems (Quoted × Node) :=
  match fuel with
  | 0 => ⟨[],.textEnd,none⟩
  | fuel + 1 =>
    let (key,rest) := takeUnits cs
    if key.fault.isSome then ⟨[(key,.unreached .endInString)],.closed,none⟩
    else
      match skipSpace rest with
      | [] => ⟨[(key,.unreached .endInObject)],.closed,none⟩
      | ':' :: rest =>
        let value := takeValue fuel rest
        match value.rest with
        | none => ⟨[(key,value.node)],.closed,none⟩
        | some rest =>
          match skipSpace rest with
          | [] => ⟨[(key,value.node)],.textEnd,none⟩
          | '\x7d' :: rest => ⟨[(key,value.node)],.closed,some rest⟩
          | ',' :: rest =>
            match skipSpace rest with
            | [] => ⟨[(key,value.node)],.textEndAfterComma,none⟩
            | '\x7d' :: _ => ⟨[(key,value.node)],.trailingComma,none⟩
            | '"' :: rest => (takeEntries fuel rest).push (key,value.node)
            | _ => ⟨[(key,value.node)],.keyNotString,none⟩
          | _ => ⟨[(key,value.node)],.noComma,none⟩
      | _ => ⟨[(key,.unreached .noColon)],.closed,none⟩

end

structure Document where
  root : Node
  trailing : Bool

def Document.ofText (text : String) : Document :=
  let cs := text.toList
  let taken := takeValue (cs.length + 1) cs
  ⟨taken.node,taken.rest.any fun rest => !(skipSpace rest).isEmpty⟩

-- The fault that a reader meets who passes over the whole node, whatever it holds. Such a reader does not
-- pair surrogates, and sees a comma before a closing bracket as a missing element.
def Ending.faultInArray : Ending → Option Fault
  | .closed => none
  | .textEnd => some .endInList
  | .noComma => some .noCommaInList
  | .trailingComma => some .noValue
  | .textEndAfterComma => some .endInValue
  | .keyNotString => none

def Ending.faultInObject : Ending → Option Fault
  | .closed => none
  | .textEnd | .textEndAfterComma => some .endInObject
  | .noComma => some .noCommaInObject
  | .trailingComma | .keyNotString => some .keyNotString

mutual

def Node.skipFault : Node → Option Fault
  | .null | .bool _ | .number _ => none
  | .string s => s.fault
  | .array items ending => (skipItems items).or ending.faultInArray
  | .object entries ending => (skipEntries entries).or ending.faultInObject
  | .misKeyed => some .keyNotString
  | .damaged _ _ skipped => some skipped
  | .unreached fault => some fault

def skipItems : List Node → Option Fault
  | [] => none
  | item :: items => item.skipFault.or (skipItems items)

def skipEntries : List (Quoted × Node) → Option Fault
  | [] => none
  | (key,value) :: entries => key.fault.or (value.skipFault.or (skipEntries entries))

end

end DomainSchema.Json

import DomainSchema.Text
import DomainSchema.Toml.Value

namespace DomainSchema.Toml

abbrev Scan (α : Type) := List Char → Option (α × List Char)

def isSpace (c : Char) : Bool := c == ' ' || c == '\t'

def isText (c : Char) : Bool := c == '\t' || (' ' ≤ c && c != '\x7f')

def isBareKey (c : Char) : Bool := c.isAlphanum || c == '_' || c == '-'

def isHexDigit (c : Char) : Bool := Decimal.isDigit c || ('a' ≤ c && c ≤ 'f') || ('A' ≤ c && c ≤ 'F')

def skipSpaces (cs : List Char) : List Char := cs.dropWhile isSpace

def skipLines : Bool → List Char → List Char
  | _, [] => []
  | _, '\n' :: rest => skipLines false rest
  | _, '\r' :: '\n' :: rest => skipLines false rest
  | true, c :: rest => if isText c then skipLines true rest else c :: rest
  | false, c :: rest =>
    if isSpace c then skipLines false rest
    else if c = '#' then skipLines true rest
    else c :: rest

def lineEnd : Bool → List Char → Option (List Char)
  | _, [] => some []
  | _, '\n' :: rest => some rest
  | _, '\r' :: '\n' :: rest => some rest
  | true, c :: rest => if isText c then lineEnd true rest else none
  | false, c :: rest =>
    if isSpace c then lineEnd false rest
    else if c = '#' then lineEnd true rest
    else none

def shortEscape? : Char → Option Char
  | 'b' => some '\x08'
  | 't' => some '\t'
  | 'n' => some '\n'
  | 'f' => some '\x0c'
  | 'r' => some '\r'
  | '"' => some '"'
  | '\\' => some '\\'
  | _ => none

-- The character of a code in hexadecimal digits. Surrogates are no characters.
def codeEscape? (ds : List Char) : Option Char :=
  let n := Decimal.natOfDigits 16 ds
  if ds.all isHexDigit ∧ n.isValidChar then some (Char.ofNat n) else none

def thenChar (c : Char) (read : Option (List Char × List Char)) : Option (List Char × List Char) :=
  read.map fun (text,rest) => (c :: text,rest)

def basicBody : Scan (List Char)
  | [] => none
  | '"' :: rest => some ([],rest)
  | '\\' :: 'u' :: a :: b :: c :: d :: rest => do thenChar (← codeEscape? [a,b,c,d]) (basicBody rest)
  | '\\' :: 'U' :: a :: b :: c :: d :: e :: f :: g :: h :: rest => do
    thenChar (← codeEscape? [a,b,c,d,e,f,g,h]) (basicBody rest)
  | '\\' :: e :: rest => do thenChar (← shortEscape? e) (basicBody rest)
  | c :: rest => if isText c ∧ c ≠ '\\' then thenChar c (basicBody rest) else none

def endsLine (cs : List Char) : Bool :=
  match skipSpaces cs with
  | '\n' :: _ => true
  | '\r' :: '\n' :: _ => true
  | _ => false

-- What is left of a string in three double quotes. Two more quotes may stand right before its end. A
-- backslash at the end of a line takes away all spaces and line ends that follow; `joining` tells that it did.
def longBasicBody : Bool → Scan (List Char)
  | _, [] => none
  | _, '"' :: '"' :: '"' :: '"' :: '"' :: rest => some (['"','"'],rest)
  | _, '"' :: '"' :: '"' :: '"' :: rest => some (['"'],rest)
  | _, '"' :: '"' :: '"' :: rest => some ([],rest)
  | true, '\n' :: rest => longBasicBody true rest
  | true, '\r' :: '\n' :: rest => longBasicBody true rest
  | false, '\n' :: rest => thenChar '\n' (longBasicBody false rest)
  | false, '\r' :: '\n' :: rest => thenChar '\n' (longBasicBody false rest)
  | _, '\\' :: 'u' :: a :: b :: c :: d :: rest => do thenChar (← codeEscape? [a,b,c,d]) (longBasicBody false rest)
  | _, '\\' :: 'U' :: a :: b :: c :: d :: e :: f :: g :: h :: rest => do
    thenChar (← codeEscape? [a,b,c,d,e,f,g,h]) (longBasicBody false rest)
  | _, '\\' :: e :: rest =>
    if endsLine (e :: rest) then if isSpace e then longBasicBody true rest else longBasicBody true (e :: rest)
    else do thenChar (← shortEscape? e) (longBasicBody false rest)
  | joining, c :: rest =>
    if joining && isSpace c then longBasicBody true rest
    else if isText c ∧ c ≠ '\\' then thenChar c (longBasicBody false rest)
    else none

def literalBody : Scan (List Char)
  | [] => none
  | '\'' :: rest => some ([],rest)
  | c :: rest => if isText c then thenChar c (literalBody rest) else none

def longLiteralBody : Scan (List Char)
  | [] => none
  | '\'' :: '\'' :: '\'' :: '\'' :: '\'' :: rest => some (['\'','\''],rest)
  | '\'' :: '\'' :: '\'' :: '\'' :: rest => some (['\''],rest)
  | '\'' :: '\'' :: '\'' :: rest => some ([],rest)
  | '\n' :: rest => thenChar '\n' (longLiteralBody rest)
  | '\r' :: '\n' :: rest => thenChar '\n' (longLiteralBody rest)
  | c :: rest => if isText c then thenChar c (longLiteralBody rest) else none

-- A line end right after the opening quotes of a long string is no part of it.
def dropLineEnd : List Char → List Char
  | '\n' :: rest => rest
  | '\r' :: '\n' :: rest => rest
  | cs => cs

def string : Scan (List Char)
  | '"' :: '"' :: '"' :: rest => longBasicBody false (dropLineEnd rest)
  | '"' :: rest => basicBody rest
  | '\'' :: '\'' :: '\'' :: rest => longLiteralBody (dropLineEnd rest)
  | '\'' :: rest => literalBody rest
  | _ => none

def simpleKey : Scan String
  | '"' :: rest => (basicBody rest).map fun (text,rest) => (String.ofList text,rest)
  | '\'' :: rest => (literalBody rest).map fun (text,rest) => (String.ofList text,rest)
  | cs =>
    let (name, rest) := cs.span isBareKey
    if name = [] then none else some (String.ofList name,rest)

def key : Nat → Scan (List String)
  | 0, _ => none
  | limit + 1, cs => do
    let (name,rest) ← simpleKey (skipSpaces cs)
    match skipSpaces rest with
    | '.' :: rest =>
      let (names,rest) ← key limit rest
      return (name :: names,rest)
    | rest => return ([name],rest)

def moreDigits (isDigit : Char → Bool) : List Char → List Char × List Char
  | '_' :: d :: rest =>
    if isDigit d then
      let (ds,rest) := moreDigits isDigit rest
      (d :: ds,rest)
    else ([],'_' :: d :: rest)
  | d :: rest =>
    if isDigit d then
      let (ds,rest) := moreDigits isDigit rest
      (d :: ds,rest)
    else ([],d :: rest)
  | [] => ([],[])

def digits (isDigit : Char → Bool) : Scan (List Char)
  | d :: rest =>
    if isDigit d then
      let (ds,rest) := moreDigits isDigit rest
      some (d :: ds,rest)
    else none
  | [] => none

def wholeDigits : Scan (List Char)
  | '0' :: rest => some (['0'],rest)
  | cs => digits Decimal.isDigit cs

def integer (negative : Bool) (base : Nat) (ds : List Char) : Option Value :=
  let n := Decimal.natOfDigits base ds
  let i : Int := if negative then -(n : Int) else n
  if Decimal.fits64 i then some (.integer i) else none

def inBase (base : Nat) (isDigit : Char → Bool) (cs : List Char) : Option (Value × List Char) := do
  let (ds,rest) ← digits isDigit cs
  return (← integer false base ds,rest)

-- A number that rounds to positive infinity is refused; the negative one is not.
def float (n : Decimal.Numeral) : Option Value :=
  let x := n.double
  if x = .infinite false then none else some (.float x)

def exponent (cs : List Char) : Option ((Bool × List Char) × List Char) := do
  let (negative, rest) := Decimal.takeSign cs
  let (ds,rest) ← digits Decimal.isDigit rest
  return ((negative,ds),rest)

def decimal (negative : Bool) (cs : List Char) : Option (Value × List Char) := do
  let (whole,rest) ← wholeDigits cs
  let (fraction,rest) ← match rest with
    | '.' :: rest => do
      let (ds,rest) ← digits Decimal.isDigit rest
      pure (some ds,rest)
    | _ => pure (none,rest)
  let (power,rest) ← match rest with
    | 'e' :: rest | 'E' :: rest => do
      let (power,rest) ← exponent rest
      pure (some power,rest)
    | _ => pure (none,rest)
  match fraction, power with
  | none, none => return (← integer negative 10 whole,rest)
  | _, _ =>
    let (exponentNegative, exponent) := power.getD (false,[])
    return (← float ⟨negative,whole,fraction.getD [],exponentNegative,exponent⟩,rest)

def number (cs : List Char) : Option (Value × List Char) :=
  match cs with
  | '0' :: 'x' :: rest => inBase 16 isHexDigit rest
  | '0' :: 'o' :: rest => inBase 8 (fun c => '0' ≤ c && c ≤ '7') rest
  | '0' :: 'b' :: rest => inBase 2 (fun c => c == '0' || c == '1') rest
  | _ =>
    let (negative, rest) := Decimal.takeSign cs
    match rest with
    | 'i' :: 'n' :: 'f' :: rest => some (.float (.infinite negative),rest)
    | 'n' :: 'a' :: 'n' :: rest => some (.float .notANumber,rest)
    | rest => decimal negative rest

def twoDigits (low high : Nat) : Scan (List Char)
  | a :: b :: rest =>
    let n := Decimal.natOfDigits 10 [a,b]
    if Decimal.isDigit a ∧ Decimal.isDigit b ∧ low ≤ n ∧ n ≤ high then some ([a,b],rest) else none
  | _ => none

def expect (c : Char) : List Char → Option (List Char)
  | d :: rest => if c = d then some rest else none
  | [] => none

def isLeapYear (year : Nat) : Bool := year % 4 = 0 ∧ (year % 100 ≠ 0 ∨ year % 400 = 0)

def daysInMonth (year month : Nat) : Nat :=
  if month = 2 then if isLeapYear year then 29 else 28
  else if month = 4 ∨ month = 6 ∨ month = 9 ∨ month = 11 then 30
  else 31

def date (cs : List Char) : Option (List Char × List Char) := do
  let year := cs.take 4
  if year.length = 4 ∧ year.all Decimal.isDigit then
    let rest ← expect '-' (cs.drop 4)
    let (month,rest) ← twoDigits 1 12 rest
    let rest ← expect '-' rest
    let (day,rest) ← twoDigits 1 (daysInMonth (Decimal.natOfDigits 10 year) (Decimal.natOfDigits 10 month)) rest
    return (year ++ '-' :: month ++ '-' :: day,rest)
  else none

def secondFraction (ds : List Char) : List Char :=
  match ((ds.take 9).reverse.dropWhile (· = '0')).reverse with
  | [] => []
  | ds => '.' :: ds

def time (cs : List Char) : Option (List Char × List Char) := do
  let (hour,rest) ← twoDigits 0 23 cs
  let rest ← expect ':' rest
  let (minute,rest) ← twoDigits 0 59 rest
  let rest ← expect ':' rest
  let (second,rest) ← twoDigits 0 60 rest
  let text := hour ++ ':' :: minute ++ ':' :: second
  match rest with
  | '.' :: rest =>
    let (ds, rest) := rest.span Decimal.isDigit
    if ds = [] then none else return (text ++ secondFraction ds,rest)
  | _ => return (text,rest)

def offset : Scan (List Char)
  | 'Z' :: rest | 'z' :: rest => some (['Z'],rest)
  | sign :: rest =>
    if sign = '+' ∨ sign = '-' then do
      let (hour,rest) ← twoDigits 0 23 rest
      let rest ← expect ':' rest
      let (minute,rest) ← twoDigits 0 59 rest
      let zero := hour = ['0','0'] ∧ minute = ['0','0']
      return ((if zero then '+' else sign) :: hour ++ ':' :: minute,rest)
    else some ([],sign :: rest)
  | [] => some ([],[])

def dateAndTime (cs : List Char) : Option (List Char × List Char) := do
  let (day,rest) ← date cs
  let clock := match rest with
    | 'T' :: rest | 't' :: rest | ' ' :: rest => time rest
    | _ => none
  match clock with
  | some (clock,rest) =>
    let (zone,rest) ← offset rest
    return (day ++ 'T' :: clock ++ zone,rest)
  | none => return (day,rest)

def datetime (cs : List Char) : Option (Value × List Char) :=
  (dateAndTime cs <|> time cs).map fun (text,rest) => (.datetime (String.ofList text),rest)

def scalar (cs : List Char) : Option (Value × List Char) :=
  match cs with
  | '"' :: _ | '\'' :: _ => (string cs).map fun (text,rest) => (.string (String.ofList text),rest)
  | 't' :: 'r' :: 'u' :: 'e' :: rest => some (.boolean true,rest)
  | 'f' :: 'a' :: 'l' :: 's' :: 'e' :: rest => some (.boolean false,rest)
  | _ => datetime cs <|> number cs

end DomainSchema.Toml

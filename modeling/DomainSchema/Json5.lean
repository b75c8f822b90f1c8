import DomainSchema.Json.Value
import DomainSchema.Text.Comment
import DomainSchema.Text.Letter

namespace DomainSchema.Json5
open Json (Value TextUnit)

def isLineEnd (c : Char) : Bool := c == '\n' || c == '\r' || c == '\u2028' || c == '\u2029'

def isSpace (c : Char) : Bool := (Text.isBlank c && c != '\u0085') || c == '\ufeff'

def spacing : Text.Spacing := ⟨isSpace,isLineEnd,false⟩

def skip (cs : List Char) : Option (List Char) := spacing.skip cs

def escape? (c : Char) : Option Char :=
  match c with
  | '0' => some '\x00'
  | 'b' => some '\x08'
  | 'f' => some '\x0c'
  | 'n' => some '\n'
  | 'r' => some '\r'
  | 't' => some '\t'
  | 'v' => some '\x0b'
  | c => if c.isDigit ∨ c = 'x' ∨ c = 'u' then none else some c

abbrev Units := Option (List TextUnit × List Char)

def thenUnit (u : TextUnit) (taken : Units) : Units := taken.map fun (units,rest) => (u :: units,rest)

-- The string whose opening quote has been taken, and the text after its closing quote. A line end in it follows a
-- backslash and is left out.
def takeUnits (quote : Char) : List Char → Units
  | [] => none
  | '\\' :: 'u' :: a :: b :: c :: d :: rest => do
    thenUnit (.code (← Json.hexCode? a b c d)) (takeUnits quote rest)
  | '\\' :: 'x' :: a :: b :: rest => do thenUnit (.code (← Json.hexCode? '0' '0' a b)) (takeUnits quote rest)
  | '\\' :: '\r' :: '\n' :: rest => takeUnits quote rest
  | ['\\'] => none
  | '\\' :: c :: rest =>
    if isLineEnd c then takeUnits quote rest else do thenUnit (.char (← escape? c)) (takeUnits quote rest)
  | c :: rest =>
    if c = quote then some ([],rest)
    else if isLineEnd c then none
    else thenUnit (.char c) (takeUnits quote rest)

def isNameChar (first : Bool) (c : Char) : Bool :=
  Text.isLetter c || c == '$' || c == '_' || (!first && Text.isNameMark c)

def takeName (first : Bool) : List Char → Units
  | '\\' :: 'u' :: a :: b :: c :: d :: rest => do thenUnit (.code (← Json.hexCode? a b c d)) (takeName false rest)
  | c :: rest =>
    if isNameChar first c then thenUnit (.char c) (takeName false rest)
    else if first ∨ c = '\\' then none
    else some ([],c :: rest)
  | [] => if first then none else some ([],[])

def text? (taken : Units) : Option (String × List Char) := do
  let (units,rest) ← taken
  return (String.ofList (← (Json.characters none units).toOption),rest)

def takeKey : List Char → Option (String × List Char)
  | '"' :: rest => text? (takeUnits '"' rest)
  | '\'' :: rest => text? (takeUnits '\'' rest)
  | cs => text? (takeName true cs)

def takeExponent (cs : List Char) : Option (Bool × List Char) × List Char :=
  match cs with
  | e :: rest =>
    let (negative,rest) := Decimal.takeSign rest
    let digits := rest.takeWhile Char.isDigit
    if (e = 'e' ∨ e = 'E') ∧ digits ≠ [] then (some (negative,digits),rest.dropWhile Char.isDigit) else (none,cs)
  | [] => (none,[])

def takeDecimal (negative : Bool) (cs : List Char) : Option (Value × List Char) := do
  let digits := cs.takeWhile Char.isDigit
  let whole := if digits.head? = some '0' then ['0'] else digits
  let rest := cs.drop whole.length
  let point := rest.head? = some '.'
  let fraction := if point then (rest.drop 1).takeWhile Char.isDigit else []
  if whole = [] ∧ fraction = [] then none
  let (exponent,after) := takeExponent (if point then rest.drop (fraction.length + 1) else rest)
  if ¬point ∧ exponent.isNone then
    let n : Int := Decimal.natOfDigits 10 whole
    let i := if negative then -n else n
    if Decimal.fits64 i then return (.number (.integer i),after) else none
  else
    let (exponentNegative,exponent) := exponent.getD (false,[])
    match Decimal.Numeral.double ⟨negative,whole,fraction,exponentNegative,exponent⟩ with
    | .finite negative m q => return (.number (.double (.finite negative m q)),after)
    | _ => none

-- A numeral behind its sign. A plus stands only before decimal ones, and no sign at all before hexadecimal ones.
def takeNumber (sign : Option Char) (cs : List Char) : Option (Value × List Char) :=
  let negative := sign == some '-'
  match cs with
  | 'I' :: 'n' :: 'f' :: 'i' :: 'n' :: 'i' :: 't' :: 'y' :: rest =>
    if sign = some '+' then none else some (.number (.double (.infinite negative)),rest)
  | 'N' :: 'a' :: 'N' :: rest => if sign = some '+' then none else some (.number (.double .notANumber),rest)
  | '0' :: x :: rest =>
    let digits := rest.takeWhile fun c => (Json.hexValue? c).isSome
    if (x = 'x' ∨ x = 'X') ∧ digits ≠ [] then
      let n := Decimal.natOfDigits 16 digits
      if sign.isNone ∧ n < Decimal.pow2 32 then some (.number (.integer n),rest.drop digits.length) else none
    else takeDecimal negative cs
  | _ => takeDecimal negative cs

mutual

def takeValue : Nat → List Char → Option (Value × List Char)
  | 0, _ => none
  | fuel + 1, cs =>
    match cs with
    | 'n' :: 'u' :: 'l' :: 'l' :: rest => some (.null,rest)
    | 't' :: 'r' :: 'u' :: 'e' :: rest => some (.bool true,rest)
    | 'f' :: 'a' :: 'l' :: 's' :: 'e' :: rest => some (.bool false,rest)
    | '[' :: rest => do
      let (items,rest) ← takeItems true fuel rest
      return (.array items,rest)
    | '\x7b' :: rest => do
      let (entries,rest) ← takeEntries true fuel rest
      return (.object entries,rest)
    | c :: rest =>
      if c = '"' ∨ c = '\'' then (takeKey cs).map fun (text,rest) => (.string text,rest)
      else if c = '+' ∨ c = '-' then takeNumber (some c) rest
      else takeNumber none cs
    | [] => none

def takeItems (first : Bool) : Nat → List Char → Option (List Value × List Char)
  | 0, _ => none
  | fuel + 1, cs => do
    match ← skip cs with
    | ']' :: rest => return ([],rest)
    | ',' :: rest =>
      if first then none
      else match ← skip rest with
        | ']' :: rest => return ([],rest)
        | rest => takeMoreItems fuel rest
    | rest => if first then takeMoreItems fuel rest else none

def takeMoreItems : Nat → List Char → Option (List Value × List Char)
  | 0, _ => none
  | fuel + 1, cs => do
    let (item,rest) ← takeValue fuel cs
    let (items,rest) ← takeItems false fuel rest
    return (item :: items,rest)

def takeEntries (first : Bool) : Nat → List Char → Option (List (String × Value) × List Char)
  | 0, _ => none
  | fuel + 1, cs => do
    match ← skip cs with
    | '\x7d' :: rest => return ([],rest)
    | ',' :: rest =>
      if first then none
      else match ← skip rest with
        | '\x7d' :: rest => return ([],rest)
        | rest => takeMoreEntries fuel rest
    | rest => if first then takeMoreEntries fuel rest else none

def takeMoreEntries : Nat → List Char → Option (List (String × Value) × List Char)
  | 0, _ => none
  | fuel + 1, cs => do
    let (key,rest) ← takeKey cs
    match ← skip rest with
    | ':' :: rest =>
      let (value,rest) ← takeValue fuel (← skip rest)
      let (entries,rest) ← takeEntries false fuel rest
      return ((key,value) :: entries,rest)
    | _ => none

end

def read? (text : String) : Option Value := do
  let cs := text.toList
  let (value,rest) ← takeValue (3 * cs.length + 3) (← skip cs)
  if (← skip rest) = [] then return value else none

end DomainSchema.Json5

import DomainSchema.Json.Value
import DomainSchema.Text.Comment

namespace DomainSchema.Ron
open Json (Value)

def isSpace (c : Char) : Bool := c == ' ' || c == '\t' || c == '\n' || c == '\r'

def spacing : Text.Spacing := ⟨isSpace,(· == '\n'),true⟩

def skip (cs : List Char) : Option (List Char) := spacing.skip cs

def without? (word : String) (cs : List Char) : Option (List Char) :=
  if word.toList.isPrefixOf cs then some (cs.drop word.length) else none

def withoutAll? (words : List String) (cs : List Char) : Option (List Char) :=
  words.foldlM (fun cs word => without? word cs >>= skip) cs

def isNameChar (c : Char) : Bool := c.isAlphanum || c == '_'
def isRawNameChar (c : Char) : Bool := isNameChar c || c == '.' || c == '+' || c == '-'

def takeName? (cs : List Char) : Option (List Char × List Char) :=
  match cs with
  | 'r' :: '"' :: _ => none
  | 'r' :: '#' :: rest =>
    let name := rest.takeWhile isRawNameChar
    if name = [] then none else some (name,rest.drop name.length)
  | c :: _ =>
    if isNameChar c ∧ !c.isDigit then some (cs.takeWhile isNameChar,cs.dropWhile isNameChar) else none
  | [] => none

def takeEscape? : List Char → Option (Char × List Char)
  | 'x' :: a :: b :: rest => do return (Char.ofNat (← Json.hexCode? '0' '0' a b),rest)
  | 'u' :: '\x7b' :: rest =>
    let digits := (rest.takeWhile fun c => (Json.hexValue? c).isSome).take 6
    let n := Decimal.natOfDigits 16 digits
    match rest.drop digits.length with
    | '\x7d' :: rest => if digits ≠ [] ∧ n.isValidChar then some (Char.ofNat n,rest) else none
    | _ => none
  | c :: rest =>
    match c with
    | '\'' | '"' | '\\' => some (c,rest)
    | 'n' => some ('\n',rest)
    | 'r' => some ('\r',rest)
    | 't' => some ('\t',rest)
    | '0' => some ('\x00',rest)
    | _ => none
  | [] => none

def thenChar (c : Char) (taken : Option (List Char × List Char)) : Option (List Char × List Char) :=
  taken.map fun (text,rest) => (c :: text,rest)

def takeString : Nat → List Char → Option (List Char × List Char)
  | 0, _ => none
  | _, [] => none
  | fuel + 1, c :: rest =>
    if c = '"' then some ([],rest)
    else if c = '\\' then do
      let (c,rest) ← takeEscape? rest
      thenChar c (takeString fuel rest)
    else thenChar c (takeString fuel rest)

-- A string without escapes, which ends with a quote and as many marks as there were before its opening quote.
def takeRaw (marks : Nat) : List Char → Option (List Char × List Char)
  | [] => none
  | c :: rest =>
    if c = '"' ∧ (List.replicate marks '#').isPrefixOf rest then some ([],rest.drop marks)
    else thenChar c (takeRaw marks rest)

def takeText? (cs : List Char) : Option (String × List Char) := do
  let (text,rest) ← match cs with
    | '"' :: rest => takeString cs.length rest
    | 'r' :: rest =>
      let marks := (rest.takeWhile (· == '#')).length
      match rest.drop marks with
      | '"' :: rest => takeRaw marks rest
      | _ => none
    | '\'' :: '\\' :: rest =>
      match takeEscape? rest with
      | some (c,'\'' :: rest) => some ([c],rest)
      | _ => none
    | '\'' :: c :: '\'' :: rest => if c = '\'' then none else some ([c],rest)
    | _ => none
  return (String.ofList text,rest)

def isIntegerChar (c : Char) : Bool := (Json.hexValue? c).isSome || c == '_'
def isFloatChar (c : Char) : Bool :=
  c.isDigit || c == '.' || c == 'e' || c == 'E' || c == '+' || c == '-' || c == '_'

def double (x : Decimal.Double) : Value := .number (.double x)

def takeDigits? (cs : List Char) : Option (Nat × List Char) :=
  let (base,cs) := match cs with
    | '0' :: 'x' :: rest => (16,rest)
    | '0' :: 'o' :: rest => (8,rest)
    | '0' :: 'b' :: rest => (2,rest)
    | cs => (10,cs)
  let word := cs.takeWhile isIntegerChar
  let digits := word.filter (· != '_')
  if word.head?.all (· == '_') then none
  else if digits.all fun c => (Json.hexValue? c).any (· < base) then
    some (Decimal.natOfDigits base digits,cs.drop word.length)
  else none

-- An integer of 64 bits. One that needs the last bit, and has no sign, becomes a double.
def takeInteger? (cs : List Char) : Option (Value × List Char) := do
  let signed := cs.head? = some '+' ∨ cs.head? = some '-'
  let (n,rest) ← takeDigits? (if signed then cs.drop 1 else cs)
  let i : Int := if cs.head? = some '-' then -(n : Int) else n
  if Decimal.fits64 i then return (.number (.integer i),rest)
  else if ¬signed ∧ n < Decimal.pow2 64 then return (double (Decimal.nearest false n 0),rest)
  else none

def limits : List (String × Decimal.Double) :=
  [("+inf",.infinite false),("-inf",.infinite true),("+NaN",.notANumber),("-NaN",.notANumber)]

def takeFloat? (cs : List Char) : Option (Value × List Char) := do
  let endsName (rest : List Char) : Bool := !rest.head?.any isNameChar
  let limit := limits.findSome? fun (word,x) => ((without? word cs).filter endsName).map fun rest => (double x,rest)
  match limit with
  | some found => return found
  | none =>
    let word := cs.takeWhile isFloatChar
    if word.contains '_' then none
    return (double (← Decimal.double? (String.ofList word)),cs.drop word.length)

def takeNumber? (cs : List Char) : Option (Value × List Char) :=
  let body := if cs.head? = some '+' ∨ cs.head? = some '-' then cs.drop 1 else cs
  if (body.takeWhile isIntegerChar).length < (body.takeWhile isFloatChar).length then takeFloat? cs
  else (takeInteger? cs).or (takeFloat? cs)

def beginsField (cs : List Char) : Bool :=
  match takeName? cs with
  | some (_,rest) => (skip rest).any fun rest => rest.head? == some ':'
  | none => false

def passComma (cs : List Char) : Option (Bool × List Char) := do
  match ← skip cs with
  | ',' :: rest => return (true,← skip rest)
  | rest => return (false,rest)

mutual

-- The value at the start of the text. What has no content is nothing, and what may be there is what it holds.
def takeValue : Nat → List Char → Option (Value × List Char)
  | 0, _ => none
  | fuel + 1, cs =>
    match takeName? cs with
    | some (name,rest) =>
      let word := if cs.take 2 = ['r','#'] then "" else String.ofList name
      if word = "true" ∨ word = "false" then some (.bool (word = "true"),rest)
      else if word = "None" then some (.null,rest)
      else if word = "inf" then some (double (.infinite false),rest)
      else if word = "NaN" then some (double .notANumber,rest)
      else if word = "Some" then do
        let (value,rest) ← takeValue fuel (← withoutAll? ["("] (← skip rest))
        let (_,rest) ← passComma rest
        return (value,← without? ")" rest)
      else do
        match ← skip rest with
        | '(' :: rest => takeFields fuel (← skip rest)
        | rest => return (.null,rest)
    | none =>
      match cs with
      | '(' :: ')' :: rest => some (.null,rest)
      | '(' :: rest => do takeFields fuel (← skip rest)
      | '[' :: rest => do
        let (items,rest) ← takeItems ']' true fuel rest
        return (.array items,rest)
      | '\x7b' :: rest => do
        let (entries,rest) ← takeEntries '\x7d' true fuel rest
        return (.object entries,rest)
      | c :: _ =>
        if c.isDigit ∨ c = '+' ∨ c = '-' then takeNumber? cs
        else if c = '.' then takeFloat? cs
        else (takeText? cs).map fun (text,rest) => (.string text,rest)
      | [] => none

def takeFields : Nat → List Char → Option (Value × List Char)
  | 0, _ => none
  | fuel + 1, cs =>
    if beginsField cs then do
      let (entries,rest) ← takeEntries ')' true fuel cs
      return (.object entries,rest)
    else do
      let (items,rest) ← takeItems ')' true fuel cs
      return (.array items,rest)

def takeItems (close : Char) (mayCome : Bool) : Nat → List Char → Option (List Value × List Char)
  | 0, _ => none
  | fuel + 1, cs => do
    let cs ← skip cs
    if cs.head? = some close then return ([],cs.drop 1)
    if !mayCome then none
    let (item,rest) ← takeValue fuel cs
    let (comma,rest) ← passComma rest
    let (items,rest) ← takeItems close comma fuel rest
    return (item :: items,rest)

def takeEntries (close : Char) (mayCome : Bool) : Nat → List Char → Option (List (String × Value) × List Char)
  | 0, _ => none
  | fuel + 1, cs => do
    let cs ← skip cs
    if cs.head? = some close then return ([],cs.drop 1)
    if !mayCome then none
    let (key,rest) ←
      if close = ')' then (takeName? cs).map fun (name,rest) => (String.ofList name,rest) else takeText? cs
    let (value,rest) ← takeValue fuel (← withoutAll? [":"] (← skip rest))
    let (comma,rest) ← passComma rest
    let (entries,rest) ← takeEntries close comma fuel rest
    return ((key,value) :: entries,rest)

end

-- What a text may switch on at its start. Nothing of it changes what a value without a type looks like.
def extensions : List String := ["unwrap_newtypes","implicit_some","unwrap_variant_newtypes"]

def skipExtensions : Nat → List Char → Option (List Char)
  | 0, _ => none
  | fuel + 1, cs => do
    let (name,rest) ← takeName? cs
    if !extensions.contains (String.ofList name) then none
    let (comma,rest) ← passComma rest
    match comma, rest.head?.any isNameChar with
    | true, true => skipExtensions fuel rest
    | false, true => none
    | _, false => return rest

def skipAttributes : Nat → List Char → Option (List Char)
  | 0, _ => none
  | fuel + 1, cs => do
    let cs ← skip cs
    if cs.head? = some '#' then
      let rest ← skipExtensions fuel (← withoutAll? ["#","!","[","enable","("] cs)
      skipAttributes fuel (← withoutAll? [")","]"] rest)
    else return cs

def read? (text : String) : Option Value := do
  let cs := text.toList
  let fuel := 3 * cs.length + 3
  let (value,rest) ← takeValue fuel (← skipAttributes fuel cs)
  if (← skip rest) = [] then return value else none

end DomainSchema.Ron

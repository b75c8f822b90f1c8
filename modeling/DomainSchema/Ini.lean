import DomainSchema.Json.Value

namespace DomainSchema.Ini
open Json (Value)

def coded? (a b c d : Char) : Option Char := do
  let n ← Json.hexCode? a b c d
  if n.isValidChar then return Char.ofNat n else none

def escaped (c : Char) : List Char :=
  match c with
  | '0' => ['\x00']
  | 'a' => ['\x07']
  | 'b' => ['\x08']
  | 't' => ['\t']
  | 'r' => ['\r']
  | 'n' => ['\n']
  | '\n' => []
  | c => [c]

def takeUntil (ends : List Char) (mayEnd : Bool) : List Char → Option (List Char × List Char)
  | [] => if mayEnd then some ([],[]) else none
  | '\\' :: 'x' :: a :: b :: c :: d :: rest => do
    let (text,rest) ← takeUntil ends mayEnd rest
    return ((← coded? a b c d) :: text,rest)
  | ['\\'] => none
  | '\\' :: c :: rest =>
    if c = 'x' then none
    else do
      let (text,rest) ← takeUntil ends mayEnd rest
      return (escaped c ++ text,rest)
  | c :: rest =>
    if ends.contains c then some ([],c :: rest)
    else do
      let (text,rest) ← takeUntil ends mayEnd rest
      return (c :: text,rest)

def trimRight (text : List Char) : List Char := (text.reverse.dropWhile Text.isBlank).reverse

def isLineEnd (c : Char) : Bool := c == '\n' || c == '\r'

-- A value up to the end of its line. Parts in quotes come first; what follows loses the blanks at its end, and those
-- at its start unless something is before it.
def takeValue (first : Bool) : Nat → List Char → Option (List Char × List Char)
  | 0, _ => none
  | fuel + 1, cs =>
    let quoted (quote : Char) (rest : List Char) : Option (List Char × List Char) := do
      let (part,rest) ← takeUntil [quote] false rest
      let (text,rest) ← takeValue false fuel (rest.drop 1)
      return (part ++ text,rest)
    match cs with
    | [] => some ([],[])
    | '"' :: rest => quoted '"' rest
    | '\'' :: rest => quoted '\'' rest
    | cs => do
      let (text,rest) ← takeUntil ['\n','\r'] true cs
      return (if first then Text.trim text else trimRight text,rest)

abbrev Sections := List (Option String × List (String × String))

def addEntry (key value : String) : Sections → Sections
  | (name,entries) :: others => (name,entries ++ [(key,value)]) :: others
  | [] => [(none,[(key,value)])]

-- The lines of a text. A comment has to begin a line: `fresh` tells that what comes does.
def takeLines (fresh : Bool) (sections : Sections) : Nat → List Char → Option Sections
  | 0, _ => none
  | fuel + 1, cs =>
    let fresh := match (cs.takeWhile Text.isBlank).getLast? with
      | some c => c == '\n'
      | none => fresh
    match cs.dropWhile Text.isBlank with
    | [] => some sections
    | '[' :: rest => do
      let (name,rest) ← takeUntil [']'] false rest
      takeLines false ((some (String.ofList (Text.trim name)),[]) :: sections) fuel (rest.drop 1)
    | c :: rest =>
      if c = ';' ∨ c = '#' then
        if fresh then takeLines true sections fuel ((rest.dropWhile (· != '\n')).drop 1) else none
      else do
        let (key,rest) ← takeUntil ['=',':'] false (c :: rest)
        let key := Text.trim key
        if key = [] then none
        let rest := (rest.drop 1).dropWhile fun c => Text.isBlank c && !isLineEnd c
        let (value,rest) ← takeValue true rest.length.succ rest
        takeLines false (addEntry (String.ofList key) (String.ofList value) sections) fuel rest

def entries (sections : Sections) : List (String × Value) :=
  sections.reverse.flatMap fun (name,entries) =>
    let entries := entries.map fun (key,value) => (key,Value.string value)
    match name with
    | some name => [(name,.object entries)]
    | none => entries

def read? (text : String) : Option (List (String × Value)) :=
  let cs := text.toList
  (takeLines true [(none,[])] (cs.length + 1) cs).map entries

end DomainSchema.Ini

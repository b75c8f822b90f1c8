import DomainSchema.Json.Value
import DomainSchema.Settings.ConfigLibrary
import DomainSchema.Text.Lower
import DomainSchema.Toml.Document

namespace DomainSchema.Layers

inductive Scalar where
  | null
  | boolean (b : Bool)
  | integer (i : Int)
  | float (x : Decimal.Double)
  | string (s : String)
deriving DecidableEq, Repr

-- A value with the source that it came from. What merging makes has no source.
inductive Tree where
  | scalar (origin : Option String) (s : Scalar)
  | list (origin : Option String) (items : List Tree)
  | table (origin : Option String) (entries : List (String × Tree))

def nothing : Tree := .scalar none .null

abbrev Entries := List (String × Tree)

abbrev Layer := Entries

mutual

def ofToml (origin : String) : Toml.Value → Tree
  | .string s => .scalar origin (.string s)
  | .integer i => .scalar origin (.integer i)
  | .float x => .scalar origin (.float x)
  | .boolean b => .scalar origin (.boolean b)
  | .datetime text => .scalar origin (.string text)
  | .array items => .list origin (itemsOfToml origin items)
  | .table entries => .table origin (entriesOfToml origin entries)

def itemsOfToml (origin : String) : List Toml.Value → List Tree
  | [] => []
  | item :: items => ofToml origin item :: itemsOfToml origin items

def entriesOfToml (origin : String) : List (String × Toml.Value) → Entries
  | [] => []
  | (key,value) :: entries => (key,ofToml origin value) :: entriesOfToml origin entries

end

def ofNumber : Json.Number → Scalar
  | .integer i => if Decimal.fits64 i then .integer i else .float (Decimal.nearest false i.toNat 0)
  | .double x => .float x

mutual

def ofJson (origin : String) : Json.Value → Tree
  | .null => .scalar origin .null
  | .bool b => .scalar origin (.boolean b)
  | .number n => .scalar origin (ofNumber n)
  | .string s => .scalar origin (.string s)
  | .array items => .list origin (itemsOfJson origin items)
  | .object entries => .table origin (entriesOfJson origin entries)

def itemsOfJson (origin : String) : List Json.Value → List Tree
  | [] => []
  | item :: items => ofJson origin item :: itemsOfJson origin items

def entriesOfJson (origin : String) : List (String × Json.Value) → Entries
  | [] => []
  | (key,value) :: entries =>
    if (entries.map Prod.fst).contains key then entriesOfJson origin entries
    else (key,ofJson origin value) :: entriesOfJson origin entries

end

def setEntry (key : String) (t : Tree) : Entries → Entries
  | [] => [(key,t)]
  | other :: rest => if other.1 = key then (key,t) :: rest else other :: setEntry key t rest

def entriesOf : Tree → Entries
  | .table _ entries => entries
  | _ => []

def originOfTable : Tree → Option String
  | .table origin _ => origin
  | _ => none

mutual

-- What stands in a place after `incoming` has come over what was there. Tables are merged key by key, all else
-- replaces. An empty table changes nothing where something is.
def covered (existing : Option Tree) : Tree → Tree
  | .table _ entries => coverEntries (existing.getD (.table none [])) entries
  | incoming => incoming

def coverEntries (target : Tree) : Entries → Tree
  | [] => target
  | (key,t) :: rest =>
    let name := Text.lower key
    let entries := entriesOf target
    coverEntries (.table (originOfTable target) (setEntry name (covered (entries.lookup name) t) entries)) rest

end

inductive Step where
  | name (key : String)
  | index (i : Int)
deriving DecidableEq, Repr

def isNameChar (c : Char) : Bool := c.isAlphanum || c == ' ' || c == '_' || c == '-'

def bracketed (cs : List Char) : Option (Int × List Char) := do
  let blank (c : Char) : Bool := c == ' ' || c == '\t'
  let (number, rest) := (cs.dropWhile blank).span fun c => c == '-' || c.isDigit
  match rest.dropWhile blank with
  | ']' :: rest => return (← Decimal.int64? (String.ofList number),rest)
  | _ => none

def moreSteps : Nat → List Char → Option (List Step)
  | _, [] => some []
  | 0, _ => none
  | fuel + 1, '.' :: rest =>
    let (name, rest) := rest.span isNameChar
    if name = [] then none else return .name (String.ofList name) :: (← moreSteps fuel rest)
  | fuel + 1, '[' :: rest => do
    let (i,rest) ← bracketed rest
    return .index i :: (← moreSteps fuel rest)
  | _, _ => none

def pathOf (key : String) : String × List Step :=
  let (name, rest) := key.toList.span isNameChar
  match if name = [] then none else moreSteps rest.length rest with
  | some steps => (String.ofList name,steps)
  | none => (key,[])

-- Negative numbers count from the end of the list, and not beyond its start.
def placeIn (i : Int) (length : Nat) : Except SettingsError Nat :=
  if 0 ≤ i then .ok i.toNat
  else if i.natAbs ≤ length then .ok (length - i.natAbs)
  else .error (.noSuchItem i)

def itemsUpTo (place : Nat) : Tree → List Tree
  | .list _ items => items ++ List.replicate (place + 1 - items.length) nothing
  | _ => List.replicate (place + 1) nothing

def itemCount : Tree → Nat
  | .list _ items => items.length
  | _ => 0

def originOfList : Tree → Option String
  | .list origin _ => origin
  | _ => none

-- Puts a value at the end of a path. What is in the way gives way, and names are kept in lower case.
def put (value : Tree) : Step → List Step → Tree → Except SettingsError Tree
  | .name key, [], holder => .ok (coverEntries (.table (originOfTable holder) (entriesOf holder)) [(key,value)])
  | .name key, next :: steps, holder => do
    let name := Text.lower key
    let entries := entriesOf holder
    let inner ← put value next steps ((entries.lookup name).getD nothing)
    return .table (originOfTable holder) (setEntry name inner entries)
  | .index i, steps, holder => do
    let place ← placeIn i (itemCount holder)
    let items := itemsUpTo place holder
    let item ← match steps with
      | [] => .ok value
      | next :: steps => put value next steps (items.getD place nothing)
    return .list (originOfList holder) (items.set place item)

def addLayer (root : Tree) (layer : Layer) : Except SettingsError Tree :=
  layer.foldlM (fun root (key,value) =>
    let (name, steps) := pathOf key
    put value (.name name) steps root) root

def merge (layers : List Layer) : Except SettingsError Tree := layers.foldlM addLayer (.table none [])

end DomainSchema.Layers

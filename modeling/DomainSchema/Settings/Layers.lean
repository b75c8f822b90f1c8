import DomainSchema.Ini
import DomainSchema.Json5
import DomainSchema.Ron
import DomainSchema.Settings.ConfigLibrary
import DomainSchema.Settings.Layer
import DomainSchema.Toml.Writing
import DomainSchema.Yaml.Document

namespace DomainSchema.Layers

inductive Format where
  | toml
  | json
  | yaml
  | ini
  | ron
  | json5
deriving DecidableEq, Repr

def Format.extensions : Format → List String
  | .toml => ["toml"]
  | .json => ["json"]
  | .yaml => ["yaml","yml"]
  | .ini => ["ini"]
  | .ron => ["ron"]
  | .json5 => ["json5"]

def formats : List Format := [.toml,.json,.yaml,.ini,.ron,.json5]

def formatOf? (path : String) : Option Format :=
  let extension := (Path.parts path).getLast?.bind Path.extension?
  formats.find? fun f => extension.any f.extensions.contains

def extended (path : String) : List (String × Format) :=
  match Path.dropIdle (Path.parts path).reverse with
  | [] | [""] | ".." :: _ => []
  | names =>
    let path := Text.join "/" names.reverse
    formats.flatMap fun f => f.extensions.map fun extension => (path ++ "." ++ extension,f)

-- The file that a name stands for, by its path from the root.
def findFile (t : FileTree) (name : String) : Except SettingsError (String × Format) :=
  let path := t.absolute name
  if t.isFile path then
    match formatOf? path with
    | some f => .ok (path,f)
    | none => .error (.unknownFormat path)
  else
    match (extended path).find? fun (path,_) => t.isFile path with
    | some found => .ok found
    | none => .error (.noSuchFile name)

def wayTo : Place → List String → List String
  | here :: home, name :: names => if here = name then wayTo home names else ".." :: home.map (fun _ => "..") ++ name :: names
  | home, names => home.map (fun _ => "..") ++ names

def shown (t : FileTree) (path : String) : String :=
  Text.join "/" (wayTo t.home ((Path.parts path).filter fun part => part ≠ "" ∧ part ≠ "."))

def withoutMark (text : String) : String :=
  match text.toList with
  | '\ufeff' :: rest => String.ofList rest
  | _ => text

def tableOf? (origin : String) : Option Json.Value → Option Layer
  | some (.object entries) => some (entriesOfJson origin entries)
  | _ => none

def parse? (origin : String) (text : String) : Format → Option Layer
  | .toml => (Toml.read? text).map (entriesOfToml origin)
  | .json => tableOf? origin (Json.Reader.ofText Json.Value.read text).toOption
  | .yaml => tableOf? origin (Yaml.read? text)
  | .ini => (Ini.read? text).map (entriesOfJson origin)
  | .ron => tableOf? origin (Ron.read? text)
  | .json5 => tableOf? origin (Json5.read? text)

def fileLayer (t : FileTree) (path : String) (f : Format) : Except SettingsError Layer :=
  match t.read path with
  | .error _ => .error (.noSuchFile path)
  | .ok text =>
    match parse? (shown t path) (withoutMark text) f with
    | some layer => .ok layer
    | none => .error (.unparseable (shown t path))

def file (t : FileTree) (name : String) (required : Bool) : Except SettingsError Layer :=
  match findFile t name with
  | .ok (path,f) => fileLayer t path f
  | .error e => if required then .error e else .ok []

def dotLevels (separator : List Char) : Nat → List Char → List Char
  | _, [] => []
  | 0, rest => rest
  | fuel + 1, c :: rest =>
    if separator.isPrefixOf (c :: rest) then '.' :: dotLevels separator fuel ((c :: rest).drop separator.length)
    else c :: dotLevels separator fuel rest

def variableKey? (start separator name : String) : Option String :=
  let opening := (Text.lower (start ++ separator)).toList
  let name := (Text.lower name).toList
  if opening.isPrefixOf name then
    some (String.ofList (dotLevels separator.toList name.length (name.drop opening.length)))
  else none

def variableValue (text : String) : Scalar :=
  let word := Text.lower text
  if word = "true" then .boolean true
  else if word = "false" then .boolean false
  else match Decimal.int64? text with
    | some i => .integer i
    | none => match Decimal.double? text with
      | some x => .float x
      | none => .string text

def environment (env : List (String × String)) (start separator : String) : Layer :=
  env.filterMap fun (name,value) =>
    (variableKey? start separator name).map fun key => (key,.scalar "the environment" (variableValue value))

-- A setting that should be a text or a choice starts with an empty key, which the tables around it fill.
def refuse (found expected : String) (origin : Option String) : Except SettingsError α :=
  .error (.unfitting found expected (some "") origin)

def text : Tree → Except SettingsError String
  | .scalar origin s => match s with
    | .string s => .ok s
    | .boolean b => .ok (toString b)
    | .integer i => .ok (toString i)
    | .float x => .ok x.plain
    | .null => refuse "unit value" "a string" origin
  | .list origin _ => refuse "sequence" "a string" origin
  | .table origin _ => refuse "map" "a string" origin

def isNonzero : Decimal.Double → Bool
  | .finite _ m _ => m ≠ 0
  | _ => true

def choice : Tree → Except SettingsError Bool
  | .scalar origin s => match s with
    | .boolean b => .ok b
    | .integer i => .ok (i ≠ 0)
    | .float x => .ok (isNonzero x)
    | .string s =>
      let word := Text.lower s
      if word ∈ ["1","true","on","yes"] then .ok true
      else if word ∈ ["0","false","off","no"] then .ok false
      else refuse ("string " ++ Text.literal word) "a boolean" origin
    | .null => refuse "unit value" "a boolean" origin
  | .list origin _ => refuse "sequence" "a boolean" origin
  | .table origin _ => refuse "map" "a boolean" origin

def withPoint (text : String) : String := if text.contains '.' then text else text ++ ".0"

def Scalar.found : Scalar → String
  | .null => "unit value"
  | .boolean b => "boolean `" ++ toString b ++ "`"
  | .integer i => "integer `" ++ toString i ++ "`"
  | .float (.finite negative m q) =>
    "floating point `" ++ withPoint (Decimal.Double.finite negative m q).plain ++ "`"
  | .float x => "floating point `" ++ x.plain ++ "`"
  | .string s => "string " ++ Text.literal s

def Tree.found : Tree → String
  | .scalar _ s => s.found
  | .list .. => "sequence"
  | .table .. => "map"

def refuseWhole (t : Tree) (expected : String) : Except SettingsError α :=
  .error (.unfitting t.found expected none none)

def itemName (i : Nat) : String := "[" ++ toString i ++ "]"

def textsFrom : Nat → List Tree → Except SettingsError (List String)
  | _, [] => .ok []
  | i, item :: items => do
    let first ← (text item).mapError (·.under (itemName i))
    return first :: (← textsFrom (i + 1) items)

def texts : Tree → Except SettingsError (List String)
  | .list _ items => textsFrom 0 items
  | t => refuseWhole t "a sequence"

def namedItems : Nat → List String → List Tree → List (String × String × Tree)
  | i, key :: keys, item :: items => (key,itemName i,item) :: namedItems (i + 1) keys items
  | _, _, _ => []

def parts (title : String) (keys : List String) : Tree → Except SettingsError (List (String × String × Tree))
  | .table _ entries => .ok (entries.map fun (key,t) => (key,key,t))
  | .list _ items => .ok (namedItems 0 keys items)
  | t => refuseWhole t ("struct " ++ title)

def plainText : Plain → String
  | .text s => Toml.stringText s
  | .texts ss => Toml.stringsText ss
  | .choice b => Toml.booleanText b

def document (groups : List (String × List (String × Plain))) : String :=
  Text.join "\n" (groups.map fun (name,entries) => Toml.tableText name (entries.map fun (key,p) => (key,plainText p)))

abbrev library : ConfigLibrary :=
  { Said := Layer, Value := Tree, file, environment, merge, parts, text, texts, choice, document }

end DomainSchema.Layers

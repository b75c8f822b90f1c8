import DomainSchema.Json.Value
import DomainSchema.Yaml.Token

namespace DomainSchema.Yaml
open Json (Value)

def radix? (base : Nat) (cs : List Char) : Option Int := do
  let (negative,ds) := Decimal.takeSign cs
  let ns ← ds.mapM hexDigit?
  let n : Int := Decimal.natOfDigits base ds
  let i := if negative then -n else n
  if ds ≠ [] ∧ ns.all (· < base) ∧ Decimal.fits64 i then return i else none

def markedInteger? : List Char → Option Int
  | '0' :: 'x' :: ds => radix? 16 ds
  | '0' :: 'o' :: ds => radix? 8 ds
  | '+' :: rest => Decimal.int64? (String.ofList rest)
  | _ => none

def limits : List String :=
  [".inf",".Inf",".INF","+.inf","+.Inf","+.INF","-.inf","-.Inf","-.INF",".nan",".NaN",".NAN"]

def isReal (text : String) : Bool :=
  limits.contains text || (text.toList.any Char.isDigit && (Decimal.double? text).isSome)

def real? (text : String) : Option Value := (Decimal.double? text).map fun x => .number (.double x)

def integer (i : Int) : Value := .number (.integer i)

def plainValue? (text : String) : Option Value :=
  match markedInteger? text.toList with
  | some i => some (integer i)
  | none =>
    if text ∈ ["","~","null"] then some .null
    else if text = "true" then some (.bool true)
    else if text = "false" then some (.bool false)
    else match Decimal.int64? text with
      | some i => some (integer i)
      | none => if isReal text then real? text else some (.string text)

-- What a text without quotes stands for under one of the tags that every text may use. What does not fit is null.
def taggedValue? (suffix text : String) : Option Value :=
  if suffix = "bool" then
    some (if text = "true" then .bool true else if text = "false" then .bool false else .null)
  else if suffix = "int" then some ((Decimal.int64? text).elim .null integer)
  else if suffix = "float" then if isReal text then real? text else some .null
  else if suffix = "null" then some .null
  else some (.string text)

def commonTags : String := "tag:yaml.org,2002:"

structure Properties where
  number : Option Nat := none
  tag : Option (String × String) := none

def Properties.value? (p : Properties) (text : String) : Option Value :=
  match p.tag with
  | none => plainValue? text
  | some (start,suffix) => if start = commonTags then taggedValue? suffix text else some (.string text)

structure Composing where
  tokens : List Token
  tagStarts : List (String × String) := []
  -- The names with the numbers of their nodes, the newest first. A name can be given again.
  names : List (String × Nat) := []
  complete : List (Nat × Value) := []

namespace Composing

def tag? (handle suffix : String) (c : Composing) : Option (String × String) :=
  match c.tagStarts.lookup handle with
  | some start => some (start,suffix)
  | none =>
    if handle = "!!" then some (commonTags,suffix)
    else if 2 ≤ handle.length then none
    else some (handle,suffix)

def name (text : String) (c : Composing) : Nat × Composing :=
  (c.names.length,{ c with names := (text,c.names.length) :: c.names })

def properties (c : Composing) : Option (Properties × Composing) :=
  match c.tokens with
  | .anchor text :: rest => do
    let (number,c) := { c with tokens := rest }.name text
    match rest with
    | .tag handle suffix :: rest => return ({ number, tag := ← c.tag? handle suffix },{ c with tokens := rest })
    | _ => return ({ number },c)
  | .tag handle suffix :: rest => do
    let tag ← c.tag? handle suffix
    match rest with
    | .anchor text :: rest =>
      let (number,c) := { c with tokens := rest }.name text
      return ({ number, tag },c)
    | _ => return ({ tag },{ c with tokens := rest })
  | _ => some ({},c)

-- A name that stands for a node. Inside of that node it stands for nothing yet.
def alias? (text : String) (c : Composing) : Option Value := do
  return (c.complete.lookup (← c.names.lookup text)).getD .null

def finish (p : Properties) (value : Value) (c : Composing) : Value × Composing :=
  match p.number with
  | some n => (value,{ c with complete := (n,value) :: c.complete })
  | none => (value,c)

end Composing

-- A key has to be a text or an integer, which count as different.
def key? : Value → Option (Bool × String)
  | .string s => some (true,s)
  | .number (.integer i) => some (false,toString i)
  | _ => none

abbrev Pairs := List ((Bool × String) × Value)

def distinct : Pairs → Bool
  | [] => true
  | (key,_) :: rest => !(rest.map Prod.fst).contains key && distinct rest

def table? (pairs : Pairs) : Option Value :=
  if distinct pairs then some (.object (pairs.map fun ((_,key),value) => (key,value))) else none

mutual

-- The node that begins here. `block` tells that lists and tables in lines may begin here, and `loose` that the items
-- of a list may stand without a start of their own.
def node (block loose : Bool) : Nat → Composing → Option (Value × Composing)
  | 0, _ => none
  | fuel + 1, c => do
    match c.tokens with
    | .alias text :: rest => return (← c.alias? text,{ c with tokens := rest })
    | _ =>
      let (p,c) ← c.properties
      let (value,c) ← content p block loose fuel c
      return c.finish p value

def content (p : Properties) (block loose : Bool) : Nat → Composing → Option (Value × Composing)
  | 0, _ => none
  | fuel + 1, c =>
    match c.tokens with
    | .scalar plain text :: rest =>
      (if plain then p.value? text else some (.string text)).map (·,{ c with tokens := rest })
    | .openBracket :: rest => do
      let (items,c) ← flowItems true fuel { c with tokens := rest }
      return (.array items,c)
    | .openBrace :: rest => do
      let (pairs,c) ← flowPairs true fuel { c with tokens := rest }
      return (← table? pairs,c)
    | tokens =>
      let (t,rest) := (tokens.head?,tokens.drop 1)
      if t = some .item ∧ loose then do
        let (items,c) ← looseItems fuel c
        return (.array items,c)
      else if t = some .listStart ∧ block then do
        let (items,c) ← blockItems fuel { c with tokens := rest }
        return (.array items,c)
      else if t = some .tableStart ∧ block then do
        let (pairs,c) ← blockPairs fuel { c with tokens := rest }
        return (← table? pairs,c)
      else if p.number.isSome ∨ p.tag.isSome then (p.value? "").map (·,c)
      else none

def nodeUnless (ends : List Token) (block loose : Bool) : Nat → Composing → Option (Value × Composing)
  | 0, _ => none
  | fuel + 1, c =>
    if c.tokens.head?.any ends.contains then some (.null,c) else node block loose fuel c

def blockItems : Nat → Composing → Option (List Value × Composing)
  | 0, _ => none
  | fuel + 1, c =>
    match c.tokens with
    | .blockEnd :: rest => some ([],{ c with tokens := rest })
    | .item :: rest => do
      let (item,c) ← nodeUnless [.item,.blockEnd] true false fuel { c with tokens := rest }
      let (items,c) ← blockItems fuel c
      return (item :: items,c)
    | _ => none

def looseItems : Nat → Composing → Option (List Value × Composing)
  | 0, _ => none
  | fuel + 1, c =>
    match c.tokens with
    | .item :: rest => do
      let (item,c) ← nodeUnless [.item,.key,.value,.blockEnd] true false fuel { c with tokens := rest }
      let (items,c) ← looseItems fuel c
      return (item :: items,c)
    | _ => some ([],c)

def blockPairs : Nat → Composing → Option (Pairs × Composing)
  | 0, _ => none
  | fuel + 1, c =>
    match c.tokens with
    | .blockEnd :: rest => some ([],{ c with tokens := rest })
    | .key :: rest => do
      let (key,c) ← node true true fuel { c with tokens := rest }
      let (value,c) ← match c.tokens with
        | .value :: rest => nodeUnless [.key,.value,.blockEnd] true true fuel { c with tokens := rest }
        | _ => some (.null,c)
      let (pairs,c) ← blockPairs fuel c
      return ((← key? key,value) :: pairs,c)
    | _ => none

def flowItems (first : Bool) : Nat → Composing → Option (List Value × Composing)
  | 0, _ => none
  | fuel + 1, c =>
    match c.tokens with
    | .closeBracket :: rest => some ([],{ c with tokens := rest })
    | .comma :: rest => if first then none else flowItems true fuel { c with tokens := rest }
    | t :: rest =>
      if !first then none
      else do
        let (item,c) ← if t = .key then lonePair fuel { c with tokens := rest } else node false false fuel c
        let (items,c) ← flowItems false fuel c
        return (item :: items,c)
    | [] => none

def flowPair (ends : List Token) : Nat → Composing → Option (((Bool × String) × Value) × Composing)
  | 0, _ => none
  | fuel + 1, c => do
    let (key,c) ← node false false fuel c
    let (value,c) ← match c.tokens with
      | .value :: rest => nodeUnless ends false false fuel { c with tokens := rest }
      | _ => some (.null,c)
    return ((← key? key,value),c)

def lonePair : Nat → Composing → Option (Value × Composing)
  | 0, _ => none
  | fuel + 1, c => do
    let (pair,c) ← flowPair [.comma,.closeBracket] fuel c
    return (← table? [pair],c)

def flowPairs (first : Bool) : Nat → Composing → Option (Pairs × Composing)
  | 0, _ => none
  | fuel + 1, c =>
    match c.tokens with
    | .closeBrace :: rest => some ([],{ c with tokens := rest })
    | .comma :: rest => if first then none else flowPairs true fuel { c with tokens := rest }
    | t :: rest =>
      if !first then none
      else do
        let (pair,c) ← flowPair [.comma,.closeBrace] fuel (if t = .key then { c with tokens := rest } else c)
        let (pairs,c) ← flowPairs false fuel c
        return (pair :: pairs,c)
    | [] => none

end

-- The directives at the start; of those for tags only the last one counts.
def directives (versioned : Bool) (c : Composing) : List Token → Option Composing
  | .version :: rest => if versioned then none else directives true { c with tagStarts := [] } rest
  | .tagStart handle start :: rest => directives versioned { c with tagStarts := [(handle,start)] } rest
  | rest => some { c with tokens := rest }

def withoutEnds (tokens : List Token) : List Token := tokens.dropWhile (· == .documentEnd)

def isDirective : Token → Bool
  | .version | .tagStart .. => true
  | _ => false

def root? (tokens : List Token) : Option Value := do
  let tokens := withoutEnds tokens
  if tokens = [] then return .object []
  let directed := tokens.head?.any isDirective
  let c ← directives false ⟨[],[],[],[]⟩ tokens
  let rest ← match c.tokens with
    | .documentStart :: rest => some rest
    | rest => if directed then none else some rest
  let (value,c) ← node true false (4 * tokens.length + 4) { c with tokens := rest }
  if withoutEnds c.tokens = [] then return value else none

def read? (text : String) : Option Value := Token.ofText? text >>= root?

end DomainSchema.Yaml

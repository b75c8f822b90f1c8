import DomainSchema.Yaml.Spot

namespace DomainSchema.Yaml

-- The parts of a text. The places where a list or a table in lines begins and ends are seen from its indentation.
inductive Token where
  | documentStart
  | documentEnd
  | version
  | tagStart (handle start : String)
  | listStart
  | tableStart
  | blockEnd
  | openBracket
  | closeBracket
  | openBrace
  | closeBrace
  | comma
  | item
  | key
  | value
  | anchor (name : String)
  | alias (name : String)
  | tag (handle suffix : String)
  | scalar (plain : Bool) (text : String)
deriving DecidableEq, Repr

-- What is around a block. A block without a mark is only there to make what it holds stand further right.
structure Outer where
  indent : Int
  marked : Bool
deriving DecidableEq, Repr

-- A place where a key may have begun, and the number of tokens before it. At some places there has to be one.
structure PossibleKey where
  line : Nat
  column : Nat
  index : Nat
  before : Nat
  required : Bool
deriving DecidableEq, Repr

structure Bracket where
  brace : Bool
  key : Option PossibleKey
deriving DecidableEq, Repr

structure Reading where
  rest : List Spot
  tokens : List (Nat × Token) := []
  keyAllowed : Bool := true
  key : Option PossibleKey := none
  indent : Int := -1
  outer : List Outer := []
  brackets : List Bracket := []
  joined : Nat := 0

def toToken (indent : Int) (comment ended : Bool) : List Spot → Option (Bool × List Spot)
  | [] => some (ended,[])
  | s :: rest =>
    if s.char = '\n' then toToken indent false true rest
    else if isEnd s.char then some (ended,s :: rest)
    else if comment ∨ s.char = '#' then toToken indent true ended rest
    else if isBlank s.char then
      let empty := match toLineEnd {} (s :: rest) with
        | some (_,rest) => isLineEnd (charAt 0 rest)
        | none => false
      if s.char = '\t' ∧ s.leads ∧ s.column < indent ∧ !empty then none else toToken indent false ended rest
    else some (ended,s :: rest)

def around (column indent : Int) : List Outer → Int × List Outer × Nat
  | [] => (indent,[],0)
  | o :: outer =>
    if column < indent then
      let (indent,outer,ended) := around column o.indent outer
      (indent,outer,if o.marked then ended + 1 else ended)
    else (indent,o :: outer,0)

def isWord (c : Char) : Bool := c.isAlphanum || c == '_' || c == '-'
def isNameChar (c : Char) : Bool := !isGap c && !isFlowMark c && c != '\ufeff'
def isUriChar (c : Char) : Bool := c.isAlphanum || "-#;/?:@&=+$,_.!~*'()[]%".contains c
def isTagChar (c : Char) : Bool := isUriChar c && !isFlowMark c && c != '!'

def takeChars (accepts : Char → Bool) (cs : List Spot) : List Char × List Spot :=
  ((cs.takeWhile fun s => accepts s.char).map Spot.char,cs.dropWhile fun s => accepts s.char)

def resolved? : List Char → Option (List Char)
  | [] => some []
  | '%' :: a :: b :: rest => do
    return Char.ofNat (16 * (← hexDigit? a) + (← hexDigit? b)) :: (← resolved? rest)
  | '%' :: _ => none
  | c :: rest => do return c :: (← resolved? rest)

def takeTagText (accepts : Char → Bool) (cs : List Spot) : Option Taken := do
  let (text,rest) := takeChars accepts cs
  return (← resolved? text,rest)

def takeHandle (cs : List Spot) : Option Taken :=
  if charAt 0 cs = '!' then
    let (word,rest) := takeChars isWord (cs.drop 1)
    if charAt 0 rest = '!' then some ('!' :: word ++ ['!'],rest.drop 1) else some ('!' :: word,rest)
  else none

def takeTag (cs : List Spot) : Option (String × Taken) :=
  if charAt 1 cs = '<' then do
    let (text,rest) ← takeTagText isUriChar (cs.drop 2)
    if charAt 0 rest = '>' then return ("",text,rest.drop 1) else none
  else do
    let (handle,rest) ← takeHandle cs
    let (text,rest) ← takeTagText isTagChar rest
    if 2 ≤ handle.length ∧ handle.getLast? = some '!' then
      if text = [] then none else return (String.ofList handle,text,rest)
    else if handle.drop 1 = [] ∧ text = [] then return ("",['!'],rest)
    else return ("!",handle.drop 1 ++ text,rest)

def takeDirective (cs : List Spot) : Option (Token × List Spot) := do
  let (name,rest) := takeChars isWord cs
  if name = [] ∨ !isGap (charAt 0 rest) then none
  let afterBlanks (rest : List Spot) : List Spot := rest.dropWhile fun s => isBlank s.char
  if name = "YAML".toList then
    let (major,rest) := takeChars Char.isDigit (afterBlanks rest)
    let (minor,after) := takeChars Char.isDigit (rest.drop 1)
    let isNumber (ds : List Char) : Bool := 1 ≤ ds.length && ds.length ≤ 9
    if isNumber major ∧ charAt 0 rest = '.' ∧ isNumber minor then return (.version,after) else none
  else if name = "TAG".toList then
    let (handle,rest) ← takeHandle (afterBlanks rest)
    if handle ≠ ['!'] ∧ handle.getLast? ≠ some '!' then none
    let rest := afterBlanks rest
    if charAt 0 rest ≠ '!' ∧ !isTagChar (charAt 0 rest) then none
    let (start,rest) ← takeTagText isUriChar rest
    if isGap (charAt 0 rest) then return (.tagStart (String.ofList handle) (String.ofList start),rest) else none
  else return (.tagStart "" "",skipLine rest)

namespace Reading

def here (r : Reading) : Spot := peek 0 r.rest

def inFlow (r : Reading) : Bool := !r.brackets.isEmpty

def inMarked (r : Reading) : Bool := r.outer.head?.any Outer.marked

def push (column : Nat) (t : Token) (r : Reading) : Reading := { r with tokens := r.tokens ++ [(column,t)] }

def insert (before column : Nat) (t : Token) (r : Reading) : Reading :=
  { r with tokens := r.tokens.take before ++ (column,t) :: r.tokens.drop before }

def dropKey (r : Reading) : Option Reading :=
  if r.key.any PossibleKey.required then none else some { r with key := none }

def markKey (r : Reading) : Option Reading :=
  if r.keyAllowed then do
    let s := r.here
    let required := !r.inFlow && r.indent == s.column && r.inMarked
    return { (← r.dropKey) with key := some ⟨s.line,s.column,s.index,r.tokens.length,required⟩ }
  else some r

def dropOldKey (r : Reading) : Option Reading :=
  match r.key with
  | some k =>
    if !r.inFlow ∧ (k.line < r.here.line ∨ k.index + 1024 < r.here.index) then r.dropKey else some r
  | none => some r

-- A block without a mark makes room for one at a column that is not left of it.
def makeRoom (column : Nat) (r : Reading) : Reading :=
  match r.outer with
  | o :: outer => if r.indent ≤ column ∧ !o.marked then { r with indent := o.indent, outer } else r
  | [] => r

def openBlock (column before : Nat) (t : Token) (r : Reading) : Reading :=
  if r.inFlow then r
  else
    let made := r.makeRoom column
    if made.indent < column then
      { made.insert before column t with indent := column, outer := ⟨made.indent,true⟩ :: made.outer }
    else made

def closeBlocks (column : Int) (r : Reading) : Reading :=
  if r.inFlow then r
  else
    let (indent,outer,ended) := around column r.indent r.outer
    { r with indent, outer, tokens := r.tokens ++ List.replicate ended (r.here.column,.blockEnd) }

def openInner (r : Reading) : Reading :=
  if !r.inFlow && r.inMarked then { r with indent := r.indent + 1, outer := ⟨r.indent,false⟩ :: r.outer } else r

def closeInner (r : Reading) : Reading :=
  let inner := r.outer.takeWhile fun o => !o.marked
  { r with indent := (inner.getLast?.map Outer.indent).getD r.indent, outer := r.outer.drop inner.length }

def skip (n : Nat) (r : Reading) : Reading := { r with rest := r.rest.drop n }

def allowKey (allowed : Bool) (r : Reading) : Reading := { r with keyAllowed := allowed }

def advance (r : Reading) : Option Reading := do
  let (ended,rest) ← toToken (if r.outer.isEmpty then -1 else r.indent) false false r.rest
  return { r with rest, keyAllowed := r.keyAllowed || (ended && !r.inFlow) }

def passLine (r : Reading) : Option Reading := do
  let (_,rest) ← toLineEnd {} r.rest
  return { r with rest }

def leaveBlocks (r : Reading) : Option Reading := do
  return (← (r.closeBlocks (-1)).dropKey).allowKey false

def directive (r : Reading) : Option Reading := do
  let r ← r.leaveBlocks
  let (t,rest) ← takeDirective (r.rest.drop 1)
  let r ← ({ r with rest }.push 0 t).passLine
  if isLineEnd r.here.char then return r else none

def documentMark (t : Token) (r : Reading) : Option Reading := do
  return (← r.leaveBlocks).skip 3 |>.push 0 t

def documentEnd (r : Reading) : Option Reading := do
  let r ← (← r.documentMark .documentEnd).passLine
  if isLineEnd r.here.char then return r else none

def openFlow (brace : Bool) (r : Reading) : Option Reading := do
  let column := r.here.column
  let r := (← r.markKey).openInner
  let r := { r with brackets := ⟨brace,r.key⟩ :: r.brackets, key := none, keyAllowed := true }
  if 255 < r.brackets.length then none
  return (← (r.skip 1).passLine).push column (if brace then .openBrace else .openBracket)

def closeFlow (brace : Bool) (r : Reading) : Option Reading := do
  let column := r.here.column
  let r ← r.dropKey
  let r := match r.brackets with
    | b :: brackets => { r with brackets, key := b.key }
    | [] => r
  let r ← ((r.allowKey false).skip 1).passLine
  let r := if r.inFlow then { r with joined := r.here.index } else r
  return r.push column (if brace then .closeBrace else .closeBracket)

def comma (r : Reading) : Option Reading := do
  let column := r.here.column
  return (← (((← r.dropKey).allowKey true).skip 1).passLine).push column .comma

def afterProperty (r : Reading) : Bool :=
  match r.tokens.getLast? with
  | some (column,.anchor _) | some (column,.tag _ _) => column == 0
  | _ => false

def item (r : Reading) : Option Reading := do
  let s := r.here
  if r.inFlow ∨ !r.keyAllowed ∨ (s.column = 0 ∧ r.afterProperty ∧ -1 < r.indent) then none
  let r := (r.skip 1).openBlock s.column r.tokens.length .listStart
  let (passed,rest) ← toLineEnd {} r.rest
  if passed.tabs ∧ charAt 0 rest = '-' ∧ isGap (charAt 1 rest) then none
  let c := charAt 0 rest
  let r := { r with rest }
  let r := if c = '\n' ∨ isFlowMark c then r.openInner else r
  return ((← r.dropKey).allowKey true).push s.column .item

def passSpace (found ended comment : Bool) : List Spot → Option (Bool × List Spot)
  | [] => if found then some (ended,[]) else none
  | s :: rest =>
    if s.char = '\n' then passSpace true true false rest
    else if !isEnd s.char ∧ (comment ∨ s.char = '#') then passSpace found ended true rest
    else if s.char = ' ' then passSpace true ended comment rest
    else if found then some (ended,s :: rest) else none

def explicitKey (r : Reading) : Option Reading := do
  let s := r.here
  if !r.inFlow ∧ !r.keyAllowed then none
  let r ← (r.openBlock s.column r.tokens.length .tableStart).dropKey
  let (_,rest) ← passSpace false false false (r.rest.drop 1)
  if charAt 0 rest = '\t' then none
  return ({ r with rest }.allowKey (!r.inFlow)).push s.column .key

-- A colon behind a key. The key is marked afterwards, with the start of its table where it is the first one. In
-- square brackets it has to be on the same line.
def value (r : Reading) : Option Reading := do
  let s := r.here
  let next := r.skip 1
  if next.here.char = '\t' then
    let (passed,rest) ← toLineEnd {} next.rest
    if !passed.spaces ∧ isWord (charAt 0 rest) then none
  match r.key with
  | some k =>
    if r.brackets.head?.any (fun b => !b.brace) ∧ k.line < s.line then none
    let next := ((next.insert k.before k.column .key).openBlock k.column k.before .tableStart).openInner
    return ({ next with key := none }.allowKey false).push s.column .value
  | none =>
    if r.inFlow then return (next.allowKey false).push s.column .value
    else if r.keyAllowed then
      return ((next.openBlock s.column next.tokens.length .tableStart).openInner.allowKey true).push s.column .value
    else none

def named (token : String → Token) (r : Reading) : Option Reading := do
  let column := r.here.column
  let r ← r.markKey
  let (name,rest) := takeChars isNameChar (r.rest.drop 1)
  if name = [] then none else return ({ r with rest }.allowKey false).push column (token (String.ofList name))

def tag (r : Reading) : Option Reading := do
  let column := r.here.column
  let r ← r.markKey
  let (handle,suffix,rest) ← takeTag r.rest
  let c := charAt 0 rest
  if isGap c ∨ (r.inFlow ∧ isFlowMark c) then
    return ({ r with rest }.allowKey false).push column (.tag handle (String.ofList suffix))
  else none

def blockText (literal : Bool) (r : Reading) : Option Reading := do
  let column := r.here.column
  let r := (← r.markKey).closeInner
  let (text,rest) ← block literal r.indent (r.rest.drop 1)
  return ({ r with rest }.allowKey true).push column (.scalar false (String.ofList text))

def quoted (r : Reading) : Option Reading := do
  let s := r.here
  let r ← r.markKey
  let (text,rest) ← quotedBody s.char r.indent r.rest.length .nothing (r.rest.drop 1)
  let r ← { r with rest }.passLine
  let c := r.here.char
  if isLineEnd c ∨ (r.inFlow ∧ (c = ',' ∨ c = ']' ∨ c = '\x7d' ∨ c = ':')) ∨ (c = ':' ∧ s.line = r.here.line) then
    let r ← (r.allowKey false).advance
    return { r with joined := r.here.index }.push s.column (.scalar false (String.ofList text))
  else none

def plain (r : Reading) : Option Reading := do
  let s := r.here
  let r := (← r.markKey).closeInner
  let indent := r.indent + 1
  if r.inFlow ∧ (s.column < indent ∨ (s.char = '-' ∧ isFlowMark (charAt 1 r.rest))) then none
  let (text,rest) ← plainBody r.inFlow indent r.rest.length .nothing r.rest
  let r := { r with rest }
  if text = [] then none
  else return (r.allowKey r.here.leads).push s.column (.scalar true (String.ofList text))

def token (r : Reading) : Option Reading :=
  let s := r.here
  let next := charAt 1 r.rest
  if s.column = 0 ∧ s.char = '%' then r.directive
  else if isDocumentMark '-' r.rest then r.documentMark .documentStart
  else if isDocumentMark '.' r.rest then r.documentEnd
  else if s.column < r.indent then none
  else match s.char with
    | '[' => r.openFlow false
    | ']' => r.closeFlow false
    | '\x7b' => r.openFlow true
    | '\x7d' => r.closeFlow true
    | ',' => r.comma
    | '-' => if isGap next then r.item else r.plain
    | '?' => if isGap next then r.explicitKey else r.plain
    | ':' =>
      if isGap next ∨ (r.inFlow ∧ (isFlowMark next ∨ s.index = r.joined)) then r.value else r.plain
    | '*' => r.named .alias
    | '&' => r.named .anchor
    | '!' => r.tag
    | '|' => if r.inFlow then r.plain else r.blockText true
    | '>' => if r.inFlow then r.plain else r.blockText false
    | '\'' => r.quoted
    | '"' => r.quoted
    | '%' | '@' | '\x60' => none
    | _ => r.plain

def finish (r : Reading) : Option (List Token) := do
  return (← (r.closeBlocks (-1)).dropKey).tokens.map Prod.snd

-- Every token takes a character at least, so that fuel for all characters is enough.
def tokens? : Nat → Reading → Option (List Token)
  | 0, _ => none
  | fuel + 1, r => do
    let r ← (← r.advance).dropOldKey
    let r := r.closeBlocks r.here.column
    if isEnd r.here.char then r.finish else tokens? fuel (← r.token)

end Reading

def Token.ofText? (text : String) : Option (List Token) :=
  let places := spots text
  Reading.tokens? (places.length + 1) { rest := places }

end DomainSchema.Yaml

import DomainSchema.Decimal

namespace DomainSchema.Yaml

structure Spot where
  char : Char
  line : Nat
  column : Nat
  index : Nat
  leads : Bool
deriving DecidableEq, Repr

def isBlank (c : Char) : Bool := c == ' ' || c == '\t'
def isEnd (c : Char) : Bool := c == '\x00'
def isLineEnd (c : Char) : Bool := c == '\n' || isEnd c
def isGap (c : Char) : Bool := isBlank c || isLineEnd c
def isFlowMark (c : Char) : Bool := c == ',' || c == '[' || c == ']' || c == '\x7b' || c == '\x7d'

-- The places of a text from a first one on. Every kind of line end becomes a line feed. The last place has no
-- character any more; a NUL ends the text as well.
def spotsFrom (s : Spot) : List Char → List Spot
  | [] => [{ s with char := '\x00' }]
  | c :: rest =>
    if c = '\x00' then [{ s with char := c }]
    else if c = '\r' ∧ rest.head? = some '\n' then spotsFrom s rest
    else if c = '\n' ∨ c = '\r' then
      { s with char := '\n' } :: spotsFrom ⟨'\x00',s.line + 1,0,s.index + 1,true⟩ rest
    else
      { s with char := c } ::
        spotsFrom ⟨'\x00',s.line,s.column + 1,s.index + 1,s.leads && isBlank c⟩ rest

def spots (text : String) : List Spot := spotsFrom ⟨'\x00',0,0,0,true⟩ text.toList

def peek (n : Nat) (cs : List Spot) : Spot := cs.getD n (cs.getLastD ⟨'\x00',0,0,0,true⟩)

def charAt (n : Nat) (cs : List Spot) : Char := (peek n cs).char

def isDocumentMark (mark : Char) (cs : List Spot) : Bool :=
  (peek 0 cs).column == 0 && charAt 0 cs == mark && charAt 1 cs == mark && charAt 2 cs == mark && isGap (charAt 3 cs)

def isAnyDocumentMark (cs : List Spot) : Bool := isDocumentMark '-' cs || isDocumentMark '.' cs

def skipLine (cs : List Spot) : List Spot := cs.dropWhile fun s => !isLineEnd s.char

structure Passed where
  tabs : Bool := false
  spaces : Bool := false
deriving DecidableEq, Repr

def toLineEnd (passed : Passed) : List Spot → Option (Passed × List Spot)
  | [] => some (passed,[])
  | s :: rest =>
    if s.char = ' ' then toLineEnd { passed with spaces := true } rest
    else if s.char = '\t' then toLineEnd { passed with tabs := true } rest
    else if s.char = '#' then
      if passed.tabs ∨ passed.spaces then some (passed,skipLine rest) else none
    else some (passed,s :: rest)

-- What lies between two parts of a text: nothing, blanks on one line, or line ends. Of those the first one is
-- folded away if it was there at all; the others count.
inductive Gap where
  | nothing
  | blanks (cs : List Char)
  | lines (folded : Bool) (more : Nat)
deriving DecidableEq, Repr

def Gap.chars : Gap → List Char
  | .nothing => []
  | .blanks cs => cs
  | .lines folded more => if folded ∧ more = 0 then [' '] else List.replicate more '\n'

def Gap.addBlank (c : Char) : Gap → Gap
  | .nothing => .blanks [c]
  | .blanks cs => .blanks (cs ++ [c])
  | .lines folded more => .lines folded more

def Gap.addLineEnd : Gap → Gap
  | .lines folded more => .lines folded (more + 1)
  | _ => .lines true 0

def Gap.hasLines : Gap → Bool
  | .lines .. => true
  | _ => false

abbrev Taken := List Char × List Spot

def thenChars (cs : List Char) (taken : Option Taken) : Option Taken := taken.map fun (text,rest) => (cs ++ text,rest)

def hexDigit? (c : Char) : Option Nat :=
  if c.isDigit ∨ ('a' ≤ c ∧ c ≤ 'f') ∨ ('A' ≤ c ∧ c ≤ 'F') then some (Decimal.natOfDigits 16 [c]) else none

def codeEscape? (count : Nat) (cs : List Spot) : Option (Char × List Spot) := do
  let ds ← (cs.take count).mapM fun s => hexDigit? s.char
  let n := ds.foldl (fun n d => 16 * n + d) 0
  if ds.length = count ∧ n.isValidChar then return (Char.ofNat n,cs.drop count) else none

def escape? (cs : List Spot) : Option (Char × List Spot) :=
  let rest := cs.drop 1
  let plain (c : Char) : Option (Char × List Spot) := some (c,rest)
  match charAt 0 cs with
  | '0' => plain '\x00'
  | 'a' => plain '\x07'
  | 'b' => plain '\x08'
  | 't' | '\t' => plain '\t'
  | 'n' => plain '\n'
  | 'v' => plain '\x0b'
  | 'f' => plain '\x0c'
  | 'r' => plain '\r'
  | 'e' => plain '\x1b'
  | ' ' => plain ' '
  | '"' => plain '"'
  | '/' => plain '/'
  | '\\' => plain '\\'
  | 'N' => plain '\u0085'
  | '_' => plain '\u00a0'
  | 'L' => plain '\u2028'
  | 'P' => plain '\u2029'
  | 'x' => codeEscape? 2 rest
  | 'u' => codeEscape? 4 rest
  | 'U' => codeEscape? 8 rest
  | _ => none

def quotedBody (quote : Char) (indent : Int) : Nat → Gap → List Spot → Option Taken
  | _, _, [] => none
  | 0, _, _ => none
  | fuel + 1, gap, s :: rest =>
    if s.char = '\n' then quotedBody quote indent fuel gap.addLineEnd rest
    else if isBlank s.char then
      if gap.hasLines ∧ s.char = '\t' ∧ s.column < indent then none
      else quotedBody quote indent fuel (gap.addBlank s.char) rest
    else if isEnd s.char ∨ gap ≠ .nothing ∧ (isAnyDocumentMark (s :: rest) ∨ s.column < indent) then none
    else thenChars gap.chars <|
      if s.char = quote then
        if quote = '\'' ∧ charAt 0 rest = '\'' then
          thenChars ['\''] (quotedBody quote indent fuel .nothing (rest.drop 1))
        else some ([],rest)
      else if s.char = '\\' ∧ quote = '"' then
        if charAt 0 rest = '\n' then quotedBody quote indent fuel (.lines false 0) (rest.drop 1)
        else do
          let (c,rest) ← escape? rest
          thenChars [c] (quotedBody quote indent fuel .nothing rest)
      else thenChars [s.char] (quotedBody quote indent fuel .nothing rest)

def isPlain (inFlow : Bool) (cs : List Spot) : Bool :=
  let c := charAt 0 cs
  let next := charAt 1 cs
  !isGap c && !(c == ':' && (isGap next || (inFlow && isFlowMark next))) && !(inFlow && isFlowMark c)

-- What is left of a plain string. It goes on in lines that are indented further than the block around it, up to
-- a comment or the end of the document.
def plainBody (inFlow : Bool) (indent : Int) : Nat → Gap → List Spot → Option Taken
  | _, _, [] => some ([],[])
  | 0, _, _ => none
  | fuel + 1, gap, s :: rest =>
    if s.char = '\n' then plainBody inFlow indent fuel gap.addLineEnd rest
    else if isBlank s.char then
      if gap.hasLines ∧ s.char = '\t' ∧ s.column < indent then do
        let (_,rest) ← toLineEnd {} (s :: rest)
        if isLineEnd (charAt 0 rest) then plainBody inFlow indent fuel gap rest else none
      else plainBody inFlow indent fuel (gap.addBlank s.char) rest
    else if gap ≠ .nothing ∧ (!inFlow ∧ s.column < indent ∨ isAnyDocumentMark (s :: rest) ∨ s.char = '#') then
      some ([],s :: rest)
    else if gap ≠ .nothing ∧ inFlow ∧ s.char = '-' ∧ isFlowMark (charAt 0 rest) then none
    else if isPlain inFlow (s :: rest) then
      thenChars (gap.chars ++ [s.char]) (plainBody inFlow indent fuel .nothing rest)
    else some ([],s :: rest)

inductive Chomping where
  | strip
  | clip
  | keep
deriving DecidableEq, Repr

def chomping? : Char → Option Chomping
  | '+' => some .keep
  | '-' => some .strip
  | _ => none

def blockMarks (cs : List Spot) : Option (Nat × Chomping × List Spot) :=
  let digit (cs : List Spot) : Option (Nat × List Spot) :=
    let c := charAt 0 cs
    if c = '0' then none
    else if c.isDigit then some (Decimal.natOfDigits 10 [c],cs.drop 1)
    else some (0,cs)
  match chomping? (charAt 0 cs) with
  | some chomping => do
    let (step,rest) ← digit (cs.drop 1)
    return (step,chomping,rest)
  | none => do
    let (step,rest) ← digit cs
    match if step = 0 then none else chomping? (charAt 0 rest) with
    | some chomping => return (step,chomping,rest.drop 1)
    | none => return (step,.clip,rest)

def passIndent (column : Nat) (lines : Nat) : List Spot → Nat × List Spot
  | [] => (lines,[])
  | s :: rest =>
    if s.char = ' ' ∧ s.column < column then passIndent column lines rest
    else if s.char = '\n' then passIndent column (lines + 1) rest
    else (lines,s :: rest)

def findIndent (widest : Nat) (lines : Nat) : List Spot → Nat × Nat × List Spot
  | [] => (widest,lines,[])
  | s :: rest =>
    if s.char = ' ' then findIndent widest lines rest
    else if s.char = '\n' then findIndent (max widest s.column) (lines + 1) rest
    else (max widest s.column,lines,s :: rest)

-- How the lines of a block begin and end: `ended` tells that a line end came before, and `lines` how many more.
structure Between where
  ended : Bool := false
  lines : Nat := 0
  blank : Bool := false

def Between.chars (b : Between) (literal blank : Bool) : List Char :=
  if !literal && b.ended && !b.blank && !blank then
    if b.lines = 0 then [' '] else List.replicate b.lines '\n'
  else List.replicate ((if b.ended then 1 else 0) + b.lines) '\n'

def blockLines (literal : Bool) (column : Nat) : Nat → Between → List Spot → List Char × Between × List Spot
  | 0, between, cs => ([],between,cs)
  | fuel + 1, between, cs =>
    let s := peek 0 cs
    if s.column ≠ column ∨ isEnd s.char ∨ (column = 0 ∧ isDocumentMark '.' cs) then ([],between,cs)
    else
      let blank := isBlank s.char
      let line := (cs.takeWhile fun s => !isLineEnd s.char).map Spot.char
      let rest := skipLine cs
      let (text,last,rest) :=
        if isEnd (charAt 0 rest) then ([],({ blank } : Between),rest)
        else
          let (lines,rest) := passIndent column 0 (rest.drop 1)
          blockLines literal column fuel { ended := true, lines, blank } rest
      (between.chars literal blank ++ line ++ text,last,rest)

def block (literal : Bool) (indent : Int) (cs : List Spot) : Option Taken := do
  let (step,chomping,rest) ← blockMarks cs
  let (_,rest) ← toLineEnd {} rest
  if !isLineEnd (charAt 0 rest) then none
  let opened := charAt 0 rest = '\n'
  let rest := if opened then rest.drop 1 else rest
  if charAt 0 rest = '\t' then none
  let (column,lines,rest) :=
    if step = 0 then
      let (widest,lines,rest) := findIndent 0 0 rest
      let column := max widest (indent + 1).toNat
      (if 0 < indent then max column 1 else column,lines,rest)
    else
      let column := (if 0 ≤ indent then indent.toNat else 0) + step
      let (lines,rest) := passIndent column 0 rest
      (column,lines,rest)
  let first := peek 0 rest
  if isEnd first.char then
    let text := match chomping with
      | .strip => []
      | .clip => if opened then ['\n'] else []
      | .keep => if opened then List.replicate (max lines 1) '\n' else []
    return (text,rest)
  if first.column < column ∧ indent < first.column then none
  let (text,between,rest) := blockLines literal column rest.length { lines } rest
  let last := peek 0 rest
  let ending := (if between.ended then ['\n'] else []) ++
    (if isEnd last.char ∧ max column 1 ≤ last.column then ['\n'] else [])
  return (text ++ (match chomping with
    | .strip => []
    | .clip => ending
    | .keep => ending ++ List.replicate between.lines '\n'),rest)

end DomainSchema.Yaml

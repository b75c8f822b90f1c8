import DomainSchema.Schema

namespace DomainSchema.Suggestion

-- How well one name matches another: the letters of a pattern are aligned with letters of a choice, in
-- order, and an alignment scores for each letter, more at the start of a word and next to another match,
-- less for each letter passed over.

def awful : Int := -32768

def matchScore : Int := 16
def caseLoss : Int := 2
def gapStart : Int := -4
def gapStep : Int := -1
def adjacentBonus : Int := 4

inductive CharClass where
  | empty | hardSeparator | softSeparator | digit | upper | lower
deriving DecidableEq

def CharClass.of (c : Char) : CharClass :=
  if c == '\x00' then .empty
  else if " /\\|()[]\x7b\x7d".toList.contains c then .hardSeparator
  else if ('!' ≤ c && c ≤ '\'') || ('*' ≤ c && c ≤ '.') || (':' ≤ c && c ≤ '@') || ('^' ≤ c && c ≤ '`') || c == '~'
    then .softSeparator
  else if c.isDigit then .digit
  else if c.isUpper then .upper
  else .lower

def placeBonus (previous current : CharClass) : Int :=
  match previous, current with
  | .empty, _ | .hardSeparator, _ => 8
  | .softSeparator, _ => 7
  | .lower, .upper | .digit, .upper => 6
  | _, _ => 0

def placeBonuses (choice : List Char) : List Int :=
  let classes := choice.map CharClass.of
  match List.zipWith placeBonus (.empty :: classes) classes with
  | [] => []
  | first :: rest => 2 * first :: rest

def isCaseSensitive (pattern : List Char) : Bool := pattern.any Char.isUpper

def sameChar (caseSensitive : Bool) (a b : Char) : Bool :=
  if caseSensitive then a == b else a.toLower == b.toLower

def firstPlaces (caseSensitive : Bool) (start : Nat) : List Char → List Char → Option (List Nat)
  | [], _ => some []
  | _ :: _, [] => none
  | p :: pattern, c :: choice =>
    if sameChar caseSensitive c p then (firstPlaces caseSensitive (start + 1) pattern choice).map (start :: ·)
    else firstPlaces caseSensitive (start + 1) (p :: pattern) choice

-- The best alignments that end at a letter: with the letter matched, and with it passed over.
structure Cell where
  matched : Int := awful
  passed : Int := awful
  bonus : Int := 0
deriving Inhabited

-- Two rows of cells with one column more than the choice has letters. They keep their contents from one
-- comparison to the next, and only some of them are cleared.
structure Board where
  cells : Array Cell := #[]

def Board.resize (board : Board) (size : Nat) : Board :=
  ⟨(board.cells.extract 0 size) ++ Array.replicate (size - board.cells.size) ({ } : Cell)⟩

def Board.get (board : Board) (columns row column : Nat) : Cell := board.cells.getD (row * columns + column) { }

def Board.set (board : Board) (columns row column : Nat) (cell : Cell) : Board :=
  ⟨board.cells.setIfInBounds (row * columns + column) cell⟩

def fillRow (caseSensitive : Bool) (columns row : Nat) (p : Char) :
    List (Char × Int) → Nat → Board → Board
  | [], _, board => board
  | (c,place) :: choice, column, board =>
    let previous := board.get columns (1 - row) column
    let last := board.get columns row column
    let current := board.get columns row (column + 1)
    let (last,current) :=
      if sameChar caseSensitive c p then
        let score := if c == p then matchScore else matchScore - caseLoss
        let bonus := max last.bonus (max place adjacentBonus)
        ({ last with bonus },
          { current with matched := max (previous.matched + bonus) (previous.passed + place) + score })
      else (last,{ current with matched := awful, bonus := 0 })
    let current := { current with passed := max (last.matched + gapStart) (last.passed + gapStep) }
    fillRow caseSensitive columns row p choice (column + 1)
      ((board.set columns row column last).set columns row (column + 1) current)

def compare (choice pattern : List Char) (board : Board) : Option Int × Board :=
  match pattern with
  | [] => (some 0,board)
  | _ :: _ =>
    let caseSensitive := isCaseSensitive pattern
    match firstPlaces caseSensitive 0 pattern choice with
    | none => (none,board)
    | some places =>
      let columns := choice.length + 1
      let board := board.resize (2 * columns)
      let board := board.set columns 1 (places.headD 0) {}
      let board := (List.range columns).foldl (fun b j => b.set columns 0 j { passed := gapStep }) board
      let letters := choice.zip (placeBonuses choice)
      let board := ((pattern.zip places).zipIdx 1).foldl
        (fun b ((p,place),i) => fillRow caseSensitive columns (i % 2) p (letters.drop place) place b) board
      let row := pattern.length % 2
      let start := places.getLastD 0
      let scores := (List.range (columns - start)).map fun j => (board.get columns row (start + j)).matched
      (some (scores.foldl max (scores.headD awful)),board)

def compareNames (name param : String) (board : Board) : Option Int × Board :=
  match compare name.toList param.toList board with
  | (some score,board) => (some score,board)
  | (none,board) => compare param.toList name.toList board

-- The best name so far and its score; of equal ones the later wins.
def better (best : Option (Int × String)) (score : Int) (name : String) : Option (Int × String) :=
  match best with
  | some (top,_) => if top ≤ score then some (score,name) else best
  | none => some (score,name)

def closest (param : String) : List Field → Board → Option (Int × String) → Option (Int × String)
  | [], _, best => best
  | f :: fields, board, best =>
    match compareNames f.name param board with
    | (some score,board) => closest param fields board (better best score f.name)
    | (none,board) => closest param fields board best

def suggest (fields : List Field) (param : String) : Option String :=
  (closest param fields {} none).map Prod.snd

end DomainSchema.Suggestion

import DomainSchema.Drift.EditScript

namespace DomainSchema.Drift

-- Lines keep their ends: `\n`, `\r\n`, or a `\r` that stands alone. What follows the last end is a line too,
-- unless it is empty.
def endedLines : List Char → List (List Char)
  | [] => []
  | '\r' :: '\n' :: rest => ['\r','\n'] :: endedLines rest
  | c :: rest =>
    if c = '\n' ∨ c = '\r' then [c] :: endedLines rest
    else match endedLines rest with
      | [] => [[c]]
      | line :: more => (c :: line) :: more

def linesOf (text : String) : Array String := ((endedLines text.toList).map String.ofList).toArray

structure TextDiff where
  old : Array String
  new : Array String
  edits : List Edit

namespace TextDiff

def ofTexts (old new : String) : TextDiff :=
  let old := linesOf old
  let new := linesOf new
  ⟨old,new,editScript old new⟩

def changes (d : TextDiff) : List Edit := d.edits.filter (·.kind != .keep)

def added (d : TextDiff) : Nat := d.changes.foldr (fun e n => e.newCount + n) 0
def removed (d : TextDiff) : Nat := d.changes.foldr (fun e n => e.oldCount + n) 0

end TextDiff

def contextSize : Nat := 3

def lastLines (count : Nat) (e : Edit) : Edit :=
  let count := min count e.oldCount
  keep (e.oldEnd - count) (e.newEnd - count) count

def firstLines (count : Nat) (e : Edit) : Edit := keep e.oldStart e.newStart (min count e.oldCount)

def cutStart : List Edit → List Edit
  | [] => []
  | e :: rest => (if e.kind = .keep then lastLines contextSize e else e) :: rest

def cutFinish : List Edit → List Edit
  | [] => []
  | [e] => [if e.kind = .keep then firstLines contextSize e else e]
  | e :: rest => e :: cutFinish rest

-- Cuts the script at long runs of kept lines. `pending` is the current part in reverse; a part without a
-- change is dropped at the end.
def splitAtKeeps : List Edit → List Edit → List (List Edit)
  | pending, [] => if pending.all (·.kind == .keep) then [] else [pending.reverse]
  | pending, e :: rest =>
    if e.kind = .keep ∧ 2 * contextSize < e.oldCount then
      (firstLines contextSize e :: pending).reverse :: splitAtKeeps [lastLines contextSize e] rest
    else splitAtKeeps (e :: pending) rest

def hunks (edits : List Edit) : List (List Edit) := splitAtKeeps [] (cutFinish (cutStart edits))

-- Lines are counted from one. An empty range names the line before it, and a single line no length.
def rangeText (start finish : Nat) : String :=
  let count := finish - start
  if count = 1 then toString (start + 1)
  else toString (if count = 0 then start else start + 1) ++ "," ++ toString count

def hunkHeader (hunk : List Edit) : String :=
  match hunk.head?, hunk.getLast? with
  | some first, some last =>
    "@@ -" ++ rangeText first.oldStart last.oldEnd ++ " +" ++ rangeText first.newStart last.newEnd ++ " @@\n"
  | _, _ => ""

def hasEnd (line : String) : Bool := line.toList.getLast?.any fun c => c == '\n' || c == '\r'

def markedLine (mark : String) (line : String) : String :=
  mark ++ line ++ if hasEnd line then "" else "\n\\ No newline at end of file\n"

def markedLines (mark : String) (lines : Array String) (start count : Nat) : String :=
  String.join ((lines.toList.drop start).take count |>.map (markedLine mark))

namespace TextDiff

def editText (d : TextDiff) (e : Edit) : String :=
  if e.kind = .keep then markedLines " " d.old e.oldStart e.oldCount
  else markedLines "-" d.old e.oldStart e.oldCount ++ markedLines "+" d.new e.newStart e.newCount

def hunkText (d : TextDiff) (hunk : List Edit) : String := hunkHeader hunk ++ String.join (hunk.map d.editText)

def unified (d : TextDiff) (oldName newName : String) : String :=
  match hunks d.edits with
  | [] => ""
  | parts => "--- " ++ oldName ++ "\n+++ " ++ newName ++ "\n" ++ String.join (parts.map d.hunkText)

end TextDiff

end DomainSchema.Drift

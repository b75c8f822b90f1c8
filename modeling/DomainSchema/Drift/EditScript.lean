namespace DomainSchema.Drift

inductive EditKind where
  | keep | delete | insert | replace
deriving DecidableEq, Repr

-- A run in the old and in the new list. Where it takes no lines of a list it still has a place there.
structure Edit where
  kind : EditKind
  oldStart : Nat
  oldCount : Nat
  newStart : Nat
  newCount : Nat
deriving DecidableEq, Repr

def Edit.oldEnd (e : Edit) : Nat := e.oldStart + e.oldCount
def Edit.newEnd (e : Edit) : Nat := e.newStart + e.newCount

def keep (oldStart newStart count : Nat) : Edit := ⟨.keep,oldStart,count,newStart,count⟩
def deletion (oldStart oldCount newStart : Nat) : Edit := ⟨.delete,oldStart,oldCount,newStart,0⟩
def insertion (oldStart newStart newCount : Nat) : Edit := ⟨.insert,oldStart,0,newStart,newCount⟩

structure Region where
  oldStart : Nat
  oldEnd : Nat
  newStart : Nat
  newEnd : Nat

namespace Region

def oldCount (r : Region) : Nat := r.oldEnd - r.oldStart
def newCount (r : Region) : Nat := r.newEnd - r.newStart

end Region

section
variable {α : Type} [BEq α] (old new : Array α)

def sameAt (i j : Nat) : Bool :=
  match old[i]?, new[j]? with
  | some a, some b => a == b
  | _, _ => false

def agreeFrom : Nat → Nat → Nat → Nat
  | 0, _, _ => 0
  | limit + 1, i, j => if sameAt old new i j then 1 + agreeFrom limit (i + 1) (j + 1) else 0

def agreeBefore : Nat → Nat → Nat → Nat
  | 0, _, _ => 0
  | limit + 1, i, j =>
    if 0 < i ∧ 0 < j ∧ sameAt old new (i - 1) (j - 1) then 1 + agreeBefore limit (i - 1) (j - 1) else 0

def commonStart (r : Region) : Nat := agreeFrom old new (min r.oldCount r.newCount) r.oldStart r.newStart

def commonEnd (r : Region) : Nat := agreeBefore old new (min r.oldCount r.newCount) r.oldEnd r.newEnd

structure Frontier where
  offset : Nat
  places : Array Nat

namespace Frontier

def start (reach : Nat) : Frontier := ⟨reach + 1,(Array.replicate (2 * reach + 3) 0)⟩

def get (f : Frontier) (k : Int) : Nat := f.places.getD (k + f.offset).toNat 0

def set (f : Frontier) (k : Int) (x : Nat) : Frontier := { f with places := f.places.setIfInBounds (k + f.offset).toNat x }

def step (f : Frontier) (d : Nat) (k : Int) : Nat :=
  if k = -d ∨ (k ≠ d ∧ f.get (k - 1) < f.get (k + 1)) then f.get (k + 1) else f.get (k - 1) + 1

end Frontier

def diagonals (d : Nat) : List Int := (List.range (d + 1)).map fun (i : Nat) => (d : Int) - 2 * i

-- Paths from the start of the region with `d` edits. Where one meets a path from the end, the place at which
-- its last run begins splits the region.
def searchForward (r : Region) (d : Nat) (backward : Frontier) :
    List Int → Frontier → Frontier × Option (Nat × Nat)
  | [], forward => (forward,none)
  | k :: ks, forward =>
    let n := r.oldCount
    let m := r.newCount
    let delta : Int := n - m
    let x := forward.step d k
    let y := (x - k).toNat
    let run := if x < n ∧ y < m then agreeFrom old new (min (n - x) (m - y)) (r.oldStart + x) (r.newStart + y) else 0
    let forward := forward.set k (x + run)
    if delta % 2 ≠ 0 ∧ (k - delta).natAbs + 1 ≤ d ∧ n ≤ x + run + backward.get (delta - k) then
      (forward,some (r.oldStart + x,r.newStart + y))
    else searchForward r d backward ks forward

def searchBackward (r : Region) (d : Nat) (forward : Frontier) :
    List Int → Frontier → Frontier × Option (Nat × Nat)
  | [], backward => (backward,none)
  | k :: ks, backward =>
    let n := r.oldCount
    let m := r.newCount
    let delta : Int := n - m
    let x := backward.step d k
    let y := (x - k).toNat
    let run := if x < n ∧ y < m then agreeBefore old new (min (n - x) (m - y)) (r.oldEnd - x) (r.newEnd - y) else 0
    let backward := backward.set k (x + run)
    if delta % 2 = 0 ∧ (k - delta).natAbs ≤ d ∧ n ≤ x + run + forward.get (delta - k) then
      (backward,some (r.oldEnd - (x + run),r.newEnd - (y + run)))
    else searchBackward r d forward ks backward

def splitPoint (r : Region) : Nat → Nat → Frontier → Frontier → Option (Nat × Nat)
  | 0, _, _, _ => none
  | tries + 1, d, forward, backward =>
    match searchForward old new r d backward (diagonals d) forward with
    | (_,some place) => some place
    | (forward,none) =>
      match searchBackward old new r d forward (diagonals d) backward with
      | (_,some place) => some place
      | (backward,none) => splitPoint r tries (d + 1) forward backward

-- A shortest script for the region: what agrees at its start and end is kept, and the middle is split in two.
-- Each split leaves less to do, so fuel above the number of lines is never used up.
def shortestScript : Nat → Region → List Edit
  | 0, r => [deletion r.oldStart r.oldCount r.newStart,insertion r.oldStart r.newStart r.newCount]
  | fuel + 1, r =>
    let first := commonStart old new r
    let start := if first = 0 then [] else [keep r.oldStart r.newStart first]
    let r := { r with oldStart := r.oldStart + first, newStart := r.newStart + first }
    let last := commonEnd old new r
    let r := { r with oldEnd := r.oldEnd - last, newEnd := r.newEnd - last }
    let finish := if last = 0 then [] else [keep r.oldEnd r.newEnd last]
    let middle :=
      if r.oldCount = 0 ∧ r.newCount = 0 then []
      else if r.newCount = 0 then [deletion r.oldStart r.oldCount r.newStart]
      else if r.oldCount = 0 then [insertion r.oldStart r.newStart r.newCount]
      else
        let reach := (r.oldCount + r.newCount + 1) / 2 + 1
        match splitPoint old new r reach 0 (.start reach) (.start reach) with
        | some (i,j) =>
          shortestScript fuel { r with oldEnd := i, newEnd := j } ++
            shortestScript fuel { r with oldStart := i, newStart := j }
        | none => [deletion r.oldStart r.oldCount r.newStart,insertion r.oldStart r.newStart r.newCount]
    start ++ middle ++ finish

structure Cursor where
  before : List Edit
  this : Edit
  after : List Edit

-- Moves an edit up as far as the lines before it repeat its end, past edits of the other kind, and joins it with
-- those of its own kind. Only insertions move through kept lines.
def moveUp : Nat → Cursor → Cursor
  | 0, c => c
  | fuel + 1, c =>
    match c.before with
    | [] => c
    | prev :: before =>
      if prev.kind = .keep then
        let run := agreeBefore old new (min prev.oldCount c.this.newCount) prev.oldEnd c.this.newEnd
        if run = 0 then if prev.oldCount = 0 then moveUp fuel { c with before } else c
        else
          let after := match c.after with
            | next :: rest =>
              if next.kind = .keep then keep (next.oldStart - run) (next.newStart - run) (next.oldCount + run) :: rest
              else keep (prev.oldEnd - run) (c.this.newEnd - run) run :: c.after
            | [] => [keep (prev.oldEnd - run) (c.this.newEnd - run) run]
          let this := { c.this with oldStart := c.this.oldStart - run, newStart := c.this.newStart - run }
          let left := prev.oldCount - run
          let before := if left = 0 then before else keep prev.oldStart prev.newStart left :: before
          moveUp fuel ⟨before,this,after⟩
      else if prev.kind = c.this.kind then
        let this := { prev with oldCount := prev.oldCount + c.this.oldCount, newCount := prev.newCount + c.this.newCount }
        moveUp fuel ⟨before,this,c.after⟩
      else moveUp fuel ⟨before,c.this,prev :: c.after⟩

def moveDown : Nat → Cursor → Cursor
  | 0, c => c
  | fuel + 1, c =>
    match c.after with
    | [] => c
    | next :: after =>
      if next.kind = .keep then
        let run := agreeFrom old new (min next.oldCount c.this.newCount) next.oldStart c.this.newStart
        if run = 0 then if next.oldCount = 0 then moveDown fuel { c with after } else c
        else
          let before := match c.before with
            | prev :: rest =>
              if prev.kind = .keep then keep prev.oldStart prev.newStart (prev.oldCount + run) :: rest
              else keep next.oldStart c.this.newStart run :: c.before
            | [] => [keep next.oldStart c.this.newStart run]
          let this := { c.this with oldStart := c.this.oldStart + run, newStart := c.this.newStart + run }
          let left := next.oldCount - run
          let after := if left = 0 then after else keep (next.oldStart + run) (next.newStart + run) left :: after
          moveDown fuel ⟨before,this,after⟩
      else if next.kind = c.this.kind then
        let this := { c.this with
          oldCount := c.this.oldCount + next.oldCount, newCount := c.this.newCount + next.newCount }
        moveDown fuel ⟨c.before,this,after⟩
      else moveDown fuel ⟨next :: c.before,c.this,after⟩

def settle (kind : EditKind) (reach : Nat) : Nat → List Edit → List Edit → List Edit
  | 0, before, after => before.reverse ++ after
  | _ + 1, before, [] => before.reverse
  | fuel + 1, before, this :: after =>
    if this.kind = kind then
      let c := moveDown old new reach (moveUp old new reach ⟨before,this,after⟩)
      settle kind reach fuel (c.this :: c.before) c.after
    else settle kind reach fuel (this :: before) after

end

-- Joins neighbours into runs: keeps with keeps, and deletions and insertions next to each other into one
-- replacement. `pending` is the run that is being built.
def joinEdit (pending e : Edit) : Option Edit :=
  let both (kind : EditKind) : Edit :=
    { kind
      oldStart := if pending.oldCount = 0 then e.oldStart else pending.oldStart
      oldCount := pending.oldCount + e.oldCount
      newStart := if pending.newCount = 0 then e.newStart else pending.newStart
      newCount := pending.newCount + e.newCount }
  match pending.kind, e.kind with
  | .keep, .keep => some (both .keep)
  | .delete, .delete => some { pending with oldCount := pending.oldCount + e.oldCount }
  | .insert, .insert => some { pending with newCount := pending.newCount + e.newCount }
  | .keep, _ | _, .keep => none
  | _, _ => some (both .replace)

def joinEdits : List Edit → List Edit
  | [] => []
  | e :: rest => go e rest
where
  go (pending : Edit) : List Edit → List Edit
    | [] => [pending]
    | e :: rest =>
      match joinEdit pending e with
      | some joined => go joined rest
      | none => pending :: go e rest

def editScript [BEq α] (old new : Array α) : List Edit :=
  let size := old.size + new.size
  let raw := shortestScript old new (size + 1) ⟨0,old.size,0,new.size⟩
  let reach := 2 * size + 2 * raw.length + 2
  let fuel := (reach + 1) * (reach + 1)
  joinEdits (settle old new .insert reach fuel [] (settle old new .delete reach fuel [] raw))

end DomainSchema.Drift

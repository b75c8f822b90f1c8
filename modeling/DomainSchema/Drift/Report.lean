import DomainSchema.Drift.Unified
import DomainSchema.FileTree
import DomainSchema.Json.Value
import DomainSchema.Unit

namespace DomainSchema.Drift

inductive Status where
  | upToDate
  | missing
  -- The lines to add and to remove. `handEdited` is a file whose body is not the one its own header tells of.
  | stale (added removed : Nat) (handEdited : Bool) (diff : String)
  | orphaned
deriving DecidableEq, Repr

structure Entry where
  file : String
  status : Status
deriving DecidableEq, Repr

def Entry.drifted (e : Entry) : Bool := e.status != .upToDate

structure Report where
  entries : List Entry
deriving DecidableEq, Repr

namespace Report

def drifted (r : Report) : List Entry := r.entries.filter Entry.drifted

def hasDrift (r : Report) : Bool := r.entries.any Entry.drifted

def firstDrifted? (r : Report) : Option String := r.entries.find? Entry.drifted |>.map (·.file)

end Report

def outOfDate (path : String) : String := "Generated file is out of date: " ++ path

def Report.result (r : Report) : Except String Report :=
  match r.firstDrifted? with
  | some path => .error (outOfDate path)
  | none => .ok r

def handEdited (file : String) : Bool :=
  match Fingerprint.readHeader? file with
  | some (recorded,body) => !recorded.verifies body
  | none => false

def compare (onDisk regenerated name : String) : Status :=
  if onDisk = regenerated then .upToDate
  else
    let diff := TextDiff.ofTexts onDisk regenerated
    .stale diff.added diff.removed (handEdited onDisk)
      (diff.unified (name ++ " (on disk)") (name ++ " (regenerated)"))

def unitStatus (t : FileTree) (directory : String) (u : GeneratedUnit) : Except FileError Status :=
  let file := Path.join directory u.fileName
  if t.contains file then return compare (← t.read file) u.code u.fileName else return .missing

def unitEntry (t : FileTree) (directory : String) (u : GeneratedUnit) : Except FileError Entry := do
  return { file := Path.join directory u.fileName, status := ← unitStatus t directory u }

def generatedEnding : String := ".domain.rs"

-- The generated files in a directory that none of the units is for, by name. A file whose path is too long to be
-- looked at is passed over.
def orphans (t : FileTree) (directory : String) (units : List GeneratedUnit) : List String :=
  match t.find directory with
  | .ok place =>
    let leftover (name : String) : Bool :=
      t.isFile (Path.join directory name) && name.endsWith generatedEnding && !(units.map (·.fileName)).contains name
    ((t.filesIn place).filter leftover).mergeSort (· ≤ ·)
  | .error _ => []

def leftovers (t : FileTree) (directory : String) (units : List GeneratedUnit) : List String :=
  if t.isDirectory directory then orphans t directory units else []

def verify (t : FileTree) (units : List GeneratedUnit) (directory : String) : Except FileError Report := do
  let current ← units.mapM (unitEntry t directory)
  return ⟨current ++ (leftovers t directory units).map fun name => ⟨Path.join directory name,.orphaned⟩⟩

def writeUnit (directory : String) (u : GeneratedUnit) : FileAction String := do
  let file := Path.join directory u.fileName
  FileAction.write file u.code
  return file

def writeUnits (units : List GeneratedUnit) (directory : String) : FileAction (List String) := do
  FileAction.makeDirectories directory
  units.mapM (writeUnit directory)

end DomainSchema.Drift

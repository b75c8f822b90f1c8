import DomainSchema.CommandLine.Running

namespace DomainSchema.CommandLine

-- The program around `run`: it takes the part of the disk that a run looks at into a file tree, and writes
-- back what the run has changed.

def diskPath (place : Place) : String := if place.isEmpty then "/" else Place.path place

-- Takes in what is at a place. What cannot be read as a text counts as not there.
def look (t : FileTree) (place : Place) : IO FileTree := do
  if (t.node? place).isSome then return t
  let path := (← IO.currentDir) / diskPath place
  if ← path.isDir then return t.set place .directory
  try return t.set place (.file (← IO.FS.readFile path))
  catch _ => return t

def lookAlong (t : FileTree) (path : String) : IO (FileTree × Option Place) := do
  match FileTree.route path with
  | .error _ => return (t,none)
  | .ok parts =>
    let mut t := t
    let mut here := t.start path
    for part in parts do
      match t.enter here part with
      | .error _ => return (t,none)
      | .ok there =>
        t ← look t there
        here := there
    return (t,some here)

def lookAt (t : FileTree) (path : String) : IO FileTree := return (← lookAlong t path).1

def lookBelow : Nat → FileTree → Place → IO FileTree
  | 0, t, _ => return t
  | depth + 1, t, place => do
    if t.node? place ≠ some .directory then return t
    let mut t := t
    for entry in ← ((← IO.currentDir) / diskPath place).readDir do
      let child := place ++ [entry.fileName]
      t ← lookBelow depth (← look t child) child
    return t

def lookUnder (depth : Nat) (t : FileTree) (path : String) : IO FileTree := do
  match ← lookAlong t path with
  | (t,some place) => lookBelow depth t place
  | (t,none) => return t

def walkDepth : Nat := 256

def processVariables : IO (List (String × String)) := do
  let text ← try IO.FS.readFile "/proc/self/environ" catch _ => pure ""
  return (text.splitOn "\x00").filterMap fun line =>
    match line.splitOn "=" with
    | name :: first :: rest => some (name,Text.join "=" (first :: rest))
    | _ => none

def userSettings (environment : List (String × String)) : Option String :=
  let base := match (environment.lookup "XDG_CONFIG_HOME").filter Path.isAbsolute with
    | some directory => some directory
    | none => (environment.lookup "HOME").map (Path.join · ".config")
  base.map (Path.join · "domain-forge/domain-forge.toml")

def settingsNames (t : FileTree) (userFile file : Option String) : List String :=
  let paths := (SettingsSources.usualFiles ++ userFile.toList ++ file.toList).map t.absolute
  paths ++ paths.flatMap fun path => (Layers.extended path).map Prod.fst

def target (w : World) (i : Invocation) : Option String :=
  let fromSettings := match Settings.load Layers.library ⟨w.files,w.environment,w.userFile,i.settingsFile⟩ with
    | .ok s => some s.output.directory
    | .error _ => none
  match i.command with
  | .generate directory | .verify directory => directory <|> fromSettings
  | .graph file => file
  | .check | .index => none

def worldFor (args : List String) : IO World := do
  let environment ← processVariables
  let userFile := userSettings environment
  let empty : FileTree := { home := (Path.parts (← IO.currentDir).toString).filter (· ≠ "") }
  match readArguments args with
  | .error _ => return ⟨empty,environment,userFile⟩
  | .ok i =>
    let t ← (settingsNames empty userFile i.settingsFile).foldlM lookAt empty
    let t ← i.inputs.foldlM (lookUnder walkDepth) t
    match target ⟨t,environment,userFile⟩ i with
    | none => return ⟨t,environment,userFile⟩
    | some path => return ⟨← lookUnder 1 t path,environment,userFile⟩

def writeBack (before after : FileTree) : IO Unit :=
  after.nodes.forM fun (place,node) => do
    if before.node? place ≠ some node then
      let path := (← IO.currentDir) / diskPath place
      match node with
      | .directory => IO.FS.createDirAll path
      | .file text => IO.FS.writeFile path text

def program (args : List String) : IO UInt32 := do
  let w ← worldFor args
  let o := run w args
  writeBack w.files o.files
  (← IO.getStderr).putStr o.stderr
  (← IO.getStdout).putStr o.stdout
  return o.code.toUInt32

end DomainSchema.CommandLine

def main (args : List String) : IO UInt32 := DomainSchema.CommandLine.program args

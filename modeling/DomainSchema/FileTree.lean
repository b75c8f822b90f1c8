import DomainSchema.Text

namespace DomainSchema

inductive FileError where
  | notFound
  | alreadyExists
  | notDirectory
  | isDirectory
  | nameTooLong
  | nulInName
deriving DecidableEq, Repr

def FileError.text : FileError → String
  | .notFound => "No such file or directory (os error 2)"
  | .alreadyExists => "File exists (os error 17)"
  | .notDirectory => "Not a directory (os error 20)"
  | .isDirectory => "Is a directory (os error 21)"
  | .nameTooLong => "File name too long (os error 36)"
  | .nulInName => "file name contained an unexpected NUL byte"

namespace Path

-- The parts of a path between its slashes. There is always at least one, and parts may be empty.
def splitAtSlashes : List Char → List (List Char)
  | [] => [[]]
  | '/' :: rest => [] :: splitAtSlashes rest
  | c :: rest =>
    match splitAtSlashes rest with
    | [] => [[c]]
    | part :: more => (c :: part) :: more

def parts (path : String) : List String := (splitAtSlashes path.toList).map String.ofList

def isAbsolute (path : String) : Bool := path.toList.head? == some '/'

def join (directory name : String) : String :=
  if isAbsolute name ∨ directory = "" then name
  else if directory.toList.getLast? = some '/' then directory ++ name
  else directory ++ "/" ++ name

-- Takes parts that lead nowhere off the end, which comes first here. The first part of a path stays.
def dropIdle : List String → List String
  | part :: next :: before =>
    if part = "" ∨ part = "." then dropIdle (next :: before) else part :: next :: before
  | parts => parts

-- The path without its last name. The empty path is above a single name, and nothing is above the root.
def parent? (path : String) : Option String :=
  match dropIdle (parts path).reverse with
  | [] | [""] => none
  | _ :: before =>
    match dropIdle before with
    | [""] => some "/"
    | before => some (Text.join "/" before.reverse)

-- What follows the last point of a file name. A point at its start begins no extension.
def extension? (name : String) : Option String :=
  let (reversed, stem) := name.toList.reverse.span (· ≠ '.')
  match stem with
  | '.' :: before => if before.isEmpty ∨ name = ".." then none else some (String.ofList reversed.reverse)
  | _ => none

end Path

abbrev Place := List String

def Place.path (place : Place) : String := String.join (place.map ("/" ++ ·))

def Place.le : Place → Place → Bool
  | [], _ => true
  | _ :: _, [] => false
  | a :: as, b :: bs => a < b || (a == b && Place.le as bs)

inductive Node where
  | directory
  | file (text : String)
deriving DecidableEq, Repr

-- The working directory, and what is in the tree besides it and the directories above it.
structure FileTree where
  home : Place := []
  nodes : List (Place × Node) := []
deriving DecidableEq, Repr

namespace FileTree

def node? (t : FileTree) (place : Place) : Option Node :=
  if place.isPrefixOf t.home then some .directory else t.nodes.lookup place

def setNode (place : Place) (node : Node) : List (Place × Node) → List (Place × Node)
  | [] => [(place,node)]
  | other :: rest => if other.1 = place then (place,node) :: rest else other :: setNode place node rest

def set (t : FileTree) (place : Place) (node : Node) : FileTree := { t with nodes := setNode place node t.nodes }

def remove (t : FileTree) (place : Place) : FileTree := { t with nodes := t.nodes.filter (·.1 ≠ place) }

def enter (t : FileTree) (here : Place) (part : String) : Except FileError Place :=
  match t.node? here with
  | none => .error .notFound
  | some (.file _) => .error .notDirectory
  | some .directory =>
    if part = "" ∨ part = "." then .ok here
    else if part = ".." then .ok here.dropLast
    else if 255 < part.utf8ByteSize then .error .nameTooLong
    else .ok (here ++ [part])

def route (path : String) : Except FileError (List String) :=
  if path = "" then .error .notFound
  else if path.toList.contains '\x00' then .error .nulInName
  else if 4096 ≤ path.utf8ByteSize then .error .nameTooLong
  else .ok (Path.parts path)

def start (t : FileTree) (path : String) : Place := if Path.isAbsolute path then [] else t.home

def absolute (t : FileTree) (path : String) : String :=
  if Path.isAbsolute path then path else Place.path t.home ++ "/" ++ path

def find (t : FileTree) (path : String) : Except FileError Place := do
  (← route path).foldlM t.enter (t.start path)

def node (t : FileTree) (path : String) : Except FileError Node := do
  match t.node? (← t.find path) with
  | some node => .ok node
  | none => .error .notFound

def contains (t : FileTree) (path : String) : Bool := (t.node path).isOk

def isDirectory (t : FileTree) (path : String) : Bool :=
  match t.node path with
  | .ok .directory => true
  | _ => false

def isFile (t : FileTree) (path : String) : Bool :=
  match t.node path with
  | .ok (.file _) => true
  | _ => false

def read (t : FileTree) (path : String) : Except FileError String := do
  match ← t.node path with
  | .file text => .ok text
  | .directory => .error .isDirectory

def below? (place there : Place) : Option Place :=
  if place.isPrefixOf there then some (there.drop place.length) else none

def filesBelow (t : FileTree) (place : Place) : List Place :=
  t.nodes.filterMap fun
    | (there,.file _) => below? place there
    | _ => none

def filesIn (t : FileTree) (place : Place) : List String :=
  (t.filesBelow place).filterMap fun
    | [name] => some name
    | _ => none

end FileTree

-- An action on the files. What it has done before it fails stays done.
abbrev FileAction := ExceptT FileError (StateM FileTree)

namespace FileAction

def write (path text : String) : FileAction Unit := do
  let t ← get
  let parts ← FileTree.route path
  match parts.reverse.dropWhile (· = "") with
  | [] => throw .isDirectory
  | last :: before =>
    let directory ← (before.reverse.foldlM t.enter (t.start path) : Except FileError Place)
    let place ← t.enter directory last
    if parts.getLast? = some "" ∨ t.node? place = some .directory then throw .isDirectory
    set (t.set place (.file text))

def makeDirectory (path : String) : FileAction Unit := do
  let t ← get
  let parts ← FileTree.route path
  match parts.reverse.dropWhile (· = "") with
  | [] => throw .alreadyExists
  | last :: before =>
    let directory ← (before.reverse.foldlM t.enter (t.start path) : Except FileError Place)
    let place ← t.enter directory last
    if last = "." ∨ last = ".." ∨ (t.node? place).isSome then throw .alreadyExists
    set (t.set place .directory)

def ensureDirectory (path : String) : FileAction Unit := do
  try makeDirectory path
  catch e => if (← get).isDirectory path then pure () else throw e

-- Makes the directory of a path after those above it, where they are missing. A path has at most as many names
-- as characters, so fuel above its length is never used up.
def makeUpwards : Nat → String → FileAction Unit
  | 0, path => ensureDirectory path
  | fuel + 1, path => do
    if path = "" then return
    try ensureDirectory path
    catch
      | .notFound =>
        (Path.parent? path).forM (makeUpwards fuel)
        ensureDirectory path
      | e => throw e

def makeDirectories (path : String) : FileAction Unit := makeUpwards (path.length + 1) path

def delete (path : String) : FileAction Unit := do
  let t ← get
  let place ← t.find path
  match t.node? place with
  | some (.file _) => set (t.remove place)
  | some .directory => throw .isDirectory
  | none => throw .notFound

end FileAction

end DomainSchema

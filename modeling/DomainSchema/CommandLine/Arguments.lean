import DomainSchema.Text

namespace DomainSchema.CommandLine

inductive Format where
  | text
  | json
deriving DecidableEq, Repr

inductive Verb where
  | check
  | generate
  | verify
  | graph
  | index
deriving DecidableEq, Repr

def verbs : List (String × Verb) :=
  [("check",.check),("generate",.generate),("verify",.verify),("graph",.graph),("index",.index)]

inductive Command where
  | check
  | generate (directory : Option String)
  | verify (directory : Option String)
  | graph (file : Option String)
  | index
deriving DecidableEq, Repr

structure Invocation where
  settingsFile : Option String
  format : Format
  command : Command
  inputs : List String
deriving DecidableEq, Repr

inductive Stop where
  | help
  | version
  | nothing
  | refused (reason : String)
deriving DecidableEq, Repr

def unexpected (name : String) : Stop := .refused ("unexpected argument '" ++ name ++ "' found")
def valueMissing (shown : String) : Stop :=
  .refused ("a value is required for '" ++ shown ++ "' but none was supplied")

inductive Switch where
  | settingsFile
  | format
  | target
  | help
  | version
deriving DecidableEq, Repr

structure Named where
  switch : Switch
  short : Char
  long : String
deriving DecidableEq, Repr

def Named.shown (n : Named) : String := "--" ++ n.long ++ " <" ++ n.long.toUpper ++ ">"

def switches : Option Verb → List Named
  | none => common ++ [⟨.version,'V',"version"⟩]
  | some .generate | some .verify => common ++ [⟨.target,'o',"out"⟩]
  | some .graph => common ++ [⟨.target,'o',"output"⟩]
  | some _ => common
where
  common : List Named := [⟨.settingsFile,'c',"config"⟩,⟨.format,'f',"format"⟩,⟨.help,'h',"help"⟩]

def unrecognized (word : String) : Stop := .refused ("unrecognized subcommand '" ++ word ++ "'")
def superfluous (value name : String) : Stop :=
  .refused ("unexpected value '" ++ value ++ "' for '--" ++ name ++ "' found; no more were expected")

def formatOf? : String → Option Format
  | "text" => some .text
  | "json" => some .json
  | _ => none

structure Given where
  settingsFile : Option String := none
  format : Option Format := none
  target : Option String := none
deriving DecidableEq, Repr

def once (n : Named) (before : Option α) (g : Except Stop Given) : Except Stop Given :=
  if before.isSome then .error (.refused ("the argument '" ++ n.shown ++ "' cannot be used multiple times"))
  else g

def Given.accept (g : Given) (n : Named) (value : String) : Except Stop Given :=
  let filled (g : Given) : Except Stop Given := if value = "" then .error (valueMissing n.shown) else .ok g
  match n.switch with
  | .settingsFile => once n g.settingsFile (filled { g with settingsFile := some value })
  | .target => once n g.target (filled { g with target := some value })
  | .format => once n g.format <|
    match formatOf? value with
    | some f => .ok { g with format := some f }
    | none =>
      if value = "" then .error (valueMissing n.shown)
      else .error (.refused ("invalid value '" ++ value ++ "' for '" ++ n.shown ++ "'"))
  | .help => .error .help
  | .version => .error .version

-- What has been read but not looked at: a switch, with its value if that has been read too, or inputs. It is
-- settled when something else is taken in. Where an argument is refused before that, it is never looked at.
inductive Waiting where
  | nothing
  | switch (n : Named) (value : Option String)
  | inputs (names : List String)
deriving DecidableEq, Repr

structure Side where
  given : Given := {}
  inputs : List String := []
  waiting : Waiting := .nothing
deriving DecidableEq, Repr

namespace Side

def settle (s : Side) : Except Stop Side :=
  match s.waiting with
  | .nothing => .ok s
  | .switch n none => .error (valueMissing n.shown)
  | .switch n (some value) => return { s with given := ← s.given.accept n value, waiting := .nothing }
  | .inputs names =>
    if names.contains "" then .error (valueMissing "<INPUTS>...")
    else .ok { s with inputs := s.inputs ++ names, waiting := .nothing }

def switch (s : Side) (n : Named) (attached : Option String) : Except Stop Side := do
  let s ← s.settle
  match n.switch, attached with
  | .help, _ => .error .help
  | .version, _ => .error .version
  | _, some value => return { s with given := ← s.given.accept n value }
  | _, none => return { s with waiting := .switch n none }

def input (s : Side) (name : String) : Except Stop Side :=
  match s.waiting with
  | .inputs names => .ok { s with waiting := .inputs (names ++ [name]) }
  | _ => return { (← s.settle) with waiting := .inputs [name] }

end Side

structure Reading where
  outer : Side := {}
  verb : Option Verb := none
  inner : Side := {}
  literal : Bool := false
  -- What help is asked for with a word of its own: the whole, or after another word that word.
  helpFor : Option (Option String) := none
deriving DecidableEq, Repr

namespace Reading

def side (r : Reading) : Side := if r.verb.isSome then r.inner else r.outer

def setSide (r : Reading) (s : Side) : Reading := if r.verb.isSome then { r with inner := s } else { r with outer := s }

def switch (r : Reading) (n : Named) (attached : Option String) : Except Stop Reading :=
  return r.setSide (← r.side.switch n attached)

def isCommand (word : String) : Bool := word = "help" || (verbs.lookup word).isSome

-- An argument that is no switch: the command, and then its inputs. No command follows `--`.
def word (r : Reading) (arg : String) : Except Stop Reading :=
  if r.verb.isSome then return r.setSide (← r.side.input arg)
  else if r.literal then .error (if isCommand arg then unexpected arg else unrecognized arg)
  else match verbs.lookup arg with
    | some verb => .ok { r with verb := some verb }
    | none => if arg = "help" then .ok { r with helpFor := some none } else .error (unrecognized arg)

def helpWord (r : Reading) (asked : Option String) (arg : String) : Except Stop Reading :=
  if asked.isNone && isCommand arg then .ok { r with helpFor := some (some arg) } else .error (unrecognized arg)

def dropEquals : List Char → List Char
  | '=' :: rest => rest
  | cs => cs

def fresh (r : Reading) (arg : String) : Except Stop Reading :=
  match arg.toList with
  | '-' :: '-' :: rest =>
    let (name, value) := rest.span (· ≠ '=')
    let value := if value = [] then none else some (String.ofList (dropEquals value))
    match (switches r.verb).find? (·.long == String.ofList name), value with
    | some n, some value =>
      if n.switch = .help ∨ n.switch = .version then .error (superfluous value n.long) else r.switch n (some value)
    | some n, none => r.switch n none
    | none, _ => .error (unexpected ("--" ++ String.ofList name))
  | '-' :: short :: rest =>
    match (switches r.verb).find? (·.short == short) with
    | some n => r.switch n (if rest = [] then none else some (String.ofList (dropEquals rest)))
    | none => .error (unexpected (String.ofList ['-',short]))
  | _ => r.word arg

def step (r : Reading) (arg : String) : Except Stop Reading :=
  match r.helpFor with
  | some asked => r.helpWord asked arg
  | none =>
    if r.literal then r.word arg
    else if arg = "--" then .ok { r with literal := true }
    else match r.side.waiting with
      | .switch n none =>
        if arg.startsWith "-" && arg ≠ "-" then r.fresh arg
        else .ok (r.setSide { r.side with waiting := .switch n (some arg) })
      | _ => r.fresh arg

def command (given : Given) : Verb → Command
  | .check => .check
  | .generate => .generate given.target
  | .verify => .verify given.target
  | .graph => .graph given.target
  | .index => .index

-- What is given after the command counts more than what is given before it.
def finish (r : Reading) : Except Stop Invocation := do
  if r.helpFor.isSome then .error .help
  else match r.verb with
  | none =>
    let outer ← r.outer.settle
    if outer.given = {} then .error .nothing
    else .error (.refused "'domain-forge' requires a subcommand but one was not provided")
  | some verb =>
    let inner ← r.inner.settle
    if inner.inputs = [] then .error (.refused "the following required arguments were not provided:")
    else
      let outer ← r.outer.settle
      return { settingsFile := inner.given.settingsFile <|> outer.given.settingsFile
               format := (inner.given.format <|> outer.given.format).getD .text
               command := command inner.given verb
               inputs := inner.inputs }

end Reading

def readArguments (args : List String) : Except Stop Invocation := do
  (← args.foldlM Reading.step {}).finish

end DomainSchema.CommandLine

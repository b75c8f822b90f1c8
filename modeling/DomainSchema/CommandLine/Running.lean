import DomainSchema.CommandLine.Arguments
import DomainSchema.Declaration.Loading
import DomainSchema.Diagnostic.Json
import DomainSchema.Drift.Json
import DomainSchema.NestingGraph
import DomainSchema.Settings.Layers
import DomainSchema.Settings.Loading

namespace DomainSchema.CommandLine

structure World where
  files : FileTree
  environment : List (String × String) := []
  userFile : Option String := none

structure Outcome where
  -- 0 for success, 1 for a failed check, 2 for a run that could not be done.
  code : Nat
  stdout : String
  stderr : String
  files : FileTree

def about : String := "Compile domain object schemas into validated constructors and mutators"

def helpText : String :=
  about ++ "\n\nUsage: domain-forge [OPTIONS] <COMMAND>\n\nCommands:\n" ++
    String.join (verbs.map fun (name,_) => "  " ++ name ++ "\n")

def versionText : String := "domain-forge 0.1.0\n"

def errorLine (causes : List String) : String := "Error: " ++ Text.join ": " causes ++ "\n"

def settingsCauses (e : SettingsError) : List String :=
  ["loading configuration","Configuration error: " ++ e.text,e.text]

def loadCauses (e : LoadError) : List String :=
  ["loading declaration graph",e.text,match e with
    | .file e => e.text
    | .invalid _ e => e.message]

def fileCauses (e : FileError) : List String := [(LoadError.file e).text,e.text]

def exitCode (success : Bool) : Nat := if success then 0 else 1

def readyText (count : Nat) : String := toString count ++ " schema(s) ready for emission\n"

def checkText (a : Analysis) : Format → String
  | .json => a.diagnostics.json.pretty ++ "\n"
  | .text => a.diagnostics.text ++ readyText a.schemas.length

def entryText (e : Drift.Entry) : String :=
  match e.status with
  | .upToDate => "ok       " ++ e.file ++ "\n"
  | .missing => "missing  " ++ e.file ++ "\n"
  | .orphaned => "orphaned " ++ e.file ++ "\n"
  | .stale added removed handEdited diff =>
    "stale    " ++ e.file ++ " (+" ++ toString added ++ " -" ++ toString removed ++
      (if handEdited then ", edited by hand" else "") ++ ")\n" ++ diff

def reportText (r : Drift.Report) : Format → String
  | .json => r.json.pretty ++ "\n"
  | .text => String.join (r.entries.map entryText)

def indexLine (b : BoundSchema) (f : Field) : String :=
  "  " ++ Text.padRight 20 f.name ++ " " ++ Text.join ", " ((b.rulesFor f.name).map (·.name)) ++ "\n"

def indexText (schemas : List BoundSchema) : String :=
  String.join (schemas.map fun b => b.schema.name ++ "\n" ++ String.join (b.schema.fields.map (indexLine b)))

def runCommand (t : FileTree) (g : Declarations) (s : Settings) (format : Format) : Command → Outcome
  | .check =>
    let a := analyze g s
    ⟨exitCode (!a.failed s),checkText a format,"",t⟩
  | .generate directory =>
    let out := compile g s
    match (Drift.writeUnits out.units (directory.getD s.output.directory)).run t with
    | (.ok written,t) =>
      ⟨exitCode (!out.failed s),String.join (written.map (· ++ "\n")),out.diagnostics.text,t⟩
    | (.error e,t) => ⟨2,"",out.diagnostics.text ++ errorLine (fileCauses e),t⟩
  | .verify directory =>
    match Drift.verify t (compile g s).units (directory.getD s.output.directory) with
    | .ok r => ⟨exitCode (!r.hasDrift),reportText r format,"",t⟩
    | .error e => ⟨2,"",errorLine (fileCauses e),t⟩
  | .graph none => ⟨0,(NestingGraph.build (analyze g s).schemas).dot,"",t⟩
  | .graph (some file) =>
    match (FileAction.write file (NestingGraph.build (analyze g s).schemas).dot).run t with
    | (.ok (),t) => ⟨0,"","Exported DOT to: " ++ file ++ "\n",t⟩
    | (.error e,t) => ⟨2,"",errorLine ["writing " ++ file,e.text],t⟩
  | .index =>
    let a := analyze g s
    ⟨exitCode (!a.failed s),indexText a.schemas,"",t⟩

def invoke (w : World) (i : Invocation) : Outcome :=
  match Settings.load Layers.library ⟨w.files,w.environment,w.userFile,i.settingsFile⟩ with
  | .error e => ⟨2,"",errorLine (settingsCauses e),w.files⟩
  | .ok s =>
    match Declarations.load w.files i.inputs with
    | .error e => ⟨2,"",errorLine (loadCauses e),w.files⟩
    | .ok g => runCommand w.files g s i.format i.command

def run (w : World) (args : List String) : Outcome :=
  match readArguments args with
  | .ok i => invoke w i
  | .error .help => ⟨0,helpText,"",w.files⟩
  | .error .version => ⟨0,versionText,"",w.files⟩
  | .error .nothing => ⟨2,"",helpText,w.files⟩
  | .error (.refused reason) => ⟨2,"","error: " ++ reason ++ "\n",w.files⟩

end DomainSchema.CommandLine

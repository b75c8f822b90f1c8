import DomainSchema.Settings.ConfigLibrary

namespace DomainSchema.ConfigLibrary
variable {α : Type} (lib : ConfigLibrary)

abbrev Reader (α : Type) := lib.Value → Except SettingsError α

abbrev Parts := List (String × String × lib.Value)

def part (parts : lib.Parts) (key : String) (read : lib.Reader α) (usual : α) : Except SettingsError α :=
  match parts.lookup key with
  | none => .ok usual
  | some (name,v) => (read v).mapError (·.under name)

def group (g : Group) : lib.Reader lib.Parts := lib.parts g.title (g.leaves.map Leaf.key)

def setting (parts : lib.Parts) (leaf : Leaf) (read : lib.Reader α) (usual : α) : Except SettingsError α :=
  lib.part parts leaf.key read usual

def library : lib.Reader Library := fun v => do
  let parts ← lib.group .library v
  let usual : Library := {}
  return { path := ← lib.setting parts .libraryPath lib.text usual.path
           capability := ← lib.setting parts .capability lib.text usual.capability }

def naming : lib.Reader Naming := fun v => do
  let parts ← lib.group .naming v
  let usual : Naming := {}
  return { constructor := ← lib.setting parts .constructor lib.text usual.constructor
           toResult := ← lib.setting parts .toResult lib.text usual.toResult
           setterStart := ← lib.setting parts .setterStart lib.text usual.setterStart }

def recognition : lib.Reader Recognition := fun v => do
  let parts ← lib.group .recognition v
  let usual : Recognition := {}
  return { listTypes := ← lib.setting parts .listTypes lib.texts usual.listTypes }

def output : lib.Reader OutputOptions := fun v => do
  let parts ← lib.group .output v
  let usual : OutputOptions := {}
  return { directory := ← lib.setting parts .directory lib.text usual.directory
           header := ← lib.setting parts .header lib.choice usual.header }

def strictness : lib.Reader Strictness := fun v => do
  let parts ← lib.group .strictness v
  let usual : Strictness := {}
  return { warningsAsErrors := ← lib.setting parts .warningsAsErrors lib.choice usual.warningsAsErrors }

def groups : lib.Reader lib.Parts := lib.parts "ForgeConfig" (Group.all.map Group.key)

def settings : lib.Reader Settings := fun v => do
  let parts ← lib.groups v
  return { library := ← lib.part parts Group.library.key lib.library {}
           naming := ← lib.part parts Group.naming.key lib.naming {}
           recognition := ← lib.part parts Group.recognition.key lib.recognition {}
           output := ← lib.part parts Group.output.key lib.output {}
           strictness := ← lib.part parts Group.strictness.key lib.strictness {} }

end DomainSchema.ConfigLibrary

import DomainSchema.Settings.Reading

namespace DomainSchema

structure SettingsSources where
  files : FileTree
  environment : List (String × String)
  userFile : Option String
  -- A file named on its own, which has to be there.
  file : Option String

namespace SettingsSources
variable (lib : ConfigLibrary)

def usualFiles : List String := ["domain-forge.toml",".domain-forge.toml","config/domain-forge.toml"]

def fromEnvironment (s : SettingsSources) : lib.Said := lib.environment s.environment "DOMAIN_FORGE" "__"

-- What the sources say, from the weakest to the strongest. The first one that cannot be read ends it.
def said (s : SettingsSources) : Except SettingsError (List lib.Said) := do
  let usual ← usualFiles.mapM (lib.file s.files · false)
  let user ← (s.userFile.toList.filter s.files.contains).mapM (lib.file s.files · false)
  let own ← s.file.toList.mapM (lib.file s.files · true)
  return usual ++ user ++ own ++ [s.fromEnvironment lib]

end SettingsSources

def Settings.load (lib : ConfigLibrary) (s : SettingsSources) : Except SettingsError Settings := do
  lib.settings (← lib.merge (← s.said lib))

end DomainSchema

import DomainSchema.Settings.ConfigLibrary

namespace DomainSchema

def Settings.groups (s : Settings) : List (String × List (String × Plain)) :=
  Group.all.map fun g => (g.key,g.leaves.map fun leaf => (leaf.key,leaf.value s))

def Settings.save (lib : ConfigLibrary) (path : String) (s : Settings) : FileAction Unit :=
  FileAction.write path (lib.document s.groups)

end DomainSchema

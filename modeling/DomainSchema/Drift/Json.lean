import DomainSchema.Drift.Report

namespace DomainSchema.Drift
open Json

def Status.json : Status → List (String × Value)
  | .upToDate => [("status","up_to_date")]
  | .missing => [("status","missing")]
  | .stale added removed handEdited diff =>
    [("status","stale"),("added",.nat added),("removed",.nat removed),("hand_edited",handEdited),("diff",diff)]
  | .orphaned => [("status","orphaned")]

def Entry.json (e : Entry) : Value := .object (("file",e.file) :: e.status.json)

def Report.json (r : Report) : Value := .object [("entries",.array (r.entries.map Entry.json))]

end DomainSchema.Drift

import DomainSchema.Sha256
import DomainSchema.Text

namespace DomainSchema

structure Fingerprint where
  digest : String
deriving DecidableEq, Repr

namespace Fingerprint

def ofBytes (bytes : List UInt8) : Fingerprint := ⟨Sha256.hexDigest bytes⟩

def ofText (text : String) : Fingerprint := ofBytes text.toUTF8.toList

def verifies (f : Fingerprint) (text : String) : Bool := f == ofText text

def lineStart : String := "// fingerprint: sha256:"

def headerLine (f : Fingerprint) : String := lineStart ++ f.digest

-- The fingerprint and the body of a generated file. The fingerprint is on the first line that begins like
-- one, wherever that is; the body follows the first empty line.
def readHeader? (file : String) : Option (Fingerprint × String) := do
  let line ← (Text.lines file.toList).find? (lineStart.toList.isPrefixOf ·)
  let body ← Text.afterFirst? ['\n','\n'] file.toList
  return (⟨String.ofList (Text.trim (line.drop lineStart.length))⟩,String.ofList body)

end Fingerprint

end DomainSchema

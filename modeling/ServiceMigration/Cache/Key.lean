import ServiceMigration.Digest.Sha256
import ServiceMigration.Service.ModuleSpec
/-!
# Cache keys

An answer is filed under the digest of the canonical text of its chunk.  Metadata that says where an
analysis was read from, and not what it contains, is left out, so that the same module has the same
keys in every checkout.  A chunk that cannot be written as text has no key.
-/

namespace ServiceMigration

def locationKeys : List String := ["root"]

namespace ModuleSpec

/-- The module without the metadata that describes a place. -/
def withoutLocation (m : ModuleSpec) : ModuleSpec :=
  { m with metadata := m.metadata.filter fun e => !locationKeys.contains e.1 }

def contentKey (m : ModuleSpec) : Option String :=
  m.withoutLocation.canonicalText.map Digest.sha256Hex

end ModuleSpec

end ServiceMigration

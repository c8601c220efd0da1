import Wiring.PackageIndex

/-!
The formats of package indexes.
-/

namespace Wiring

inductive Format where
  | json | yaml
deriving DecidableEq, Repr

namespace Format

variable [Readers]

def read? : Format → String → Option (Source × Document)
  | json => Readers.json?
  | yaml => Readers.yaml?

/-- The index in a text; none if the text is not in the format or holds something else. -/
def packageIndex? (format : Format) (text : String) : Option PackageIndex := do
  let (source, document) ← format.read? text
  source.packageIndex? document

end Format

end Wiring

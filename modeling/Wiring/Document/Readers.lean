import Wiring.Document.Json
import Wiring.Document.Toml.Reader
import Wiring.Document.Yaml.Node

/-!
The readers that the program runs with.
-/

namespace Wiring

instance : Readers where
  json? := Json.read?
  yaml? := Yaml.read?
  toml? := Toml.read?

end Wiring

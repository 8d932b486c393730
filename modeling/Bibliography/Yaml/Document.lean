import Bibliography.Yaml.Node.Composition
import Bibliography.Yaml.Value
/-!
# Documents

A text holds at most one document; one without any says null.
-/

namespace Bibliography.Yaml

/-- The value that a text writes. -/
def read (text : String) : Except Fault Value := do
  let n ← Node.ofTokens (← tokens text)
  (Value.ofNode 0 n.merged).mapError Misplaced.fault

/-- Loads a document. -/
def load (text : String) : Except LoadFault Json :=
  ((read text).mapError Fault.toLoadFault).map Value.toJson

end Bibliography.Yaml

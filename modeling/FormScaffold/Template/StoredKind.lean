import FormScaffold.Json.Value
import FormScaffold.Template.FieldKind

/-!
# Stored field kinds

In a JSON document a field kind is stored as a string, its identifier.  It is
read back from that string, and also from an object whose only key is the
identifier and whose value there is null.
-/

namespace FormScaffold.FieldKind

open Json

def toValue (k : FieldKind) : Value := .string k.id

def ofValue? : Value → Option FieldKind
  | .string s => Token.decode? s >>= ofId?
  | .object [(key, .null)] => Token.decode? key >>= ofId?
  | _ => none

/-- What is stored is read back. -/
theorem ofValue?_toValue (k : FieldKind) : ofValue? k.toValue = some k := by
  cases k <;> decide

end FormScaffold.FieldKind

/-!
# JSON values

A JSON text is a value. What a number amounts to is never asked here, so numbers
are kept as they were written. A string may be written with half of a surrogate
pair, and then it is no text: it has its place in the value, and whoever asks for
its text gets none.
-/

namespace TypeTest

/-- **A JSON value.** Members of an object are kept in order, with repeated keys. -/
inductive JsonValue where
  | null
  | boolean (b : Bool)
  | number (literal : List Char)
  | string (text : Option String)
  | array (elements : List JsonValue)
  | object (members : List (Option String × JsonValue))
  deriving Repr

namespace JsonValue

/-- The text of a string. -/
def text? : JsonValue → Option String
  | .string text => text
  | _ => none

/-- The texts of a list of strings. -/
def texts? : JsonValue → Option (List String)
  | .array elements => elements.mapM text?
  | _ => none

/-- **The values of a record with the given fields**, each under its name. A record is
written as an object, in which other members may stand but no field may stand twice,
or as an array of the values in the order of the fields, from which the last may be
missing. -/
def record? (fields : List String) : JsonValue → Option (List (String × JsonValue))
  | .object members => do
    let named ← members.mapM fun m => m.1.map fun key => (key, m.2)
    let known := named.filter fun m => fields.contains m.1
    if (known.map (·.1)).Nodup then some known else none
  | .array elements =>
    if elements.length ≤ fields.length then some (fields.zip elements) else none
  | _ => none

end JsonValue

end TypeTest

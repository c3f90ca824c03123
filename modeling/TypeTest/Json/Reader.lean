import TypeTest.Json.Number
import TypeTest.Json.StringText
import TypeTest.Json.Value

/-!
# Reading JSON texts

The format is taken strictly: one value, with blanks around it and around every
sign, and nothing else.
-/

namespace TypeTest

/-- A blank between the parts of a JSON text. -/
def isJsonBlank (c : Char) : Bool := c == ' ' || c == '\t' || c == '\n' || c == '\r'

/-- A text after the blanks at its start. -/
def afterBlanks (text : List Char) : List Char := text.dropWhile isJsonBlank

theorem length_afterBlanks_le (text : List Char) : (afterBlanks text).length ≤ text.length := by
  have := congrArg List.length (@List.takeWhile_append_dropWhile _ isJsonBlank text)
  rw [List.length_append] at this
  rw [afterBlanks]
  omega

theorem length_lt_of_afterBlanks {text rest : List Char} {c : Char}
    (h : afterBlanks text = c :: rest) : rest.length < text.length := by
  have := length_afterBlanks_le text
  rw [h, List.length_cons] at this
  omega

namespace JsonValue

/-- A word that is a value. -/
def readWord? (word : String) (v : JsonValue) (text : List Char) :
    Option (Taken JsonValue text) :=
  if h : word.toList.isPrefixOf text ∧ 0 < word.toList.length then
    some ⟨v, text.drop word.toList.length, by
      have := (List.isPrefixOf_iff_prefix.1 h.1).length_le
      rw [List.length_drop]
      omega⟩
  else none

/-- A value that is no array and no object. -/
def readAtom? (text : List Char) : Option (Taken JsonValue text) :=
  match text with
  | '"' :: r => (readJsonString? r).map fun t => (t.map .string).widen (length_le_succ r)
  | 'n' :: r => readWord? "null" .null ('n' :: r)
  | 't' :: r => readWord? "true" (.boolean true) ('t' :: r)
  | 'f' :: r => readWord? "false" (.boolean false) ('f' :: r)
  | text => (readJsonNumber? text).map (·.map .number)

/-- The text after a sign that has to come next. -/
def expect? (sign : Char) (text : List Char) : Option (Taken Unit text) :=
  match h : afterBlanks text with
  | [] => none
  | c :: r =>
    if c = sign then
      some ⟨(), r, length_lt_of_afterBlanks h⟩
    else none

/-- The key of a member, with the colon after it. -/
def readKey? (text : List Char) : Option (Taken (Option String) text) := do
  let quote ← expect? '"' text
  let key ← readJsonString? quote.rest
  let colon ← expect? ':' key.rest
  some ⟨key.value, colon.rest, by
    have := quote.rest_lt
    have := key.rest_lt
    have := colon.rest_lt
    omega⟩

mutual

/-- **A value**, after blanks. -/
def read? (text : List Char) : Option (Taken JsonValue text) :=
  have blanks := length_afterBlanks_le text
  match h : afterBlanks text with
  | '[' :: r =>
    have : r.length < text.length := by rw [h, List.length_cons] at blanks; omega
    match expect? ']' r with
    | some bracket => some ⟨.array [], bracket.rest, by have := bracket.rest_lt; omega⟩
    | none => (readElements? r).map fun t => (t.map .array).widen (by omega)
  | '\x7b' :: r =>
    have : r.length < text.length := by rw [h, List.length_cons] at blanks; omega
    match expect? '\x7d' r with
    | some brace => some ⟨.object [], brace.rest, by have := brace.rest_lt; omega⟩
    | none => (readMembers? r).map fun t => (t.map .object).widen (by omega)
  | other => (readAtom? other).map (·.widen (by rw [← h]; exact blanks))
  termination_by 2 * text.length
  decreasing_by all_goals omega

/-- The elements of an array, one at least, with the closing bracket. -/
def readElements? (text : List Char) : Option (Taken (List JsonValue) text) :=
  match read? text with
  | none => none
  | some first =>
    have := first.rest_lt
    match expect? ',' first.rest with
    | some comma =>
      have := comma.rest_lt
      (readElements? comma.rest).map fun t => (t.map (first.value :: ·)).widen (by omega)
    | none =>
      (expect? ']' first.rest).map fun t => (t.map fun _ => [first.value]).widen (by omega)
  termination_by 2 * text.length + 1
  decreasing_by all_goals omega

/-- The members of an object, one at least, with the closing brace. -/
def readMembers? (text : List Char) : Option (Taken (List (Option String × JsonValue)) text) :=
  match readKey? text with
  | none => none
  | some key =>
    have := key.rest_lt
    match read? key.rest with
    | none => none
    | some first =>
      have := first.rest_lt
      match expect? ',' first.rest with
      | some comma =>
        have := comma.rest_lt
        (readMembers? comma.rest).map fun t =>
          (t.map ((key.value, first.value) :: ·)).widen (by omega)
      | none =>
        (expect? '\x7d' first.rest).map fun t =>
          (t.map fun _ => [(key.value, first.value)]).widen (by omega)
  termination_by 2 * text.length + 1
  decreasing_by all_goals omega

end

/-- **The value that a text writes**, if it writes one. -/
def ofText? (text : List Char) : Option JsonValue :=
  (read? text).bind fun v => if afterBlanks v.rest = [] then some v.value else none

end JsonValue

end TypeTest

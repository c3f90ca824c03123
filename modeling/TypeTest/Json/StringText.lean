import TypeTest.Text.HexNumber
import TypeTest.Text.Taken

/-!
# Strings in JSON texts

Between the quotes of a string stand characters and escapes. An escape by number
names a unit of sixteen bits, and two such units in a row may be the halves of one
character.
-/

namespace TypeTest

/-- The first half of a surrogate pair. -/
def isHighHalf (n : Nat) : Bool := 0xD800 ≤ n && n < 0xDC00

/-- The second half of a surrogate pair. -/
def isLowHalf (n : Nat) : Bool := 0xDC00 ≤ n && n < 0xE000

/-- **The text of a string** whose characters and units are given by number, or none
if a half stands alone. -/
def joinHalves? : List Nat → Option (List Char)
  | [] => some []
  | n :: r =>
    if isLowHalf n then none
    else if isHighHalf n then
      match r with
      | m :: r =>
        if isLowHalf m then
          (joinHalves? r).map (Char.ofNat (0x10000 + 0x400 * (n - 0xD800) + (m - 0xDC00)) :: ·)
        else none
      | [] => none
    else (joinHalves? r).map (Char.ofNat n :: ·)

/-- The character after the backslash of a short escape, and what it stands for. -/
def shortEscape? : Char → Option Char
  | '"' => some '"'
  | '\\' => some '\\'
  | '/' => some '/'
  | 'b' => some '\x08'
  | 'f' => some '\x0C'
  | 'n' => some '\n'
  | 'r' => some '\r'
  | 't' => some '\t'
  | _ => none

/-- The number of a unit, after the letter of its escape: four digits. -/
def readUnit? (text : List Char) : Option (Taken Nat text) :=
  if h : 4 ≤ text.length then
    (hexNumber? (text.take 4)).map fun n =>
      ⟨n, text.drop 4, by rw [List.length_drop]; omega⟩
  else none

/-- **The numbers of the characters and units of a string**, after its opening quote. A
control character cannot stand in a string. -/
def readUnits? : (text : List Char) → Option (Taken (List Nat) text)
  | [] => none
  | '"' :: r => some ⟨[], r, length_lt_succ r⟩
  | '\\' :: 'u' :: r =>
    match readUnit? r with
    | none => none
    | some unit =>
      have := unit.rest_lt
      (readUnits? unit.rest).map fun t => (t.map (unit.value :: ·)).widen unit.rest_le_add_two
  | '\\' :: c :: r =>
    match shortEscape? c with
    | none => none
    | some d =>
      (readUnits? r).map fun t => (t.map (d.toNat :: ·)).widen (length_le_add_two r)
  | c :: r =>
    if c.toNat < 0x20 ∨ c = '\\' then none
    else (readUnits? r).map fun t => (t.map (c.toNat :: ·)).widen (length_le_succ r)
  termination_by text => text.length
  decreasing_by all_goals (simp_all only [List.length_cons]; omega)

/-- **A string after its opening quote**, with its text if it has one. -/
def readJsonString? (text : List Char) : Option (Taken (Option String) text) :=
  (readUnits? text).map (·.map fun units => (joinHalves? units).map String.ofList)

end TypeTest

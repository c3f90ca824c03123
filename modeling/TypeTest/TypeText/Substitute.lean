import TypeTest.Text.NameChar
import TypeTest.TypeText.Quoted

/-!
# Substitution in a type text

`substitute` replaces the type parameters of a function by the types that a call
gives for them: whole names outside of quoted regions, all at once. A word of the
text is a run of name characters outside of quotes; between two characters that
are not part of one lies the empty word, which is looked up like any other.
-/

namespace TypeTest.TypeText

/-- Names with what they stand for. The first binding of a name counts. -/
abbrev Bindings := List (String × String)

/-- What a word stands for: its first binding, else itself. -/
def Bindings.resolve (bindings : Bindings) (word : List Char) : List Char :=
  match bindings.lookup (String.ofList word) with
  | some value => value.toList
  | none => word

/-- `substitute` on the rest of a text, the word before it being given with its
last character first. -/
def substituteFrom (bindings : Bindings) (word : List Char) : List (Char × Bool) → List Char
  | [] => bindings.resolve word.reverse
  | (c, quoted) :: cs =>
    if !quoted && isNamePart c then substituteFrom bindings (c :: word) cs
    else bindings.resolve word.reverse ++ c :: substituteFrom bindings [] cs

/-- **Replaces the bound names** of a type text. -/
def substitute (type : String) (bindings : Bindings) : String :=
  String.ofList (substituteFrom bindings [] (markQuoted type.toList))

@[simp] theorem Bindings.resolve_nil (word : List Char) : Bindings.resolve [] word = word := rfl

theorem substituteFrom_nil (word : List Char) (ms : List (Char × Bool)) :
    substituteFrom [] word ms = word.reverse ++ ms.map Prod.fst := by
  induction ms generalizing word with
  | nil => simp [substituteFrom]
  | cons m ms ih =>
    obtain ⟨c, quoted⟩ := m
    by_cases h : (!quoted && isNamePart c) = true <;> simp [substituteFrom, h, ih]

/-- Without bindings a type is left as it is. -/
@[simp] theorem substitute_nil (type : String) : substitute type [] = type := by
  simp [substitute, substituteFrom_nil]

end TypeTest.TypeText

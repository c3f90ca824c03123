import TypeTest.Text.CharRange

/-!
# Blanks

The characters with the Unicode property White_Space, and the removal of blanks
from the ends of a text.
-/

namespace TypeTest

/-- White space above the first 128 characters. -/
def blankRanges : CharRanges :=
  [(0x85, 0x85), (0xA0, 0xA0), (0x1680, 0x1680), (0x2000, 0x200A), (0x2028, 0x2029),
   (0x202F, 0x202F), (0x205F, 0x205F), (0x3000, 0x3000)]

/-- **A blank**: white space of any script, line breaks included. -/
def isBlank (c : Char) : Bool :=
  c == ' ' || ('\x09' ≤ c && c ≤ '\x0D') || blankRanges.has c

/-- A text without the blanks at its start. -/
def trimStart (cs : List Char) : List Char := cs.dropWhile isBlank

/-- A text without the blanks at its end. -/
def trimEnd (cs : List Char) : List Char := (cs.reverse.dropWhile isBlank).reverse

/-- **A text without the blanks at its ends.** -/
def trim (cs : List Char) : List Char := trimEnd (trimStart cs)

theorem trimStart_cons (c : Char) (cs : List Char) :
    trimStart (c :: cs) = if isBlank c then trimStart cs else c :: cs := by
  simp only [trimStart, List.dropWhile_cons]

theorem trimStart_append {blanks cs : List Char} (h : ∀ c ∈ blanks, isBlank c = true) :
    trimStart (blanks ++ cs) = trimStart cs :=
  List.dropWhile_append_of_pos h

theorem dropWhile_append_cons {α : Type} {p : α → Bool} {as bs : List α} {a : α}
    (h : p a = false) : (as ++ a :: bs).dropWhile p = as.dropWhile p ++ a :: bs := by
  induction as with
  | nil => exact List.dropWhile_cons_of_neg (Bool.eq_false_iff.mp h)
  | cons b as ih =>
    rw [List.cons_append, List.dropWhile_cons, List.dropWhile_cons, ih]
    split <;> rfl

/-- Nothing is cut off before a character that is no blank. -/
theorem trimEnd_append_cons {as bs : List Char} {c : Char} (h : isBlank c = false) :
    trimEnd (as ++ c :: bs) = as ++ c :: trimEnd bs := by
  unfold trimEnd
  rw [List.reverse_append, List.reverse_cons, List.append_assoc, List.singleton_append,
    dropWhile_append_cons h, List.reverse_append, List.reverse_cons, List.reverse_reverse,
    List.append_assoc, List.singleton_append]

/-- Only blanks are cut off. -/
theorem exists_trimEnd_append (cs : List Char) :
    ∃ blanks, (∀ c ∈ blanks, isBlank c = true) ∧ trimEnd cs ++ blanks = cs := by
  refine ⟨(cs.reverse.takeWhile isBlank).reverse, fun c hc => ?_, ?_⟩
  · exact List.all_eq_true.mp List.all_takeWhile c (List.mem_reverse.mp hc)
  · rw [trimEnd, ← List.reverse_append, List.takeWhile_append_dropWhile, List.reverse_reverse]

theorem length_trimEnd_le (cs : List Char) : (trimEnd cs).length ≤ cs.length := by
  obtain ⟨blanks, _, h⟩ := exists_trimEnd_append cs
  have hlength := congrArg List.length h
  rw [List.length_append] at hlength
  omega

/-- A text does not end with a blank when it is without those at its ends. -/
theorem isBlank_getLast?_trim (cs : List Char) : ∀ c ∈ (trim cs).getLast?, isBlank c = false := by
  intro c hc
  rw [trim, trimEnd, List.getLast?_reverse] at hc
  have hnot := List.head?_dropWhile_not isBlank (trimStart cs).reverse
  rw [Option.mem_def.mp hc] at hnot
  exact hnot

/-- A trimmed text begins with the first character that is no blank. -/
theorem head?_trim (cs : List Char) : (trim cs).head? = (trimStart cs).head? := by
  have hnot := List.head?_dropWhile_not isBlank cs
  unfold trim trimStart
  cases hcs : cs.dropWhile isBlank with
  | nil => rfl
  | cons c rest =>
    rw [hcs] at hnot
    have hcons : trimEnd (c :: rest) = c :: trimEnd rest := @trimEnd_append_cons [] rest c hnot
    rw [hcons]
    rfl

theorem trimStart_eq_self {cs : List Char} (h : ∀ c ∈ cs.head?, isBlank c = false) :
    trimStart cs = cs := by
  cases cs with
  | nil => rfl
  | cons c cs => exact List.dropWhile_cons_of_neg (Bool.eq_false_iff.mp (h c rfl))

/-- A text without blanks at its ends is left as it is. -/
theorem trim_eq_self {cs : List Char} (hfirst : ∀ c ∈ cs.head?, isBlank c = false)
    (hlast : ∀ c ∈ cs.getLast?, isBlank c = false) : trim cs = cs := by
  have hend : trimStart cs.reverse = cs.reverse := by
    refine trimStart_eq_self ?_
    rw [List.head?_reverse]
    exact hlast
  rw [trim, trimStart_eq_self hfirst, trimEnd, ← trimStart, hend, List.reverse_reverse]

theorem length_trim_le (cs : List Char) : (trim cs).length ≤ cs.length :=
  Nat.le_trans (length_trimEnd_le _) (List.dropWhile_suffix isBlank).length_le

end TypeTest

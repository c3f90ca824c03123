import Mathlib.Data.Prod.Lex
import Mathlib.Order.Monotone.Defs
import TypeTest.Proofs.LinePositions
import TypeTest.Proofs.Parsing.Spelling

/-!
# Positions stand in the order of offsets

A position is shown in place of an offset, so it has to tell places apart. On the boundaries of
a text it does: text in between either breaks a line, and then the line is a later one, or it
stands on the same line, and then the column is greater. So positions, by line and then by
column, are in the order of offsets. Two offsets have the same position only if they are read
as the same boundary, one that is inside of a character as the start of the character and one
past the end as the end.
-/

namespace TypeTest

/-- A position as a pair that is compared by its line first. -/
def LineColumn.lex (p : LineColumn) : ℕ ×ₗ ℕ := toLex (p.line, p.column)

/-- **More text leads to a later position.** -/
theorem LineColumn.lex_after_lt (before : List Char) {more : List Char} (h : more ≠ []) :
    (after before).lex < (after (before ++ more)).lex := by
  rw [lex, lex, Prod.Lex.toLex_lt_toLex]
  by_cases hbreak : '\n' ∈ more
  · have hpos : 0 < more.count '\n' := List.count_pos_iff.mpr hbreak
    left
    show before.count '\n' < (before ++ more).count '\n'
    rw [List.count_append]
    omega
  · obtain ⟨earlier, lead, rfl, hearlier, hlead⟩ := exists_endsLine_append before
    have hunbroken : '\n' ∉ lead ++ more := fun hmem =>
      (List.mem_append.mp hmem).elim hlead hbreak
    rw [List.append_assoc, after_append hearlier hlead, after_append hearlier hunbroken,
      List.length_append]
    exact .inr ⟨rfl, Nat.lt_add_of_pos_right (List.length_pos_iff.mpr h)⟩

/-- **The positions of boundaries are in their order.** -/
theorem LineColumn.strictMonoOn_lex_ofOffset (text : List Char) :
    StrictMonoOn (fun offset => (ofOffset text offset).lex) {offset | IsBoundary text offset} := by
  rintro _ ⟨before, rest, rfl, rfl⟩ _ ⟨upTo, after, he, rfl⟩ hlt
  -- the text between the two boundaries
  obtain ⟨between, rfl, rfl⟩ | ⟨back, rfl, rfl⟩ := List.append_eq_append_iff.mp he
  · have hne : between ≠ [] := by
      rintro rfl
      rw [List.append_nil] at hlt
      exact absurd hlt (Nat.lt_irrefl _)
    show (ofOffset _ _).lex < (ofOffset _ _).lex
    rw [ofOffset_byteLength, ← List.append_assoc, ofOffset_byteLength]
    exact lex_after_lt before hne
  · rw [byteLength_append] at hlt
    omega

/-- An offset inside of a character is read as the start of the character. -/
theorem takeBytes_inside (before after : List Char) {c : Char} {count : Nat}
    (h : count < c.utf8Size) :
    takeBytes (byteLength before + count) (before ++ c :: after) = before := by
  rw [takeBytes_append_of_le (Nat.le_add_right _ _), Nat.add_sub_cancel_left, takeBytes,
    if_neg (Nat.not_le.mpr h), List.append_nil]

/-- An offset past the end is read as the end. -/
theorem takeBytes_beyond (text : List Char) (count : Nat) :
    takeBytes (byteLength text + count) text = text := by
  have h := takeBytes_append_of_le (Nat.le_add_right (byteLength text) count) []
  rwa [List.append_nil, takeBytes, List.append_nil] at h

/-- **The index of a text gives the positions of its offsets, and they tell boundaries apart.**
Searching among the starts of lines and counting line breaks give the same position for every
offset. By line and then by column, the positions of boundaries are in the order of the
offsets, and no two are equal. Any other offset has the position of a boundary: inside of a
character that of its start, and past the end that of the end. -/
theorem LineIndex.lineColumn_tells_apart (text : List Char) :
    (∀ offset, (ofText text).lineColumn text offset = .ofOffset text offset)
      ∧ StrictMonoOn (fun offset => (LineColumn.ofOffset text offset).lex)
          {offset | IsBoundary text offset}
      ∧ Set.InjOn (LineColumn.ofOffset text) {offset | IsBoundary text offset}
      ∧ (∀ before c after, text = before ++ c :: after → ∀ count < c.utf8Size,
          LineColumn.ofOffset text (byteLength before + count)
            = LineColumn.ofOffset text (byteLength before))
      ∧ ∀ count, LineColumn.ofOffset text (byteLength text + count)
          = LineColumn.ofOffset text (byteLength text) := by
  have hmono := LineColumn.strictMonoOn_lex_ofOffset text
  refine ⟨lineColumn_ofText text, hmono, fun i hi j hj he => ?_, ?_, fun count => ?_⟩
  · exact hmono.injOn hi hj (congrArg LineColumn.lex he)
  · rintro before c after rfl count hcount
    rw [LineColumn.ofOffset_byteLength, LineColumn.ofOffset, takeBytes_inside before after hcount]
  · have hend := takeBytes_beyond text 0
    rw [Nat.add_zero] at hend
    rw [LineColumn.ofOffset, LineColumn.ofOffset, takeBytes_beyond, hend]

example : (LineIndex.ofText "aé\nb".toList).lineColumn "aé\nb".toList 2 = ⟨0, 1⟩ := by
  decide +kernel

end TypeTest

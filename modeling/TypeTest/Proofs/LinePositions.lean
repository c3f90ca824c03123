import Mathlib.Data.List.Basic
import TypeTest.Text.Lines
import TypeTest.Text.Position

/-!
# Lines and positions

A place in a text has a position, which is found from an index of line starts, and it stands
in one of the lines that the text is cut into. Both go by line breaks, but the index counts
bytes up to a break, and the cutting takes a carriage return before a break away and may leave
the last line out. Here they are brought together.

The index gives for every offset the position that counting gives (`LineIndex.lineColumn_ofText`):
lines start one after the other, so the search ends at the last line that begins no later than
the offset. And the line of that number is the one around the place (`exists_lineAt`): what
stands before the place on its line, as many characters as the column says, and what follows up
to the end of the line.
-/

namespace TypeTest

/-! ## The place where a line starts -/

/-- **A text after which a line starts**: an empty one, or one that ends with a line break. -/
def EndsLine (cs : List Char) : Prop := cs = [] ∨ ∃ before, cs = before ++ ['\n']

/-- Every text is a text after which a line starts and the beginning of that line. -/
theorem exists_endsLine_append (cs : List Char) :
    ∃ earlier lead, cs = earlier ++ lead ∧ EndsLine earlier ∧ '\n' ∉ lead := by
  induction cs with
  | nil => exact ⟨[], [], rfl, .inl rfl, List.not_mem_nil⟩
  | cons c cs ih =>
    obtain ⟨earlier, lead, rfl, hearlier, hlead⟩ := ih
    rcases hearlier with rfl | ⟨before, rfl⟩
    · by_cases hc : c = '\n'
      · exact ⟨[c], lead, rfl, .inr ⟨[], by rw [hc]; rfl⟩, hlead⟩
      · exact ⟨[], c :: lead, rfl, .inl rfl, List.not_mem_cons_of_ne_of_not_mem (Ne.symm hc) hlead⟩
    · exact ⟨c :: (before ++ ['\n']), lead, rfl, .inr ⟨c :: before, rfl⟩, hlead⟩

/-- The position of a boundary is the one after the text before it. -/
theorem LineColumn.ofOffset_byteLength (before rest : List Char) :
    ofOffset (before ++ rest) (byteLength before) = after before := by
  rw [ofOffset, takeBytes_byteLength_append]

/-- The position after a text counts its line breaks, and the characters after the last. -/
theorem LineColumn.after_append {earlier lead : List Char} (he : EndsLine earlier)
    (hl : '\n' ∉ lead) :
    LineColumn.after (earlier ++ lead) = ⟨earlier.count '\n', lead.length⟩ := by
  have hcount : lead.count '\n' = 0 := List.count_eq_zero.mpr hl
  have hall : ∀ c ∈ lead.reverse, (c != '\n') = true := fun c hc =>
    bne_iff_ne.mpr fun h => hl (h ▸ List.mem_reverse.mp hc)
  have hstop : earlier.reverse.takeWhile (· != '\n') = [] := by
    rcases he with rfl | ⟨before, rfl⟩
    · rfl
    · rw [List.reverse_append]
      rfl
  unfold after
  rw [List.count_append, hcount, List.reverse_append, List.takeWhile_append_of_pos hall, hstop,
    List.append_nil, List.length_reverse, Nat.add_zero]

/-! ## The index -/

theorem lineStartsFrom_append (offset : Nat) (as bs : List Char) :
    lineStartsFrom offset (as ++ bs)
      = lineStartsFrom offset as ++ lineStartsFrom (offset + byteLength as) bs := by
  induction as generalizing offset with
  | nil => rfl
  | cons c as ih =>
    rw [List.cons_append, lineStartsFrom, lineStartsFrom, ih, byteLength_cons, ← Nat.add_assoc]
    split <;> rfl

/-- Every line break starts a line. -/
theorem length_lineStartsFrom (offset : Nat) (cs : List Char) :
    (lineStartsFrom offset cs).length = cs.count '\n' := by
  induction cs generalizing offset with
  | nil => rfl
  | cons c cs ih =>
    rw [lineStartsFrom, List.count_cons]
    split
    · rw [List.length_cons, ih]
    · rw [ih, Nat.add_zero]

/-- Lines start after a character and no later than the text ends. -/
theorem mem_lineStartsFrom {offset start : Nat} {cs : List Char}
    (h : start ∈ lineStartsFrom offset cs) : offset < start ∧ start ≤ offset + byteLength cs := by
  induction cs generalizing offset with
  | nil => exact absurd h List.not_mem_nil
  | cons c cs ih =>
    have hpos := c.utf8Size_pos
    rw [lineStartsFrom] at h
    rw [byteLength_cons]
    split at h
    · rcases List.mem_cons.mp h with rfl | h
      · omega
      · have := ih h
        omega
    · have := ih h
      omega

/-- Lines start one after the other. -/
theorem pairwise_lineStartsFrom (offset : Nat) (cs : List Char) :
    (lineStartsFrom offset cs).Pairwise (· < ·) := by
  induction cs generalizing offset with
  | nil => exact List.Pairwise.nil
  | cons c cs ih =>
    rw [lineStartsFrom]
    split
    · exact List.pairwise_cons.mpr ⟨fun start h => (mem_lineStartsFrom h).1, ih _⟩
    · exact ih _

/-- A cut goes through a beginning that fits. -/
theorem takeBytes_append_of_le {n : Nat} {as : List Char} (h : byteLength as ≤ n)
    (bs : List Char) : takeBytes n (as ++ bs) = as ++ takeBytes (n - byteLength as) bs := by
  induction as generalizing n with
  | nil => rfl
  | cons c as ih =>
    rw [byteLength_cons] at h
    rw [List.cons_append, takeBytes, if_pos (by omega), ih (by omega), byteLength_cons,
      Nat.sub_sub, List.cons_append]

section BinarySearch

variable {xs : Array Nat} {x low high : Nat} {bound : high ≤ xs.size}

/-- **What is found is there.** -/
theorem binarySearch_eq_ok {i : Nat} (h : binarySearch xs x low high bound = .ok i) :
    ∃ hi : i < xs.size, xs[i] = x := by
  fun_induction binarySearch xs x low high bound with
  | case1 low high bound hlt middle hmiddle heq =>
    obtain rfl := Except.ok.inj h
    exact ⟨hmiddle, heq⟩
  | case2 low high bound hlt middle hmiddle hne hless ih => exact ih h
  | case3 low high bound hlt middle hmiddle hne hless ih => exact ih h
  | case4 => cases h

/-- **What is not found would stand** between the numbers that are less and those that are
greater, if that holds of the two ends of the search. -/
theorem binarySearch_eq_error {next : Nat} (hs : xs.toList.Pairwise (· < ·))
    (h : binarySearch xs x low high bound = .error next) (hle : low ≤ high)
    (hlow : ∀ (i : Nat) (hi : i < xs.size), i < low → xs[i] < x)
    (hhigh : ∀ (i : Nat) (hi : i < xs.size), high ≤ i → x < xs[i]) :
    next ≤ xs.size
      ∧ ∀ (i : Nat) (hi : i < xs.size), (i < next → xs[i] < x) ∧ (next ≤ i → x < xs[i]) := by
  have hmono : ∀ {i j : Nat} (hi : i < xs.size) (hj : j < xs.size), i ≤ j → xs[i] ≤ xs[j] := by
    intro i j hi hj hij
    rcases Nat.lt_or_eq_of_le hij with hij | rfl
    · exact Nat.le_of_lt (List.pairwise_iff_getElem.mp hs i j hi hj hij)
    · exact Nat.le_refl _
  fun_induction binarySearch xs x low high bound with
  | case1 => cases h
  | case2 low high bound hlt middle hmiddle hne hless ih =>
    refine ih h (by omega) (fun i hi him => ?_) hhigh
    exact Nat.lt_of_le_of_lt (hmono hi hmiddle (Nat.le_of_lt_succ him)) hless
  | case3 low high bound hlt middle hmiddle hne hless ih =>
    refine ih h (by omega) hlow fun i hi him => ?_
    exact Nat.lt_of_lt_of_le (by omega) (hmono hmiddle hi him)
  | case4 low high bound hlt =>
    cases h
    exact ⟨by omega, fun i hi => ⟨hlow i hi, fun him => hhigh i hi (by omega)⟩⟩

end BinarySearch

/-- **An offset is in the last line that starts no later.** -/
theorem LineIndex.lineAt_eq {offset : Nat} {passed later : List Nat}
    (hs : (passed ++ later).Pairwise (· < ·)) (hne : passed ≠ [])
    (hpassed : ∀ start ∈ passed, start ≤ offset) (hlater : ∀ start ∈ later, offset < start) :
    lineAt ⟨(passed ++ later).toArray⟩ offset = passed.length - 1 := by
  have hpos := List.length_pos_iff.mpr hne
  have hat : ∀ (i : Nat) (hi : i < (passed ++ later).length),
      (passed ++ later)[i] ≤ offset ↔ i < passed.length := by
    intro i hi
    rw [List.getElem_append]
    split
    · exact iff_of_true (hpassed _ (List.getElem_mem _)) ‹_›
    · exact iff_of_false (Nat.not_le.mpr (hlater _ (List.getElem_mem _))) ‹_›
  unfold lineAt
  split
  · rename_i line hline
    obtain ⟨hi, hfound⟩ := binarySearch_eq_ok hline
    rw [List.getElem_toArray] at hfound
    rw [List.size_toArray] at hi
    have hlt := (hat line hi).mp (Nat.le_of_eq hfound)
    have hlast : passed.length - 1 ≤ line := by
      by_contra hless
      have hi' : passed.length - 1 < (passed ++ later).length := by
        rw [List.length_append]
        omega
      have hup := List.pairwise_iff_getElem.mp hs line _ hi hi' (Nat.lt_of_not_le hless)
      have hle := (hat _ hi').mpr (Nat.sub_lt hpos Nat.one_pos)
      omega
    omega
  · rename_i next hnext
    obtain ⟨hle, hsplit⟩ := binarySearch_eq_error hs hnext (Nat.zero_le _)
      (fun i _ hi => absurd hi (Nat.not_lt_zero i)) fun i hi hge => absurd hi (Nat.not_lt.mpr hge)
    simp only [List.size_toArray, List.getElem_toArray] at hle hsplit
    have hup : ¬ next < passed.length := fun hlt => by
      have hi : next < (passed ++ later).length := by
        rw [List.length_append]
        omega
      exact Nat.not_le.mpr ((hsplit next hi).2 (Nat.le_refl _)) ((hat next hi).mpr hlt)
    have hdown : ¬ passed.length < next := fun hlt => by
      have hi := Nat.lt_of_lt_of_le hlt hle
      exact Nat.lt_irrefl _ ((hat _ hi).mp (Nat.le_of_lt ((hsplit _ hi).1 hlt)))
    omega

/-- The last line before a place starts where the text of the lines before it ends. -/
theorem getElem?_lineStartsFrom {earlier : List Char} (he : EndsLine earlier) :
    (0 :: lineStartsFrom 0 earlier)[earlier.count '\n']? = some (byteLength earlier) := by
  rcases he with rfl | ⟨before, rfl⟩
  · rfl
  · have hcount : (before ++ ['\n']).count '\n' = (0 :: lineStartsFrom 0 before).length := by
      rw [List.count_append, List.length_cons, length_lineStartsFrom]
      rfl
    rw [lineStartsFrom_append, ← List.cons_append, byteLength_append, hcount, Nat.zero_add]
    exact List.getElem?_concat_length

/-- **The index gives the position of an offset**, whether it is inside of a character or past
the end of the text. -/
theorem LineIndex.lineColumn_ofText (text : List Char) (offset : Nat) :
    (LineIndex.ofText text).lineColumn text offset = .ofOffset text offset := by
  obtain ⟨earlier, lead, hbefore, hearlier, hlead⟩ := exists_endsLine_append (takeBytes offset text)
  obtain ⟨rest, rfl⟩ : ∃ rest, text = earlier ++ (lead ++ rest) :=
    ⟨dropBytes offset text, by
      rw [← List.append_assoc, ← hbefore, takeBytes_append_dropBytes]⟩
  -- the lines that start before the offset, and those that start after it
  have hstarts : 0 :: lineStartsFrom 0 (earlier ++ (lead ++ rest))
      = (0 :: lineStartsFrom 0 earlier)
        ++ lineStartsFrom (byteLength earlier + byteLength lead) rest := by
    have hnone : lineStartsFrom (byteLength earlier) lead = [] :=
      List.length_eq_zero_iff.mp ((length_lineStartsFrom _ _).trans (List.count_eq_zero.mpr hlead))
    rw [lineStartsFrom_append, lineStartsFrom_append, Nat.zero_add, hnone, List.nil_append,
      List.cons_append]
  have hline : (ofText (earlier ++ (lead ++ rest))).lineAt (byteLength earlier + byteLength lead)
      = earlier.count '\n' := by
    rw [ofText, hstarts]
    have hs : (0 :: lineStartsFrom 0 (earlier ++ (lead ++ rest))).Pairwise (· < ·) :=
      List.pairwise_cons.mpr
        ⟨fun start h => (mem_lineStartsFrom h).1, pairwise_lineStartsFrom 0 _⟩
    rw [hstarts] at hs
    rw [lineAt_eq hs (List.cons_ne_nil _ _) ?_ fun start h => (mem_lineStartsFrom h).1,
      List.length_cons, length_lineStartsFrom]
    · rfl
    · intro start hstart
      rcases List.mem_cons.mp hstart with rfl | hstart
      · exact Nat.zero_le _
      · have := (mem_lineStartsFrom hstart).2
        omega
  have hstart : (ofText (earlier ++ (lead ++ rest))).starts.getD (earlier.count '\n') 0
      = byteLength earlier := by
    have hat := getElem?_lineStartsFrom hearlier
    obtain ⟨hlt, -⟩ := List.getElem?_eq_some_iff.mp hat
    rw [ofText, hstarts, Array.getD_eq_getD_getElem?, List.getElem?_toArray,
      List.getElem?_append_left hlt, hat, Option.getD_some]
  unfold lineColumn LineColumn.ofOffset
  dsimp only
  rw [hbefore, byteLength_append, hline, hstart, Nat.add_sub_cancel_left,
    dropBytes_byteLength_append, takeBytes_byteLength_append, LineColumn.after_append hearlier hlead]

/-! ## The line around a place -/

theorem splitBreaks_of_not_mem {cs : List Char} (h : '\n' ∉ cs) : splitBreaks cs = [cs] := by
  induction cs with
  | nil => rfl
  | cons c cs ih =>
    have hc : ¬ (c == '\n') = true := fun he => h (eq_of_beq he ▸ List.mem_cons_self)
    rw [splitBreaks, if_neg hc, ih fun hmem => h (List.mem_cons_of_mem _ hmem)]

theorem splitBreaks_append_break (as bs : List Char) :
    splitBreaks (as ++ '\n' :: bs) = splitBreaks as ++ splitBreaks bs := by
  induction as with
  | nil => rfl
  | cons c as ih =>
    rw [List.cons_append, splitBreaks, splitBreaks, ih]
    split
    · rfl
    · cases hs : splitBreaks as with
      | nil => exact absurd hs (splitBreaks_ne_nil as)
      | cons part parts => rfl

theorem length_splitBreaks (cs : List Char) : (splitBreaks cs).length = cs.count '\n' + 1 := by
  induction cs with
  | nil => rfl
  | cons c cs ih =>
    rw [splitBreaks, List.count_cons]
    split
    · rw [List.length_cons, ih]
    · cases hs : splitBreaks cs with
      | nil => exact absurd hs (splitBreaks_ne_nil cs)
      | cons part parts =>
        rw [← ih, hs]
        rfl

/-- Parts that others follow are lines. -/
theorem linesOfParts_append {parts more : List (List Char)} (h : more ≠ []) :
    linesOfParts (parts ++ more) = parts.map dropReturn ++ linesOfParts more := by
  induction parts with
  | nil => rfl
  | cons part parts ih =>
    have hne : parts ++ more ≠ [] := List.append_ne_nil_of_right_ne_nil _ h
    obtain ⟨next, rest, hrest⟩ := List.exists_cons_of_ne_nil hne
    rw [hrest] at ih
    rw [List.cons_append, hrest, List.map_cons, List.cons_append, ← ih]
    rfl

/-- **A line break ends the lines before it.** -/
theorem lines_append_break (as bs : List Char) :
    lines (as ++ '\n' :: bs) = (splitBreaks as).map dropReturn ++ lines bs := by
  rw [lines, splitBreaks_append_break, linesOfParts_append (splitBreaks_ne_nil bs)]
  rfl

/-- What comes after a line starts no new one before its own line break: the lines of a text
after which a line starts are left as they are. -/
theorem exists_lines_append {earlier : List Char} (h : EndsLine earlier) (rest : List Char) :
    ∃ pre, lines (earlier ++ rest) = pre ++ lines rest ∧ pre.length = earlier.count '\n' := by
  rcases h with rfl | ⟨before, rfl⟩
  · exact ⟨[], rfl, rfl⟩
  · refine ⟨(splitBreaks before).map dropReturn, ?_, ?_⟩
    · rw [List.append_assoc]
      exact lines_append_break before rest
    · rw [List.length_map, length_splitBreaks, List.count_append]
      rfl

/-- **What follows a line**: its line break, with the carriage return before it, or the end of
the text. -/
inductive FollowsLine : List Char → Prop where
  | nothing : FollowsLine []
  | lineBreak (more : List Char) : FollowsLine ('\n' :: more)
  | returned (more : List Char) : FollowsLine ('\r' :: '\n' :: more)

/-- **The line around a place** of a text that goes on with `rest` after `before`: the one with
`pre` before it and `post` after it, made of `lead`, which stands before the place, and `here`. -/
structure LineAt (before rest : List Char) (pre : List (List Char)) (lead here : List Char)
    (post : List (List Char)) : Prop where
  lines : lines (before ++ rest) = pre ++ (lead ++ here) :: post
  /-- The position of the place is its number and what stands before it. -/
  position : LineColumn.after before = ⟨pre.length, lead.length⟩
  /-- The line starts after a line break, or at the start of the text, -/
  starts : ∃ earlier, before = earlier ++ lead ∧ EndsLine earlier
  /-- and goes on to the next line break, or to the end of the text. -/
  stops : ∃ following, rest = here ++ following ∧ FollowsLine following
  unbroken : '\n' ∉ lead ++ here

theorem isPrefix_dropReturn (line : List Char) : dropReturn line <+: line := by
  unfold dropReturn
  split
  · exact List.dropLast_prefix line
  · exact List.prefix_refl line

theorem dropReturn_append {as bs : List Char} (h : bs ≠ []) :
    dropReturn (as ++ bs) = as ++ dropReturn bs := by
  unfold dropReturn
  rw [List.getLast?_append_of_ne_nil as h]
  split
  · rw [List.dropLast_append_of_ne_nil h]
  · rfl

/-- A line without its carriage return, and what follows it up to its line break. -/
theorem exists_dropReturn_append (line more : List Char) :
    ∃ following, line ++ '\n' :: more = dropReturn line ++ following
      ∧ FollowsLine following := by
  unfold dropReturn
  split
  · rename_i h
    refine ⟨'\r' :: '\n' :: more, ?_, .returned more⟩
    obtain ⟨init, rfl⟩ := List.getLast?_eq_some_iff.mp h
    rw [List.dropLast_concat, List.append_assoc]
    rfl
  · exact ⟨'\n' :: more, rfl, .lineBreak more⟩

theorem head?_dropReturn {c : Char} (h : c ≠ '\r') (line : List Char) :
    (dropReturn (c :: line)).head? = some c := by
  cases line with
  | nil =>
    have hlast : [c].getLast? ≠ some '\r' := fun he => h (Option.some.inj he)
    rw [dropReturn, if_neg hlast]
    rfl
  | cons d line =>
    rw [← List.singleton_append, dropReturn_append (List.cons_ne_nil _ _)]
    rfl

/-- **Every character stands in a line**, if it does not belong to a line break. -/
theorem exists_lineAt (before : List Char) {c : Char} (rest : List Char) (hn : c ≠ '\n')
    (hr : c ≠ '\r') :
    ∃ pre lead here post, LineAt before (c :: rest) pre lead here post
      ∧ here.head? = some c := by
  obtain ⟨earlier, lead, rfl, hearlier, hlead⟩ := exists_endsLine_append before
  obtain ⟨pre, hpre, hlength⟩ := exists_lines_append hearlier (lead ++ c :: rest)
  have hposition := LineColumn.after_append hearlier hlead
  rw [← hlength] at hposition
  rw [← List.append_assoc] at hpre
  by_cases hbreak : '\n' ∈ rest
  · obtain ⟨line, more, rfl, hline⟩ := List.eq_append_cons_of_mem hbreak
    obtain ⟨following, hfollowing, hfollows⟩ := exists_dropReturn_append (c :: line) more
    have hunbroken : '\n' ∉ lead ++ c :: line := by
      rw [List.mem_append, List.mem_cons]
      exact fun h => h.elim hlead fun h => h.elim (fun h => hn h.symm) hline
    refine ⟨pre, lead, dropReturn (c :: line), lines more, ⟨?_, hposition, ⟨earlier, rfl, hearlier⟩,
      ⟨following, hfollowing, hfollows⟩, ?_⟩, head?_dropReturn hr line⟩
    · rw [hpre, ← List.cons_append, ← List.append_assoc lead, lines_append_break,
        splitBreaks_of_not_mem hunbroken, List.map_singleton,
        dropReturn_append (List.cons_ne_nil _ _)]
      rfl
    · exact fun h => hunbroken (((isPrefix_dropReturn _).sublist.append_left lead).mem h)
  · have hunbroken : '\n' ∉ lead ++ c :: rest := by
      rw [List.mem_append, List.mem_cons]
      exact fun h => h.elim hlead fun h => h.elim (fun h => hn h.symm) hbreak
    refine ⟨pre, lead, c :: rest, [], ⟨?_, hposition, ⟨earlier, rfl, hearlier⟩,
      ⟨[], (List.append_nil _).symm, .nothing⟩, hunbroken⟩, rfl⟩
    rw [hpre, lines, splitBreaks_of_not_mem hunbroken]
    cases lead <;> rfl

end TypeTest

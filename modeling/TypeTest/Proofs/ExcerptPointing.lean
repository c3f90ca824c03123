import TypeTest.Proofs.LinePositions
import TypeTest.Proofs.Parsing.TreeInText
import TypeTest.Proofs.ScriptTests
import TypeTest.Report.Render

/-!
# The excerpt of a failure points at the call

A failing call has a range of bytes. What a reader sees of it is a source line with a mark
before its number and a row of carets below it. Here the two are brought together: the marked
line is the one that the call starts in, and the carets stand below the characters of the call
that are on this line, the first one below its first character.

Rows of an excerpt are aligned (`IsNumberedRow`): whatever the numbers of the lines shown are,
they take the same width, so the bar behind them is in the same column, and the row of carets
leaves as much room. The excerpt shows the lines around a line as it cuts the list of all lines
(`excerptLines_around`). The rest is to find the line of the call in that list, which is
`exists_lineAt`, and to see that a call begins with a character that is no blank, so nothing of
what is left of it is cut from the row.
-/

namespace TypeTest

/-! ## Rows -/

/-- **A row of an excerpt**: a mark, the number of the line brought to a width, a bar, and the
text of the line without the blanks at its end. -/
structure IsNumberedRow (width : Nat) (mark : Char) (number : Nat) (line : List Char)
    (row : String) : Prop where
  fits : (toString number).length ≤ width
  eq : row.toList = mark :: ' ' :: (List.replicate (width - (toString number).length) ' '
    ++ (toString number).toList ++ ' ' :: '|' :: trimEnd (' ' :: line))

theorem toList_padLeft (width : Nat) (text : String) :
    (padLeft width text).toList = List.replicate (width - text.length) ' ' ++ text.toList := by
  rw [padLeft, String.toList_append, String.toList_ofList]

theorem isNumberedRow_numberedLine {width number : Nat} (h : (toString number).length ≤ width)
    (marked : Bool) (line : String) :
    IsNumberedRow width (if marked then '>' else ' ') number line.toList
      (numberedLine width marked number line) := by
  refine ⟨h, ?_⟩
  have hmark : (if marked then "> " else "  " : String).toList
      = [if marked then '>' else ' ', ' '] := by
    cases marked <;> rfl
  have hbar : isBlank '|' = false := by decide
  have hsep : " | ".toList = [' ', '|', ' '] := rfl
  rw [numberedLine, String.toList_ofList, String.toList_append, String.toList_append,
    String.toList_append, toList_padLeft, hmark, hsep]
  have := @trimEnd_append_cons ([if marked then '>' else ' ', ' '] ++
    (List.replicate (width - (toString number).length) ' ' ++ (toString number).toList) ++ [' '])
    (' ' :: line.toList) _ hbar
  simpa using this

namespace IsNumberedRow

variable {width number : Nat} {mark : Char} {line : List Char} {row : String}
  (h : IsNumberedRow width mark number line row)

include h

theorem head?_eq : row.toList.head? = some mark := by
  rw [h.eq]
  rfl

/-- What stands before the bar of a row. -/
theorem exists_append_bar :
    ∃ head, row.toList = head ++ '|' :: trimEnd (' ' :: line) ∧ head.length = width + 3
      ∧ ('|' = mark ∨ '|' ∉ head) := by
  have hfits := h.fits
  refine ⟨mark :: ' ' :: (List.replicate (width - (toString number).length) ' '
    ++ (toString number).toList ++ [' ']), ?_, ?_, ?_⟩
  · rw [h.eq]
    simp
  · simp only [List.length_cons, List.length_append, List.length_replicate, List.length_nil,
      String.length_toList]
    omega
  · refine or_iff_not_imp_left.mpr fun hmark hmem => ?_
    have hdigits : '|' ∉ Nat.toDigits 10 number := fun hmem =>
      absurd (Nat.isDigit_of_mem_toDigits (by decide) (by decide) hmem) (by decide)
    simp [hmark, hdigits] at hmem

/-- **The bar of a row is in the column after the number**, whatever the number is. -/
theorem idxOf_bar (hm : mark ≠ '|') : row.toList.idxOf '|' = width + 3 := by
  obtain ⟨head, hrow, hlength, hbar⟩ := h.exists_append_bar
  rw [hrow, List.idxOf_append_of_notMem (hbar.resolve_left hm.symm), List.idxOf_cons_self,
    hlength, Nat.add_zero]

/-- A row shows its line as far as a character that is no blank. -/
theorem getElem?_of_line {lead rest : List Char} {c : Char} (hline : line = lead ++ c :: rest)
    (hc : isBlank c = false) : row.toList[width + 5 + lead.length]? = some c := by
  obtain ⟨head, hrow, hlength, _⟩ := h.exists_append_bar
  have htrim : trimEnd (' ' :: line) = (' ' :: lead) ++ c :: trimEnd rest := by
    rw [hline, ← trimEnd_append_cons hc]
    rfl
  have hplace : width + 5 + lead.length = (head ++ '|' :: ' ' :: lead).length := by
    simp only [List.length_append, List.length_cons, hlength]
    omega
  have hrow : row.toList = (head ++ '|' :: ' ' :: lead) ++ c :: trimEnd rest := by
    rw [hrow, htrim]
    simp
  rw [hrow, hplace, List.getElem?_append_right (Nat.le_refl _), Nat.sub_self]
  rfl

end IsNumberedRow

/-! ## Numbers -/

/-- A smaller number is not written with more digits. -/
theorem length_toString_mono {m n : Nat} (h : m ≤ n) :
    (toString m).length ≤ (toString n).length := by
  show m.repr.length ≤ n.repr.length
  have hpos : 0 < n.repr.length := Nat.length_repr_pos
  rw [Nat.length_repr_le_iff hpos]
  exact Nat.lt_of_le_of_lt h ((Nat.length_repr_le_iff hpos).mp (Nat.le_refl _))

/-! ## The lines of an excerpt -/

/-- **The excerpt around a line** has up to three lines before it and up to three after it. -/
theorem lines_around {text : String} {pre post : List (List Char)} {line : List Char}
    (h : lines text.toList = pre ++ line :: post) :
    Excerpt.around text pre.length
      = ⟨pre.length - 3, (pre.drop (pre.length - 3) ++ line :: post.take 3).map String.ofList⟩ := by
  have hlength : (pre.drop (pre.length - 3)).length + 4
      = pre.length + excerptRadius + 1 - (pre.length - excerptRadius) := by
    rw [List.length_drop, excerptRadius]
    omega
  unfold Excerpt.around
  dsimp only
  rw [h, ← hlength, excerptRadius, List.drop_append_of_le_length (Nat.sub_le _ _),
    List.take_append, List.take_of_length_le (Nat.le_add_right _ _), Nat.add_sub_cancel_left]
  rfl

/-- The rows for a line with its number: its own, and the carets if it is the failing one. -/
def rowsOfLine (width : Nat) (location : Location) (l : String × Nat) : List String :=
  numberedLine width (l.2 == location.line) (l.2 + 1) l.1
    :: if l.2 == location.line then [caretLine width location l.1] else []

/-- Rows of lines that are not marked, the first of them having the number `first`. -/
def unmarkedRows (width first : Nat) (lines : List (List Char)) : List String :=
  (lines.zipIdx first).map fun l => numberedLine width false (l.2 + 1) (String.ofList l.1)

theorem flatMap_rowsOfLine_of_ne {width first : Nat} {location : Location}
    {lines : List (List Char)}
    (h : first + lines.length ≤ location.line ∨ location.line < first) :
    ((lines.map String.ofList).zipIdx first).flatMap (rowsOfLine width location)
      = unmarkedRows width first lines := by
  induction lines generalizing first with
  | nil => rfl
  | cons line lines ih =>
    rw [List.length_cons] at h
    have hne : (first == location.line) = false := beq_false_of_ne (by omega)
    rw [List.map_cons, List.zipIdx_cons, List.flatMap_cons, ih (by omega), rowsOfLine, hne]
    rfl

/-- **The rows of an excerpt around a line**: those of the lines before it, its own with the
carets, and those of the lines after it. -/
theorem excerptLines_around {detail : FailureDetail} {text : String} {pre post : List (List Char)}
    {line : List Char} (hlines : lines text.toList = pre ++ line :: post)
    (hline : detail.location.line = pre.length)
    (hexcerpt : detail.excerpt = .around text pre.length) :
    ∃ width, (∀ number ≤ pre.length + 1 + (post.take 3).length,
        (toString number).length ≤ width)
      ∧ excerptLines detail = unmarkedRows width (pre.length - 3) (pre.drop (pre.length - 3))
        ++ numberedLine width true (pre.length + 1) (String.ofList line)
          :: caretLine width detail.location (String.ofList line)
          :: unmarkedRows width (pre.length + 1) (post.take 3) := by
  have hfirst : pre.length - 3 + (pre.drop (pre.length - 3)).length = pre.length := by
    rw [List.length_drop]
    omega
  have hmarked : (pre.length == detail.location.line) = true := beq_iff_eq.mpr hline.symm
  have hlast : pre.length - 3 + ((pre.drop (pre.length - 3)
      ++ line :: post.take 3).map String.ofList).length
      = pre.length + 1 + (post.take 3).length := by
    rw [List.length_map, List.length_append, List.length_cons]
    omega
  rw [lines_around hlines] at hexcerpt
  refine ⟨_, fun number hn => length_toString_mono hn, ?_⟩
  unfold excerptLines
  rw [hexcerpt]
  dsimp only
  rw [hlast]
  generalize (toString (pre.length + 1 + (post.take 3).length)).length = width
  show (((pre.drop (pre.length - 3) ++ line :: post.take 3).map String.ofList).zipIdx
    (pre.length - 3)).flatMap (rowsOfLine width detail.location) = _
  rw [List.map_append, List.map_cons, List.zipIdx_append, List.length_map, hfirst,
    List.zipIdx_cons, List.flatMap_append, List.flatMap_cons,
    flatMap_rowsOfLine_of_ne (.inl (by omega)), flatMap_rowsOfLine_of_ne (.inr (by omega)),
    rowsOfLine, hmarked]
  rfl

/-! ## Carets -/

/-- **A row of carets**: as much room as a row has for the mark, a number and the bar, then as
many blanks as characters stand before the place, and a caret for each character to point at. -/
structure IsCaretRow (width column count : Nat) (row : String) : Prop where
  eq : row.toList = List.replicate (width + 3) ' ' ++ '|' :: ' ' :: (List.replicate column ' '
    ++ List.replicate count '^')
  pos : 0 < count

namespace IsCaretRow

variable {width column count : Nat} {row : String} (h : IsCaretRow width column count row)

include h

theorem head?_eq : row.toList.head? = some ' ' := by
  rw [h.eq]
  rfl

/-- The bar of a row of carets is where those of other rows are. -/
theorem idxOf_bar : row.toList.idxOf '|' = width + 3 := by
  have hbar : '|' ∉ List.replicate (width + 3) ' ' := fun hmem =>
    absurd (List.eq_of_mem_replicate hmem) (by decide)
  rw [h.eq, List.idxOf_append_of_notMem hbar, List.idxOf_cons_self, List.length_replicate,
    Nat.add_zero]

/-- The first caret stands where a row has the character of its line in that column. -/
theorem idxOf_caret : row.toList.idxOf '^' = width + 5 + column := by
  obtain ⟨count, rfl⟩ := Nat.exists_eq_add_of_lt h.pos
  have hrow : row.toList = (List.replicate (width + 3) ' ' ++ '|' :: ' '
      :: List.replicate column ' ') ++ '^' :: List.replicate count '^' := by
    rw [h.eq, Nat.zero_add]
    simp [List.replicate_succ]
  have hcaret : '^' ∉ List.replicate (width + 3) ' ' ++ '|' :: ' '
      :: List.replicate column ' ' := by
    simp
  rw [hrow, List.idxOf_append_of_notMem hcaret, List.idxOf_cons_self]
  simp only [List.length_append, List.length_cons, List.length_replicate]
  omega

end IsCaretRow

/-- The part of a line that a text covers which starts there and may go on behind it. -/
theorem length_takeBytes_of_append {inside after here following : List Char}
    (h : inside ++ after = here ++ following) :
    (takeBytes (byteLength inside) here).length = min inside.length here.length := by
  rcases List.append_eq_append_iff.mp h with ⟨more, rfl, _⟩ | ⟨more, rfl, _⟩
  · rw [takeBytes_byteLength_append, List.length_append]
    omega
  · have hfits : byteLength here ≤ byteLength (here ++ more) := by
      rw [byteLength_append]
      exact Nat.le_add_right _ _
    have hall := takeBytes_append_of_le hfits []
    rw [List.append_nil] at hall
    rw [hall, takeBytes, List.append_nil, List.length_append]
    omega

theorem isCaretRow_caretLine {location : Location} {lead here inside after following : List Char}
    (hlength : location.length = byteLength inside) (hcolumn : location.column = lead.length)
    (h : inside ++ after = here ++ following) (hinside : inside ≠ []) (hhere : here ≠ [])
    (width : Nat) :
    IsCaretRow width lead.length (min inside.length here.length)
      (caretLine width location (String.ofList (lead ++ here))) := by
  have hpos : 0 < min inside.length here.length :=
    Nat.lt_min.mpr ⟨List.length_pos_of_ne_nil hinside, List.length_pos_of_ne_nil hhere⟩
  refine ⟨?_, hpos⟩
  unfold caretLine
  rw [String.toList_ofList, hcolumn, List.drop_left, hlength]
  dsimp only
  rw [length_takeBytes_of_append h, Nat.max_eq_left hpos]
  have hroom : List.replicate (width + 3) ' '
      = ' ' :: ' ' :: (List.replicate width ' ' ++ [' ']) := by
    rw [List.replicate_succ, List.replicate_succ, List.replicate_succ']
  have hmark : "  ".toList = [' ', ' '] := rfl
  have hbar : " | ".toList = [' ', '|', ' '] := rfl
  simp [toList_padLeft, hroom, hmark, hbar]

/-! ## The call of a failure -/

/-- **A failure points at a part of a text**, which is `inside` and starts on the line made of
`lead`, which stands before it, and `here`. -/
structure FailureDetail.PointsAt (detail : FailureDetail) (inside : List Char)
    (pre : List (List Char)) (lead here : List Char) (post : List (List Char)) (width : Nat)
    (above : List String) (row carets : String) (below : List String) : Prop where
  /-- The line was captured. -/
  captured : detail.excerpt.firstLine ≤ pre.length
    ∧ detail.excerpt.lines[pre.length - detail.excerpt.firstLine]? = some (.ofList (lead ++ here))
  /-- Its row is directly followed by a row of carets. -/
  rows : excerptLines detail = above ++ row :: carets :: below
  numbered : IsNumberedRow width '>' (pre.length + 1) (lead ++ here) row
  /-- No other row has the mark. -/
  marked : (excerptLines detail).filter (·.toList.head? == some '>') = [row]
  /-- Above it are the rows of the three lines before, as far as there are any, -/
  linesBefore : List.Forall₂ (fun l r => IsNumberedRow width ' ' (l.2 + 1) l.1 r)
    ((pre.drop (pre.length - 3)).zipIdx (pre.length - 3)) above
  /-- and below the carets those of the three lines after. -/
  linesAfter : List.Forall₂ (fun l r => IsNumberedRow width ' ' (l.2 + 1) l.1 r)
    ((post.take 3).zipIdx (pre.length + 1)) below
  /-- There is a caret for each character of the part that is on the line. -/
  caretRow : IsCaretRow width lead.length (min inside.length here.length) carets
  /-- The first caret stands below the first character of the part. -/
  pointed : row.toList[carets.toList.idxOf '^']? = inside.head?
  /-- All bars stand in the same column. -/
  bars : ∀ r ∈ excerptLines detail, r.toList.idxOf '|' = width + 3

/-- Rows without a mark are rows of the lines with these numbers. -/
theorem forall₂_unmarkedRows {width first last : Nat} {lines : List (List Char)}
    (hwidth : ∀ number ≤ last, (toString number).length ≤ width)
    (h : first + lines.length ≤ last) :
    List.Forall₂ (fun l r => IsNumberedRow width ' ' (l.2 + 1) l.1 r) (lines.zipIdx first)
      (unmarkedRows width first lines) := by
  induction lines generalizing first with
  | nil => exact .nil
  | cons line lines ih =>
    rw [List.length_cons] at h
    refine .cons ?_ (ih (by omega))
    have hrow := isNumberedRow_numberedLine (hwidth (first + 1) (by omega)) false
      (String.ofList line)
    rwa [String.toList_ofList] at hrow

theorem exists_mark_of_mem_rows {width : Nat} {lines : List (List Char × Nat)}
    {rows : List String}
    (h : List.Forall₂ (fun l r => IsNumberedRow width ' ' (l.2 + 1) l.1 r) lines rows) :
    ∀ r ∈ rows, r.toList.head? = some ' ' ∧ r.toList.idxOf '|' = width + 3 := by
  induction h with
  | nil => exact fun r hr => absurd hr List.not_mem_nil
  | cons h _ ih =>
    exact List.forall_mem_cons.mpr ⟨⟨h.head?_eq, h.idxOf_bar (by decide)⟩, ih⟩

theorem filter_marked_eq_nil {rows : List String} (h : ∀ r ∈ rows, r.toList.head? = some ' ') :
    rows.filter (·.toList.head? == some '>') = [] := by
  refine List.filter_eq_nil_iff.mpr fun r hr => ?_
  rw [h r hr]
  decide

/-- **A failure points at what its location tells of**, if that starts with a character that is
no blank. -/
theorem exists_pointsAt {detail : FailureDetail} {text : String} {before inside after : List Char}
    {c : Char} (htext : text.toList = before ++ (inside ++ after)) (hfirst : inside.head? = some c)
    (hc : isBlank c = false) (hlength : detail.location.length = byteLength inside)
    (hposition : detail.location.lineColumn = .after before)
    (hexcerpt : detail.excerpt = .around text detail.location.line) :
    ∃ pre lead here post, LineAt before (inside ++ after) pre lead here post
      ∧ ∃ width above row carets below,
        detail.PointsAt inside pre lead here post width above row carets below := by
  obtain ⟨more, rfl⟩ := List.head?_eq_some_iff.mp hfirst
  have hne : ∀ d : Char, isBlank d = true → c ≠ d := fun d hd he => by
    rw [he, hd] at hc
    cases hc
  obtain ⟨pre, lead, here, post, hat, hhere⟩ :=
    exists_lineAt before (more ++ after) (hne '\n' (by decide)) (hne '\r' (by decide))
  obtain ⟨rest, rfl⟩ := List.head?_eq_some_iff.mp hhere
  obtain ⟨following, hfollowing, _⟩ := hat.stops
  rw [hat.position] at hposition
  obtain ⟨hline, hcolumn⟩ := LineColumn.mk.inj hposition
  have hlines := hat.lines
  rw [← List.cons_append, ← htext] at hlines
  rw [hline] at hexcerpt
  obtain ⟨width, hwidth, hrows⟩ := excerptLines_around hlines hline hexcerpt
  have hrow := isNumberedRow_numberedLine (hwidth (pre.length + 1) (by omega)) true
    (String.ofList (lead ++ c :: rest))
  rw [String.toList_ofList] at hrow
  have hcarets := isCaretRow_caretLine hlength hcolumn hfollowing (List.cons_ne_nil _ _)
    (List.cons_ne_nil _ _) width
  have hover := @forall₂_unmarkedRows _ (pre.length - 3) _ (pre.drop (pre.length - 3)) hwidth
    (by rw [List.length_drop]; omega)
  have hunder := @forall₂_unmarkedRows _ (pre.length + 1) _ _ hwidth (Nat.le_refl _)
  have hover' := exists_mark_of_mem_rows hover
  have hunder' := exists_mark_of_mem_rows hunder
  refine ⟨pre, lead, c :: rest, post, hat, width, _, _, _, _, ?_, hrows, hrow, ?_, hover, hunder,
    hcarets, ?_, ?_⟩
  · have hplace : pre.length - (pre.length - 3) = (pre.drop (pre.length - 3)).length := by
      rw [List.length_drop]
    rw [hexcerpt, lines_around hlines]
    refine ⟨Nat.sub_le _ _, ?_⟩
    dsimp only
    rw [hplace, List.getElem?_map, List.getElem?_append_right (Nat.le_refl _), Nat.sub_self]
    rfl
  · rw [hrows, List.filter_append, filter_marked_eq_nil fun r hr => (hover' r hr).1,
      List.nil_append, List.filter_cons_of_pos (by rw [hrow.head?_eq]; rfl),
      List.filter_cons_of_neg (by rw [hcarets.head?_eq]; decide),
      filter_marked_eq_nil fun r hr => (hunder' r hr).1]
  · rw [hcarets.idxOf_caret, hrow.getElem?_of_line rfl hc]
    rfl
  · rw [hrows, List.forall_mem_append, List.forall_mem_cons, List.forall_mem_cons]
    exact ⟨fun r hr => (hover' r hr).2, hrow.idxOf_bar (by decide), hcarets.idxOf_bar,
      fun r hr => (hunder' r hr).2⟩

namespace ScriptFile

variable (file : ScriptFile)

/-- **A call covers a part of its text** that starts with a character which is no blank. -/
theorem exists_text_of_mem_calls {n : Node} (h : n ∈ file.root.calls) :
    ∃ before inside after c, file.text.toList = before ++ (inside ++ after)
      ∧ byteLength before = n.range.start ∧ byteLength inside = n.range.length
      ∧ inside.head? = some c ∧ isBlank c = false := by
  obtain ⟨ts, htokens, hcalls⟩ := exists_fits_of_parseTree file.parsed
  have hfits := hcalls n h
  obtain ⟨before, inside, after, htext, hstart, hlength⟩ :=
    (hfits.sliceOf (standsIn_tokenize htokens)).exists_append
  obtain ⟨t, ht, htstart⟩ := hfits.starts
  obtain ⟨before', after', htext', hstart'⟩ := standsIn_tokenize htokens t ht
  have hnonempty : 0 < byteLength inside := by
    have := hfits.nonempty
    unfold TextRange.stop at this
    omega
  obtain ⟨d, inside, rfl⟩ := List.exists_cons_of_ne_nil (l := inside) fun he => by
    rw [he, byteLength_nil] at hnonempty
    exact absurd hnonempty (Nat.lt_irrefl _)
  -- the first token of the call begins with the first character of the call
  obtain ⟨_, htext'⟩ := append_inj_of_byteLength (htext'.symm.trans htext) (by omega)
  refine ⟨before, d :: inside, after, d, htext, hstart, hlength, rfl, ?_⟩
  rcases exists_first_of_mem_tokensFrom (tokenize_eq_ok.mp htokens) t ht with
    ⟨c, more, htoken, hc⟩ | hend
  · rw [htoken] at htext'
    obtain ⟨rfl, _⟩ := List.cons.inj htext'
    exact hc
  · rw [htext, byteLength_append, byteLength_append] at hend
    omega

end ScriptFile

namespace SourceFile

variable {ν : Type} {file : SourceFile ν} {oracle : TypeOracle ν} {call : ν}
  {detail : FailureDetail}

/-- A failing call gives its place, and the excerpt around its line. -/
theorem location_of_verdict (h : file.verdict oracle call = .fail detail) :
    detail.location = file.location call
      ∧ detail.excerpt = .around file.text detail.location.line := by
  unfold verdict at h
  split at h
  · cases h
    exact ⟨rfl, rfl⟩
  · cases h

end SourceFile

/-- **The excerpt of a failure points at the failing call**, wherever the call is in the text
and however many lines and bytes it takes. The line that it starts in was captured; the report
shows it with a mark, among the three lines before and after it as far as there are any, and
directly below it a caret for each character of the call on this line, the first one below its
first character. -/
theorem ScriptProgram.excerpt_points_at_call (p : ScriptProgram) :
    ∀ file ∈ p.toHost.files, ∀ g ∈ file.walk p.oracle, ∀ c ∈ g.toNode.cases,
      ∀ detail, c.verdict = .fail detail →
      ∃ call ∈ file.callsWithin file.root, file.verdict p.oracle call = .fail detail
        ∧ detail.location.range = file.range call
        ∧ ∃ before inside after, file.text.toList = before ++ (inside ++ after)
          ∧ byteLength before = (file.range call).start
          ∧ byteLength inside = (file.range call).length
          ∧ ∃ pre lead here post, LineAt before (inside ++ after) pre lead here post
            ∧ detail.location.lineColumn = ⟨pre.length, lead.length⟩
            ∧ ∃ width above row carets below,
              detail.PointsAt inside pre lead here post width above row carets below := by
  intro file hfile g hg c hc detail hv
  obtain ⟨script, i, rfl⟩ := exists_script_of_mem_files hfile
  obtain ⟨call, hcall, he⟩ :=
    SourceFile.exists_call_of_failed_case (script.showsChildren i) p.oracle hg hc hv
  obtain ⟨hlocation, hexcerpt⟩ := SourceFile.location_of_verdict he
  have hroot : (script.toSource i).root = ⟨i, script.root⟩ := rfl
  have hnode := hcall
  rw [hroot, ScriptFile.callsWithin_toSource] at hnode
  obtain ⟨n, hn, rfl⟩ := List.mem_map.mp hnode
  have hrange : (script.toSource i).range ⟨i, n⟩ = n.range := if_pos rfl
  obtain ⟨before, inside, after, first, htext, hstart, hlength, hfirst, hblank⟩ :=
    script.exists_text_of_mem_calls hn
  have hposition : detail.location.lineColumn = .after before := by
    rw [hlocation]
    show (LineIndex.ofText script.text.toList).lineColumn script.text.toList
      ((script.toSource i).range ⟨i, n⟩).start = _
    rw [LineIndex.lineColumn_ofText, LineColumn.ofOffset, hrange, ← hstart, htext,
      takeBytes_byteLength_append]
  obtain ⟨pre, lead, here, post, hat, hpoints⟩ := exists_pointsAt htext hfirst hblank
    (by rw [hlocation, hlength]; exact congrArg TextRange.length hrange) hposition hexcerpt
  refine ⟨_, hcall, he, ?_, before, inside, after, htext, ?_, ?_, pre, lead, here, post, hat,
    hposition.trans hat.position, hpoints⟩
  · rw [hlocation]
    rfl
  · rw [hrange, hstart]
  · rw [hrange, hlength]

/-- A script whose failing call follows a character of several bytes and goes on over a line
break with a carriage return. -/
def brokenScript : ScriptFile :=
  (ScriptFile.parse "a.test.ts" ("declare function f(): RTT_FAIL<'m'>;\n" ++
    "describe('g', () => \x7b test('t', () => \x7b\n" ++
    "  'é'; f(\r\n    1); \x7d); \x7d);\n")).toOption.get (by decide +kernel)

namespace ScriptProgram

/-- The program of the script. -/
def broken : ScriptProgram := .ofFiles [brokenScript]

/-- Two carets stand below the beginning of the call. -/
theorem excerpt_points_at_broken_call :
    ∃ file ∈ broken.toHost.files, ∃ g ∈ file.walk broken.oracle, ∃ c ∈ g.toNode.cases,
      ∃ detail, c.verdict = .fail detail
        ∧ excerptLines detail = ["  1 | declare function f(): RTT_FAIL<'m'>;",
            "  2 | describe('g', () => \x7b test('t', () => \x7b", "> 3 |   'é'; f(",
            "    |        ^^", "  4 |     1); \x7d); \x7d);"]
        ∧ ∃ call ∈ file.callsWithin file.root, file.verdict broken.oracle call = .fail detail
          ∧ ∃ before inside after pre lead here post,
            file.text.toList = before ++ (inside ++ after)
              ∧ byteLength before = (file.range call).start
              ∧ byteLength inside = (file.range call).length
              ∧ LineAt before (inside ++ after) pre lead here post
              ∧ ∃ width above row carets below,
                detail.PointsAt inside pre lead here post width above row carets below := by
  have hcase : ∃ t ∈ brokenScript.root.tests false,
      (brokenScript.caseOf 0 broken.oracle t).verdict.detail?.map excerptLines
        = some ["  1 | declare function f(): RTT_FAIL<'m'>;",
            "  2 | describe('g', () => \x7b test('t', () => \x7b", "> 3 |   'é'; f(",
            "    |        ^^", "  4 |     1); \x7d); \x7d);"] := by
    simp only [ScriptFile.caseOf, SourceFile.testCase, ScriptFile.assertions_toSource]
    decide +kernel
  obtain ⟨t, ht, hrows⟩ := hcase
  obtain ⟨detail, hdetail, hrows⟩ := Option.map_eq_some_iff.mp hrows
  have hfile : brokenScript.toSource 0 ∈ broken.toHost.files := List.mem_cons_self
  obtain ⟨g, hg, hc⟩ := brokenScript.exists_group_of_mem_tests 0 broken.oracle ht
  have hv := Verdict.detail?_eq_some_iff.mp hdetail
  obtain ⟨call, hcall, he, _, before, inside, after, htext, hstart, hlength, pre, lead, here, post,
    hat, _, hpoints⟩ := excerpt_points_at_call broken _ hfile g hg _ hc detail hv
  exact ⟨_, hfile, g, hg, _, hc, detail, hv, hrows, call, hcall, he, before, inside, after, pre,
    lead, here, post, htext, hstart, hlength, hat, hpoints⟩

end ScriptProgram

end TypeTest

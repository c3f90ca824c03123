import Mathlib.Data.List.Forall2
import Mathlib.Data.List.TakeWhile
import TypeTest.TypeText.Substitute

/-!
# Substitution segment by segment

A type text is made of **segments**: regions in quotes, whole words outside of them, and single
characters between these. There is one way only to cut a text like this
(`IsSegmented.unique`), since a region ends at the first quote that can close it and a word
goes on as long as characters of names follow. `substitute` reads the characters one by one and
knows no segments. All the same it comes to what the cut text gives when each word that is
bound is exchanged for what it stands for, and everything else is kept
(`substituteFrom_of_isSegmented`).

The bindings must not bind the empty word. The reader meets one wherever two characters stand
side by side that are no part of a word, in the middle of quotes as well.
-/

namespace TypeTest.TypeText

/-! ## Segments -/

/-- **A segment of a type text.** -/
inductive Segment where
  /-- A region in quotes, with its quotes. -/
  | quoted (text : List Char)
  /-- A whole word outside of quotes. -/
  | word (text : List Char)
  /-- A character that is in no word and no region. -/
  | mark (c : Char)
  deriving DecidableEq

/-- The characters of a segment. -/
def Segment.text : Segment → List Char
  | .quoted text => text
  | .word text => text
  | .mark c => [c]

/-- **What follows the opening quote of a region**, up to the next equal quote that no backslash
escapes, if the region is closed by one, else to the end of the text. -/
inductive Region (quote : Char) : Bool → List Char → Prop where
  | close : Region quote true [quote]
  | ending : Region quote false []
  | hanging : Region quote false ['\\']
  | escaped {closed : Bool} {c : Char} {cs : List Char} : Region quote closed cs →
    Region quote closed ('\\' :: c :: cs)
  | plain {closed : Bool} {c : Char} {cs : List Char} : c ≠ '\\' → c ≠ quote →
    Region quote closed cs → Region quote closed (c :: cs)

/-- **A text cut into its segments.** A region that is not closed is the last one, and a word is
as long as it can be. -/
inductive IsSegmented : List Char → List Segment → Prop where
  | nil : IsSegmented [] []
  | quoted {quote : Char} {closed : Bool} {inside rest : List Char} {segments : List Segment} :
    isQuote quote = true → Region quote closed inside → (closed = false → rest = []) →
    IsSegmented rest segments →
    IsSegmented (quote :: (inside ++ rest)) (.quoted (quote :: inside) :: segments)
  | word {c : Char} {cs rest : List Char} {segments : List Segment} :
    (∀ x ∈ c :: cs, isNamePart x = true) → (∀ x ∈ rest.head?, isNamePart x = false) →
    IsSegmented rest segments → IsSegmented (c :: (cs ++ rest)) (.word (c :: cs) :: segments)
  | mark {c : Char} {rest : List Char} {segments : List Segment} : isQuote c = false →
    isNamePart c = false → IsSegmented rest segments →
    IsSegmented (c :: rest) (.mark c :: segments)

variable {bindings : Bindings} {segments others : List Segment} {closed closed' : Bool}
  {quote c : Char} {cs as bs rest rest' : List Char}

/-- **The segments of a text are all of it.** -/
theorem IsSegmented.flatMap_text (h : IsSegmented cs segments) :
    segments.flatMap Segment.text = cs := by
  induction h with
  | nil => rfl
  | quoted _ _ _ _ ih => rw [List.flatMap_cons, ih]; rfl
  | word _ _ _ ih => rw [List.flatMap_cons, ih]; rfl
  | mark _ _ _ ih => rw [List.flatMap_cons, ih]; rfl

/-- A word that is given as a whole is the first segment of a text. -/
theorem IsSegmented.word_append {word : List Char} (hne : word ≠ [])
    (hword : ∀ c ∈ word, isNamePart c = true) (hnext : ∀ c ∈ rest.head?, isNamePart c = false)
    (h : IsSegmented rest segments) : IsSegmented (word ++ rest) (.word word :: segments) := by
  obtain ⟨c, cs, rfl⟩ := List.exists_cons_of_ne_nil hne
  exact .word hword hnext h

/-! ## There is one way to cut a text -/

theorem isNamePart_of_isQuote (h : isQuote c = true) : isNamePart c = false := by
  simp only [isQuote, Bool.or_eq_true, beq_iff_eq] at h
  rcases h with (rfl | rfl) | rfl <;> decide +kernel

theorem ne_backslash_of_isQuote (h : isQuote c = true) : c ≠ '\\' := by
  rintro rfl
  cases h

/-- A region begins at every quote. -/
theorem exists_region (quote : Char) (cs : List Char) :
    ∃ closed inside rest, cs = inside ++ rest ∧ Region quote closed inside
      ∧ (closed = false → rest = []) := by
  match cs with
  | [] => exact ⟨false, [], [], rfl, .ending, fun _ => rfl⟩
  | c :: cs =>
    by_cases hbackslash : c = '\\'
    · subst hbackslash
      match cs with
      | [] => exact ⟨false, ['\\'], [], rfl, .hanging, fun _ => rfl⟩
      | d :: cs =>
        obtain ⟨closed, inside, rest, rfl, hinside, hrest⟩ := exists_region quote cs
        exact ⟨closed, '\\' :: d :: inside, rest, rfl, .escaped hinside, hrest⟩
    by_cases hquote : c = quote
    · exact ⟨true, [c], cs, rfl, hquote ▸ .close, nofun⟩
    · obtain ⟨closed, inside, rest, rfl, hinside, hrest⟩ := exists_region quote cs
      exact ⟨closed, c :: inside, rest, rfl, .plain hbackslash hquote hinside, hrest⟩
termination_by cs.length

/-- **A region has one end.** -/
theorem Region.unique (h : Region quote closed as) (h' : Region quote closed' bs)
    (hquote : quote ≠ '\\') (hrest : closed = false → rest = [])
    (hrest' : closed' = false → rest' = []) (he : as ++ rest = bs ++ rest') : as = bs := by
  -- in front of both stands the same character, which tells how either of them goes on
  induction h generalizing bs <;> cases h' <;> grind

/-- **A word has one end.** -/
theorem takeWhile_of_word (h : ∀ x ∈ cs, isNamePart x = true)
    (hrest : ∀ x ∈ rest.head?, isNamePart x = false) :
    (cs ++ rest).takeWhile isNamePart = cs := by
  have hnil : rest.takeWhile isNamePart = [] := by
    cases rest with
    | nil => rfl
    | cons x xs => exact List.takeWhile_cons_of_neg (Bool.eq_false_iff.mp (hrest x rfl))
  rw [List.takeWhile_append_of_pos h, hnil, List.append_nil]

/-- The first segment of a text is told by its first character. -/
theorem IsSegmented.exists_cons (h : IsSegmented (c :: cs) segments) :
    ∃ segment tail more, segments = segment :: more ∧ c :: cs = segment.text ++ tail
      ∧ IsSegmented tail more
      ∧ (isQuote c = true ∧ (∃ closed inside, segment = .quoted (c :: inside)
            ∧ Region c closed inside ∧ (closed = false → tail = []))
        ∨ isNamePart c = true ∧ segment = .word ((c :: cs).takeWhile isNamePart)
        ∨ isQuote c = false ∧ isNamePart c = false ∧ segment = .mark c) := by
  generalize htext : c :: cs = text at h
  cases h with
  | nil => cases htext
  | quoted hquote hinside hclosed hrest =>
    obtain ⟨rfl, rfl⟩ := List.cons.inj htext
    exact ⟨_, _, _, rfl, rfl, hrest, .inl ⟨hquote, _, _, rfl, hinside, hclosed⟩⟩
  | word hword hnext hrest =>
    obtain ⟨rfl, rfl⟩ := List.cons.inj htext
    have hc := hword _ List.mem_cons_self
    refine ⟨_, _, _, rfl, rfl, hrest, .inr (.inl ⟨hc, ?_⟩)⟩
    rw [← List.cons_append, takeWhile_of_word hword hnext]
  | mark hquote hname hrest =>
    obtain ⟨rfl, rfl⟩ := List.cons.inj htext
    exact ⟨_, _, _, rfl, rfl, hrest, .inr (.inr ⟨hquote, hname, rfl⟩)⟩

/-- **There is one way only to cut a text into segments.** -/
theorem IsSegmented.unique (h : IsSegmented cs segments) (h' : IsSegmented cs others) :
    segments = others := by
  induction h generalizing others with
  | nil =>
    cases h'
    rfl
  | quoted hquote hinside hclosed _ ih =>
    obtain ⟨_, tail, more, rfl, htext, hmore, hfirst⟩ := h'.exists_cons
    rcases hfirst with ⟨_, _, _, rfl, hinside', hclosed'⟩ | ⟨hname, _⟩ | ⟨hother, _⟩
    · have htail := (List.cons.inj htext).2
      obtain rfl := hinside.unique hinside' (ne_backslash_of_isQuote hquote) hclosed hclosed' htail
      obtain rfl := List.append_cancel_left htail
      rw [ih hmore]
    · rw [isNamePart_of_isQuote hquote] at hname
      cases hname
    · rw [hquote] at hother
      cases hother
  | word hword hnext _ ih =>
    obtain ⟨_, tail, more, rfl, htext, hmore, hfirst⟩ := h'.exists_cons
    have hc := hword _ List.mem_cons_self
    rcases hfirst with ⟨hquote, _⟩ | ⟨_, rfl⟩ | ⟨_, hname, _⟩
    · rw [isNamePart_of_isQuote hquote] at hc
      cases hc
    · rw [← List.cons_append, takeWhile_of_word hword hnext] at htext ⊢
      obtain rfl := List.append_cancel_left htext
      rw [ih hmore]
    · rw [hc] at hname
      cases hname
  | mark hquote hname _ ih =>
    obtain ⟨_, tail, more, rfl, htext, hmore, hfirst⟩ := h'.exists_cons
    rcases hfirst with ⟨hquote', _⟩ | ⟨hname', _⟩ | ⟨_, _, rfl⟩
    · rw [hquote] at hquote'
      cases hquote'
    · rw [hname] at hname'
      cases hname'
    · obtain rfl := (List.cons.inj htext).2
      rw [ih hmore]

/-- **Every text can be cut into segments.** -/
theorem exists_isSegmented (cs : List Char) : ∃ segments, IsSegmented cs segments := by
  match cs with
  | [] => exact ⟨[], .nil⟩
  | c :: cs =>
    by_cases hquote : isQuote c = true
    · obtain ⟨closed, inside, rest, htext, hinside, hclosed⟩ := exists_region c cs
      have hshort : rest.length < cs.length + 1 := by
        rw [htext, List.length_append]
        omega
      obtain ⟨segments, hrest⟩ := exists_isSegmented rest
      rw [htext]
      exact ⟨_, .quoted hquote hinside hclosed hrest⟩
    by_cases hname : isNamePart c = true
    · have hshort : (cs.dropWhile isNamePart).length < cs.length + 1 :=
        Nat.lt_succ_of_le (List.dropWhile_suffix isNamePart).length_le
      obtain ⟨segments, hrest⟩ := exists_isSegmented (cs.dropWhile isNamePart)
      have hword : ∀ x ∈ c :: cs.takeWhile isNamePart, isNamePart x = true :=
        List.forall_mem_cons.mpr ⟨hname, fun x hx => List.mem_takeWhile_imp hx⟩
      have hnext : ∀ x ∈ (cs.dropWhile isNamePart).head?, isNamePart x = false := by
        intro x hx
        have hnot := List.head?_dropWhile_not isNamePart cs
        rw [Option.mem_def.mp hx] at hnot
        exact hnot
      have hcut := IsSegmented.word hword hnext hrest
      rw [List.takeWhile_append_dropWhile] at hcut
      exact ⟨_, hcut⟩
    · obtain ⟨segments, hrest⟩ := exists_isSegmented cs
      exact ⟨_, .mark (Bool.eq_false_iff.mpr hquote) (Bool.eq_false_iff.mpr hname) hrest⟩
termination_by cs.length

/-! ## Substitution -/

/-- **What a segment becomes** when bound names are exchanged for what they stand for: the first
binding of a name counts, and only whole words are names. -/
inductive Segment.Becomes (bindings : Bindings) : Segment → List Char → Prop where
  | quoted (text : List Char) : Becomes bindings (.quoted text) text
  | mark (c : Char) : Becomes bindings (.mark c) [c]
  | bound {before after : Bindings} {name value : String} :
    bindings = before ++ (name, value) :: after → (∀ b ∈ before, b.1 ≠ name) →
    Becomes bindings (.word name.toList) value.toList
  | free {text : List Char} : (∀ b ∈ bindings, b.1.toList ≠ text) →
    Becomes bindings (.word text) text

/-- A word that is bound to nothing stands for itself. -/
theorem Bindings.resolve_of_notMem {word : List Char}
    (h : String.ofList word ∉ bindings.map Prod.fst) : bindings.resolve word = word := by
  unfold resolve
  have hnone : bindings.lookup (String.ofList word) = none := by
    refine List.lookup_eq_none_iff.mpr fun b hb => ?_
    have hmem : b.1 ∈ bindings.map Prod.fst := List.mem_map_of_mem hb
    have hne : String.ofList word ≠ b.1 := fun he => h (he.symm ▸ hmem)
    exact bne_iff_ne.mpr hne
  rw [hnone]

/-- The empty word stands for itself, if it is not bound. -/
theorem Bindings.resolve_nil_word (hnames : ∀ b ∈ bindings, b.1 ≠ "") :
    bindings.resolve [] = [] := by
  refine Bindings.resolve_of_notMem fun hbound => ?_
  obtain ⟨b, hb, he⟩ := List.mem_map.mp hbound
  exact hnames b hb he

/-- What a segment becomes, by a look at the bindings. -/
def Segment.replaced (bindings : Bindings) : Segment → List Char
  | .quoted text => text
  | .word text => bindings.resolve text
  | .mark c => [c]

theorem Segment.becomes_replaced (bindings : Bindings) (segment : Segment) :
    Becomes bindings segment (segment.replaced bindings) := by
  cases segment with
  | quoted text => exact .quoted text
  | mark c => exact .mark c
  | word text =>
    show Becomes bindings (.word text) (bindings.resolve text)
    by_cases hbound : String.ofList text ∈ bindings.map Prod.fst
    · cases hvalue : bindings.lookup (String.ofList text) with
      | none =>
        obtain ⟨b, hb, he⟩ := List.mem_map.mp hbound
        exact absurd he.symm (bne_iff_ne.mp (List.lookup_eq_none_iff.mp hvalue b hb))
      | some value =>
        obtain ⟨before, after, hbindings, hbefore⟩ := List.lookup_eq_some_iff.mp hvalue
        have hfirst : ∀ b ∈ before, b.1 ≠ String.ofList text :=
          fun b hb => (bne_iff_ne.mp (hbefore b hb)).symm
        have hbecomes := Becomes.bound hbindings hfirst
        rw [String.toList_ofList] at hbecomes
        rw [Bindings.resolve, hvalue]
        exact hbecomes
    · rw [Bindings.resolve_of_notMem hbound]
      refine .free fun b hb he => hbound (List.mem_map.mpr ⟨b, hb, ?_⟩)
      rw [← he, String.ofList_toList]

/-! ## The reader and the segments -/

/-- Characters that do not quote are not quoted. -/
theorem markFrom_outside (h : cs.any isQuote = false) :
    markFrom .outside (cs ++ rest) = cs.map (·, false) ++ markFrom .outside rest := by
  induction cs with
  | nil => rfl
  | cons c cs ih =>
    obtain ⟨hc, hcs⟩ := Bool.or_eq_false_iff.mp h
    rw [List.cons_append, markFrom, Quoting.next, Quoting.covers, hc,
      if_neg Bool.false_ne_true, ih hcs]
    rfl

/-- **The reader of quotes is in a region up to its end.** -/
theorem Region.markFrom_append (h : Region quote closed cs) (hquote : quote ≠ '\\')
    (hclosed : closed = false → rest = []) :
    markFrom (.inside quote false) (cs ++ rest)
      = cs.map (·, true) ++ markFrom .outside rest := by
  induction h with
  | close =>
    have hnext : Quoting.next (.inside quote false) quote = .outside := by
      simp [Quoting.next, hquote]
    rw [List.singleton_append, markFrom, hnext]
    rfl
  | ending =>
    rw [hclosed rfl]
    rfl
  | hanging =>
    rw [hclosed rfl]
    rfl
  | escaped _ ih =>
    show (_, true) :: (_, true) :: markFrom (.inside quote false) (_ ++ rest) = _
    rw [ih hclosed]
    rfl
  | @plain _ c cs hbackslash hother _ ih =>
    have hnext : Quoting.next (.inside quote false) c = .inside quote false := by
      simp [Quoting.next, hbackslash, hother]
    rw [List.cons_append, markFrom, hnext, ih hclosed]
    rfl

/-- A name is read on as long as its characters go on. -/
theorem substituteFrom_name (h : cs.all isNamePart = true) (word : List Char)
    (ms : List (Char × Bool)) :
    substituteFrom bindings word (cs.map (·, false) ++ ms)
      = substituteFrom bindings (cs.reverse ++ word) ms := by
  induction cs generalizing word with
  | nil => rfl
  | cons c cs ih =>
    obtain ⟨hc, hcs⟩ := Bool.and_eq_true_iff.mp h
    rw [List.map_cons, List.cons_append, substituteFrom, Bool.not_false, Bool.true_and, hc,
      if_pos rfl, ih hcs, List.reverse_cons, List.append_assoc]
    rfl

/-- **A word ends** where no character of a name follows. -/
theorem substituteFrom_of_head? (hnil : bindings.resolve [] = []) {ms : List (Char × Bool)}
    (h : ∀ m ∈ ms.head?, isNamePart m.1 = false) (word : List Char) :
    substituteFrom bindings word ms
      = bindings.resolve word.reverse ++ substituteFrom bindings [] ms := by
  cases ms with
  | nil =>
    show _ = _ ++ bindings.resolve []
    rw [hnil, List.append_nil]
    rfl
  | cons m ms =>
    have hm : (!m.2 && isNamePart m.1) = false := by rw [h m rfl, Bool.and_false]
    rw [substituteFrom, substituteFrom, hm, if_neg Bool.false_ne_true, if_neg Bool.false_ne_true,
      List.reverse_nil, hnil]
    rfl

/-- **Quoted text is left alone**, if the empty word stands for itself. -/
theorem substituteFrom_quoted (hnil : bindings.resolve [] = []) (cs : List Char)
    (ms : List (Char × Bool)) :
    substituteFrom bindings [] (cs.map (·, true) ++ ms)
      = cs ++ substituteFrom bindings [] ms := by
  induction cs with
  | nil => rfl
  | cons c cs ih =>
    rw [List.map_cons, List.cons_append, substituteFrom, Bool.not_true, Bool.false_and,
      if_neg Bool.false_ne_true, ih, List.reverse_nil, hnil]
    rfl

/-- **The reader gives for a text what its segments become**, if the empty word stands for
itself. -/
theorem substituteFrom_of_isSegmented (hnil : bindings.resolve [] = [])
    (h : IsSegmented cs segments) :
    substituteFrom bindings [] (markFrom .outside cs)
      = segments.flatMap (Segment.replaced bindings) := by
  induction h with
  | nil => exact hnil
  | @quoted quote closed inside rest segments hquote hinside hclosed _ ih =>
    have hmarked : markFrom .outside (quote :: (inside ++ rest))
        = (quote :: inside).map (·, true) ++ markFrom .outside rest := by
      have hopen : Quoting.next .outside quote = .inside quote false := if_pos hquote
      rw [markFrom, hopen, hinside.markFrom_append (ne_backslash_of_isQuote hquote) hclosed]
      show (quote, isQuote quote) :: _ = _
      rw [hquote]
      rfl
    rw [hmarked, substituteFrom_quoted hnil, ih]
    rfl
  | @word c cs rest segments hword hnext _ ih =>
    have hunquoted : (c :: cs).any isQuote = false := by
      refine List.any_eq_false.mpr fun x hx hquote => ?_
      have hx := hword x hx
      rw [isNamePart_of_isQuote hquote] at hx
      cases hx
    have hend : ∀ m ∈ (markFrom .outside rest).head?, isNamePart m.1 = false := by
      intro m hm
      cases rest with
      | nil => cases hm
      | cons x xs =>
        cases hm
        exact hnext x rfl
    rw [← List.cons_append, markFrom_outside hunquoted,
      substituteFrom_name (List.all_eq_true.mpr hword), List.append_nil,
      substituteFrom_of_head? hnil hend, List.reverse_reverse, ih]
    rfl
  | @mark c rest segments hquote hname _ ih =>
    have hnext : Quoting.next .outside c = .outside := if_neg (Bool.eq_false_iff.mp hquote)
    rw [markFrom, hnext, substituteFrom, hname, Bool.and_false, if_neg Bool.false_ne_true, ih,
      List.reverse_nil, hnil]
    rfl

/-- **What a substitution gives** is what the segments of the type become. -/
theorem toList_substitute {type : String} (hnames : ∀ b ∈ bindings, b.1 ≠ "")
    (h : IsSegmented type.toList segments) :
    (substitute type bindings).toList = segments.flatMap (Segment.replaced bindings) := by
  rw [substitute, markQuoted, String.toList_ofList,
    substituteFrom_of_isSegmented (Bindings.resolve_nil_word hnames) h]

/-- **A type in which no bound name is a word is left as it is.** -/
theorem substitute_eq_self {type : String} (hnames : ∀ b ∈ bindings, b.1 ≠ "")
    (h : IsSegmented type.toList segments) (hfree : ∀ b ∈ bindings, .word b.1.toList ∉ segments) :
    substitute type bindings = type := by
  have hkept : ∀ segment ∈ segments, segment.replaced bindings = segment.text := by
    intro segment hsegment
    cases segment with
    | quoted text => rfl
    | mark c => rfl
    | word text =>
      refine Bindings.resolve_of_notMem fun hbound => ?_
      obtain ⟨b, hb, he⟩ := List.mem_map.mp hbound
      refine hfree b hb ?_
      rwa [he, String.toList_ofList]
  refine String.toList_injective ?_
  rw [toList_substitute hnames h, ← h.flatMap_text, List.flatMap_def, List.flatMap_def,
    List.map_congr_left hkept]

/-- **Substitution exchanges the bound words of a type, all at once**, and keeps every other
segment of it; what is put in for a word is not looked at again. -/
theorem exists_segments_substitute (type : String) (bindings : Bindings)
    (hnames : ∀ b ∈ bindings, b.1 ≠ "") :
    ∃ segments, IsSegmented type.toList segments
      ∧ (∀ others, IsSegmented type.toList others → others = segments)
      ∧ (∃ parts, List.Forall₂ (Segment.Becomes bindings) segments parts
        ∧ (substitute type bindings).toList = parts.flatten)
      ∧ ((∀ b ∈ bindings, .word b.1.toList ∉ segments) → substitute type bindings = type) := by
  obtain ⟨segments, h⟩ := exists_isSegmented type.toList
  have hparts : List.Forall₂ (Segment.Becomes bindings) segments
      (segments.map (Segment.replaced bindings)) := by
    rw [List.forall₂_map_right_iff, List.forall₂_same]
    exact fun segment _ => segment.becomes_replaced bindings
  have hresult := toList_substitute hnames h
  rw [List.flatMap_def] at hresult
  exact ⟨segments, h, fun others hothers => hothers.unique h, ⟨_, hparts, hresult⟩,
    substitute_eq_self hnames h⟩

/-- The first binding of a name counts, a value may hold other bound names, and a region that is
not closed is kept up to its end. -/
theorem exists_segments_substitute_nested :
    (∀ b ∈ [("T", "TT[]"), ("TT", "T"), ("T", "no")], b.1 ≠ "")
      ∧ ∃ segments, IsSegmented "A<T, TT, 'T\\'T'> | \"T".toList segments
        ∧ (∀ others, IsSegmented "A<T, TT, 'T\\'T'> | \"T".toList others → others = segments)
        ∧ (∃ parts, List.Forall₂
            (Segment.Becomes [("T", "TT[]"), ("TT", "T"), ("T", "no")]) segments parts
          ∧ (substitute "A<T, TT, 'T\\'T'> | \"T"
              [("T", "TT[]"), ("TT", "T"), ("T", "no")]).toList = parts.flatten)
        ∧ ((∀ b ∈ [("T", "TT[]"), ("TT", "T"), ("T", "no")], .word b.1.toList ∉ segments) →
          substitute "A<T, TT, 'T\\'T'> | \"T" [("T", "TT[]"), ("TT", "T"), ("T", "no")]
            = "A<T, TT, 'T\\'T'> | \"T") :=
  have hnames : ∀ b ∈ [("T", "TT[]"), ("TT", "T"), ("T", "no")], b.1 ≠ "" := by decide
  ⟨hnames, exists_segments_substitute _ _ hnames⟩

example : substitute "A<T, TT, 'T\\'T'> | \"T" [("T", "TT[]"), ("TT", "T"), ("T", "no")]
    = "A<TT[], T, 'T\\'T'> | \"T" := by
  decide +kernel

end TypeTest.TypeText

import TypeTest.Proofs.Parsing.Spelling

/-!
# Where the scanner stops at a fault

A text whose tokens cannot be read has a place where reading stopped, and the fault holds the
text from there on. It is an end of the text: a fault in a string or a template stands where the
literal opens or at a character of an escape in it, and the others where nothing can be read.
Offsets have no part in it, since what cannot be read does not depend on where it stands
(`tokensFrom_eq_error_iff`).
-/

namespace TypeTest

variable {opening cs rest : List Char} {fault : ScanFault}

/-! ## The rest at a fault is an end of the text -/

theorem readHex_fault {count value : Nat} (ho : cs <:+ opening)
    (h : readHex opening count value cs = .error fault) : fault.rest <:+ opening := by
  fun_induction readHex opening count value cs with
  | case1 => cases h
  | case2 =>
    cases h
    exact List.suffix_refl _
  | case3 =>
    cases h
    exact List.suffix_refl _
  | case4 count value c cs d hd ih => exact ih ((List.suffix_cons _ _).trans ho) h
  | case5 =>
    cases h
    exact ho

theorem readBraced_fault (ho : cs <:+ opening) (h : readBraced opening cs = .error fault) :
    fault.rest <:+ opening := by
  have hd := List.dropWhile_suffix (l := cs) fun c => (hexValue c).isSome
  simp only [readBraced] at h
  split at h
  · cases h
  · rename_i hr _
    cases h
    rw [hr] at hd
    exact hd.trans ho
  · cases h
    exact List.suffix_refl _

theorem readEscape_fault (ho : cs <:+ opening) (h : readEscape opening cs = .error fault) :
    fault.rest <:+ opening := by
  unfold readEscape at h
  split at h
  · cases h
    exact List.suffix_refl _
  · cases h
  · exact readHex_fault ((List.suffix_cons _ _).trans ho) h
  · exact readBraced_fault (((List.suffix_cons _ _).trans (List.suffix_cons _ _)).trans ho) h
  · exact readHex_fault ((List.suffix_cons _ _).trans ho) h
  · cases h

theorem readString_fault {quote : Char} (ho : cs <:+ opening)
    (h : readString opening quote cs = .error fault) : fault.rest <:+ opening := by
  fun_induction readString opening quote cs generalizing fault with
  | case1 =>
    cases h
    exact List.suffix_refl _
  | case2 =>
    cases h
    exact List.suffix_refl _
  | case3 cs f hf =>
    cases h
    exact readEscape_fault ((List.suffix_cons _ _).trans ho) hf
  | case4 cs value left hr f hf ih =>
    cases h
    exact ih (((readEscape_suffix hr).trans (List.suffix_cons _ _)).trans ho) hf
  | case5 => cases h
  | case6 => cases h
  | case7 c cs _ _ _ f hf ih =>
    cases h
    exact ih ((List.suffix_cons _ _).trans ho) hf
  | case8 => cases h

theorem readTemplate_fault {depth : Nat} (ho : cs <:+ opening)
    (h : readTemplate opening depth cs = .error fault) : fault.rest <:+ opening := by
  fun_induction readTemplate opening depth cs generalizing fault with
  | case1 =>
    cases h
    exact List.suffix_refl _
  | case2 => cases h
  | case3 cs f hf =>
    cases h
    exact readEscape_fault ((List.suffix_cons _ _).trans ho) hf
  | case4 cs value left hr f hf ih =>
    cases h
    exact ih (((readEscape_suffix hr).trans (List.suffix_cons _ _)).trans ho) hf
  | case5 => cases h
  | case6 cs f hf ih =>
    cases h
    exact ih (((List.suffix_cons _ _).trans (List.suffix_cons _ _)).trans ho) hf
  | case7 => cases h
  | case8 =>
    rename_i hf ih
    cases h
    exact ih ((List.suffix_cons _ _).trans ho) hf
  | case9 => cases h

theorem scanToken_fault {c : Char} (h : scanToken c cs = .error fault) :
    fault.rest <:+ c :: cs := by
  have ho : cs <:+ c :: cs := List.suffix_cons _ _
  unfold scanToken at h
  split at h
  · cases h
  split at h
  · cases h
  split at h
  · exact readString_fault ho (eq_error_of_map_eq_error h)
  split at h
  · exact readTemplate_fault ho (eq_error_of_map_eq_error h)
  split at h
  · cases h
  · cases h
  · split at h
    · cases h
    · cases h
      exact List.suffix_refl _

theorem skipTrivia_fault (h : skipTrivia cs = .error fault) : fault.rest <:+ cs := by
  fun_induction skipTrivia cs with
  | case1 => cases h
  | case2 cs ih =>
    have hline := (ih h).trans (List.dropWhile_suffix _)
    exact (hline.trans (List.suffix_cons _ _)).trans (List.suffix_cons _ _)
  | case3 cs left hleft ih =>
    have hblock := (ih h).trans (afterComment_suffix hleft)
    exact (hblock.trans (List.suffix_cons _ _)).trans (List.suffix_cons _ _)
  | case4 =>
    cases h
    exact List.suffix_refl _
  | case5 c cs _ _ _ ih => exact (ih h).trans (List.suffix_cons _ _)
  | case6 => cases h

/-! ## Texts that are refused -/

/-- **A text is refused for a fault**: in what is skipped, at a token, or behind one. -/
inductive Refused : List Char → ScanFault → Prop where
  | skipping {cs : List Char} {fault : ScanFault} (hs : skipTrivia cs = .error fault) :
    Refused cs fault
  | scanning {cs body : List Char} {c : Char} {fault : ScanFault}
      (hs : skipTrivia cs = .ok (c :: body)) (ht : scanToken c body = .error fault) :
    Refused cs fault
  | behind {cs body rest : List Char} {c : Char} {kind : TokenKind} {fault : ScanFault}
      (hs : skipTrivia cs = .ok (c :: body)) (ht : scanToken c body = .ok (kind, rest))
      (h : Refused rest fault) : Refused cs fault

/-- **A text is refused at any offset or at none.** -/
theorem tokensFrom_eq_error_iff {offset : Nat} :
    tokensFrom offset cs = .error fault ↔ Refused cs fault := by
  constructor
  · intro h
    fun_induction tokensFrom offset cs with
    | case1 offset cs f hs =>
      cases h
      exact .skipping hs
    | case2 => cases h
    | case3 offset cs c body hs f ht =>
      cases h
      exact .scanning hs ht
    | case4 offset cs c body hs kind rest ht trivia text token f hf ih =>
      cases h
      exact .behind hs ht (ih hf)
    | case5 => cases h
  · intro h
    induction h generalizing offset with
    | skipping hs =>
      rw [tokensFrom]
      split <;> rename_i hf <;> cases hs.symm.trans hf
      rfl
    | scanning hs ht =>
      rw [tokensFrom]
      split <;> rename_i hf <;> cases hs.symm.trans hf
      split <;> rename_i hf <;> cases ht.symm.trans hf
      rfl
    | behind hs ht _ ih =>
      rw [tokensFrom]
      split <;> rename_i hf <;> cases hs.symm.trans hf
      split <;> rename_i hf <;> cases ht.symm.trans hf
      dsimp only
      rw [ih]

/-- **The text from the place of a fault on is an end of the text.** -/
theorem Refused.suffix (h : Refused cs fault) : fault.rest <:+ cs := by
  induction h with
  | skipping hs => exact skipTrivia_fault hs
  | scanning hs ht => exact (scanToken_fault ht).trans (skipTrivia_suffix hs)
  | behind hs ht _ ih =>
    exact ((ih.trans (scanToken_suffix ht)).trans (List.suffix_cons _ _)).trans
      (skipTrivia_suffix hs)

/-- What is skipped before a text makes no difference to its faults. -/
theorem Refused.of_skipTrivia_eq {ds : List Char} (h : Refused cs fault)
    (hs : skipTrivia ds = skipTrivia cs) : Refused ds fault := by
  cases h with
  | skipping h => exact .skipping (hs.trans h)
  | scanning h ht => exact .scanning (hs.trans h) ht
  | behind h ht hrest => exact .behind (hs.trans h) ht hrest

/-- A text is refused if scanning it from its start is. -/
theorem tokenize_eq_error_iff {text : String} {fault : SyntaxFault} :
    tokenize text = .error fault
      ↔ ∃ f : ScanFault, Refused text.toList f ∧ f.locate text.toList = fault := by
  unfold tokenize
  constructor
  · intro h
    split at h
    · rename_i f hf
      exact ⟨f, tokensFrom_eq_error_iff.mp hf, Except.error.inj h⟩
    · cases h
  · rintro ⟨f, hf, rfl⟩
    rw [tokensFrom_eq_error_iff.mpr hf]

end TypeTest

import Mathlib.Data.List.Basic
import TypeTest.Script.Cursor
import TypeTest.Script.Token.Scan

/-!
# Tokens stand in order

The tokens of a text follow each other without overlapping; each covers some text but
the last, which is the end token, and there is no other end token. A cursor **on** such
a list of tokens stands between what it has passed and what is left, so two cursors on
the same list are compared by how many tokens they have left, and offsets follow.
-/

namespace TypeTest

/-- **Tokens that end once**: the end token is the last one and no other. -/
def Token.EndOnce (ts : List Token) : Prop :=
  ∃ before e, ts = before ++ [e] ∧ e.isEnd = true ∧ ∀ t ∈ before, t.isEnd = false

/-- **Tokens in order.** -/
structure Token.InOrder (ts : List Token) : Prop where
  /-- A token stops before the tokens after it start. -/
  pairwise : ts.Pairwise fun t u => t.stop ≤ u.start
  /-- Every token but the end token covers some text. -/
  nonempty : ∀ t ∈ ts, t.isEnd = false → t.start < t.stop
  /-- They end once. -/
  last : EndOnce ts

theorem Token.start_le_stop (t : Token) : t.start ≤ t.stop := Nat.le_add_right _ _

/-- The end token alone is in order. -/
theorem Token.InOrder.end {e : Token} (he : e.isEnd = true) : InOrder [e] where
  pairwise := List.pairwise_singleton _ _
  nonempty t ht hn := by
    rw [List.mem_singleton.mp ht, he] at hn
    exact absurd hn (by simp)
  last := ⟨[], e, rfl, he, fun _ h => absurd h List.not_mem_nil⟩

/-- A token before tokens in order. -/
theorem Token.InOrder.cons {t : Token} {ts : List Token} (h : InOrder ts)
    (ht : t.isEnd = false) (hs : t.start < t.stop) (hb : ∀ u ∈ ts, t.stop ≤ u.start) :
    InOrder (t :: ts) where
  pairwise := List.pairwise_cons.mpr ⟨hb, h.pairwise⟩
  nonempty u hu hn := by
    rcases List.mem_cons.mp hu with rfl | hu
    · exact hs
    · exact h.nonempty u hu hn
  last := by
    obtain ⟨before, e, rfl, he, hbefore⟩ := h.last
    exact ⟨t :: before, e, rfl, he, List.forall_mem_cons.mpr ⟨ht, hbefore⟩⟩

/-! ## What a token is read as -/

/-- A mapped result comes from a result. -/
theorem exists_of_map_eq_ok {ε α β : Type} {x : Except ε α} {f : α → β} {b : β}
    (h : x.map f = .ok b) : ∃ a, x = .ok a ∧ f a = b := by
  cases x with
  | error e => cases h
  | ok a => exact ⟨a, rfl, Except.ok.inj h⟩

/-- A mapped result is an error where the result is. -/
theorem eq_error_of_map_eq_error {ε α β : Type} {x : Except ε α} {f : α → β} {e : ε}
    (h : x.map f = .error e) : x = .error e := by
  cases x with
  | error e' => exact congrArg _ (Except.error.inj h)
  | ok a => cases h

/-- A result that is found is the result. -/
theorem eq_ok_of_toOption {ε α : Type} {x : Except ε α} {a : α} (h : x.toOption = some a) :
    x = .ok a := by
  cases x with
  | error e => cases h
  | ok b => exact congrArg _ (Option.some.inj h)

/-- Where no result is found, there is an error. -/
theorem exists_error_of_toOption {ε α : Type} {x : Except ε α} (h : x.toOption = none) :
    ∃ e, x = .error e := by
  cases x with
  | error e => exact ⟨e, rfl⟩
  | ok a => cases h

/-- An error that is found is the error. -/
theorem eq_error_of_test {ε α : Type} [DecidableEq ε] {x : Except ε α} {e : ε}
    (h : (match x with | .error found => decide (found = e) | .ok _ => false) = true) :
    x = .error e := by
  cases x with
  | error found => exact congrArg _ (of_decide_eq_true h)
  | ok a => cases h

/-- **What is read as a token** after the character `c`, with what is left: one case for each
way to begin. -/
inductive ScansTo (c : Char) (cs : List Char) : TokenKind → List Char → Prop
  | name (hc : isNameStart c = true) : ScansTo c cs .identifier (cs.dropWhile isNamePart)
  | number (hname : isNameStart c = false) (hc : c.isDigit = true) :
    ScansTo c cs .number (cs.dropWhile isNumberPart)
  | string {value rest : List Char} (hc : c = '"' ∨ c = '\'')
      (h : readString (c :: cs) c cs = .ok (value, rest)) :
    ScansTo c cs (.string (String.ofList value)) rest
  | template {value : TemplateValue} {rest : List Char} (hc : c = '\x60')
      (h : readTemplate (c :: cs) 0 cs = .ok (value, rest)) :
    ScansTo c cs (.template (String.ofList value.chars) value.substitutions) rest
  | arrow {rest : List Char} (hc : c = '=') (hcs : cs = '>' :: rest) : ScansTo c cs .arrow rest
  | ellipsis {rest : List Char} (hc : c = '.') (hcs : cs = '.' :: '.' :: rest) :
    ScansTo c cs .ellipsis rest
  | mark (hname : isNameStart c = false) (hdigit : c.isDigit = false)
      (hquote : c ∉ ['"', '\'', '\x60']) (hc : isPunctuation c = true)
      (harrow : c = '=' → cs.head? ≠ some '>') (hdots : c = '.' → ¬ ['.', '.'] <+: cs) :
    ScansTo c cs (.punct c) cs

/-- **A scanned token is what is read** after its first character, and that is scanned. -/
theorem scanToken_eq_ok_iff {c : Char} {cs rest : List Char} {kind : TokenKind} :
    scanToken c cs = .ok (kind, rest) ↔ ScansTo c cs kind rest := by
  constructor
  · intro h
    unfold scanToken at h
    split at h
    · cases h
      exact .name ‹_›
    rename_i hname
    split at h
    · cases h
      exact .number (Bool.eq_false_iff.mpr hname) ‹_›
    rename_i hdigit
    split at h
    · rename_i hc
      obtain ⟨r, hr, he⟩ := exists_of_map_eq_ok h
      cases he
      exact .string ((Bool.or_eq_true_iff.mp hc).imp eq_of_beq eq_of_beq) hr
    rename_i hquote
    split at h
    · rename_i hc
      obtain ⟨r, hr, he⟩ := exists_of_map_eq_ok h
      cases he
      exact .template (eq_of_beq hc) hr
    rename_i hbacktick
    split at h
    · cases h
      exact .arrow rfl rfl
    · cases h
      exact .ellipsis rfl rfl
    · rename_i harrow hdots
      split at h
      · rename_i hc
        cases h
        refine .mark (Bool.eq_false_iff.mpr hname) (Bool.eq_false_iff.mpr hdigit) ?_ hc ?_ ?_
        · simpa [not_or, and_assoc] using And.intro hquote hbacktick
        · rintro rfl hhead
          obtain ⟨more, rfl⟩ := List.head?_eq_some_iff.mp hhead
          exact harrow more rfl rfl
        · rintro rfl ⟨more, rfl⟩
          exact hdots more rfl rfl
      · cases h
  · intro h
    unfold scanToken
    cases h with
    | name hc => exact if_pos hc
    | number hname hc => rw [if_neg (Bool.eq_false_iff.mp hname), if_pos hc]
    | string hc h =>
      rcases hc with rfl | rfl
      all_goals
        rw [if_neg (by decide +kernel), if_neg (by decide), if_pos (by decide), h]
        rfl
    | template hc h =>
      subst hc
      rw [if_neg (by decide +kernel), if_neg (by decide), if_neg (by decide), if_pos (by decide),
        h]
      rfl
    | arrow hc hcs | ellipsis hc hcs =>
      subst hc hcs
      rfl
    | mark hname hdigit hquote hc harrow hdots =>
      simp only [List.mem_cons, List.not_mem_nil, or_false, not_or] at hquote
      rw [if_neg (Bool.eq_false_iff.mp hname), if_neg (Bool.eq_false_iff.mp hdigit),
        if_neg (by simp [hquote]), if_neg (by simp [hquote])]
      split
      · exact (harrow rfl rfl).elim
      · exact (hdots rfl (List.prefix_append ['.', '.'] _)).elim
      · exact if_pos hc

/-- A scanned token is not the end token. -/
theorem scanToken_ne_end {c : Char} {cs rest : List Char} {kind : TokenKind}
    (h : scanToken c cs = .ok (kind, rest)) : kind ≠ .endOfText := by
  rintro rfl
  cases scanToken_eq_ok_iff.mp h

/-! ## Scanning gives tokens in order -/

/-- What was read before a shorter rest takes some bytes. -/
theorem byteLength_readPart_pos {text rest : List Char} (h : rest.length < text.length) :
    0 < byteLength (readPart text rest).toList := by
  refine byteLength_pos _ (fun hnil => ?_)
  rw [readPart, String.toList_ofList] at hnil
  have hl := congrArg List.length hnil
  rw [List.length_take, List.length_nil] at hl
  omega

/-- **The tokens of a text are in order**, and none starts before the text. -/
theorem inOrder_tokensFrom {offset : Nat} {cs : List Char} {ts : List Token}
    (h : tokensFrom offset cs = .ok ts) :
    Token.InOrder ts ∧ ∀ t ∈ ts, offset ≤ t.start := by
  fun_induction tokensFrom offset cs generalizing ts with
  | case1 => cases h
  | case2 offset cs hs =>
    cases h
    refine ⟨.end rfl, fun t ht => ?_⟩
    rw [List.mem_singleton.mp ht]
    exact Nat.le_add_right _ _
  | case3 => cases h
  | case4 => cases h
  | case5 offset cs c body hs kind rest hk trivia text token more hm =>
    rename_i ih
    cases h
    obtain ⟨hin, hle⟩ := ih hm
    have hstart : offset ≤ token.start := Nat.le_add_right _ _
    have hpos : 0 < byteLength text.toList :=
      byteLength_readPart_pos (Nat.lt_succ_of_le (scanToken_length hk))
    have hstop : token.start < token.stop := Nat.lt_add_of_pos_right hpos
    refine ⟨hin.cons ?_ hstop hle, fun t ht => ?_⟩
    · exact beq_false_of_ne (scanToken_ne_end hk)
    · rcases List.mem_cons.mp ht with rfl | ht
      · exact hstart
      · have := hle t ht
        omega

/-- A text is tokenized if it is scanned from its start. -/
theorem tokenize_eq_ok {text : String} {ts : List Token} :
    tokenize text = .ok ts ↔ tokensFrom 0 text.toList = .ok ts := by
  unfold tokenize
  split
  · rename_i hf
    rw [hf]
    exact ⟨fun h => (by cases h), fun h => (by cases h)⟩
  · rename_i hf
    rw [hf]
    exact ⟨fun h => (by cases h; rfl), fun h => (by cases h; rfl)⟩

/-- **The tokens of a text are in order.** -/
theorem inOrder_tokenize {text : String} {ts : List Token} (h : tokenize text = .ok ts) :
    Token.InOrder ts :=
  (inOrder_tokensFrom (tokenize_eq_ok.mp h)).1

end TypeTest

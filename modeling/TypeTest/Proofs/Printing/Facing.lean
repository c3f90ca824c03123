import Mathlib.Logic.Basic
import TypeTest.Proofs.Parsing.Running
import TypeTest.Proofs.Printing.Lexemes

/-!
# Parsers in front of printed lexemes

A cursor **faces** lexemes if these are what is left of a printed text. What a parser
does there is said by `Comes`: it succeeds with what was printed and faces the lexemes
after it, or it refuses the script for nesting too deeply, and which of the two is told
by a condition on what was printed. Such statements compose along a parser from left to
right; a part that is too deep makes the whole fail, because nothing takes the fault
back.
-/

namespace TypeTest

namespace Lexeme

/-- A punctuation character. -/
def mark (p : Char) : Lexeme := ⟨.punct p, p.toString⟩

/-- The arrow of a function. -/
def arrow : Lexeme := ⟨.arrow, "=>"⟩

/-- A name or a word. -/
def word (text : String) : Lexeme := ⟨.identifier, text⟩

@[simp] theorem kind_mark (p : Char) : (mark p).kind = .punct p := rfl

theorem kind_mark_ne {p q : Char} (h : p ≠ q) : (mark p).kind ≠ .punct q :=
  fun he => h (TokenKind.punct.inj he)

end Lexeme

/-! ## Tokens by their lexemes -/

namespace Token

variable {t : Token}

theorem isPunct_of_lexeme {p : Char} (ht : t.lexeme = .mark p) (q : Char) :
    t.isPunct q = (p == q) := by
  have hkind : t.kind = .punct p := congrArg Lexeme.kind ht
  unfold Token.isPunct
  rw [hkind, Bool.eq_iff_iff, beq_iff_eq, beq_iff_eq]
  exact TokenKind.punct.injEq p q ▸ Iff.rfl

theorem isPunctOf_of_lexeme {p : Char} (ht : t.lexeme = .mark p) (qs : List Char) :
    t.isPunctOf qs = qs.contains p := by
  have hkind : t.kind = .punct p := congrArg Lexeme.kind ht
  unfold Token.isPunctOf
  rw [hkind]

/-- A token is none of several characters that its lexeme is not. -/
theorem isPunctOf_of_kind_ne {qs : List Char} (ht : ∀ q ∈ qs, t.kind ≠ .punct q) :
    t.isPunctOf qs = false := by
  unfold Token.isPunctOf
  split
  · rename_i p hp
    exact Bool.eq_false_iff.mpr fun hq => ht p (List.contains_iff_mem.mp hq) hp
  · rfl

theorem isWord_of_lexeme {text : String} (ht : t.lexeme = .word text) (word : String) :
    t.isWord word = (text == word) := by
  have hkind : t.kind = .identifier := congrArg Lexeme.kind ht
  have htext : t.text = text := congrArg Lexeme.text ht
  unfold Token.isWord Token.isIdentifier
  rw [hkind, htext]
  rfl

end Token

/-- **The cursor faces lexemes**: they are its current token and the tokens after it, and
then comes the end. No line breaks between them. -/
structure Cursor.Faces (c : Cursor) (ls : List Lexeme) : Prop where
  lexemes : (c.current :: c.rest).map Token.lexeme = ls ++ [.ending]
  unbroken : c.current.breaksLine = false
  spaced : ∀ t ∈ c.rest, t.Spaced

namespace Cursor.Faces

variable {c c' : Cursor} {l m : Lexeme} {ls ls' : List Lexeme}

theorem lexeme_current (h : c.Faces (l :: ls)) : c.current.lexeme = l :=
  (List.cons.inj h.lexemes).1

theorem kind (h : c.Faces (l :: ls)) : c.current.kind = l.kind :=
  congrArg Lexeme.kind h.lexeme_current

theorem text (h : c.Faces (l :: ls)) : c.current.text = l.text :=
  congrArg Lexeme.text h.lexeme_current

theorem isEnd_of_nil (h : c.Faces []) : c.current.isEnd = true := by
  have he : c.current.lexeme = .ending := (List.cons.inj h.lexemes).1
  have hk : c.current.kind = .endOfText := congrArg Lexeme.kind he
  unfold Token.isEnd
  rw [hk]
  rfl

theorem remaining_eq (h : c.Faces ls) : c.remaining = ls.length := by
  have hl := congrArg List.length h.lexemes
  rw [List.length_map, List.length_cons, List.length_append, List.length_singleton] at hl
  exact Nat.succ.inj hl

/-- Fewer tokens follow than before a lexeme and what stands in front of it. -/
theorem length_lt {before : List Lexeme} (h : c.Faces (before ++ l :: ls)) :
    ls.length < c.remaining := by
  rw [h.remaining_eq, List.length_append, List.length_cons]
  omega

/-- No line breaks before the tokens that are faced. -/
theorem breaksLine_of_mem (h : c.Faces ls) {t : Token} (ht : t ∈ c.current :: c.rest) :
    t.breaksLine = false := by
  rcases List.mem_cons.mp ht with rfl | ht
  · exact h.unbroken
  · show t.trivia.toList.contains '\n' = false
    rcases h.spaced t ht with ht | ⟨_, ht⟩
    · rw [ht]
      decide
    · rw [ht]
      decide

/-- A cursor further on faces what is left there. -/
theorem of_suffix (h : c.Faces ls) (hc : c'.current :: c'.rest <:+ c.current :: c.rest)
    (hlexemes : (c'.current :: c'.rest).map Token.lexeme = l :: ls' ++ [.ending]) :
    c'.Faces (l :: ls') := by
  refine ⟨hlexemes, h.breaksLine_of_mem (hc.subset List.mem_cons_self), fun t ht => ?_⟩
  -- the first token of all is no token after another one
  obtain ⟨before, hbefore⟩ := hc
  cases before with
  | nil =>
    rw [(List.cons.inj hbefore).2] at ht
    exact h.spaced t ht
  | cons b before =>
    refine h.spaced t ?_
    rw [← (List.cons.inj hbefore).2]
    exact List.mem_append_right _ (List.mem_cons_of_mem _ ht)

/-- The cursor goes over one lexeme. -/
theorem next (h : c.Faces (l :: ls)) : c.next.Faces ls := by
  obtain ⟨previous, current, rest, stored⟩ := c
  have hr := (List.cons.inj h.lexemes).2
  cases rest with
  | nil => cases ls <;> cases hr
  | cons t ts =>
    exact ⟨hr, h.breaksLine_of_mem (List.mem_cons_of_mem _ List.mem_cons_self),
      fun u hu => h.spaced u (List.mem_cons_of_mem _ hu)⟩

/-- Storing a node leaves the cursor where it is. -/
theorem store {form : Form Node} {range : TextRange} (h : c.Faces ls) :
    (c.store form range).Faces ls :=
  ⟨h.lexemes, h.unbroken, h.spaced⟩

theorem kindAhead_one (h : c.Faces (l :: m :: ls)) : c.kindAhead 1 = m.kind := by
  obtain ⟨previous, current, rest, stored⟩ := c
  have hr := (List.cons.inj h.lexemes).2
  cases rest with
  | nil => cases hr
  | cons t ts => exact congrArg Lexeme.kind (List.cons.inj hr).1

/-! ### What the current token is not -/

theorem isPunct_mark {p : Char} (h : c.Faces (.mark p :: ls)) (q : Char) :
    c.current.isPunct q = (p == q) :=
  Token.isPunct_of_lexeme h.lexeme_current q

theorem isPunctOf_mark {p : Char} (h : c.Faces (.mark p :: ls)) (qs : List Char) :
    c.current.isPunctOf qs = qs.contains p :=
  Token.isPunctOf_of_lexeme h.lexeme_current qs

theorem isIdentifier_eq (h : c.Faces (l :: ls)) :
    c.current.isIdentifier = (l.kind == .identifier) := by
  unfold Token.isIdentifier
  rw [h.kind]

theorem isEnd_eq (h : c.Faces (l :: ls)) : c.current.isEnd = (l.kind == .endOfText) := by
  unfold Token.isEnd
  rw [h.kind]

/-- The current token is none of several characters that its lexeme is not. -/
theorem isPunctOf_eq_false (h : c.Faces (l :: ls)) {qs : List Char}
    (hl : ∀ q ∈ qs, l.kind ≠ .punct q) : c.current.isPunctOf qs = false :=
  Token.isPunctOf_of_kind_ne fun q hq => h.kind ▸ hl q hq

theorem isPunct_eq_false (h : c.Faces (l :: ls)) {q : Char} (hl : l.kind ≠ .punct q) :
    c.current.isPunct q = false := by
  unfold Token.isPunct
  rw [h.kind]
  exact beq_false_of_ne hl

theorem isWordOf_eq (h : c.Faces (l :: ls)) (words : List String) :
    c.current.isWordOf words = (l.kind == .identifier && words.contains l.text) := by
  unfold Token.isWordOf
  rw [h.isIdentifier_eq, h.text]

end Cursor.Faces

/-- **The start of a printed text** faces what was printed. -/
theorem Cursor.exists_faces_printed {ls : List Lexeme} (h : ∀ l ∈ ls, l.Scans) :
    ∃ ts, tokenize (printed ls) = .ok ts ∧ (ofTokens ts).Faces ls := by
  obtain ⟨t, ts, htokens, hlexemes, htrivia, hspaced⟩ := exists_tokenize_printed h
  refine ⟨t :: ts, htokens, hlexemes, ?_, hspaced⟩
  show t.trivia.toList.contains '\n' = false
  rw [htrivia]
  rfl

/-! ## What a parser comes to -/

section Comes

variable {α β σ : Type} {r : Except SyntaxFault (α × Cursor)} {fits fits₁ : Prop}
  {Q : α → Prop} {Q₁ : β → Prop} {ls ls₁ : List Lexeme} {c c' : Cursor}

/-- **What a parser comes to** in front of printed lexemes: if these fit, something for
which `Q` holds, with the lexemes `ls` left; if they do not, they nest too deeply. -/
def Comes (r : Except SyntaxFault (α × Cursor)) (fits : Prop) (Q : α → Prop)
    (ls : List Lexeme) : Prop :=
  (fits → ∃ a c', r = .ok (a, c') ∧ Q a ∧ c'.Faces ls)
    ∧ (¬ fits → ∃ start, r = .error ⟨.tooDeeplyNested, start⟩)

theorem Comes.of_ok {a : α} (hQ : Q a) (hc : c.Faces ls) (hfits : fits) :
    Comes (.ok (a, c)) fits Q ls :=
  ⟨fun _ => ⟨a, c, rfl, hQ, hc⟩, fun hn => absurd hfits hn⟩

theorem Comes.of_fail (hfits : ¬ fits) : Comes (Parser.fail .tooDeeplyNested c) fits Q ls :=
  ⟨fun h => absurd h hfits, fun _ => ⟨_, rfl⟩⟩

theorem Comes.imp {Q' : α → Prop} (h : Comes r fits Q ls) (hQ : ∀ a, Q a → Q' a) :
    Comes r fits Q' ls := by
  refine ⟨fun hfits => ?_, h.2⟩
  obtain ⟨a, c', hr, ha, hc⟩ := h.1 hfits
  exact ⟨a, c', hr, hQ a ha, hc⟩

theorem Comes.congr {fits' : Prop} (h : Comes r fits Q ls) (hf : fits ↔ fits') :
    Comes r fits' Q ls := by
  rw [← propext hf]
  exact h

/-- **A parser goes on after its first part**, which has to fit for the whole to fit. -/
theorem Comes.bind {p : Parser β} {f : β → Parser α} (h : Comes (p c) fits₁ Q₁ ls₁)
    (hle : fits → fits₁)
    (hf : ∀ b c', Q₁ b → c'.Faces ls₁ → fits₁ → Comes (f b c') fits Q ls) :
    Comes ((p >>= f) c) fits Q ls := by
  by_cases h₁ : fits₁
  · obtain ⟨b, c₁, hp, hb, hc₁⟩ := h.1 h₁
    rw [Parser.bind_of_ok f hp]
    exact hf b c₁ hb hc₁ h₁
  · obtain ⟨start, hp⟩ := h.2 h₁
    rw [Parser.bind_of_error f hp]
    exact ⟨fun hfits => absurd (hle hfits) h₁, fun _ => ⟨start, rfl⟩⟩

/-- **A repetition goes on after a step** that takes lexemes. -/
theorem Comes.repeatWhile_step {step : σ → Parser (Option σ)} {s : σ} {Q : σ → Prop}
    {Q₁ : σ → Prop} (h : Comes (step s c) fits₁ (fun o => ∃ s', o = some s' ∧ Q₁ s') ls₁)
    (hlt : ls₁.length < c.remaining) (hle : fits → fits₁)
    (hf : ∀ s' c', Q₁ s' → c'.Faces ls₁ → fits₁ → Comes (Parser.repeatWhile step s' c') fits Q ls) :
    Comes (Parser.repeatWhile step s c) fits Q ls := by
  by_cases h₁ : fits₁
  · obtain ⟨_, c₁, hp, ⟨s', rfl, hs'⟩, hc₁⟩ := h.1 h₁
    rw [Parser.repeatWhile_of_lt hp (by rw [hc₁.remaining_eq]; exact hlt)]
    exact hf s' c₁ hs' hc₁ h₁
  · obtain ⟨start, hp⟩ := h.2 h₁
    rw [Parser.repeatWhile_of_error hp]
    exact ⟨fun hfits => absurd (hle hfits) h₁, fun _ => ⟨start, rfl⟩⟩

end Comes

/-! ## Single lexemes -/

namespace Parser

variable {c : Cursor} {p : Char} {l : Lexeme} {ls : List Lexeme}

theorem expect_mark (h : c.Faces (.mark p :: ls)) (expected : String) :
    expect p expected c = .ok (c.current, c.next) := by
  rw [expect_run, h.isPunct_mark, beq_self_eq_true, if_pos rfl]

theorem accept_mark (h : c.Faces (.mark p :: ls)) : accept p c = .ok (true, c.next) := by
  rw [accept_run, h.isPunct_mark, beq_self_eq_true, if_pos rfl]

theorem accept_of_ne (h : c.Faces (l :: ls)) (hl : l.kind ≠ .punct p) :
    accept p c = .ok (false, c) := by
  rw [accept_run, h.isPunct_eq_false hl, if_neg Bool.false_ne_true]

theorem name_word {text : String} (h : c.Faces (.word text :: ls)) (expected : String) :
    name expected c = .ok (text, c.next) := by
  rw [name_run, h.isIdentifier_eq, h.text]
  rfl

theorem skipIf_of_false {test : Token → Bool} (h : test c.current = false) :
    skipIf test c = .ok ((), c) := by
  rw [skipIf_run, h, if_neg Bool.false_ne_true]

theorem skipWhile_of_false {test : Cursor → Bool} (h : test c = false) :
    skipWhile test c = .ok ((), c) := by
  unfold skipWhile
  refine repeatWhile_of_none ?_
  rw [h]
  rfl

end Parser

/-- **What stands in brackets is read with the bracket that closes it.** -/
theorem Comes.close {α β : Type} {p : Parser β} {f : β → Parser α} {c : Cursor} {closer : Char}
    {expected : String} {fits : Prop} {Q₁ : β → Prop} {Q : α → Prop} {ls : List Lexeme}
    (h : Comes (p c) fits Q₁ (.mark closer :: ls))
    (hf : ∀ b c', Q₁ b → c'.Faces ls → fits → Comes (f b c') fits Q ls) :
    Comes ((p >>= fun b => Parser.expect closer expected >>= fun _ => f b) c) fits Q ls := by
  refine h.bind id (fun b c' hb hc' hfits => ?_)
  rw [Parser.bind_of_ok _ (Parser.expect_mark hc' _)]
  exact hf b c'.next hb hc'.next hfits

/-! ## Lists -/

/-- **Lexemes with commas between them.** -/
def commas : List (List Lexeme) → List Lexeme
  | [] => []
  | [ls] => ls
  | ls :: ms :: more => ls ++ .mark ',' :: commas (ms :: more)

namespace Parser

variable {α ι : Type}

section Listing

variable {closer : Char} {step : Listing α → Parser (Option (Listing α))} {item : Parser α}
  {lex : ι → List Lexeme} {fits : ι → Prop} {Q : ι → α → Prop} {rest left : List Lexeme}

/-- **What a step of a list comes to**: one item `i` more, and whether more may follow. -/
def StepReads (Q : ι → α → Prop) (i : ι) (before : List α) (more : Bool)
    (found : Option (Listing α)) : Prop :=
  ∃ s, found = some s ∧ ∃ x, Q i x ∧ s = ⟨x :: before, more⟩

/-- **The steps of a list read the items that are left**, if each step reads one: those
before a comma go on after it, and the last one ends the list. -/
theorem comes_listing (hend : ∀ before c, step ⟨before, false⟩ c = .ok (none, c)) :
    ∀ (i : ι) (items : List ι) (before : List α),
      (∀ j ∈ i :: items, ∀ c rest before, c.Faces (lex j ++ .mark ',' :: rest) →
        Comes (step ⟨before, true⟩ c) (fits j) (StepReads Q j before true) rest) →
      (∀ j ∈ i :: items, ∀ c before, c.Faces (lex j ++ .mark closer :: rest) →
        left.length < (lex j ++ .mark closer :: rest).length
          ∧ Comes (step ⟨before, true⟩ c) (fits j) (StepReads Q j before false) left) →
      ∀ c : Cursor, c.Faces (commas ((i :: items).map lex) ++ .mark closer :: rest) →
        Comes (repeatWhile step ⟨before, true⟩ c) (∀ j ∈ i :: items, fits j)
          (fun s => ∃ xs, List.Forall₂ Q (i :: items) xs ∧ s.items = xs.reverse ++ before)
          left := by
  -- on the items after the first one, since a comma follows every item but the last
  intro i items
  induction items generalizing i with
  | nil =>
    intro before _ hlast c hc
    have hself : i ∈ [i] := List.mem_singleton_self i
    have hfaces : c.Faces (lex i ++ .mark closer :: rest) := hc
    obtain ⟨hlt, hstep⟩ := hlast i hself c before hfaces
    refine hstep.repeatWhile_step (hfaces.remaining_eq ▸ hlt) (fun h => h i hself) ?_
    rintro s c' ⟨x, hx, rfl⟩ hc' hfits
    rw [repeatWhile_of_none (hend _ _)]
    refine .of_ok ⟨[x], .cons hx .nil, rfl⟩ hc' (fun j hj => ?_)
    rw [List.mem_singleton.mp hj]
    exact hfits
  | cons j items ih =>
    intro before hcomma hlast c hc
    have hself : i ∈ i :: j :: items := List.mem_cons_self
    have hfaces : c.Faces (lex i ++ .mark ',' :: (commas ((j :: items).map lex)
        ++ .mark closer :: rest)) := by
      rw [← List.cons_append, ← List.append_assoc]
      exact hc
    refine (hcomma i hself c _ before hfaces).repeatWhile_step hfaces.length_lt
      (fun h => h i hself) ?_
    rintro s c' ⟨x, hx, rfl⟩ hc' hfits
    have hrest := ih j (x :: before) (fun k hk => hcomma k (List.mem_cons_of_mem _ hk))
      (fun k hk => hlast k (List.mem_cons_of_mem _ hk)) c' hc'
    refine (hrest.imp ?_).congr ?_
    · rintro s ⟨xs, hxs, hs⟩
      refine ⟨x :: xs, .cons hx hxs, ?_⟩
      rw [hs, List.reverse_cons, List.append_assoc]
      rfl
    · rw [List.forall_mem_cons (a := i)]
      exact ⟨fun h => ⟨hfits, h⟩, fun h => h.2⟩

/-- A step of a list separated by commas goes over an item and the comma after it. -/
theorem comes_commaStep {i : ι} {p : Char} (hp : p = ',' ∨ p = closer)
    (hopen : ∃ l ls, lex i = l :: ls ∧ l.kind ≠ .punct closer)
    (hitem : ∀ c, c.Faces (lex i ++ .mark p :: rest) →
      Comes (item c) (fits i) (Q i) (.mark p :: rest))
    {c : Cursor} (hc : c.Faces (lex i ++ .mark p :: rest)) (before : List α) :
    Comes (commaStep closer item ⟨before, true⟩ c) (fits i) (StepReads Q i before (p == ','))
      (if p = ',' then rest else .mark p :: rest) := by
  obtain ⟨l, ls, hlex, hl⟩ := hopen
  have hclosed : c.current.isPunct closer = false := by
    rw [hlex] at hc
    exact hc.isPunct_eq_false hl
  unfold commaStep
  rw [atPunct_bind, hclosed]
  show Comes ((item >>= fun x => accept ',' >>= fun more => _) c) _ _ _
  refine (hitem c hc).bind id (fun x c₁ hx hc₁ hfits => ?_)
  -- the comma after an item is taken with it, a closing bracket is left
  by_cases hp' : p = ','
  · subst hp'
    rw [if_pos rfl, bind_of_ok _ (accept_mark hc₁)]
    exact .of_ok ⟨_, rfl, x, hx, rfl⟩ hc₁.next hfits
  · rw [if_neg hp', beq_false_of_ne hp', bind_of_ok _ (accept_of_ne hc₁ (Lexeme.kind_mark_ne hp'))]
    exact .of_ok ⟨_, rfl, x, hx, rfl⟩ hc₁ hfits

/-- **A printed list is read**, up to its closing bracket, if each of its items is. -/
theorem comes_commaList (hcloser : closer ≠ ',') {items : List ι}
    (hopen : ∀ i ∈ items, ∃ l ls, lex i = l :: ls ∧ l.kind ≠ .punct closer)
    (hitem : ∀ i ∈ items, ∀ p, p = ',' ∨ p = closer → ∀ c rest,
      c.Faces (lex i ++ .mark p :: rest) → Comes (item c) (fits i) (Q i) (.mark p :: rest))
    {c : Cursor} (hc : c.Faces (commas (items.map lex) ++ .mark closer :: rest)) :
    Comes (commaList closer item c) (∀ i ∈ items, fits i) (List.Forall₂ Q items)
      (.mark closer :: rest) := by
  unfold commaList
  cases items with
  | nil =>
    have hfaces : c.Faces (.mark closer :: rest) := hc
    have hnone : commaStep closer item ⟨[], true⟩ c = .ok (none, c) := by
      unfold commaStep
      rw [atPunct_bind, hfaces.isPunct_mark, beq_self_eq_true]
      rfl
    rw [bind_of_ok _ (repeatWhile_of_none hnone)]
    exact .of_ok .nil hfaces (fun i hi => absurd hi List.not_mem_nil)
  | cons i items =>
    have hlist : Comes (repeatWhile (commaStep closer item) ⟨[], true⟩ c)
        (∀ j ∈ i :: items, fits j)
        (fun s => ∃ xs, List.Forall₂ Q (i :: items) xs ∧ s.items = xs.reverse ++ [])
        (.mark closer :: rest) := by
      refine comes_listing (fun _ _ => rfl) i items [] ?_ ?_ c hc
      · intro j hj c rest before hc
        have := comes_commaStep (.inl rfl) (hopen j hj) (hitem j hj ',' (.inl rfl) · rest) hc before
        rwa [if_pos rfl] at this
      · intro j hj c before hc
        have := comes_commaStep (.inr rfl) (hopen j hj) (hitem j hj closer (.inr rfl) · _) hc before
        rw [if_neg hcloser, beq_false_of_ne hcloser] at this
        refine ⟨?_, this⟩
        obtain ⟨l, ls, hl, _⟩ := hopen j hj
        rw [hl]
        simp only [List.length_append, List.length_cons]
        omega
    refine hlist.bind id ?_
    rintro s c' ⟨xs, hxs, hs⟩ hc' hfits
    refine .of_ok ?_ hc' hfits
    rw [hs, List.append_nil, List.reverse_reverse]
    exact hxs

/-- A step of a list in angle brackets goes over an item and what follows it. -/
theorem comes_angleStep {i : ι} {p : Char} (hp : p = ',' ∨ p = '>')
    (hitem : ∀ c, c.Faces (lex i ++ .mark p :: rest) →
      Comes (item c) (fits i) (Q i) (.mark p :: rest))
    {c : Cursor} (hc : c.Faces (lex i ++ .mark p :: rest)) (before : List α) :
    Comes (angleStep item ⟨before, true⟩ c) (fits i) (StepReads Q i before (p == ',')) rest := by
  unfold angleStep
  show Comes ((item >>= fun x => accept '>' >>= fun closed => _) c) _ _ _
  refine (hitem c hc).bind id (fun x c₁ hx hc₁ hfits => ?_)
  rcases hp with rfl | rfl
  · rw [bind_of_ok _ (accept_of_ne hc₁ (Lexeme.kind_mark_ne (by decide)))]
    show Comes ((expect ',' _ >>= fun _ => _) c₁) _ _ _
    rw [bind_of_ok _ (expect_mark hc₁ _)]
    exact .of_ok ⟨_, rfl, x, hx, rfl⟩ hc₁.next hfits
  · rw [bind_of_ok _ (accept_mark hc₁)]
    exact .of_ok ⟨_, rfl, x, hx, rfl⟩ hc₁.next hfits

/-- **A printed list in angle brackets is read** if each of its items is. -/
theorem comes_angleList {i : ι} {items : List ι}
    (hitem : ∀ j ∈ i :: items, ∀ p, p = ',' ∨ p = '>' → ∀ c rest,
      c.Faces (lex j ++ .mark p :: rest) → Comes (item c) (fits j) (Q j) (.mark p :: rest))
    {c : Cursor}
    (hc : c.Faces (.mark '<' :: (commas ((i :: items).map lex) ++ .mark '>' :: rest))) :
    Comes (angleList item c) (∀ j ∈ i :: items, fits j) (List.Forall₂ Q (i :: items)) rest := by
  unfold angleList
  rw [bind_of_ok _ (expect_mark hc _)]
  have hlist : Comes (repeatWhile (angleStep item) ⟨[], true⟩ c.next) (∀ j ∈ i :: items, fits j)
      (fun s => ∃ xs, List.Forall₂ Q (i :: items) xs ∧ s.items = xs.reverse ++ []) rest := by
    refine comes_listing (fun _ _ => rfl) i items [] ?_ ?_ c.next hc.next
    · exact fun j hj c rest before hc =>
        comes_angleStep (.inl rfl) (hitem j hj ',' (.inl rfl) · rest) hc before
    · intro j hj c before hc
      refine ⟨?_, comes_angleStep (.inr rfl) (hitem j hj '>' (.inr rfl) · _) hc before⟩
      simp only [List.length_append, List.length_cons]
      omega
  refine hlist.bind id ?_
  rintro s c' ⟨xs, hxs, hs⟩ hc' hfits
  refine .of_ok ?_ hc' hfits
  rw [hs, List.append_nil, List.reverse_reverse]
  exact hxs

end Listing

end Parser

end TypeTest

import TypeTest.Proofs.Parsing.Comparison

/-!
# Two runs of a parser

What a parser comes to on two texts side by side is said by `Follows`: both runs succeed and
a relation holds of what they give and where they stop, or both refuse their texts, and for
the same cause if the texts end together. Such statements compose along a parser, and a
repetition follows if each of its steps does. They are shown here from single tokens to lists
and types; an expression or a statement then needs only the composition of its parts.
-/

namespace TypeTest

open TypeTest.Parser

variable {α β γ δ σ τ : Type}

/-! ## What two runs come to -/

/-- **What may be left open** of the second run, the second text going on. -/
inductive Slack where
  /-- Nothing. -/
  | exact
  /-- What it does after the first run refused its text. -/
  | refusing
  /-- What it does after the first run came to the end of its text. -/
  | spending

/-- Whether the second run is left open after `r`. -/
def Slack.Allows : Slack → Except SyntaxFault (α × Cursor) → Prop
  | exact, _ => False
  | refusing, r => ∃ fault, r = .error fault
  | spending, r => ∀ a c, r = .ok (a, c) → c.AtEnd

/-- The parser does not leave the end of a text, if it matters. -/
def Slack.Ends (s : Slack) (p : Parser α) : Prop :=
  s = .spending → ∀ c, c.AtEnd → Slack.spending.Allows (p c)

/-- What is left open of a run that does not end at the end of its text. -/
def Slack.closed : Slack → Slack
  | exact => exact
  | _ => refusing

namespace Comparison

variable {K : Comparison} {s s₁ : Slack} {fresh : Bool} {c c' : Cursor}

/-- **What two runs come to**: `P` holds of what they give and of the cursors after it, or
they refuse their texts. -/
inductive Follows (K : Comparison) (s : Slack) (P : α → β → Cursor → Cursor → Prop) :
    Except SyntaxFault (α × Cursor) → Except SyntaxFault (β × Cursor) → Prop where
  | ok {a : α} {b : β} {c c' : Cursor} : P a b c c' → Follows K s P (.ok (a, c)) (.ok (b, c'))
  | fault {f f' : SyntaxFault} : (K.more = none → f.cause = f'.cause) →
    Follows K s P (.error f) (.error f')
  | gone {r : Except SyntaxFault (α × Cursor)} {r' : Except SyntaxFault (β × Cursor)} :
    K.more ≠ none → s.Allows r → Follows K s P r r'

/-- **The runs agree**: they give what compares by `Q` and stop side by side. -/
abbrev Agree (K : Comparison) (s : Slack) (Q : α → β → Prop) :
    Except SyntaxFault (α × Cursor) → Except SyntaxFault (β × Cursor) → Prop :=
  K.Follows s fun a b c c' => Q a b ∧ K.Beside false c c'

variable {P : α → β → Cursor → Cursor → Prop} {P₁ : γ → δ → Cursor → Cursor → Prop}
  {r : Except SyntaxFault (α × Cursor)} {r' : Except SyntaxFault (β × Cursor)}

/-- A run that refuses its text is spent. -/
theorem spending_of_error {f : SyntaxFault} (h : r = .error f) : Slack.spending.Allows r := by
  intro a c hr
  cases h.symm.trans hr

theorem Follows.imp {P' : α → β → Cursor → Cursor → Prop} (h : K.Follows s P r r')
    (hP : ∀ a b c c', P a b c c' → P' a b c c') : K.Follows s P' r r' := by
  cases h with
  | ok h => exact .ok (hP _ _ _ _ h)
  | fault h => exact .fault h
  | gone hm h => exact .gone hm h

/-- **Two runs go on after their first parts.** -/
theorem Follows.bind_of_allows {p : Parser γ} {q : Parser δ} {f : γ → Parser α}
    {g : δ → Parser β} (h : K.Follows s₁ P₁ (p c) (q c'))
    (hgone : s₁.Allows (p c) → s.Allows ((p >>= f) c))
    (hf : ∀ a b c₁ c₁', P₁ a b c₁ c₁' → K.Follows s P (f a c₁) (g b c₁')) :
    K.Follows s P ((p >>= f) c) ((q >>= g) c') := by
  generalize hp : p c = r₁ at h hgone
  generalize hq : q c' = r₂ at h
  cases h with
  | ok h =>
    rw [bind_of_ok f hp, bind_of_ok g hq]
    exact hf _ _ _ _ h
  | fault h =>
    rw [bind_of_error f hp, bind_of_error g hq]
    exact .fault h
  | gone hm h => exact .gone hm (hgone h)

/-- Two runs go on after their first parts, if what comes then does not leave the end. -/
theorem Follows.bind {p : Parser γ} {q : Parser δ} {f : γ → Parser α} {g : δ → Parser β}
    (h : K.Follows s P₁ (p c) (q c')) (hend : ∀ a, s.Ends (f a))
    (hf : ∀ a b c₁ c₁', P₁ a b c₁ c₁' → K.Follows s P (f a c₁) (g b c₁')) :
    K.Follows s P ((p >>= f) c) ((q >>= g) c') := by
  refine h.bind_of_allows (fun hp => ?_) hf
  cases s with
  | exact => exact hp
  | refusing =>
    obtain ⟨fault, hp⟩ := hp
    exact ⟨fault, bind_of_error f hp⟩
  | spending =>
    intro a c₂ h₂
    obtain ⟨b, c₁, hb, h₂⟩ := bind_eq_ok.mp h₂
    exact hend b rfl c₁ (hp b c₁ hb) a c₂ h₂

/-- Two runs go on after first parts that leave nothing open but refusals. -/
theorem Follows.andThen {p : Parser γ} {q : Parser δ} {f : γ → Parser α} {g : δ → Parser β}
    (h : K.Follows .refusing P₁ (p c) (q c'))
    (hf : ∀ a b c₁ c₁', P₁ a b c₁ c₁' → K.Follows .refusing P (f a c₁) (g b c₁')) :
    K.Follows .refusing P ((p >>= f) c) ((q >>= g) c') := by
  refine h.bind_of_allows ?_ hf
  rintro ⟨fault, hp⟩
  exact ⟨fault, bind_of_error f hp⟩

/-- After such parts more may be left open. -/
theorem Follows.andThen_spending {p : Parser γ} {q : Parser δ} {f : γ → Parser α}
    {g : δ → Parser β} (h : K.Follows .refusing P₁ (p c) (q c'))
    (hf : ∀ a b c₁ c₁', P₁ a b c₁ c₁' → K.Follows .spending P (f a c₁) (g b c₁')) :
    K.Follows .spending P ((p >>= f) c) ((q >>= g) c') := by
  refine h.bind_of_allows ?_ hf
  rintro ⟨fault, hp⟩
  exact spending_of_error (bind_of_error f hp)

/-- **What closes refuses the end**, so nothing is left open after it but refusals. -/
theorem Follows.bind_closed {p : Parser γ} {q : Parser δ} {f : γ → Parser α}
    {g : δ → Parser β} (h : K.Follows s P₁ (p c) (q c'))
    (hend : ∀ a c, c.AtEnd → ∃ fault, f a c = .error fault)
    (hf : ∀ a b c₁ c₁', P₁ a b c₁ c₁' → K.Follows s.closed P (f a c₁) (g b c₁')) :
    K.Follows s.closed P ((p >>= f) c) ((q >>= g) c') := by
  refine h.bind_of_allows (fun hp => ?_) hf
  cases s with
  | exact => exact hp
  | refusing =>
    obtain ⟨fault, hp⟩ := hp
    exact ⟨fault, bind_of_error f hp⟩
  | spending =>
    cases hb : (p c) with
    | error fault => exact ⟨fault, bind_of_error f hb⟩
    | ok x =>
      obtain ⟨fault, hf⟩ := hend x.1 x.2 (hp x.1 x.2 hb)
      exact ⟨fault, (bind_of_ok f hb).trans hf⟩

end Comparison

theorem Slack.ends_of_ne {s : Slack} (h : s ≠ .spending) (p : Parser α) : s.Ends p :=
  fun hs => absurd hs h

theorem Slack.ends_refusing (p : Parser α) : Slack.refusing.Ends p := nofun

namespace Comparison

variable {K : Comparison} {s : Slack} {fresh : Bool} {c c' : Cursor} {p : Char}
  {inner : Inner}

/-! ## At the end of a text -/

/-- At the end of a text stands no character of punctuation. -/
theorem isPunct_of_atEnd (h : c.AtEnd) (p : Char) : c.current.isPunct p = false := by
  unfold Token.isPunct
  rw [eq_of_beq h.isEnd]
  rfl

theorem refuse_eq_error (expected : String) (c : Cursor) :
    ∃ fault, (refuse expected c : Except SyntaxFault (α × Cursor)) = .error fault := by
  unfold refuse
  split <;> exact ⟨_, rfl⟩

theorem expect_of_atEnd (h : c.AtEnd) (expected : String) :
    ∃ fault, expect p expected c = .error fault := by
  rw [expect_run, isPunct_of_atEnd h, if_neg Bool.false_ne_true]
  exact refuse_eq_error expected c

theorem accept_of_atEnd (h : c.AtEnd) : accept p c = .ok (false, c) := by
  rw [accept_run, isPunct_of_atEnd h, if_neg Bool.false_ne_true]

theorem name_of_atEnd (h : c.AtEnd) (expected : String) :
    ∃ fault, name expected c = .error fault := by
  have hi : c.current.isIdentifier = false := by
    unfold Token.isIdentifier
    rw [eq_of_beq h.isEnd]
    rfl
  rw [name_run, hi, if_neg Bool.false_ne_true]
  exact refuse_eq_error expected c

/-! ## Single tokens -/

/-- **A refusal follows a refusal**, of the same token. -/
theorem follows_refuse (h : K.Beside fresh c c') (expected : String)
    {P : α → β → Cursor → Cursor → Prop} :
    K.Follows s P (refuse expected c) (refuse expected c') := by
  unfold refuse
  cases he : c.current.isEnd with
  | false =>
    have hs := h.same he
    rw [← hs.isEnd, he, if_neg Bool.false_ne_true, if_neg Bool.false_ne_true]
    refine .fault fun _ => ?_
    show SyntaxCause.unexpectedToken _ _ = .unexpectedToken _ _
    rw [hs.text]
  | true =>
    obtain ⟨_, ⟨_, he'⟩ | ⟨hm, _⟩⟩ := h.of_isEnd he
    · rw [he', if_pos rfl, if_pos rfl]
      exact .fault fun _ => rfl
    · rw [if_pos rfl]
      split <;> exact .fault fun hn => absurd hn hm

theorem follows_accept (h : K.Beside fresh c c') (hp : p ≠ ';') :
    K.Follows s (fun a b c c' => a = b ∧ K.Beside fresh c c') (accept p c) (accept p c') := by
  rw [accept_run, accept_run, ← h.similar.isPunct hp]
  cases hc : c.current.isPunct p with
  | false => exact .ok ⟨rfl, h⟩
  | true => exact .ok ⟨rfl, (h.next (isEnd_of_isPunct hc)).weaken⟩

/-- What holds after a token that has to stand here holds after it was read. -/
theorem follows_expect_of (h : K.Beside fresh c c') (hp : p ≠ ';') (expected : String)
    {P : Token → Token → Cursor → Cursor → Prop}
    (hP : c.current.isPunct p = true → P c.current c'.current c.next c'.next) :
    K.Follows s P (expect p expected c) (expect p expected c') := by
  rw [expect_run, expect_run, ← h.similar.isPunct hp]
  cases hc : c.current.isPunct p with
  | false => exact follows_refuse h expected
  | true => exact .ok (hP hc)

theorem follows_expect (h : K.Beside fresh c c') (hp : p ≠ ';') (expected : String) :
    K.Agree s (fun t u => K.Offsets t.start u.start) (expect p expected c)
      (expect p expected c') :=
  follows_expect_of h hp expected fun hc => ⟨h.start, h.next (isEnd_of_isPunct hc)⟩

theorem follows_name (h : K.Beside fresh c c') (expected : String) :
    K.Agree s Eq (name expected c) (name expected c') := by
  rw [name_run, name_run, ← h.similar.isIdentifier]
  cases hc : c.current.isIdentifier with
  | false => exact follows_refuse h expected
  | true => exact .ok ⟨h.similar.text (eq_of_beq hc), h.next (isEnd_of_isIdentifier hc)⟩

theorem follows_skipIf {test : Token → Bool} (h : K.Beside fresh c c')
    (htest : test c.current = test c'.current)
    (hend : test c.current = true → c.current.isEnd = false) :
    K.Follows s (fun _ _ c c' => K.Beside fresh c c') (skipIf test c) (skipIf test c') := by
  rw [skipIf_run, skipIf_run, ← htest]
  cases hc : test c.current with
  | false => exact .ok h
  | true => exact .ok (h.next (hend hc)).weaken

/-- **Nodes of forms that are alike** over what was read are alike. -/
theorem follows_node {start start' : Nat} {form form' : Form Node}
    (hs : K.Offsets start start') (hf : Form.Like K.Like K.Texts form form')
    (h : K.Beside false c c') : K.Agree s K.Like (node start form c) (node start' form' c') :=
  .ok ⟨K.like hf (K.ranges hs h.previousStop) h.indices, h.store⟩

/-! ## Repetition -/

/-- What a step of two repetitions comes to: both end or both go on. -/
inductive Stepped {σ τ : Type} (I : σ → τ → Cursor → Cursor → Prop) (a : σ) (b : τ) :
    Option σ → Option τ → Cursor → Cursor → Prop where
  | none {c c' : Cursor} : I a b c c' → Stepped I a b none none c c'
  | some {a' : σ} {b' : τ} {c c' : Cursor} : I a' b' c c' →
    Stepped I a b (some a') (some b') c c'

/-- A repetition does not leave the end if its step does not. -/
theorem spending_repeatWhile {step : σ → Parser (Option σ)}
    (hend : ∀ a c, c.AtEnd → Slack.spending.Allows (step a c)) (a : σ) (h : c.AtEnd) :
    Slack.spending.Allows (repeatWhile step a c) := by
  have hr : c.remaining = 0 := congrArg List.length h.rest
  cases hs : step a c with
  | error f => exact spending_of_error (repeatWhile_of_error hs)
  | ok x =>
    obtain ⟨o, c₁⟩ := x
    have h₁ := hend a c h o c₁ hs
    have hrun : ∃ b, repeatWhile step a c = .ok (b, c₁) := by
      cases o with
      | none => exact ⟨a, repeatWhile_of_none hs⟩
      | some b => exact ⟨b, repeatWhile_of_not_lt hs (by omega)⟩
    obtain ⟨b, hb⟩ := hrun
    intro a' c₂ h₂
    cases hb.symm.trans h₂
    exact h₁

/-- **Two repetitions follow each other if their steps do**, as long as the cursors keep
their distance. -/
theorem Follows.repeatWhile {I : σ → τ → Cursor → Cursor → Prop}
    {step : σ → Parser (Option σ)} {step' : τ → Parser (Option τ)}
    (hremaining : ∀ a b c c', I a b c c' → c'.remaining = c.remaining + K.extra)
    (hend : ∀ a, s.Ends (step a))
    (hstep : ∀ a b c c', I a b c c' → K.Follows s (Stepped I a b) (step a c) (step' b c'))
    {a : σ} {b : τ} (hI : I a b c c') :
    K.Follows s I (Parser.repeatWhile step a c) (Parser.repeatWhile step' b c') := by
  -- by induction on the tokens left of the first text
  induction hn : c.remaining using Nat.strongRecOn generalizing a b c c' with
  | _ n ih =>
    subst hn
    have h := hstep a b c c' hI
    have hc := hremaining _ _ _ _ hI
    generalize hp : step a c = r at h
    generalize hq : step' b c' = r' at h
    cases h with
    | fault h =>
      rw [repeatWhile_of_error hp, repeatWhile_of_error hq]
      exact .fault h
    | @ok o o' c₁ c₁' h =>
      cases h with
      | none h =>
        rw [repeatWhile_of_none hp, repeatWhile_of_none hq]
        exact .ok h
      | @some a' b' _ _ h =>
        have hc₁ := hremaining _ _ _ _ h
        by_cases hlt : c₁.remaining < c.remaining
        · rw [repeatWhile_of_lt hp hlt, repeatWhile_of_lt hq (by omega)]
          exact ih _ hlt h rfl
        · rw [repeatWhile_of_not_lt hp hlt, repeatWhile_of_not_lt hq (by omega)]
          exact .ok h
    | gone hm h =>
      refine .gone hm ?_
      cases s with
      | exact => exact h
      | refusing =>
        obtain ⟨f, rfl⟩ := h
        exact ⟨f, repeatWhile_of_error hp⟩
      | spending =>
        cases r with
        | error f => exact spending_of_error (repeatWhile_of_error hp)
        | ok x =>
          obtain ⟨o, c₁⟩ := x
          have h₁ := h o c₁ rfl
          cases o with
          | none =>
            rw [repeatWhile_of_none hp]
            intro _ _ he
            cases he
            exact h₁
          | some a' =>
            by_cases hlt : c₁.remaining < c.remaining
            · rw [repeatWhile_of_lt hp hlt]
              exact spending_repeatWhile (fun a c => hend a rfl c) a' h₁
            · rw [repeatWhile_of_not_lt hp hlt]
              intro _ _ he
              cases he
              exact h₁

/-- At the end of a text no token is skipped. -/
theorem spending_skipStep {test : Cursor → Bool}
    (hend : ∀ c, test c = true → c.current.isEnd = false) (h : c.AtEnd) :
    Slack.spending.Allows
      ((if test c then .ok (some (), c.next) else .ok (none, c) :
        Except SyntaxFault (Option Unit × Cursor))) := by
  have htest : test c = false := by
    refine Bool.eq_false_iff.mpr fun ht => ?_
    exact absurd ((hend c ht).symm.trans h.isEnd) (by decide)
  rw [htest]
  intro _ _ he
  cases he
  exact h

/-- Tokens are skipped side by side. -/
theorem follows_skipWhile {test : Cursor → Bool}
    (htest : ∀ c c', K.Beside fresh c c' → test c = test c')
    (hend : ∀ c, test c = true → c.current.isEnd = false) (h : K.Beside fresh c c') :
    K.Follows s (fun _ _ c c' => K.Beside fresh c c') (skipWhile test c)
      (skipWhile test c') := by
  refine Follows.repeatWhile (fun _ _ _ _ h => h.remaining)
    (fun _ _ c hc => spending_skipStep hend hc) (fun _ _ c c' h => ?_) h
  rw [← htest c c' h]
  cases ht : test c with
  | false => exact .ok (.none h)
  | true => exact .ok (.some (h.next (hend c ht)).weaken)

/-- **Tokens are skipped up to the end of the first text**, if the second one goes on with a token
that would be skipped too. -/
theorem follows_skipWhile_spending {test : Cursor → Bool}
    (htest : ∀ c c', K.Beside fresh c c' → c.current.isEnd = false → test c = test c')
    (hend : ∀ c, test c = true → c.current.isEnd = false) (h : K.Beside fresh c c') :
    K.Follows .spending (fun _ _ c c' => K.Beside fresh c c') (skipWhile test c)
      (skipWhile test c') := by
  refine Follows.repeatWhile (fun _ _ _ _ h => h.remaining)
    (fun _ _ c hc => spending_skipStep hend hc) (fun _ _ c c' h => ?_) h
  cases he : c.current.isEnd with
  | false =>
    rw [← htest c c' h he]
    cases ht : test c with
    | false => exact .ok (.none h)
    | true => exact .ok (.some (h.next he).weaken)
  | true =>
    have hfalse : ∀ c : Cursor, c.current.isEnd = true → test c = false := fun c he =>
      Bool.eq_false_iff.mpr fun ht => absurd ((hend c ht).symm.trans he) (by decide)
    obtain ⟨hc, ⟨_, he'⟩ | ⟨hm, _⟩⟩ := h.of_isEnd he
    · rw [hfalse c he, hfalse c' he']
      exact .ok (.none h)
    · exact .gone hm (spending_skipStep hend hc)

/-! ## Lists -/

/-- Lists being read, item by item. -/
def Listed {α β : Type} (Q : α → β → Prop) (l : Listing α) (m : Listing β) : Prop :=
  List.Forall₂ Q l.items m.items ∧ l.more = m.more

section Lists

variable {item : Parser α} {item' : Parser β} {Q : α → β → Prop} {closer : Char}

theorem spending_commaStep (hend : ∀ c, c.AtEnd → Slack.spending.Allows (item c))
    (l : Listing α) (h : c.AtEnd) : Slack.spending.Allows (commaStep closer item l c) := by
  intro o c₁ hr
  unfold commaStep at hr
  rw [atPunct_bind] at hr
  split at hr
  · cases hr
    exact h
  · obtain ⟨x, c₂, hx, hr⟩ := bind_eq_ok.mp hr
    have h₂ := hend c h x c₂ hx
    rw [bind_of_ok _ (accept_of_atEnd h₂)] at hr
    cases hr
    exact h₂

theorem follows_commaStep (hcloser : closer ≠ ';')
    (hitem : ∀ c c', K.Beside false c c' → K.Agree s Q (item c) (item' c'))
    {l : Listing α} {m : Listing β} (hl : Listed Q l m) (h : K.Beside false c c') :
    K.Follows s (Stepped (fun l m c c' => Listed Q l m ∧ K.Beside false c c') l m)
      (commaStep closer item l c) (commaStep closer item' m c') := by
  unfold commaStep
  rw [atPunct_bind, atPunct_bind, ← h.similar.isPunct hcloser, ← hl.2]
  cases hc : (!l.more || c.current.isPunct closer) with
  | true => exact .ok (.none ⟨hl, h⟩)
  | false =>
    refine (hitem c c' h).bind (fun x hs c₁ h₁ => ?_) ?_
    · rw [bind_of_ok _ (accept_of_atEnd h₁)]
      intro _ _ he
      cases he
      exact h₁
    · rintro x y c₁ c₁' ⟨hxy, h₁⟩
      refine (follows_accept h₁ (by decide)).bind (fun more _ c₂ h₂ => ?_) ?_
      · intro _ _ he
        cases he
        exact h₂
      · rintro _ more c₂ c₂' ⟨rfl, h₂⟩
        exact .ok (.some ⟨⟨.cons hxy hl.1, rfl⟩, h₂⟩)

/-- **Items separated by commas** follow each other if each of them does. -/
theorem follows_commaList (hcloser : closer ≠ ';') (hend : s.Ends item)
    (hitem : ∀ c c', K.Beside false c c' → K.Agree s Q (item c) (item' c'))
    (h : K.Beside false c c') :
    K.Agree s (List.Forall₂ Q) (commaList closer item c) (commaList closer item' c') := by
  have hlist := Follows.repeatWhile (s := s) (fun _ _ _ _ h => h.2.remaining)
    (fun l hs c hc => spending_commaStep (hend hs) l hc)
    (fun l m c c' h => follows_commaStep hcloser hitem h.1 h.2)
    (a := ⟨[], true⟩) (b := ⟨[], true⟩) ⟨⟨.nil, rfl⟩, h⟩
  refine hlist.bind (fun l _ c₁ h₁ => ?_) ?_
  · intro _ _ he
    cases he
    exact h₁
  · rintro l m c₁ c₁' ⟨⟨hitems, _⟩, h₁⟩
    exact .ok ⟨List.rel_reverse hitems, h₁⟩

/-- **Items in angle brackets** follow each other if each of them does. What holds where an
item starts, `C`, has to hold after a comma again; the end of the text closes no list. -/
theorem follows_angleList {C : Cursor → Cursor → Prop} (hC : ∀ c c', C c c' → K.Beside false c c')
    (hcomma : ∀ c c', C c c' → c.current.isPunct ',' = true → C c.next c'.next)
    (hitem : ∀ c c', C c c' → K.Follows s (fun a b c c' => Q a b ∧ C c c') (item c) (item' c'))
    (h : K.Beside fresh c c') (hfirst : c.current.isPunct '<' = true → C c.next c'.next) :
    K.Agree s.closed (List.Forall₂ Q) (angleList item c) (angleList item' c') := by
  have hends : ∀ {α : Type} (p : Parser α), s.closed.Ends p := by
    intro _ p
    refine Slack.ends_of_ne ?_ p
    cases s <;> exact nofun
  have hstep : ∀ l m c c',
      (Listed Q l m ∧ K.Beside false c c' ∧ (l.more = true → C c c')) →
      K.Follows s.closed
        (Stepped (fun l m c c' => Listed Q l m ∧ K.Beside false c c' ∧ (l.more = true → C c c'))
          l m) (angleStep item l c) (angleStep item' m c') := by
    rintro l m c c' ⟨hl, h, hmore⟩
    unfold angleStep
    rw [← hl.2]
    cases hm : l.more with
    | false => exact .ok (.none ⟨hl, h, hmore⟩)
    | true =>
      refine (hitem c c' (hmore hm)).bind_closed (fun x c₁ h₁ => ?_) ?_
      · -- neither a closing bracket nor a comma stands at the end
        obtain ⟨f, hf⟩ := expect_of_atEnd h₁ "',' or '>'"
        rw [bind_of_ok _ (accept_of_atEnd h₁)]
        exact ⟨f, bind_of_error _ hf⟩
      · rintro x y c₁ c₁' ⟨hxy, h₁⟩
        have hsim := (hC c₁ c₁' h₁).similar
        cases hclose : c₁.current.isPunct '>' with
        | true =>
          have hclose' := (hsim.isPunct (by decide)).symm.trans hclose
          rw [bind_of_ok _ ((accept_run _ c₁).trans (if_pos hclose)),
            bind_of_ok _ ((accept_run _ c₁').trans (if_pos hclose'))]
          exact .ok (.some ⟨⟨.cons hxy hl.1, rfl⟩, (hC c₁ c₁' h₁).next (isEnd_of_isPunct hclose),
            nofun⟩)
        | false =>
          have hclose' := (hsim.isPunct (by decide)).symm.trans hclose
          rw [bind_of_ok _ ((accept_run _ c₁).trans (if_neg (Bool.eq_false_iff.mp hclose))),
            bind_of_ok _ ((accept_run _ c₁').trans (if_neg (Bool.eq_false_iff.mp hclose')))]
          refine (follows_expect_of (hC c₁ c₁' h₁) (by decide) _
            (P := fun _ _ c c' => C c c') (hcomma c₁ c₁' h₁)).bind (fun _ => hends _) ?_
          exact fun _ _ c₂ c₂' h₂ => .ok (.some ⟨⟨.cons hxy hl.1, rfl⟩, hC _ _ h₂, fun _ => h₂⟩)
  unfold angleList
  refine (follows_expect_of h (by decide) _
    (P := fun _ _ c c' => K.Beside false c c' ∧ C c c')
    (fun hc => ⟨h.next (isEnd_of_isPunct hc), hfirst hc⟩)).bind (fun _ => hends _) ?_
  rintro _ _ c₁ c₁' ⟨h₁, hC₁⟩
  have hlist := Follows.repeatWhile (fun _ _ _ _ h => h.2.1.remaining) (fun _ => hends _) hstep
    (a := ⟨[], true⟩) (b := ⟨[], true⟩) ⟨⟨.nil, rfl⟩, h₁, fun _ => hC₁⟩
  refine hlist.bind (fun _ => hends _) ?_
  exact fun l m c₂ c₂' h₂ => .ok ⟨List.rel_reverse h₂.1.1, h₂.2.1⟩

end Lists

end Comparison

end TypeTest

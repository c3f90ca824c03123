import TypeTest.Script.Grammar.Statement

/-!
# How parsers run

A parser that succeeded went through cursors, one after each of its parts. This
module takes it apart: a part that only looks at the cursor is replaced by what it
sees, and any other part by what it gave and where it left the cursor. Read from
left to right the same equations run a parser forward. Repetition is opened by an
invariant, once and for all.
-/

namespace TypeTest.Parser

variable {α β σ : Type} {c c' : Cursor}

/-! ## What is not the end -/

theorem isEnd_of_isPunct {t : Token} {p : Char} (h : t.isPunct p = true) : t.isEnd = false := by
  unfold Token.isPunct at h
  unfold Token.isEnd
  rw [eq_of_beq h]
  rfl

theorem isEnd_of_isPunctOf {t : Token} {ps : List Char} (h : t.isPunctOf ps = true) :
    t.isEnd = false := by
  unfold Token.isPunctOf at h
  unfold Token.isEnd
  split at h
  · rename_i p hp
    rw [hp]
    rfl
  · cases h

theorem isEnd_of_isIdentifier {t : Token} (h : t.isIdentifier = true) : t.isEnd = false := by
  unfold Token.isIdentifier at h
  unfold Token.isEnd
  rw [eq_of_beq h]
  rfl

theorem isEnd_of_isWord {t : Token} {word : String} (h : t.isWord word = true) :
    t.isEnd = false :=
  isEnd_of_isIdentifier (Bool.and_eq_true_iff.mp h).1

theorem isEnd_of_isWordOf {t : Token} {words : List String} (h : t.isWordOf words = true) :
    t.isEnd = false :=
  isEnd_of_isIdentifier (Bool.and_eq_true_iff.mp h).1

theorem isEnd_of_atUnaryOperator (h : atUnaryOperator c = true) : c.current.isEnd = false := by
  rcases Bool.or_eq_true_iff.mp h with hp | hw
  · exact isEnd_of_isPunctOf hp
  · exact isEnd_of_isWordOf (Bool.and_eq_true_iff.mp hw).1

theorem isEnd_of_atOperator (h : atOperator c = true) : c.current.isEnd = false := by
  rcases Bool.or_eq_true_iff.mp h with hp | hw
  · exact isEnd_of_isPunctOf hp
  · exact isEnd_of_isWordOf hw

theorem isEnd_of_propertyName {t : Token} {key : String} (h : propertyName t = some key) :
    t.isEnd = false := by
  unfold Token.isEnd
  unfold propertyName at h
  cases hk : t.kind with
  | endOfText =>
    rw [hk] at h
    cases h
  | _ => rfl

/-! ## Parts of a parser -/

@[simp] theorem current_bind (f : Token → Parser β) (c : Cursor) :
    (current >>= f) c = f c.current c := rfl

@[simp] theorem kindAhead_bind (n : Nat) (f : TokenKind → Parser β) (c : Cursor) :
    (kindAhead n >>= f) c = f (c.kindAhead n) c := rfl

@[simp] theorem here_bind (f : Nat → Parser β) (c : Cursor) :
    (here >>= f) c = f c.current.start c := rfl

@[simp] theorem lineBreaks_bind (f : Bool → Parser β) (c : Cursor) :
    (lineBreaks >>= f) c = f c.breaksLine c := rfl

@[simp] theorem advance_bind (f : Token → Parser β) (c : Cursor) :
    (advance >>= f) c = f c.current c.next := rfl

@[simp] theorem atPunct_bind (p : Char) (f : Bool → Parser β) (c : Cursor) :
    (atPunct p >>= f) c = f (c.current.isPunct p) c := rfl

@[simp] theorem atWord_bind (word : String) (f : Bool → Parser β) (c : Cursor) :
    (atWord word >>= f) c = f (c.current.isWord word) c := rfl

@[simp] theorem get_bind (f : Cursor → Parser β) (c : Cursor) :
    ((get : Parser Cursor) >>= f) c = f c c := rfl

/-- A parser goes on from where its first part left the cursor. -/
theorem bind_of_ok {p : Parser α} {a : α} (f : α → Parser β) (h : p c = .ok (a, c')) :
    (p >>= f) c = f a c' := by
  show (p c).bind (fun x => f x.1 x.2) = f a c'
  rw [h]
  rfl

/-- A fault of the first part is a fault of the parser. -/
theorem bind_of_error {p : Parser α} {fault : SyntaxFault} (f : α → Parser β)
    (h : p c = .error fault) : (p >>= f) c = .error fault := by
  show (p c).bind (fun x => f x.1 x.2) = .error fault
  rw [h]
  rfl

/-- **A parser succeeds if its parts do**, one after the other. -/
theorem bind_eq_ok {p : Parser α} {f : α → Parser β} {r : β × Cursor} :
    (p >>= f) c = .ok r ↔ ∃ a c', p c = .ok (a, c') ∧ f a c' = .ok r := by
  cases hp : p c with
  | error fault =>
    rw [bind_of_error f hp]
    exact ⟨fun h => (by cases h), fun ⟨_, _, h, _⟩ => (by cases h)⟩
  | ok x =>
    rw [bind_of_ok f hp]
    refine ⟨fun h => ⟨x.1, x.2, rfl, h⟩, fun ⟨a, c', h, hf⟩ => ?_⟩
    cases h
    exact hf

/-- **A parser fails if its first part does**, or the second one after it. -/
theorem bind_eq_error {p : Parser α} {f : α → Parser β} {fault : SyntaxFault} :
    (p >>= f) c = .error fault
      ↔ p c = .error fault ∨ ∃ a c', p c = .ok (a, c') ∧ f a c' = .error fault := by
  cases hp : p c with
  | error fault' =>
    rw [bind_of_error f hp]
    refine ⟨fun h => .inl (by cases h; rfl), ?_⟩
    rintro (h | ⟨_, _, h, _⟩)
    · cases h
      rfl
    · cases h
  | ok x =>
    rw [bind_of_ok f hp]
    refine ⟨fun h => .inr ⟨x.1, x.2, rfl, h⟩, ?_⟩
    rintro (h | ⟨_, _, h, hf⟩)
    · cases h
    · cases h
      exact hf

/-- A refused token gives nothing. -/
theorem refuse_ne_ok {expected : String} {r : α × Cursor} :
    refuse expected c ≠ .ok r := by
  unfold refuse
  split <;> exact fun h => (by cases h)

/-- A token is refused where it starts. -/
theorem offset_of_refuse {expected : String} {fault : SyntaxFault}
    (h : (refuse expected : Parser α) c = .error fault) : fault.offset = c.current.start := by
  unfold refuse at h
  split at h
  all_goals
    cases h
    rfl

/-- Which of two parsers runs may be decided before the cursor is known. -/
theorem ite_run {P : Prop} [Decidable P] (p q : Parser α) (c : Cursor) :
    (if P then p else q) c = if P then p c else q c := by
  split <;> rfl

/-! ## Taking tokens -/

theorem accept_run (p : Char) (c : Cursor) :
    accept p c = if c.current.isPunct p then .ok (true, c.next) else .ok (false, c) := by
  unfold accept
  rw [atPunct_bind]
  split <;> rfl

theorem expect_run (p : Char) (expected : String) (c : Cursor) :
    expect p expected c
      = if c.current.isPunct p then .ok (c.current, c.next) else refuse expected c := by
  unfold expect
  rw [atPunct_bind]
  split <;> rfl

theorem name_run (expected : String) (c : Cursor) :
    name expected c
      = if c.current.isIdentifier then .ok (c.current.text, c.next) else refuse expected c := by
  unfold name
  rw [current_bind]
  split <;> rfl

theorem skipIf_run (p : Token → Bool) (c : Cursor) :
    skipIf p c = if p c.current then .ok ((), c.next) else .ok ((), c) := by
  unfold skipIf
  rw [current_bind]
  split <;> rfl

/-- A token that had to stand at the cursor stood there, and was taken. -/
theorem expect_ok {p : Char} {expected : String} {t : Token}
    (h : expect p expected c = .ok (t, c')) :
    c.current.isPunct p = true ∧ t = c.current ∧ c' = c.next := by
  rw [expect_run] at h
  split at h
  · rename_i hp
    cases h
    exact ⟨hp, rfl, rfl⟩
  · exact absurd h refuse_ne_ok

/-- A name that had to stand at the cursor stood there, and was taken. -/
theorem name_ok {expected own : String} (h : name expected c = .ok (own, c')) :
    c.current.isIdentifier = true ∧ own = c.current.text ∧ c' = c.next := by
  rw [name_run] at h
  split at h
  · rename_i hp
    cases h
    exact ⟨hp, rfl, rfl⟩
  · exact absurd h refuse_ne_ok

/-- A step over a type takes a token that is not the last one. -/
theorem typeStep_some {ends : Token → Bool} {lineBreaksEnd : Bool} {scan scan' : TypeScan}
    (h : typeStep ends lineBreaksEnd scan c = .ok (some scan', c')) :
    c.current.isEnd = false ∧ c' = c.next
      ∧ scan' = ⟨typeDepth scan.depth c.current, c.current :: scan.taken⟩ := by
  unfold typeStep at h
  split at h
  · cases h
  · rename_i he
    cases h
    unfold typeEnds at he
    exact ⟨(Bool.or_eq_false_iff.mp (Bool.eq_false_iff.mpr he)).1, rfl, rfl⟩

/-- A step that does not go on over a type takes nothing. -/
theorem typeStep_none {ends : Token → Bool} {lineBreaksEnd : Bool} {scan : TypeScan}
    (h : typeStep ends lineBreaksEnd scan c = .ok (none, c')) : c' = c := by
  unfold typeStep at h
  split at h
  · cases h
    rfl
  · cases h

/-- A type argument goes on over a comma or a closing bracket only inside of a bracket. -/
theorem argumentStep_some {scan scan' : TypeScan}
    (h : typeStep (·.isPunct ',') false scan c = .ok (some scan', c')) (hdepth : scan.depth = 0) :
    (c.current.isPunct ',' || c.current.isPunctOf ('>' :: closers)) = false := by
  unfold typeStep at h
  split at h
  · cases h
  · rename_i he
    unfold typeEnds at he
    rw [hdepth, beq_self_eq_true, Bool.true_and, Bool.false_and, Bool.false_and, Bool.false_and,
      Bool.or_false] at he
    exact (Bool.or_eq_false_iff.mp (Bool.eq_false_iff.mpr he)).2

/-- A type argument ends outside of all brackets, or where the text does. -/
theorem argumentStep_none {scan : TypeScan}
    (h : typeStep (·.isPunct ',') false scan c = .ok (none, c')) (he : c.current.isEnd = false) :
    scan.depth = 0 := by
  unfold typeStep at h
  split at h
  · rename_i hends
    unfold typeEnds at hends
    rw [he, Bool.false_or] at hends
    exact eq_of_beq (Bool.and_eq_true_iff.mp hends).1
  · cases h

/-! ## Steps that end a list -/

/-- Where a list ends, no token is taken. -/
theorem commaStep_none {closer : Char} {item : Parser α} {l : Listing α}
    (h : commaStep closer item l c = .ok (none, c')) : c' = c := by
  unfold commaStep at h
  rw [atPunct_bind] at h
  split at h
  · cases h
    rfl
  · obtain ⟨_, _, _, h⟩ := bind_eq_ok.mp h
    obtain ⟨_, _, _, h⟩ := bind_eq_ok.mp h
    cases h

/-- Where a list in angle brackets ends, no token is taken. -/
theorem angleStep_none {item : Parser α} {l : Listing α}
    (h : angleStep item l c = .ok (none, c')) : c' = c := by
  unfold angleStep at h
  split at h
  · cases h
    rfl
  · obtain ⟨_, _, _, h⟩ := bind_eq_ok.mp h
    obtain ⟨_, _, _, h⟩ := bind_eq_ok.mp h
    split at h
    · cases h
    · obtain ⟨_, _, _, h⟩ := bind_eq_ok.mp h
      cases h

/-- Where no operator follows, no token is taken. -/
theorem operatorStep_none {inner : Inner} {o : Operands}
    (h : operatorStep inner o c = .ok (none, c')) : c' = c := by
  unfold operatorStep at h
  rw [current_bind, kindAhead_bind] at h
  split at h
  · rw [advance_bind] at h
    obtain ⟨_, _, _, h⟩ := bind_eq_ok.mp h
    cases h
  split at h
  · rw [advance_bind] at h
    obtain ⟨_, _, _, h⟩ := bind_eq_ok.mp h
    cases h
  rw [get_bind] at h
  split at h
  · obtain ⟨_, _, _, h⟩ := bind_eq_ok.mp h
    obtain ⟨_, _, _, h⟩ := bind_eq_ok.mp h
    cases h
  · cases h
    rfl

/-! ## Repetition -/

/-- The repetition ends after a step that consumed nothing. -/
theorem repeatWhile_of_not_lt {step : σ → Parser (Option σ)} {s s' : σ} {c c' : Cursor}
    (h : step s c = .ok (some s', c')) (hlt : ¬ c'.remaining < c.remaining) :
    repeatWhile step s c = .ok (s', c') := by
  rw [repeatWhile]
  simp [h, hlt]

/-- **What every step keeps, a repetition keeps**: a step that gives no next state
keeps it of the old one. -/
theorem repeatWhile_invariant {step : σ → Parser (Option σ)} (I : σ → Cursor → Prop)
    (hnone : ∀ s c c', I s c → step s c = .ok (none, c') → I s c')
    (hsome : ∀ s s' c c', I s c → step s c = .ok (some s', c') → I s' c')
    {s s' : σ} {c c' : Cursor} (hI : I s c) (h : repeatWhile step s c = .ok (s', c')) :
    I s' c' := by
  fun_induction repeatWhile step s c with
  | case1 => cases h
  | case2 s c c₁ hs =>
    cases h
    exact hnone _ _ _ hI hs
  | case3 s c s₁ c₁ hs _ ih => exact ih (hsome _ _ _ _ hI hs) h
  | case4 s c s₁ c₁ hs _ =>
    cases h
    exact hsome _ _ _ _ hI hs

/-- **Where a repetition ends, its step gave no next state**, if every other step takes a
token. -/
theorem repeatWhile_ends {step : σ → Parser (Option σ)} {I F : σ → Cursor → Prop}
    (hnone : ∀ s c c', I s c → step s c = .ok (none, c') → F s c')
    (hsome : ∀ s s' c c', I s c → step s c = .ok (some s', c') →
      I s' c' ∧ c'.remaining < c.remaining)
    {s s' : σ} {c c' : Cursor} (hI : I s c) (h : repeatWhile step s c = .ok (s', c')) :
    F s' c' := by
  fun_induction repeatWhile step s c with
  | case1 => cases h
  | case2 s c c₁ hs =>
    cases h
    exact hnone _ _ _ hI hs
  | case3 s c s₁ c₁ hs _ ih => exact ih (hsome _ _ _ _ hI hs).1 h
  | case4 s c s₁ c₁ hs hlt => exact absurd (hsome _ _ _ _ hI hs).2 hlt

end TypeTest.Parser

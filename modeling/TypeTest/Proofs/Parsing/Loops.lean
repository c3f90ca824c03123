import TypeTest.Proofs.Parsing.Progress

/-!
# Loops without a guard

A repetition compares how many tokens are left before it goes on. A loop makes no such comparison:
it goes on from every turn that gives a next state, and **loops to** what its last turn gives
(`Parser.LoopsTo`), or to nothing at all if it has no last turn. Here it is shown for every loop
of the grammar (`Parser.IsLoop`) that it has a last turn, wherever it begins, and that the
repetition is the loop.

Two of the loops carry a number. A type counts the brackets that are open, and takes no bracket
that closes if none is; the look-ahead over the parameters of an arrow function counts them too,
and looks no further than the end token. A third one, over type arguments, is given up in the
middle, and what it passes until then is named (`Parser.PassesArguments`).
-/

namespace TypeTest.Parser

variable {σ : Type} {ts : List Token} {step : σ → Parser (Option σ)} {s s' : σ} {c c' : Cursor}

/-! ## What a loop does -/

/-- **The states and cursors that a loop turns to.** -/
inductive Turned (step : σ → Parser (Option σ)) (s : σ) (c : Cursor) : σ → Cursor → Prop
  | start : Turned step s c s c
  | turn {s₁ s₂ : σ} {c₁ c₂ : Cursor} (h : Turned step s c s₁ c₁)
    (hstep : step s₁ c₁ = .ok (some s₂, c₂)) : Turned step s c s₂ c₂

/-- **What a loop comes to**: a turn that gives no next state, or a fault. -/
inductive LoopsTo (step : σ → Parser (Option σ)) (s : σ) (c : Cursor) :
    Except SyntaxFault (σ × Cursor) → Prop
  | stop {s₁ : σ} {c₁ c₂ : Cursor} (h : Turned step s c s₁ c₁)
    (hstep : step s₁ c₁ = .ok (none, c₂)) : LoopsTo step s c (.ok (s₁, c₂))
  | fault {s₁ : σ} {c₁ : Cursor} {fault : SyntaxFault} (h : Turned step s c s₁ c₁)
    (hstep : step s₁ c₁ = .error fault) : LoopsTo step s c (.error fault)

/-- The turns after a first one. -/
theorem Turned.head {s₁ : σ} {c₁ : Cursor} (hstep : step s c = .ok (some s₁, c₁))
    (h : Turned step s₁ c₁ s' c') : Turned step s c s' c' := by
  induction h with
  | start => exact .turn .start hstep
  | turn _ hturn ih => exact .turn ih hturn

theorem LoopsTo.head {s₁ : σ} {c₁ : Cursor} {r : Except SyntaxFault (σ × Cursor)}
    (hstep : step s c = .ok (some s₁, c₁)) (h : LoopsTo step s₁ c₁ r) : LoopsTo step s c r := by
  cases h with
  | stop h hlast => exact .stop (h.head hstep) hlast
  | fault h hlast => exact .fault (h.head hstep) hlast

section Turns

variable (hturns : ∀ s, IsTurn ts (step s)) (hc : c.On ts)

include hturns hc

theorem Turned.onward (h : Turned step s c s' c') : c.Onward ts c' := by
  induction h with
  | start => exact .refl hc
  | turn _ hstep ih => exact ih.trans (hturns _ _ ih.on rfl hstep).1

/-- The repetition goes on from every turn. -/
theorem Turned.repeatWhile_eq (h : Turned step s c s' c') :
    repeatWhile step s c = repeatWhile step s' c' := by
  induction h with
  | start => rfl
  | turn h hstep ih =>
    have hlt := (hturns _ _ (h.onward hturns hc).on rfl hstep).2 rfl
    exact ih.trans (repeatWhile_of_lt hstep hlt)

/-- **A loop has a last turn**: it comes to what the repetition gives. -/
theorem loopsTo_repeatWhile (s : σ) : LoopsTo step s c (repeatWhile step s c) := by
  fun_induction repeatWhile step s c with
  | case1 s c fault hstep => exact .fault .start hstep
  | case2 s c c₁ hstep => exact .stop .start hstep
  | case3 s c s₁ c₁ hstep _ ih =>
    exact (ih (hturns _ _ hc rfl hstep).1.on).head hstep
  | case4 s c s₁ c₁ hstep hle =>
    -- a turn that gives a next state takes a token
    exact absurd ((hturns _ _ hc rfl hstep).2 rfl) hle

/-- **A loop comes to one end**, which is what the repetition gives. -/
theorem loopsTo_iff (s : σ) {r : Except SyntaxFault (σ × Cursor)} :
    LoopsTo step s c r ↔ repeatWhile step s c = r := by
  constructor
  · intro h
    cases h with
    | stop h hlast => exact (h.repeatWhile_eq hturns hc).trans (repeatWhile_of_none hlast)
    | fault h hlast => exact (h.repeatWhile_eq hturns hc).trans (repeatWhile_of_error hlast)
  · rintro rfl
    exact loopsTo_repeatWhile hturns hc s

end Turns

/-! ## The loops of the grammar -/

/-- A type argument. -/
def typeArgument : Parser Node := typeUntil (·.isPunct ',') false

/-- **The loops of the grammar**, each by what it repeats. -/
inductive IsLoop (inner : Inner) : {σ : Type} → (σ → Parser (Option σ)) → Prop
  | statements (inBlock : Bool) : IsLoop inner (statementStep inner inBlock)
  | semicolons : IsLoop inner (skipStep (·.current.isPunct ';'))
  | exports : IsLoop inner exportStep
  | imported : IsLoop inner importStep
  | interfaceHead : IsLoop inner (skipStep inInterfaceHead)
  | bracketed : IsLoop inner bracketStep
  | typeTokens (ends : Token → Bool) (lineBreaksEnd : Bool) :
    IsLoop inner (typeStep ends lineBreaksEnd)
  | typeParameters : IsLoop inner (angleStep typeParameter)
  | typeArguments : IsLoop inner (angleStep typeArgument)
  | parameters : IsLoop inner (commaStep ')' (parameter inner))
  | elements (closer : Char) : IsLoop inner (commaStep closer (element inner))
  | properties : IsLoop inner (commaStep '\x7d' (property inner))
  | unaryOperators : IsLoop inner (skipStep atUnaryOperator)
  | operators : IsLoop inner (skipStep atOperator)
  | operands : IsLoop inner (operatorStep inner)
  | postfixes (start : Nat) : IsLoop inner (postfixStep inner start)

/-- **Every loop of the grammar takes a token in each turn** but the last one. -/
theorem isTurn_of_isLoop {inner : Inner} (hts : Token.EndOnce ts) (hi : inner.Consumes ts)
    (h : IsLoop inner step) (s : σ) : IsTurn ts (step s) := by
  cases h with
  | statements => exact isTurn_statementStep hts hi _ s
  | semicolons => exact isTurn_skipStep hts (fun _ => isEnd_of_isPunct) s
  | exports => exact isTurn_exportStep hts s
  | imported => exact isTurn_importStep hts s
  | interfaceHead => exact isTurn_skipStep hts (fun _ => isEnd_of_inInterfaceHead) s
  | bracketed => exact isTurn_bracketStep hts s
  | typeTokens => exact isTurn_typeStep hts _ _ s
  | typeParameters => exact isTurn_angleStep hts (consumes_typeParameter hts) s
  | typeArguments => exact isTurn_angleStep hts (consumes_typeUntil hts _ _) s
  | parameters => exact isTurn_commaStep _ (consumes_parameter hts hi) s
  | elements => exact isTurn_commaStep _ (consumes_element hi) s
  | properties => exact isTurn_commaStep _ (consumes_property hts hi) s
  | unaryOperators => exact isTurn_skipStep hts (fun _ => isEnd_of_atUnaryOperator) s
  | operators => exact isTurn_skipStep hts (fun _ => isEnd_of_atOperator) s
  | operands => exact isTurn_operatorStep hts hi s
  | postfixes => exact isTurn_postfixStep hts hi _ s

/-! ## Brackets in types -/

/-- What a token adds to the number of open brackets in a type. -/
def bracketChange (t : Token) : Int :=
  if t.isPunctOf ('<' :: openers) then 1 else if t.isPunctOf ('>' :: closers) then -1 else 0

/-- How many brackets the tokens of a type leave open. -/
def bracketBalance : List Token → Int
  | [] => 0
  | t :: ts => bracketChange t + bracketBalance ts

variable {ends : Token → Bool} {lineBreaksEnd : Bool} {scan scan' : TypeScan}

/-- **A token that is taken never closes a bracket that is not open.** -/
theorem depth_pos_of_typeStep (h : typeStep ends lineBreaksEnd scan c = .ok (some scan', c'))
    (hclose : c.current.isPunctOf ('>' :: closers) = true) : 0 < scan.depth := by
  unfold typeStep at h
  split at h
  · cases h
  · rename_i he
    refine Nat.pos_of_ne_zero fun hzero => he ?_
    unfold typeEnds
    rw [hzero, hclose, beq_self_eq_true, Bool.or_true, Bool.true_or, Bool.and_self, Bool.or_true]

/-- So the depth after it is what the brackets add up to, no number being cut off. -/
theorem cast_typeDepth (hpos : c.current.isPunctOf ('>' :: closers) = true → 0 < scan.depth) :
    (typeDepth scan.depth c.current : Int) = bracketChange c.current + scan.depth := by
  unfold typeDepth bracketChange
  split
  · omega
  · split
    · have := hpos ‹_›
      omega
    · omega

/-- **A type while it is read** from the cursor `c`. -/
structure TypeReading (c : Cursor) (scan : TypeScan) (c' : Cursor) : Prop where
  /-- The depth is what the brackets of the tokens add up to. -/
  depth : (scan.depth : Int) = bracketBalance scan.taken
  /-- The token before the cursor is the one that was taken last. -/
  previous : scan.taken ≠ [] → c'.previous = scan.taken.head?
  untaken : scan.taken = [] → c' = c

/-- **A turn keeps a type while it is read.** -/
theorem TypeReading.turn {c₁ c₂ : Cursor} (hts : Token.EndOnce ts) (hc : c₁.On ts)
    (hr : TypeReading c scan c₁) (h : typeStep ends lineBreaksEnd scan c₁ = .ok (some scan', c₂)) :
    TypeReading c scan' c₂ := by
  have hdepth := cast_typeDepth (depth_pos_of_typeStep h)
  obtain ⟨he, rfl, rfl⟩ := typeStep_some h
  refine ⟨?_, fun _ => (hc.rest_eq hts he).2, fun hnil => absurd hnil (List.cons_ne_nil _ _)⟩
  rw [bracketBalance, ← hr.depth]
  exact hdepth

theorem typeReading_of_turned (hts : Token.EndOnce ts) (hc : c.On ts)
    (h : Turned (typeStep ends lineBreaksEnd) ⟨0, []⟩ c scan c') : TypeReading c scan c' := by
  induction h with
  | start => exact ⟨rfl, fun hne => absurd rfl hne, fun _ => rfl⟩
  | turn h hstep ih =>
    exact ih.turn hts (h.onward (isTurn_typeStep hts _ _) hc).on hstep

/-! ## The look-ahead over parameters -/

/-- **The look-ahead looks no further than the end token.** -/
theorem arrowAhead_append (depth : Nat) {before : List Token} {e : Token} (he : e.isEnd = true)
    (more : List Token) :
    arrowAhead depth (before ++ e :: more) = arrowAhead depth (before ++ [e]) := by
  have hopen : e.isPunctOf openers = false :=
    Bool.eq_false_iff.mpr fun h => by rw [isEnd_of_isPunctOf h] at he; cases he
  have hclose : e.isPunctOf closers = false :=
    Bool.eq_false_iff.mpr fun h => by rw [isEnd_of_isPunctOf h] at he; cases he
  induction before generalizing depth with
  | nil =>
    have hstop : ∀ us, arrowAhead depth (e :: us) = false := by
      intro us
      rw [arrowAhead_cons, hopen, hclose, he]
      rfl
    rw [List.nil_append, List.nil_append, hstop, hstop]
  | cons t before ih =>
    rw [List.cons_append, List.cons_append, arrowAhead_cons, arrowAhead_cons, ih, ih, ih]
    cases before <;> rfl

/-! ## Type arguments that are given up -/

/-- The list of type arguments that is tried. -/
def typeArgumentList : Parser (List Node) := angleList typeArgument

/-- **An attempt at type arguments** raises no fault, and what comes to nothing took nothing. -/
theorem typeArguments_run (c : Cursor) :
    typeArguments c = .ok (none, c)
      ∨ ∃ types c', typeArgumentList c = .ok (types, c') ∧ c'.current.isPunct '(' = true
        ∧ typeArguments c = .ok (some types, c') := by
  show attempt (·.isPunct '(') typeArgumentList c = _
    ∨ ∃ types c', _ ∧ _ ∧ attempt (·.isPunct '(') typeArgumentList c = _
  unfold attempt
  split
  · rename_i types c' hrun
    split
    · exact .inr ⟨types, c', hrun, ‹_›, rfl⟩
    · exact .inl rfl
  · exact .inl rfl

/-- **What the reading of type arguments passes** from the cursor `c` on: the opening bracket, and
between the brackets each place where a type argument starts and each where one stops. -/
inductive PassesArguments (c : Cursor) : Cursor → Prop
  | start : PassesArguments c c
  | item {t : Token} {l : Listing Node} {c₁ c₂ : Cursor} (hopen : expect '<' "'<'" c = .ok (t, c₁))
    (hturned : Turned (angleStep typeArgument) ⟨[], true⟩ c₁ l c₂) : PassesArguments c c₂
  | itemRead {t : Token} {l : Listing Node} {n : Node} {c₁ c₂ c₃ : Cursor}
    (hopen : expect '<' "'<'" c = .ok (t, c₁))
    (hturned : Turned (angleStep typeArgument) ⟨[], true⟩ c₁ l c₂)
    (hread : typeArgument c₂ = .ok (n, c₃)) : PassesArguments c c₃

section Passing

variable (hts : Token.EndOnce ts) (hc : c.On ts)

include hts

theorem isTurn_typeArgument (l : Listing Node) : IsTurn ts (angleStep typeArgument l) :=
  isTurn_angleStep hts (consumes_typeUntil hts _ _) l

include hc

/-- **What is passed lies onward.** -/
theorem PassesArguments.onward (h : PassesArguments c c') : c.Onward ts c' := by
  cases h with
  | start => exact .refl hc
  | item hopen hturned =>
    have h₁ := (consumes_expect hts _ _ _ hc rfl hopen).1
    exact h₁.trans (hturned.onward (isTurn_typeArgument hts) h₁.on)
  | itemRead hopen hturned hread =>
    have h₁ := (consumes_expect hts _ _ _ hc rfl hopen).1
    have h₂ := h₁.trans (hturned.onward (isTurn_typeArgument hts) h₁.on)
    exact h₂.trans (consumes_typeUntil hts _ _ _ h₂.on rfl hread).1

/-- A type is refused where it starts. -/
theorem offset_of_typeUntil {fault : SyntaxFault}
    (h : typeUntil ends lineBreaksEnd c = .error fault) : fault.offset = c.current.start := by
  unfold typeUntil at h
  rw [here_bind] at h
  have hloop := loopsTo_repeatWhile (isTurn_typeStep hts ends lineBreaksEnd) hc ⟨0, []⟩
  rcases bind_eq_error.mp h with hfault | ⟨scan, c₁, hscan, h⟩
  · rw [hfault] at hloop
    cases hloop with
    | fault _ hstep =>
      unfold typeStep at hstep
      split at hstep <;> cases hstep
  · rw [hscan] at hloop
    cases hloop with
    | stop hturned hstep =>
      split at h
      · rename_i hnil
        obtain rfl := typeStep_none hstep
        rw [offset_of_refuse h,
          (typeReading_of_turned hts hc hturned).untaken (List.isEmpty_iff.mp hnil)]
      · cases h

omit hts hc in
theorem offset_of_expect {mark : Char} {expected : String} {fault : SyntaxFault}
    (h : expect mark expected c = .error fault) : fault.offset = c.current.start := by
  rw [expect_run] at h
  split at h
  · cases h
  · exact offset_of_refuse h

/-- An item is refused where its type starts, or behind the type. -/
theorem offset_of_angleStep {l : Listing Node} {fault : SyntaxFault}
    (h : angleStep typeArgument l c = .error fault) :
    fault.offset = c.current.start
      ∨ ∃ n c', typeArgument c = .ok (n, c') ∧ fault.offset = c'.current.start := by
  unfold angleStep at h
  split at h
  · cases h
  rcases bind_eq_error.mp h with h | ⟨n, c₁, hread, h⟩
  · exact .inl (offset_of_typeUntil hts hc h)
  refine .inr ⟨n, c₁, hread, ?_⟩
  rcases bind_eq_error.mp h with h | ⟨closed, c₂, hclosed, h⟩
  · rw [accept_run] at h
    split at h <;> cases h
  rw [accept_run] at hclosed
  split at hclosed
  · cases hclosed
    cases h
  · cases hclosed
    rcases bind_eq_error.mp h with h | ⟨_, _, _, h⟩
    · exact offset_of_expect h
    · cases h

/-- **Where type arguments are refused**, the reading has passed. -/
theorem exists_passed_of_error {fault : SyntaxFault} (h : typeArgumentList c = .error fault) :
    ∃ c', PassesArguments c c' ∧ fault.offset = c'.current.start := by
  rcases bind_eq_error.mp h with h | ⟨t, c₁, hopen, h⟩
  · exact ⟨c, .start, offset_of_expect h⟩
  rcases bind_eq_error.mp h with h | ⟨l, c₂, _, h⟩
  · have h₁ := (consumes_expect hts _ _ _ hc rfl hopen).1
    have hloop := loopsTo_repeatWhile (isTurn_typeArgument hts) h₁.on ⟨[], true⟩
    rw [h] at hloop
    cases hloop with
    | fault hturned hstep =>
      have h₂ := hturned.onward (isTurn_typeArgument hts) h₁.on
      rcases offset_of_angleStep hts h₂.on hstep with hoffset | ⟨n, c₃, hread, hoffset⟩
      · exact ⟨_, .item hopen hturned, hoffset⟩
      · exact ⟨c₃, .itemRead hopen hturned hread, hoffset⟩
  · cases h

end Passing

end TypeTest.Parser

import TypeTest.Proofs.Parsing.Placement

/-!
# Parsers make progress

Every repetition of the grammar is to go on only while tokens are taken. The repetition itself
sees to that, by a comparison that a plain loop does not make; here it is shown that the comparison
is never needed. It is a matter of what the parsers that are repeated take, and these
are put together from each other: an item of a list takes a token because an expression does, and
an expression does because whatever it begins with does.

So one relation is followed through the grammar. A cursor lies **onward** from another one if that
one moves to it by taking tokens and storing nodes (`Cursor.Onward`). Every parser goes
on, and one that gives what **needs** a token takes one (`Parser.AdvancesAt`): always
(`Parser.Consumes`), never (`Parser.Forward`), or if it gives a next state of a repetition
(`Parser.IsTurn`). Which token is taken is left open, but for parsers that take the current one
because they saw that it is not the end token: for their sake the current token is named.

Nothing is asked of the tokens but that they end once; where they stand in a text does not matter.
-/

namespace TypeTest

/-! ## Onward -/

/-- **A cursor moves to another one** by taking tokens and storing nodes. -/
inductive Cursor.Moves (c : Cursor) : Cursor → Prop
  | refl : Moves c c
  | next {c' : Cursor} (h : Moves c c') : Moves c c'.next
  | store {c' : Cursor} (h : Moves c c') (form : Form Node) (range : TextRange) :
    Moves c (c'.store form range)

theorem Cursor.Moves.trans {c c' c'' : Cursor} (h : Moves c c') (h' : Moves c' c'') :
    Moves c c'' := by
  induction h' with
  | refl => exact h
  | next _ ih => exact ih.next
  | store _ form range ih => exact ih.store form range

/-- What was stored before is still stored. -/
theorem Cursor.Moves.stored {c c' : Cursor} (h : Moves c c') : c.stored <:+ c'.stored := by
  induction h with
  | refl => exact List.suffix_refl _
  | next _ ih => rwa [stored_next]
  | store _ form range ih => exact ih.trans (List.suffix_cons _ _)

theorem Cursor.Moves.on {ts : List Token} {c c' : Cursor} (h : Moves c c') (hc : c.On ts) :
    c'.On ts := by
  induction h with
  | refl => exact hc
  | next _ ih => exact ih.next
  | store _ _ _ ih => exact ih

/-- **A cursor lies onward from another one** on the tokens `ts`. -/
structure Cursor.Onward (ts : List Token) (c c' : Cursor) : Prop where
  on : c'.On ts
  le : c'.remaining ≤ c.remaining
  moves : c.Moves c'

namespace Cursor.Onward

variable {ts : List Token} {c c' c'' : Cursor}

theorem refl (h : c.On ts) : Onward ts c c := ⟨h, Nat.le_refl _, .refl⟩

theorem next (h : c.On ts) : Onward ts c c.next := ⟨h.next, c.remaining_next_le, .next .refl⟩

theorem store (h : c.On ts) (form : Form Node) (range : TextRange) :
    Onward ts c (c.store form range) :=
  ⟨h, Nat.le_refl _, .store .refl form range⟩

theorem trans (h : Onward ts c c') (h' : Onward ts c' c'') : Onward ts c c'' :=
  ⟨h'.on, Nat.le_trans h'.le h.le, h.moves.trans h'.moves⟩

end Cursor.Onward

namespace Parser

variable {α β σ : Type} {ts : List Token} {t : Token}

/-- **A parser goes on** where the current token is `t`, and if it gives what `needs` a token it
takes one. -/
def AdvancesAt (ts : List Token) (t : Token) (needs : α → Bool) (p : Parser α) : Prop :=
  ∀ ⦃c c' : Cursor⦄ ⦃a : α⦄, c.On ts → c.current = t → p c = .ok (a, c') →
    c.Onward ts c' ∧ (needs a = true → c'.remaining < c.remaining)

/-- **A parser goes on**, and may take nothing. -/
def Forward (ts : List Token) (p : Parser α) : Prop := ∀ t, AdvancesAt ts t (fun _ => false) p

/-- **A parser takes a token** whenever it succeeds. -/
def Consumes (ts : List Token) (p : Parser α) : Prop := ∀ t, AdvancesAt ts t (fun _ => true) p

/-- **A turn of a repetition** takes a token if it gives a next state. -/
def IsTurn (ts : List Token) (p : Parser (Option σ)) : Prop := ∀ t, AdvancesAt ts t Option.isSome p

/-! ## Putting parsers together -/

section Combinators

variable {needs : α → Bool} {needs' : β → Bool} {p q : Parser α} {f : α → Parser β}

/-- Who takes a token whatever it gives takes one if it needs to. -/
theorem AdvancesAt.weaken (h : AdvancesAt ts t (fun _ => true) p) : AdvancesAt ts t needs p :=
  fun _ _ _ hc ht hp => ⟨(h hc ht hp).1, fun _ => (h hc ht hp).2 rfl⟩

theorem AdvancesAt.forget (h : AdvancesAt ts t needs p) : AdvancesAt ts t (fun _ => false) p :=
  fun _ _ _ hc ht hp => ⟨(h hc ht hp).1, fun hneed => (Bool.false_ne_true hneed).elim⟩

theorem Consumes.forward (h : Consumes ts p) : Forward ts p := fun t => (h t).forget

/-- A first part that goes on, and a second part that takes what is needed. -/
theorem AdvancesAt.bind (hp : AdvancesAt ts t (fun _ => false) p)
    (hf : ∀ a u, AdvancesAt ts u needs' (f a)) : AdvancesAt ts t needs' (p >>= f) := by
  intro c c' b hc ht h
  obtain ⟨a, c₁, ha, h⟩ := bind_eq_ok.mp h
  have h₁ := (hp hc ht ha).1
  obtain ⟨h₂, hlt⟩ := hf a c₁.current h₁.on rfl h
  exact ⟨h₁.trans h₂, fun hneed => Nat.lt_of_lt_of_le (hlt hneed) h₁.le⟩

/-- A first part that takes a token, and a second part that goes on. -/
theorem AdvancesAt.take (hp : AdvancesAt ts t (fun _ => true) p) (hf : ∀ a, Forward ts (f a)) :
    AdvancesAt ts t needs' (p >>= f) := by
  intro c c' b hc ht h
  obtain ⟨a, c₁, ha, h⟩ := bind_eq_ok.mp h
  obtain ⟨h₁, hlt⟩ := hp hc ht ha
  have h₂ := (hf a c₁.current h₁.on rfl h).1
  exact ⟨h₁.trans h₂, fun _ => Nat.lt_of_le_of_lt h₂.le (hlt rfl)⟩

theorem Forward.bind (hp : Forward ts p) (hf : ∀ a, Forward ts (f a)) : Forward ts (p >>= f) :=
  fun t => (hp t).bind hf

theorem Consumes.take (hp : Consumes ts p) (hf : ∀ a, Forward ts (f a)) :
    Consumes ts (p >>= f) :=
  fun t => (hp t).take hf

theorem Consumes.bind (hp : Forward ts p) (hf : ∀ a, Consumes ts (f a)) :
    Consumes ts (p >>= f) :=
  fun t => (hp t).bind hf

theorem AdvancesAt.ite {P : Prop} [Decidable P] (hp : P → AdvancesAt ts t needs p)
    (hq : ¬P → AdvancesAt ts t needs q) : AdvancesAt ts t needs (if P then p else q) := by
  split
  · exact hp ‹_›
  · exact hq ‹_›

theorem Forward.ite {P : Prop} [Decidable P] (hp : Forward ts p) (hq : Forward ts q) :
    Forward ts (if P then p else q) :=
  fun t => .ite (fun _ => hp t) fun _ => hq t

theorem Consumes.ite {P : Prop} [Decidable P] (hp : Consumes ts p) (hq : Consumes ts q) :
    Consumes ts (if P then p else q) :=
  fun t => .ite (fun _ => hp t) fun _ => hq t

/-- What needs no token may be given at once. -/
theorem AdvancesAt.pure {a : α} (h : needs a = false) : AdvancesAt ts t needs (pure a) := by
  intro c c' b hc _ hp
  cases hp
  exact ⟨.refl hc, fun hneed => absurd (h.symm.trans hneed) Bool.false_ne_true⟩

theorem Forward.pure (a : α) : Forward ts (pure a : Parser α) := fun _ => .pure rfl

/-- What always fails takes what it needs. -/
theorem AdvancesAt.of_error (h : ∀ c, ∃ fault, p c = .error fault) : AdvancesAt ts t needs p := by
  intro c c' a _ _ hp
  obtain ⟨fault, hfault⟩ := h c
  cases hfault.symm.trans hp

theorem consumes_refuse (expected : String) : Consumes ts (refuse expected : Parser α) := by
  refine fun t => .of_error fun c => ?_
  unfold refuse
  split
  · exact ⟨_, rfl⟩
  · exact ⟨_, rfl⟩

theorem consumes_fail (cause : SyntaxCause) : Consumes ts (fail cause : Parser α) :=
  fun _ => .of_error fun _ => ⟨_, rfl⟩

/-- A look at the cursor takes nothing. -/
theorem AdvancesAt.look (g : Cursor → α) (hf : ∀ a, AdvancesAt ts t needs' (f a)) :
    AdvancesAt ts t needs' ((fun c => .ok (g c, c) : Parser α) >>= f) :=
  fun c _ _ hc ht h => hf (g c) hc ht h

theorem AdvancesAt.current {f : Token → Parser β} (hf : AdvancesAt ts t needs' (f t)) :
    AdvancesAt ts t needs' (current >>= f) := by
  intro c c' b hc ht h
  rw [current_bind, ht] at h
  exact hf hc ht h

theorem AdvancesAt.atWord {word : String} {f : Bool → Parser β}
    (hf : AdvancesAt ts t needs' (f (t.isWord word))) :
    AdvancesAt ts t needs' (atWord word >>= f) := by
  intro c c' b hc ht h
  rw [atWord_bind, ht] at h
  exact hf hc ht h

theorem Forward.look (g : Cursor → α) (hf : ∀ a, Forward ts (f a)) :
    Forward ts ((fun c => .ok (g c, c) : Parser α) >>= f) :=
  fun t => .look g fun a => hf a t

theorem Consumes.look (g : Cursor → α) (hf : ∀ a, Consumes ts (f a)) :
    Consumes ts ((fun c => .ok (g c, c) : Parser α) >>= f) :=
  fun t => .look g fun a => hf a t

theorem forward_advance : Forward ts advance := by
  intro t c c' a hc _ h
  cases h
  exact ⟨.next hc, fun hneed => (Bool.false_ne_true hneed).elim⟩

/-- **A token that is not the end token** is left behind. -/
theorem AdvancesAt.advance (hts : Token.EndOnce ts) (ht : t.isEnd = false) {f : Token → Parser β}
    (hf : ∀ u, Forward ts (f u)) : AdvancesAt ts t needs' (advance >>= f) := by
  refine AdvancesAt.take (fun c c' a hc hcurrent h => ?_) hf
  cases h
  exact ⟨.next hc, fun _ => hc.remaining_next_lt hts (hcurrent ▸ ht)⟩

theorem forward_store (form : Form Node) (range : TextRange) : Forward ts (store form range) := by
  intro t c c' a hc _ h
  cases h
  exact ⟨.store hc form range, fun hneed => (Bool.false_ne_true hneed).elim⟩

theorem forward_node (start : Nat) (form : Form Node) : Forward ts (node start form) := by
  intro t c c' a hc ht h
  exact forward_store form (c.rangeFrom start) t hc ht h

/-- **A repetition goes on** if its turns do. -/
theorem Forward.repeatWhile {step : σ → Parser (Option σ)} (h : ∀ s, IsTurn ts (step s)) (s : σ) :
    Forward ts (repeatWhile step s) := by
  intro t c c' s' hc _ hrun
  refine ⟨?_, fun hneed => (Bool.false_ne_true hneed).elim⟩
  have hstep : ∀ s c c' r, c.On ts → step s c = .ok (r, c') → c.Onward ts c' :=
    fun s c c' r hc hs => (h s c.current hc rfl hs).1
  refine repeatWhile_invariant (fun _ c₁ => c.Onward ts c₁) ?_ ?_ (.refl hc) hrun
  · exact fun s c₁ c₂ h₁ hs => h₁.trans (hstep s c₁ c₂ none h₁.on hs)
  · exact fun s s' c₁ c₂ h₁ hs => h₁.trans (hstep s c₁ c₂ (some s') h₁.on hs)

/-- **An attempt goes on** if what is tried does: what comes to nothing is taken back. -/
theorem Forward.attempt (follow : Token → Bool) (h : Forward ts p) :
    Forward ts (attempt follow p) := by
  intro t c c' found hc ht hrun
  refine ⟨?_, fun hneed => (Bool.false_ne_true hneed).elim⟩
  unfold Parser.attempt at hrun
  split at hrun
  · rename_i a c₁ ha
    split at hrun
    · cases hrun
      exact (h t hc ht ha).1
    · cases hrun
      exact .refl hc
  · cases hrun
    exact .refl hc

end Combinators

/-! ## Single tokens and lists -/

theorem forward_accept (mark : Char) : Forward ts (accept mark) :=
  .look _ fun _ => .ite (.bind forward_advance fun _ => .pure true) (.pure false)

theorem forward_skipIf (test : Token → Bool) : Forward ts (skipIf test) :=
  .look _ fun _ => .ite (.bind forward_advance fun _ => .pure ()) (.pure ())

section EndOnce

variable (hts : Token.EndOnce ts)

include hts

theorem consumes_expect (mark : Char) (expected : String) : Consumes ts (expect mark expected) := by
  intro t c c' a hc _ h
  obtain ⟨hp, _, rfl⟩ := expect_ok h
  exact ⟨.next hc, fun _ => hc.remaining_next_lt hts (isEnd_of_isPunct hp)⟩

theorem consumes_name (expected : String) : Consumes ts (name expected) := by
  intro t c c' a hc _ h
  obtain ⟨hp, _, rfl⟩ := name_ok h
  exact ⟨.next hc, fun _ => hc.remaining_next_lt hts (isEnd_of_isIdentifier hp)⟩

/-! ## Lists and brackets -/

omit hts in
/-- An item of a list takes a token. -/
theorem isTurn_commaStep {p : Parser α} (closer : Char) (h : Consumes ts p) (l : Listing α) :
    IsTurn ts (commaStep closer p l) := by
  refine fun t => .look _ fun _ => .ite (fun _ => .pure rfl) fun _ => .take (h t) fun _ => ?_
  exact .bind (forward_accept ',') fun _ => .pure _

omit hts in
theorem forward_commaList {p : Parser α} (closer : Char)
    (h : ∀ l, IsTurn ts (commaStep closer p l)) : Forward ts (commaList closer p) :=
  .bind (.repeatWhile h _) fun _ => .pure _

theorem isTurn_angleStep {p : Parser α} (h : Consumes ts p) (l : Listing α) :
    IsTurn ts (angleStep p l) := by
  refine fun t => .ite (fun _ => .pure rfl) fun _ => .take (h t) fun _ => ?_
  exact .bind (forward_accept '>') fun _ =>
    .ite (.pure _) (.bind (consumes_expect hts ',' _).forward fun _ => .pure _)

theorem consumes_angleList {p : Parser α} (h : Consumes ts p) : Consumes ts (angleList p) :=
  .take (consumes_expect hts '<' _) fun _ =>
    .bind (.repeatWhile (isTurn_angleStep hts h) _) fun _ => .pure _

theorem consumes_bracketToken (depth : Nat) : Consumes ts (bracketToken depth) :=
  fun t => .current (.ite (fun _ => consumes_refuse _ t) fun he =>
    .advance hts (Bool.eq_false_iff.mpr he) fun _ => .pure _)

/-- A token of a bracketed region, while a bracket is open. -/
def bracketStep (depth : Nat) : Parser (Option Nat) := do
  if depth == 0 then return none else return some (← bracketToken depth)

theorem isTurn_bracketStep (depth : Nat) : IsTurn ts (bracketStep depth) :=
  fun t => .ite (fun _ => .pure rfl) fun _ =>
    .take (consumes_bracketToken hts depth t) fun _ => .pure _

theorem consumes_skipBracketed : Consumes ts skipBracketed :=
  .take (consumes_bracketToken hts 0) fun depth =>
    .bind (.repeatWhile (isTurn_bracketStep hts) depth) fun _ => .pure ()

/-- Takes a token that satisfies `p`. -/
def skipStep (p : Cursor → Bool) (_ : Unit) : Parser (Option Unit) := fun c =>
  if p c then .ok (some (), c.next) else .ok (none, c)

theorem isTurn_skipStep {p : Cursor → Bool} (hp : ∀ c, p c = true → c.current.isEnd = false)
    (u : Unit) : IsTurn ts (skipStep p u) := by
  intro t c c' found hc _ h
  unfold skipStep at h
  split at h
  · rename_i hpc
    cases h
    exact ⟨.next hc, fun _ => hc.remaining_next_lt hts (hp c hpc)⟩
  · cases h
    exact ⟨.refl hc, fun hneed => (Bool.false_ne_true hneed).elim⟩

theorem forward_skipWhile {p : Cursor → Bool} (hp : ∀ c, p c = true → c.current.isEnd = false) :
    Forward ts (skipWhile p) :=
  .repeatWhile (isTurn_skipStep hts hp) ()

/-! ## Types -/

theorem isTurn_typeStep (ends : Token → Bool) (lineBreaksEnd : Bool) (scan : TypeScan) :
    IsTurn ts (typeStep ends lineBreaksEnd scan) := by
  intro t c c' found hc _ h
  cases found with
  | none =>
    rw [typeStep_none h]
    exact ⟨.refl hc, fun hneed => (Bool.false_ne_true hneed).elim⟩
  | some scan' =>
    obtain ⟨he, rfl, _⟩ := typeStep_some h
    exact ⟨.next hc, fun _ => hc.remaining_next_lt hts he⟩

/-- **A type takes a token**, since it is refused if it has none. -/
theorem consumes_typeUntil (ends : Token → Bool) (lineBreaksEnd : Bool) :
    Consumes ts (typeUntil ends lineBreaksEnd) := by
  intro t c c' n hc _ h
  unfold typeUntil at h
  rw [here_bind] at h
  obtain ⟨scan, c₁, hs, h⟩ := bind_eq_ok.mp h
  obtain ⟨h₁, hlt⟩ :
      c.Onward ts c₁ ∧ (scan.taken ≠ [] → c₁.remaining < c.remaining) := by
    refine repeatWhile_invariant
      (fun (scan : TypeScan) c₁ =>
        c.Onward ts c₁ ∧ (scan.taken ≠ [] → c₁.remaining < c.remaining))
      ?_ ?_ ⟨.refl hc, fun hne => absurd rfl hne⟩ hs
    · intro scan c₂ c₃ hI h
      rw [typeStep_none h]
      exact hI
    · intro scan scan' c₂ c₃ hI h
      obtain ⟨h₂, hlt⟩ := isTurn_typeStep hts ends lineBreaksEnd scan _ hI.1.on rfl h
      exact ⟨hI.1.trans h₂, fun _ => Nat.lt_of_lt_of_le (hlt rfl) hI.1.le⟩
  split at h
  · exact absurd h refuse_ne_ok
  · rename_i hne
    cases h
    exact ⟨h₁.trans (.store h₁.on _ _), fun _ => hlt fun he => hne (he ▸ rfl)⟩

theorem forward_typeAfterColon (ends : Token → Bool) (lineBreaksEnd : Bool) :
    Forward ts (typeAfterColon ends lineBreaksEnd) :=
  .bind (forward_accept ':') fun _ =>
    .ite (.bind (consumes_typeUntil hts ends lineBreaksEnd).forward fun _ => .pure _) (.pure none)

theorem consumes_typeParameter : Consumes ts typeParameter := by
  refine .take (consumes_name hts _) fun parameter => .bind ?_ fun _ => .pure parameter
  exact .look _ fun _ =>
    .ite (.pure ()) (.bind (consumes_typeUntil hts _ _).forward fun _ => .pure ())

theorem forward_typeParameters : Forward ts typeParameters :=
  .look _ fun _ => .ite (consumes_angleList hts (consumes_typeParameter hts)).forward (.pure [])

/-- The list of type arguments as it is tried. -/
theorem consumes_typeArgumentList :
    Consumes ts (angleList (typeUntil (·.isPunct ',') false)) :=
  consumes_angleList hts (consumes_typeUntil hts _ _)

theorem forward_typeArguments : Forward ts typeArguments :=
  .attempt _ (consumes_typeArgumentList hts).forward

end EndOnce

/-! ## Functions -/

/-- **The parsers for what is nested** take a token. -/
structure Inner.Consumes (ts : List Token) (inner : Inner) : Prop where
  expression : Parser.Consumes ts inner.expression
  block : Parser.Consumes ts inner.block

section Inner

variable {inner : Inner} (hts : Token.EndOnce ts) (hi : inner.Consumes ts)

include hi

theorem consumes_element : Consumes ts (element inner) :=
  .look _ fun token =>
    .ite (.bind forward_advance fun _ => .take hi.expression fun _ => forward_node token.start _)
      hi.expression

theorem forward_initialValue : Forward ts (initialValue inner) :=
  .bind (forward_accept '=') fun _ =>
    .ite (.bind hi.expression.forward fun _ => .pure _) (.pure none)

include hts

omit hi in
theorem consumes_parameterName : Consumes ts parameterName :=
  .look _ fun _ =>
    .ite (.take (consumes_skipBracketed hts) fun _ => .pure "") (consumes_name hts _)

theorem consumes_parameter : Consumes ts (parameter inner) :=
  .look _ fun start =>
    .bind (forward_skipIf _) fun _ =>
      .take (consumes_parameterName hts) fun _ =>
        .bind (forward_accept '?') fun _ =>
          .bind (forward_typeAfterColon hts _ _) fun _ =>
            .bind (forward_initialValue hi) fun _ => forward_node start _

theorem consumes_parameters : Consumes ts (parameters inner) :=
  .take (consumes_expect hts '(' _) fun _ =>
    .bind (forward_commaList ')' (isTurn_commaStep ')' (consumes_parameter hts hi))) fun found =>
      .bind (consumes_expect hts ')' _).forward fun _ => .pure found

theorem consumes_functionRest (start : Nat) : Consumes ts (functionRest inner start) :=
  .take (consumes_parameters hts hi) fun _ =>
    .bind (forward_typeAfterColon hts _ _) fun _ =>
      .bind hi.block.forward fun _ => forward_node start _

theorem consumes_functionExpression : Consumes ts (functionExpression inner) :=
  .look _ fun start =>
    .bind forward_advance fun _ =>
      .bind (forward_skipIf _) fun _ => consumes_functionRest hts hi start

theorem consumes_arrowParameters : Consumes ts (arrowParameters inner) :=
  fun t => .current (.ite
    (fun ht => .advance hts (isEnd_of_isIdentifier ht) fun _ =>
      .bind (forward_store _ _) fun _ => .pure _)
    fun _ => consumes_parameters hts hi t)

omit hts in
theorem consumes_arrowBody : Consumes ts (arrowBody inner) :=
  .look _ fun _ => .ite hi.block hi.expression

theorem consumes_arrowFunction : Consumes ts (arrowFunction inner) :=
  .look _ fun start =>
    .take (consumes_arrowParameters hts hi) fun _ =>
      .bind (forward_typeAfterColon hts _ _) fun _ =>
        .look _ fun _ =>
          .ite (.bind forward_advance fun _ =>
              .bind (consumes_arrowBody hi).forward fun _ => forward_node start _)
            (consumes_refuse _).forward

/-! ## Literals -/

theorem consumes_property : Consumes ts (property inner) := by
  refine .look _ fun start => fun t => .current (.ite (fun _ => consumes_element hi t) fun _ => ?_)
  cases hkey : propertyName t with
  | none => exact consumes_refuse _ t
  | some key =>
    refine .advance hts (isEnd_of_propertyName hkey) fun _ =>
      .bind (forward_accept ':') fun _ => .ite ?_ ?_
    · exact .bind hi.expression.forward fun _ => forward_node start _
    · refine .look _ fun _ => .ite ?_ (forward_node start _)
      exact .look _ fun own =>
        .bind (consumes_functionRest hts hi own).forward fun _ => forward_node start _

theorem consumes_objectLiteral : Consumes ts (objectLiteral inner) :=
  .take (consumes_expect hts '\x7b' _) fun opening =>
    .bind (forward_commaList '\x7d' (isTurn_commaStep '\x7d' (consumes_property hts hi)))
      fun _ => .bind (consumes_expect hts '\x7d' _).forward fun _ => forward_node opening.start _

theorem consumes_arrayLiteral : Consumes ts (arrayLiteral inner) :=
  .look _ fun start =>
    .bind forward_advance fun _ =>
      .bind (forward_commaList ']' (isTurn_commaStep ']' (consumes_element hi))) fun _ =>
        .take (consumes_expect hts ']' _) fun _ => forward_node start _

omit hts in
theorem consumes_parenthesized (hclose : Consumes ts (expect ')' "')'")) :
    Consumes ts (parenthesized inner) :=
  .look _ fun start =>
    .bind forward_advance fun _ =>
      .take hi.expression fun _ =>
        .bind hclose.forward fun _ => forward_node start _

/-! ## Primary expressions and what follows them -/

omit hi in
theorem leaf_advances (form : Form Node) (ht : t.isEnd = false) {needs : Node → Bool} :
    AdvancesAt ts t needs (leaf form) :=
  .advance hts ht fun token => forward_store form token.range

theorem consumes_plainPrimary : Consumes ts (plainPrimary inner) := by
  refine fun t => .current ?_
  have he : ∀ k, t.kind = k → k ≠ .endOfText → t.isEnd = false := by
    intro k hk hne
    unfold Token.isEnd
    rw [hk]
    exact beq_false_of_ne hne
  split
  · rename_i hk
    refine .ite (fun _ => consumes_functionExpression hts hi t) fun _ => .look _ fun _ => ?_
    exact .ite (fun _ => consumes_arrowFunction hts hi t) fun _ =>
      leaf_advances hts _ (he _ hk TokenKind.noConfusion)
  · rename_i hk
    exact leaf_advances hts _ (he _ hk TokenKind.noConfusion)
  · rename_i hk
    exact leaf_advances hts _ (he _ hk TokenKind.noConfusion)
  · rename_i hk
    exact leaf_advances hts _ (he _ hk TokenKind.noConfusion)
  · exact .look _ fun _ => .ite (fun _ => consumes_arrowFunction hts hi t) fun _ =>
      consumes_parenthesized hi (consumes_expect hts ')' _) t
  · exact consumes_arrayLiteral hts hi t
  · exact consumes_objectLiteral hts hi t
  · exact consumes_refuse _ t

theorem consumes_primary : Consumes ts (primary inner) :=
  .look _ fun _ =>
    .ite (.bind forward_advance fun _ => consumes_plainPrimary hts hi)
      (consumes_plainPrimary hts hi)

theorem consumes_arguments : Consumes ts (arguments inner) :=
  .take (consumes_expect hts '(' _) fun _ =>
    .bind (forward_commaList ')' (isTurn_commaStep ')' (consumes_element hi))) fun found =>
      .bind (consumes_expect hts ')' _).forward fun _ => .pure found

omit hi in
theorem consumes_memberAccess (start : Nat) (e : Node) : Consumes ts (memberAccess start e) :=
  .bind (forward_skipIf _) fun _ =>
    .bind forward_advance fun _ =>
      .take (consumes_name hts _) fun _ => forward_node start _

theorem consumes_indexed (start : Nat) (e : Node) : Consumes ts (indexed inner start e) :=
  .bind forward_advance fun _ =>
    .take hi.expression fun _ =>
      .bind (consumes_expect hts ']' _).forward fun _ => forward_node start _

theorem consumes_called (start : Nat) (e : Node) (types : List Node) :
    Consumes ts (called inner start e types) :=
  .take (consumes_arguments hts hi) fun _ => forward_node start _

/-- **What follows a primary expression takes a token**, also a mark or a word that adds no
node. -/
theorem isTurn_postfixStep (start : Nat) (e : Node) : IsTurn ts (postfixStep inner start e) := by
  refine fun t => .current (.look _ fun following => .look _ fun broken => ?_)
  refine .ite ?member fun _ => .ite ?call fun _ => .ite ?typedCall fun _ => .ite ?index fun _ =>
    .ite ?mark fun _ => .ite ?assertion fun _ => .pure rfl
  case member => exact fun _ => .take (consumes_memberAccess hts start e t) fun _ => .pure _
  case call => exact fun _ => .take (consumes_called hts hi start e [] t) fun _ => .pure _
  case typedCall =>
    refine fun _ => .bind (forward_typeArguments hts t) fun found u => ?_
    cases found with
    | none => exact .pure rfl
    | some types => exact .take (consumes_called hts hi start e types u) fun _ => .pure _
  case index => exact fun _ => .take (consumes_indexed hts hi start e t) fun _ => .pure _
  case mark =>
    exact fun ht => .advance hts (isEnd_of_isPunct (Bool.and_eq_true_iff.mp ht).1) fun _ => .pure _
  case assertion =>
    exact fun _ => .bind (forward_advance t) fun _ u =>
      .take (consumes_typeUntil hts _ _ u) fun _ => .pure _

theorem consumes_postfixed : Consumes ts (postfixed inner) :=
  .look _ fun start =>
    .take (consumes_primary hts hi) fun first =>
      .repeatWhile (isTurn_postfixStep hts hi start) first

/-! ## Operators -/

theorem consumes_operand : Consumes ts (operand inner) :=
  .bind (forward_skipWhile hts fun _ => isEnd_of_atUnaryOperator) fun _ => consumes_postfixed hts hi

/-- An operator takes a token because an operand does. -/
theorem isTurn_operatorStep (s : Operands) : IsTurn ts (operatorStep inner s) := by
  refine fun t => .current (.look _ fun following =>
    .ite ?colon fun _ => .ite ?conditional fun _ => .look _ fun _ =>
      .ite ?operator fun _ => .pure rfl)
  case colon =>
    exact fun _ => .bind (forward_advance t) fun _ u =>
      .take (consumes_operand hts hi u) fun _ => .pure _
  case conditional =>
    exact fun _ => .bind (forward_advance t) fun _ u =>
      .take (consumes_operand hts hi u) fun _ => .pure _
  case operator =>
    exact fun _ => .bind (forward_skipWhile hts (fun _ => isEnd_of_atOperator) t) fun _ u =>
      .take (consumes_operand hts hi u) fun _ => .pure _

theorem consumes_operation : Consumes ts (operation inner) := by
  refine .look _ fun start => .take (consumes_operand hts hi) fun first =>
    .bind (.repeatWhile (isTurn_operatorStep hts hi) _) fun s => ?_
  split
  · exact .pure _
  · exact forward_node start _

/-! ## Statements -/

/-- A token of an import, up to the name of the module. -/
def importStep (found : Bool) : Parser (Option Bool) := do
  if found then return none
  else
    let token ← current
    if token.isEnd then refuse "module specifier"
    else
      let _ ← advance
      return some (match token.kind with
        | .string _ => true
        | _ => false)

omit hi in
theorem isTurn_importStep (found : Bool) : IsTurn ts (importStep found) :=
  fun t => .ite (fun _ => .pure rfl) fun _ =>
    .current (.ite (fun _ => (consumes_refuse _ t).weaken) fun he =>
      .advance hts (Bool.eq_false_iff.mpr he) fun _ => .pure _)

omit hi in
theorem importDeclaration_advances (start : Nat) (ht : t.isEnd = false) :
    AdvancesAt ts t (fun _ => true) (importDeclaration start) :=
  .advance hts ht fun _ =>
    .bind (.repeatWhile (isTurn_importStep hts) false) fun _ =>
      .bind (forward_accept ';') fun _ => forward_node start _

omit hts in
theorem forward_functionBody (declared : Bool) : Forward ts (functionBody inner declared) :=
  .look _ fun _ =>
    .ite (.bind hi.block.forward fun _ => .pure _) (.bind (forward_accept ';') fun _ => .pure none)

theorem consumes_functionDeclaration (start : Nat) (declared : Bool) :
    Consumes ts (functionDeclaration inner start declared) :=
  .bind forward_advance fun _ =>
    .take (consumes_name hts _) fun _ =>
      .bind (forward_typeParameters hts) fun _ =>
        .bind (consumes_parameters hts hi).forward fun _ =>
          .bind (forward_typeAfterColon hts _ _) fun _ =>
            .bind (forward_functionBody hi declared) fun _ => forward_node start _

theorem consumes_variableDeclaration (start : Nat) :
    Consumes ts (variableDeclaration inner start) :=
  .bind forward_advance fun _ =>
    .take (consumes_name hts _) fun _ =>
      .bind (forward_typeAfterColon hts _ _) fun _ =>
        .bind (forward_initialValue hi) fun _ =>
          .bind (forward_accept ';') fun _ => forward_node start _

omit hi in
theorem consumes_typeAlias (start : Nat) : Consumes ts (typeAlias start) :=
  .bind forward_advance fun _ =>
    .take (consumes_name hts _) fun _ =>
      .bind (forward_typeParameters hts) fun _ =>
        .bind (consumes_expect hts '=' _).forward fun _ =>
          .bind (consumes_typeUntil hts _ _).forward fun _ =>
            .bind (forward_accept ';') fun _ => forward_node start _

/-- Whether the cursor is in the head of an interface. -/
def inInterfaceHead (c : Cursor) : Bool := !c.current.isPunct '\x7b' && !c.current.isEnd

omit hts hi in
theorem isEnd_of_inInterfaceHead {c : Cursor} (h : inInterfaceHead c = true) :
    c.current.isEnd = false :=
  (Bool.not_eq_true' _).mp (Bool.and_eq_true_iff.mp h).2

omit hi in
theorem consumes_interfaceDeclaration (start : Nat) :
    Consumes ts (interfaceDeclaration start) :=
  .bind (forward_skipWhile hts fun _ => isEnd_of_inInterfaceHead) fun _ =>
    .look _ fun _ =>
      .ite (.take (consumes_skipBracketed hts) fun _ => forward_node start _) (consumes_refuse _)

theorem returnStatement_advances (start : Nat) (ht : t.isEnd = false) :
    AdvancesAt ts t (fun _ => true) (returnStatement inner start) := by
  refine .advance hts ht fun _ => .bind ?_ fun _ =>
    .bind (forward_accept ';') fun _ => forward_node start _
  exact .look _ fun _ => .look _ fun _ =>
    .ite (.pure none) (.bind hi.expression.forward fun _ => .pure _)

theorem consumes_ambientDeclaration (start : Nat) : Consumes ts (ambientDeclaration inner start) :=
  .bind forward_advance fun _ =>
    .look _ fun _ =>
      .ite (consumes_functionDeclaration hts hi start true)
        (.ite (consumes_variableDeclaration hts hi start) (consumes_refuse _))

theorem consumes_plainStatement (start : Nat) : Consumes ts (plainStatement inner start) := by
  refine fun t => .current (.look _ fun _ => .look _ fun _ => ?_)
  refine .ite (fun _ => consumes_ambientDeclaration hts hi start t) fun _ =>
    .ite (fun _ => consumes_functionDeclaration hts hi start false t) fun _ =>
      .ite (fun _ => consumes_variableDeclaration hts hi start t) fun _ =>
        .ite (fun _ => consumes_typeAlias hts start t) fun _ =>
          .ite (fun _ => consumes_interfaceDeclaration hts start t) fun _ =>
            .ite (fun ht => returnStatement_advances hts hi start (isEnd_of_isWord ht)) fun _ =>
              .ite (fun _ => hi.block t) fun _ => ?expression
  case expression =>
    exact .take (hi.expression t) fun _ =>
      .bind (forward_accept ';') fun _ => forward_node start _

/-- A word that exports a statement, with the word behind it. -/
def exportStep (_ : Unit) : Parser (Option Unit) := do
  if ← atWord "export" then
    let _ ← advance
    skipIf (·.isWord "default")
    return some ()
  else
    return none

omit hi in
theorem isTurn_exportStep (u : Unit) : IsTurn ts (exportStep u) :=
  fun _ => .atWord (.ite
    (fun ht => .advance hts (isEnd_of_isWord ht) fun _ => .bind (forward_skipIf _) fun _ => .pure _)
    fun _ => .pure rfl)

omit hi in
theorem forward_skipExports : Forward ts skipExports := .repeatWhile (isTurn_exportStep hts) ()

/-- **A statement takes a token.** -/
theorem consumes_statement : Consumes ts (statement inner) :=
  fun t => .look _ fun start => .atWord (.ite
    (fun ht => importDeclaration_advances hts start (isEnd_of_isWord ht))
    fun _ => .bind (forward_skipExports hts t) fun _ u => consumes_plainStatement hts hi start u)

theorem isTurn_statementStep (inBlock : Bool) (found : List Node) :
    IsTurn ts (statementStep inner inBlock found) := by
  refine fun t => .bind (forward_skipWhile hts (fun _ => isEnd_of_isPunct) t) fun _ u =>
    .look _ fun _ => .ite (fun _ => ?atEnd) fun _ => .ite (fun _ => .pure rfl) fun _ => ?statement
  case atEnd => exact .ite (fun _ => (consumes_refuse _ u).weaken) fun _ => .pure rfl
  case statement => exact .take (consumes_statement hts hi u) fun _ => .pure _

theorem consumes_block : Consumes ts (block inner) := by
  refine .take (consumes_expect hts '\x7b' _) fun opening => .bind ?_ fun _ =>
    .bind (consumes_expect hts '\x7d' _).forward fun _ => forward_node opening.start _
  exact .bind (.repeatWhile (isTurn_statementStep hts hi true) _) fun _ => .pure _

end Inner

/-! ## Nesting -/

/-- **On every level of nesting** expressions and blocks take a token. -/
theorem consumes_within (hts : Token.EndOnce ts) (levels : Nat) : (within levels).Consumes ts := by
  induction levels with
  | zero => exact ⟨consumes_fail _, consumes_fail _⟩
  | succ levels ih => exact ⟨consumes_operation hts ih, consumes_block hts ih⟩

end Parser

end TypeTest

import TypeTest.Proofs.Parsing.Placement

/-!
# What parsers read

A parser **reads what it gives** if the nodes in its result span the tokens between the
cursor it was given and the one it leaves. The property goes through everything that
parsers are made of, which is shown here from single tokens to lists and types; an
expression or a statement then needs only the composition of its parts.
-/

namespace TypeTest

open TypeTest.Parser

variable {ts : List Token} {α β : Type} {c c₀ c₁ c' : Cursor}

/-- **The parser reads what it gives**: the nodes `parts` of its result span what it
took. -/
def Parser.Reads (ts : List Token) (p : Parser α) (parts : α → List Node) : Prop :=
  ∀ ⦃c c' : Cursor⦄ ⦃a : α⦄, c.On ts → p c = .ok (a, c') → Span ts c (parts a) c'

/-- **The parser reads what it gives and takes** at least one token. -/
def Parser.Takes (ts : List Token) (p : Parser α) (parts : α → List Node) : Prop :=
  ∀ ⦃c c' : Cursor⦄ ⦃a : α⦄, c.On ts → p c = .ok (a, c') →
    Span ts c (parts a) c' ∧ c'.remaining < c.remaining

theorem Parser.Takes.reads {p : Parser α} {parts : α → List Node} (h : Takes ts p parts) :
    Reads ts p parts :=
  fun _ _ _ hc ha => (h hc ha).1

/-- **The parsers for what is nested read what they give.** -/
structure Parser.Inner.Reads (ts : List Token) (inner : Inner) : Prop where
  expression : Parser.Reads ts inner.expression ([·])
  block : Parser.Reads ts inner.block ([·])

/-- **A span goes on with a parser** that reads what it gives. -/
theorem Span.bind (hts : Token.InOrder ts) {ns : List Node} {p : Parser α}
    {parts : α → List Node} {f : α → Parser β} {b : β} (s : Span ts c₀ ns c)
    (hp : Reads ts p parts) (h : (p >>= f) c = .ok (b, c')) :
    ∃ a c₁, p c = .ok (a, c₁) ∧ Span ts c₀ (ns ++ parts a) c₁ ∧ f a c₁ = .ok (b, c') := by
  obtain ⟨a, c₁, ha, hf⟩ := bind_eq_ok.mp h
  exact ⟨a, c₁, ha, s.trans hts (hp s.stop ha), hf⟩

/-- A span goes on with a parser that reads no nodes. -/
theorem Span.pass (hts : Token.InOrder ts) {ns : List Node} {p : Parser α}
    {f : α → Parser β} {b : β} (s : Span ts c₀ ns c) (hp : Reads ts p fun _ => [])
    (h : (p >>= f) c = .ok (b, c')) :
    ∃ a c₁, p c = .ok (a, c₁) ∧ Span ts c₀ ns c₁ ∧ f a c₁ = .ok (b, c') := by
  obtain ⟨a, c₁, ha, hf⟩ := bind_eq_ok.mp h
  exact ⟨a, c₁, ha, s.skip hts (hp s.stop ha), hf⟩

/-- A span after a token that is not the last one goes back over that token. -/
theorem Span.of_next (hts : Token.InOrder ts) {ns : List Node} (hc : c.On ts)
    (he : c.current.isEnd = false) (s : Span ts c.next ns c') :
    Span ts c ns c' ∧ c'.remaining < c.remaining :=
  ⟨(Span.next hc).trans hts s, Nat.lt_of_le_of_lt s.le (hc.remaining_next_lt hts.last he)⟩

namespace Parser

/-! ## Tokens -/

theorem reads_advance : Reads ts advance fun _ => [] := by
  intro c c' t hc h
  cases h
  exact .next hc

theorem reads_accept (p : Char) : Reads ts (accept p) fun _ => [] := by
  intro c c' b hc h
  rw [accept_run] at h
  split at h
  · cases h
    exact .next hc
  · cases h
    exact .refl hc

theorem reads_expect (p : Char) (expected : String) :
    Reads ts (expect p expected) fun _ => [] := by
  intro c c' t hc h
  obtain ⟨_, _, rfl⟩ := expect_ok h
  exact .next hc

theorem reads_name (expected : String) : Reads ts (name expected) fun _ => [] := by
  intro c c' own hc h
  obtain ⟨_, _, rfl⟩ := name_ok h
  exact .next hc

theorem reads_skipIf (p : Token → Bool) : Reads ts (skipIf p) fun _ => [] := by
  intro c c' u hc h
  rw [skipIf_run] at h
  split at h
  · cases h
    exact .next hc
  · cases h
    exact .refl hc

/-- A tried parser reads what it gives, or nothing. -/
theorem reads_attempt (follow : Token → Bool) {p : Parser α} {parts : α → List Node}
    (hp : Reads ts p parts) :
    Reads ts (attempt follow p) fun found => found.toList.flatMap parts := by
  intro c c' found hc h
  unfold attempt at h
  split at h
  · rename_i x c₁ hx
    split at h
    · cases h
      show Span ts c ([x].flatMap parts) c'
      rw [List.flatMap_singleton]
      exact hp hc hx
    · cases h
      exact .refl hc
  · cases h
    exact .refl hc

section InOrder

variable (hts : Token.InOrder ts)

include hts

theorem takes_name (expected : String) : Takes ts (name expected) fun _ => [] := by
  intro c c' t hc h
  obtain ⟨hp, _, rfl⟩ := name_ok h
  exact ⟨.next hc, hc.remaining_next_lt hts.last (isEnd_of_isIdentifier hp)⟩

theorem reads_skipWhile (p : Cursor → Bool) : Reads ts (skipWhile p) fun _ => [] := by
  intro c c' u hc h
  refine repeatWhile_invariant (fun _ c₁ => Span ts c [] c₁) ?_ ?_ (.refl hc) h
  · intro _ c₁ c₂ hs h
    split at h
    · cases h
    · cases h
      exact hs
  · intro _ _ c₁ c₂ hs h
    split at h
    · cases h
      exact hs.skip hts (.next hs.stop)
    · cases h

/-! ## Lists -/

/-- A step of a list reads its item. -/
theorem span_commaStep {closer : Char} {item : Parser Node} (hi : Reads ts item ([·]))
    {l l' : Listing Node} (s : Span ts c₀ l.items.reverse c)
    (h : commaStep closer item l c = .ok (some l', c')) :
    Span ts c₀ l'.items.reverse c' := by
  unfold commaStep at h
  rw [atPunct_bind] at h
  split at h
  · cases h
  · obtain ⟨x, c₁, _, s, h⟩ := s.bind hts hi h
    obtain ⟨more, c₂, _, s, h⟩ := s.pass hts (reads_accept ',') h
    cases h
    rw [List.reverse_cons]
    exact s

/-- **Items separated by commas** are read if each of them is. -/
theorem reads_commaList (closer : Char) {item : Parser Node} (hi : Reads ts item ([·])) :
    Reads ts (commaList closer item) id := by
  intro c c' found hc h
  obtain ⟨l, c₁, h, hl⟩ := bind_eq_ok.mp h
  cases hl
  refine repeatWhile_invariant (fun l c₁ => Span ts c l.items.reverse c₁) ?_ ?_ (.refl hc) h
  · intro l c₁ c₂ s h
    rw [commaStep_none h]
    exact s
  · exact fun l l' c₁ c₂ s h => span_commaStep hts hi s h

/-- A step of a list in angle brackets reads its item. -/
theorem span_angleStep {item : Parser α} {parts : α → List Node} (hi : Reads ts item parts)
    {l l' : Listing α} (s : Span ts c₀ (l.items.reverse.flatMap parts) c)
    (h : angleStep item l c = .ok (some l', c')) :
    Span ts c₀ (l'.items.reverse.flatMap parts) c' := by
  unfold angleStep at h
  split at h
  · cases h
  · obtain ⟨x, c₁, _, s, h⟩ := s.bind hts hi h
    obtain ⟨closed, c₂, _, s, h⟩ := s.pass hts (reads_accept '>') h
    rw [← List.flatMap_singleton parts x, ← List.flatMap_append, ← List.reverse_cons] at s
    split at h
    · cases h
      exact s
    · obtain ⟨_, c₃, _, s, h⟩ := s.pass hts (reads_expect _ _) h
      cases h
      exact s

/-- **Items in angle brackets** are read if each of them is. -/
theorem takes_angleList {item : Parser α} {parts : α → List Node} (hi : Reads ts item parts) :
    Takes ts (angleList item) (List.flatMap parts) := by
  intro c c' found hc h
  obtain ⟨_, c₁, ho, h⟩ := bind_eq_ok.mp h
  obtain ⟨hp, _, rfl⟩ := expect_ok ho
  obtain ⟨l, c₂, h, hl⟩ := bind_eq_ok.mp h
  cases hl
  refine Span.of_next hts hc (isEnd_of_isPunct hp) ?_
  refine repeatWhile_invariant (fun l c₁ => Span ts c.next (l.items.reverse.flatMap parts) c₁)
    ?_ ?_ (.refl hc.next) h
  · intro l c₁ c₂ s h
    rw [angleStep_none h]
    exact s
  · exact fun l l' c₁ c₂ s h => span_angleStep hts hi s h

/-! ## Brackets -/

theorem takes_bracketToken (depth : Nat) : Takes ts (bracketToken depth) fun _ => [] := by
  intro c c' d hc h
  unfold bracketToken at h
  rw [current_bind] at h
  split at h
  · exact absurd h refuse_ne_ok
  · rename_i he
    cases h
    exact Span.of_next hts hc (Bool.eq_false_iff.mpr he) (.refl hc.next)

/-- **A bracketed region** is skipped. -/
theorem takes_skipBracketed : Takes ts skipBracketed fun _ => [] := by
  intro c c' u hc h
  obtain ⟨depth, c₁, h₁, h⟩ := bind_eq_ok.mp h
  obtain ⟨_, c₂, h₂, h⟩ := bind_eq_ok.mp h
  cases h
  obtain ⟨s, hlt⟩ := takes_bracketToken hts 0 hc h₁
  have s' : Span ts c₁ [] c' := by
    refine repeatWhile_invariant (fun _ c₂ => Span ts c₁ [] c₂) ?_ ?_ (.refl s.stop) h₂
    · intro depth c₃ c₄ s h
      split at h
      · cases h
        exact s
      · obtain ⟨_, _, _, h⟩ := bind_eq_ok.mp h
        cases h
    · intro depth depth' c₃ c₄ s h
      split at h
      · cases h
      · obtain ⟨_, c₅, _, s, h⟩ := s.pass hts (takes_bracketToken hts depth).reads h
        cases h
        exact s
  exact ⟨s.skip hts s', Nat.lt_of_le_of_lt s'.le hlt⟩

/-! ## Types -/

/-- **A type** is a node without parts over all its tokens. -/
theorem reads_typeUntil (ends : Token → Bool) (lineBreaksEnd : Bool) :
    Reads ts (typeUntil ends lineBreaksEnd) ([·]) := by
  intro c c' n hc h
  unfold typeUntil at h
  rw [here_bind] at h
  obtain ⟨scan, c₁, hs, h⟩ := bind_eq_ok.mp h
  have key : Span ts c [] c₁ ∧ (scan.taken ≠ [] → c₁.remaining < c.remaining) := by
    refine repeatWhile_invariant
      (fun (scan : TypeScan) c₁ =>
        Span ts c [] c₁ ∧ (scan.taken ≠ [] → c₁.remaining < c.remaining))
      ?_ ?_ ⟨.refl hc, fun h => absurd rfl h⟩ hs
    · intro scan c₂ c₃ hI h
      obtain rfl := typeStep_none h
      exact hI
    · intro scan scan' c₂ c₃ hI h
      obtain ⟨he, rfl, _⟩ := typeStep_some h
      refine ⟨hI.1.skip hts (.next hI.1.stop), fun _ => ?_⟩
      exact Nat.lt_of_lt_of_le (hI.1.stop.remaining_next_lt hts.last he) hI.1.le
  split at h
  · exact absurd h refuse_ne_ok
  · rename_i ht
    cases h
    refine key.1.other hts (key.2 (fun h => ht ?_)) rfl
    rw [h]
    rfl

theorem reads_typeAfterColon (ends : Token → Bool) (lineBreaksEnd : Bool) :
    Reads ts (typeAfterColon ends lineBreaksEnd) Option.toList := by
  intro c c' found hc h
  obtain ⟨colon, c₁, _, s, h⟩ := (Span.refl hc).pass hts (reads_accept ':') h
  split at h
  · obtain ⟨type, c₂, _, s, h⟩ := s.bind hts (reads_typeUntil hts _ _) h
    cases h
    exact s
  · cases h
    exact s

theorem reads_skipConstraint : Reads ts skipConstraint fun _ => [] := by
  intro c c' u hc h
  unfold skipConstraint at h
  rw [current_bind] at h
  split at h
  · cases h
    exact .refl hc
  · obtain ⟨_, c₁, ht, h⟩ := bind_eq_ok.mp h
    cases h
    exact (reads_typeUntil hts _ _ hc ht).drop

theorem reads_typeParameter : Reads ts typeParameter fun _ => [] := by
  intro c c' u hc h
  obtain ⟨own, c₁, _, s, h⟩ := (Span.refl hc).pass hts (reads_name _) h
  obtain ⟨_, c₂, _, s, h⟩ := s.pass hts (reads_skipConstraint hts) h
  cases h
  exact s

theorem reads_typeParameters : Reads ts typeParameters fun _ => [] := by
  intro c c' found hc h
  unfold typeParameters at h
  rw [atPunct_bind] at h
  split at h
  · exact (takes_angleList hts (reads_typeParameter hts) hc h).1.drop
  · cases h
    exact .refl hc

/-- **Type arguments** are read, or nothing is. -/
theorem reads_typeArguments :
    Reads ts typeArguments fun found => found.toList.flatten := by
  intro c c' found hc h
  have s := reads_attempt (·.isPunct '(')
    (takes_angleList hts (reads_typeUntil hts (·.isPunct ',') false)).reads hc h
  cases found with
  | none => exact s
  | some types =>
    simpa using s

/-! ## Type arguments -/

/-- **A type argument being read** from the cursor `c`: what was taken stands before what is
left, and whatever closes the brackets that are open makes it a type argument. -/
structure Taking (ts : List Token) (c : Cursor) (scan : TypeScan) (c' : Cursor) : Prop where
  on : c'.On ts
  split : c.current :: c.rest = scan.taken.reverse ++ c'.current :: c'.rest
  previous : ∀ t ∈ scan.taken.head?, c'.previous = some t
  argued : ∀ more, Token.Argued scan.depth more → Token.Argued 0 (scan.taken.reverse ++ more)

theorem Taking.step {scan scan' : TypeScan} (ht : Taking ts c₀ scan c)
    (h : typeStep (·.isPunct ',') false scan c = .ok (some scan', c')) :
    Taking ts c₀ scan' c' := by
  have hcomma := argumentStep_some h
  obtain ⟨he, rfl, rfl⟩ := typeStep_some h
  obtain ⟨hrest, hprevious⟩ := ht.on.rest_eq hts.last he
  refine ⟨ht.on.next, ?_, ?_, fun more hmore => ?_⟩
  · rw [ht.split, List.reverse_cons, List.append_assoc, hrest]
    rfl
  · intro t h
    rw [← Option.some.inj h]
    exact hprevious
  · rw [List.reverse_cons, List.append_assoc]
    exact ht.argued _ ⟨hcomma, hmore⟩

/-- Where the reading of a type argument ends before the text does, no bracket is open. -/
theorem taking_repeatWhile (hc : c.On ts) {scan : TypeScan}
    (h : repeatWhile (typeStep (·.isPunct ',') false) ⟨0, []⟩ c = .ok (scan, c')) :
    Taking ts c scan c' ∧ (c'.current.isEnd = false → scan.depth = 0) := by
  refine repeatWhile_ends (I := Taking ts c)
    (F := fun scan c' => Taking ts c scan c' ∧ (c'.current.isEnd = false → scan.depth = 0))
    ?_ ?_ ⟨hc, rfl, fun _ h => absurd h (Option.not_mem_none _), fun _ h => h⟩ h
  · intro scan c₁ c₂ ht h
    obtain rfl := typeStep_none h
    exact ⟨ht, argumentStep_none h⟩
  · intro scan scan' c₁ c₂ ht h
    refine ⟨ht.step hts h, ?_⟩
    obtain ⟨he, rfl, _⟩ := typeStep_some h
    exact ht.on.remaining_next_lt hts.last he

/-- **What a type argument is read to is one**, if the text does not end with it. -/
theorem isArgument_typeUntil (hc : c.On ts) {n : Node}
    (h : typeUntil (·.isPunct ',') false c = .ok (n, c')) (he : c'.current.isEnd = false) :
    n.IsArgument ts := by
  have hlt := (reads_typeUntil hts _ _ hc h).remaining_lt hts (List.cons_ne_nil n [])
  unfold typeUntil at h
  rw [here_bind] at h
  obtain ⟨scan, c₁, hs, h⟩ := bind_eq_ok.mp h
  obtain ⟨⟨hon, hsplit, hprevious, hargued⟩, hdepth⟩ := taking_repeatWhile hts hc hs
  split at h
  · exact absurd h refuse_ne_ok
  · rename_i hne
    cases h
    have hstop := hc.stop_rangeFrom hts hon hlt
    obtain ⟨before, rfl, _⟩ := hc
    cases htaken : scan.taken.reverse with
    | nil => exact absurd (List.isEmpty_iff.mpr (List.reverse_eq_nil_iff.mp htaken)) hne
    | cons t run =>
      have hrun := hargued [] (hdepth he)
      rw [List.append_nil, htaken] at hrun
      rw [htaken] at hsplit
      obtain ⟨hfirst, _⟩ := List.cons.inj hsplit
      have hlast : (t :: run).getLast? = scan.taken.head? := htaken ▸ List.getLast?_reverse
      refine ⟨before, t, run, c₁.current :: c₁.rest, ?_, List.cons_ne_nil _ _, hrun, rfl,
        congrArg Token.start hfirst, ?_⟩
      · rw [hsplit, List.append_assoc]
      · obtain ⟨last, hl⟩ := Option.isSome_iff_exists.mp
          (List.getLast?_isSome.mpr (List.cons_ne_nil t run))
        rw [hl] at hlast
        show ((t :: run).getLast?).map Token.stop = some (c₁.rangeFrom c.current.start).stop
        rw [hl, hstop, Cursor.previousStop, hprevious last hlast.symm]
        rfl

/-- Where a bracket or a comma comes after a type argument, the text goes on. -/
theorem isArgument_angleStep (hc : c.On ts) {l l' : Listing Node}
    (hl : ∀ type ∈ l.items, type.IsArgument ts)
    (h : angleStep (typeUntil (·.isPunct ',') false) l c = .ok (some l', c')) :
    c'.On ts ∧ ∀ type ∈ l'.items, type.IsArgument ts := by
  unfold angleStep at h
  split at h
  · cases h
  obtain ⟨type, c₁, ht, h⟩ := bind_eq_ok.mp h
  have hon := (reads_typeUntil hts _ _ hc ht).stop
  obtain ⟨closed, c₂, hclosed, h⟩ := bind_eq_ok.mp h
  rw [accept_run] at hclosed
  split at hclosed
  · rename_i hp
    cases hclosed
    cases h
    exact ⟨hon.next, List.forall_mem_cons.mpr
      ⟨isArgument_typeUntil hts hc ht (isEnd_of_isPunct hp), hl⟩⟩
  · cases hclosed
    obtain ⟨_, c₃, hcomma, h⟩ := bind_eq_ok.mp h
    obtain ⟨hp, _, rfl⟩ := expect_ok hcomma
    cases h
    exact ⟨hon.next, List.forall_mem_cons.mpr
      ⟨isArgument_typeUntil hts hc ht (isEnd_of_isPunct hp), hl⟩⟩

/-- **The type arguments of a call are type arguments.** -/
theorem isArgument_of_typeArguments (hc : c.On ts) {types : List Node}
    (h : typeArguments c = .ok (some types, c')) : ∀ type ∈ types, type.IsArgument ts := by
  unfold typeArguments attempt at h
  split at h
  · rename_i found c₁ hlist
    split at h
    · cases h
      obtain ⟨_, c₂, ho, h⟩ := bind_eq_ok.mp hlist
      obtain ⟨_, _, rfl⟩ := expect_ok ho
      obtain ⟨l, c₃, h, hl⟩ := bind_eq_ok.mp h
      cases hl
      have key : c'.On ts ∧ ∀ type ∈ l.items, type.IsArgument ts := by
        refine repeatWhile_invariant
          (fun (l : Listing Node) c₁ => c₁.On ts ∧ ∀ type ∈ l.items, type.IsArgument ts)
          ?_ ?_ ⟨hc.next, fun _ h => absurd h List.not_mem_nil⟩ h
        · intro l c₁ c₂ hI h
          rw [angleStep_none h]
          exact hI
        · exact fun l l' c₁ c₂ hI h => isArgument_angleStep hts hI.1 hI.2 h
      exact fun type htype => key.2 type (List.mem_reverse.mp htype)
    · cases h
  · cases h

end InOrder

end Parser

end TypeTest

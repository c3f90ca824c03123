import TypeTest.Proofs.Parsing.Following

/-!
# Two runs over brackets and types

Brackets and types are read by counting, and it is here that a run can go over the end of the
first text: a region that is skipped, a type in brackets, a list of type arguments that is
only tried, and the search for the arrow of a function all go on until their brackets are
closed. The first refuses its text at the end; the others stay before it, since no bracket is
left open.
-/

namespace TypeTest

open TypeTest.Parser

namespace Comparison

variable {K : Comparison} {s : Slack} {fresh : Bool} {c c' : Cursor}

/-! ## Bracketed regions -/

theorem Same.isPunctOf {t u : Token} (h : K.Same t u) (ps : List Char) :
    t.isPunctOf ps = u.isPunctOf ps := by
  unfold Token.isPunctOf
  rw [h.kind]

theorem follows_bracketToken (h : K.Beside fresh c c') (depth : Nat) :
    K.Agree .refusing Eq (bracketToken depth c) (bracketToken depth c') := by
  unfold bracketToken
  rw [current_bind, current_bind]
  cases he : c.current.isEnd with
  | false =>
    have hs := h.same he
    rw [← hs.isEnd, he, if_neg Bool.false_ne_true, if_neg Bool.false_ne_true, advance_bind,
      advance_bind, ← hs.isPunctOf, ← hs.isPunctOf]
    exact .ok ⟨rfl, h.next he⟩
  | true =>
    rcases h.of_isEnd he with ⟨_, ⟨_, he'⟩ | ⟨hm, _⟩⟩
    · rw [he']
      exact follows_refuse h _
    · exact .gone hm (refuse_eq_error _ c)

/-- **A bracketed region** is skipped side by side. -/
theorem follows_skipBracketed (h : K.Beside fresh c c') :
    K.Follows .refusing (fun _ _ c c' => K.Beside false c c') (skipBracketed c)
      (skipBracketed c') := by
  unfold skipBracketed
  refine (follows_bracketToken h 0).bind (fun _ => Slack.ends_refusing _) ?_
  rintro depth _ c₁ c₁' ⟨rfl, h₁⟩
  refine Follows.bind (Follows.repeatWhile (I := fun a b c c' => a = b ∧ K.Beside false c c')
    (fun _ _ _ _ h => h.2.remaining) (fun _ => Slack.ends_refusing _) ?_ ⟨rfl, h₁⟩)
    (fun _ => Slack.ends_refusing _) (fun _ _ _ _ h => .ok h.2)
  rintro depth _ c₂ c₂' ⟨rfl, h₂⟩
  cases hd : depth == 0 with
  | true => exact .ok (.none ⟨rfl, h₂⟩)
  | false =>
    refine (follows_bracketToken h₂ depth).bind (fun _ => Slack.ends_refusing _) ?_
    exact fun a b c₃ c₃' h₃ => .ok (.some h₃)

/-! ## The search for an arrow -/

theorem isPunctOf_of_isEnd {t : Token} (he : t.isEnd = true) (ps : List Char) :
    t.isPunctOf ps = false := by
  refine Bool.eq_false_iff.mpr fun hp => ?_
  exact absurd ((isEnd_of_isPunctOf hp).symm.trans he) (by decide)

/-- The search goes on over a token that does not close the first bracket. -/
theorem arrowAhead_cons_of_lt {depth : Nat} {t : Token} (he : t.isEnd = false)
    (hd : t.isPunctOf closers = true → t.isPunctOf openers = true ∨ 1 < depth) (ts : List Token) :
    arrowAhead depth (t :: ts) = arrowAhead (bracketDepth depth t) ts := by
  rw [arrowAhead_cons]
  unfold bracketDepth
  cases ho : t.isPunctOf openers with
  | true => rfl
  | false =>
    cases hc : t.isPunctOf closers with
    | false =>
      rw [he]
      rfl
    | true =>
      have hlt : ¬ depth ≤ 1 := Nat.not_le_of_lt ((hd hc).resolve_left (by rw [ho]; decide))
      simp only [Bool.false_eq_true, if_false, if_true, if_neg hlt]

/-- The search ends at the token that closes the first bracket, and looks at the next one. -/
theorem arrowAhead_cons_of_le {depth : Nat} {t : Token} (ho : t.isPunctOf openers = false)
    (hc : t.isPunctOf closers = true) (hd : depth ≤ 1) (u : Token) (us : List Token) :
    arrowAhead depth (t :: u :: us) = (u.kind == .arrow || u.isPunct ':') := by
  rw [arrowAhead_cons, ho, hc, if_neg Bool.false_ne_true, if_pos rfl, if_pos hd]

/-- **The search for an arrow finds the same** in both texts, inside of a bracket: it ends before
the first text does. -/
theorem arrowAhead_eq {ts us : List Token} (h : K.Left fresh ts us) {depth : Nat}
    (hclosed : K.more ≠ none → ts.foldl bracketDepth depth = 0) (hd : 0 < depth) :
    arrowAhead depth ts = arrowAhead depth us := by
  induction h generalizing depth with
  | ended _ he he' _ =>
    have hnone : ∀ {t : Token}, t.isEnd = true → arrowAhead depth [t] = false := by
      intro t he
      rw [arrowAhead_cons, isPunctOf_of_isEnd he, isPunctOf_of_isEnd he, he]
      rfl
    rw [hnone he, hnone he']
  | @separated _ e _ _ _ hm he _ =>
    -- no bracket is open at the end
    have hdepth : bracketDepth depth e = 0 := hclosed (hm ▸ Option.some_ne_none _)
    unfold bracketDepth at hdepth
    rw [isPunctOf_of_isEnd he, isPunctOf_of_isEnd he] at hdepth
    exact absurd hdepth (Nat.ne_of_gt hd)
  | @cons _ t u ts us hne hs _ hleft ih =>
    have hne' : u.isEnd = false := hs.isEnd ▸ hne
    have hdepth : bracketDepth depth t = bracketDepth depth u := by
      unfold bracketDepth
      rw [hs.isPunctOf, hs.isPunctOf]
    by_cases hfirst : t.isPunctOf openers = false ∧ t.isPunctOf closers = true ∧ depth ≤ 1
    · obtain ⟨ho, hc, hle⟩ := hfirst
      obtain ⟨v, vs, w, ws, rfl, rfl⟩ := hleft.exists_cons
      rw [arrowAhead_cons_of_le ho hc hle, arrowAhead_cons_of_le (hs.isPunctOf _ ▸ ho)
        (hs.isPunctOf _ ▸ hc) hle, hleft.similar.isPunct (by decide),
        hleft.similar.beq_kind TokenKind.noConfusion TokenKind.noConfusion]
    · have hlt : t.isPunctOf closers = true → t.isPunctOf openers = true ∨ 1 < depth := by
        intro hc
        by_contra hn
        rw [not_or, Bool.not_eq_true] at hn
        exact hfirst ⟨hn.1, hc, Nat.le_of_not_lt hn.2⟩
      have hpos : 0 < bracketDepth depth t := by
        unfold bracketDepth
        split
        · exact Nat.succ_pos _
        · split
          · rename_i ho hc
            have := (hlt hc).resolve_left ho
            omega
          · exact hd
      rw [arrowAhead_cons_of_lt hne hlt, arrowAhead_cons_of_lt hne'
        (by rw [← hs.isPunctOf, ← hs.isPunctOf]; exact hlt), ← hdepth]
      exact ih hclosed hpos

/-- Whether an arrow function stands at the cursors is the same. -/
theorem arrowAhead_current_eq (h : K.Beside fresh c c') (hp : c.current.isPunct '(' = true) :
    arrowAhead 0 (c.current :: c.rest) = arrowAhead 0 (c'.current :: c'.rest) := by
  have he := isEnd_of_isPunct hp
  have hs := h.same he
  have ho : c.current.isPunctOf openers = true := by
    unfold Token.isPunctOf
    rw [eq_of_beq hp]
    rfl
  have ho' : c'.current.isPunctOf openers = true := hs.isPunctOf _ ▸ ho
  obtain ⟨hr, hr'⟩ := h.rest_eq he
  rw [arrowAhead_cons, arrowAhead_cons, ho, ho', if_pos rfl, if_pos rfl, hr, hr']
  refine arrowAhead_eq (h.next he).left (fun hm => ?_) Nat.one_pos
  have hclosed := (h.closed hm).plain
  rw [List.foldl_cons, hr] at hclosed
  unfold bracketDepth at hclosed
  rwa [ho, if_pos rfl] at hclosed

/-! ## Types -/

/-- **The brackets of a type are closed** in the first text, `depth` of them being open at the
cursor, if the second one goes on. -/
def Closes (K : Comparison) (depth : Nat) (c : Cursor) : Prop :=
  K.more ≠ none → (c.current :: c.rest).foldl typeDepth depth = 0

theorem Closes.mono {d e : Nat} (h : K.Closes e c) (hle : d ≤ e) : K.Closes d c := by
  intro hm
  have hmono := Token.foldl_mono (fun t _ _ => Token.typeDepth_mono t) (c.current :: c.rest) hle
  rw [h hm] at hmono
  exact Nat.le_zero.mp hmono

theorem Beside.closes (h : K.Beside fresh c c') : K.Closes 0 c := fun hm => (h.closed hm).angled

theorem Closes.next {depth : Nat} (h : K.Closes depth c)
    (hrest : c.rest = c.next.current :: c.next.rest) :
    K.Closes (typeDepth depth c.current) c.next := by
  intro hm
  rw [← hrest]
  exact h hm

/-- Where the first text ends, no bracket is open. -/
theorem Closes.eq_zero {depth : Nat} (h : K.Closes depth c) (hm : K.more ≠ none)
    (hc : c.AtEnd) : depth = 0 := by
  have hd : typeDepth depth c.current = 0 := by
    have := h hm
    rwa [hc.rest] at this
  unfold typeDepth at hd
  rwa [isPunctOf_of_isEnd hc.isEnd, isPunctOf_of_isEnd hc.isEnd] at hd

/-- A type goes on over the line break before the current tokens of both texts or of none. -/
theorem typeGoesOn_eq (h : K.Beside false c c') : typeGoesOn c = typeGoesOn c' := by
  obtain ⟨t, u, ht, hu, hs⟩ := h.previous rfl
  have hcur := h.similar
  unfold typeGoesOn
  rw [ht, hu]
  dsimp only
  rw [hs.similar.beq_kind TokenKind.noConfusion TokenKind.noConfusion, hs.similar.isWordOf,
    hs.isPunctOf, hcur.beq_kind TokenKind.noConfusion TokenKind.noConfusion, hcur.isWord,
    hcur.isPunctOf (by decide)]

/-- Types being read in the two texts. -/
structure Scanned (K : Comparison) (a b : TypeScan) : Prop where
  depth : a.depth = b.depth
  taken : List.Forall₂ (fun t u => t.lexeme = u.lexeme ∧ K.Trivia t.trivia u.trivia)
    a.taken b.taken

theorem Scanned.isEmpty {a b : TypeScan} (h : K.Scanned a b) :
    a.taken.isEmpty = b.taken.isEmpty := by
  rw [Bool.eq_iff_iff, List.isEmpty_iff, List.isEmpty_iff, ← List.length_eq_zero_iff,
    ← List.length_eq_zero_iff, h.taken.length_eq]

/-- **Types are being read side by side**, with `depth` brackets open around them: what was
taken stands before what is left. -/
structure Taking (K : Comparison) (depth : Nat) (a b : TypeScan) (c c' : Cursor) : Prop where
  scanned : K.Scanned a b
  beside : K.Beside false c c'
  tails : K.Tails (a.taken.reverse ++ c.current :: c.rest)
    (b.taken.reverse ++ c'.current :: c'.rest)
  closes : K.Closes (a.depth + depth) c

/-- **Tokens by which a type ends** inside of `depth` brackets, the same ones in both texts. If no
bracket is left to be closed, a semicolon is one of them, or the end may be left open. -/
structure Ending (K : Comparison) (s : Slack) (depth : Nat) (ends : Token → Bool) : Prop where
  same : ∀ {t u : Token}, K.Same t u → ends t = ends u
  semicolon : depth = 0 → s ≠ .spending → ∀ t : Token, t.isPunct ';' = true → ends t = true

/-- Where the first text goes on, a type ends in both texts or in none. -/
theorem typeEnds_eq {ends : Token → Bool} (hends : ∀ {t u : Token}, K.Same t u → ends t = ends u)
    (lineBreaksEnd : Bool) {a b : TypeScan} (hab : K.Scanned a b) (h : K.Beside false c c')
    (he : c.current.isEnd = false) :
    typeEnds ends lineBreaksEnd a c = typeEnds ends lineBreaksEnd b c' := by
  have hs := h.same he
  unfold typeEnds
  rw [← hs.isEnd, hab.depth, hends hs, hs.isPunctOf, h.breaksLine he, typeGoesOn_eq h,
    hab.isEmpty]

/-- A type that does not end before a token has its depth changed by it as the depth around the
type is. -/
theorem typeDepth_add {ends : Token → Bool} {lineBreaksEnd : Bool} {a : TypeScan}
    (h : typeEnds ends lineBreaksEnd a c = false) (d : Nat) :
    typeDepth (a.depth + d) c.current = typeDepth a.depth c.current + d := by
  unfold typeDepth
  split
  · omega
  · split
    · rename_i hclose
      have hpos : a.depth ≠ 0 := by
        intro h₀
        unfold typeEnds at h
        rw [h₀, hclose] at h
        simp at h
      omega
    · rfl

section Types

variable {depth : Nat} {ends : Token → Bool} (hends : K.Ending s depth ends)
  (lineBreaksEnd : Bool)

include hends

/-- **A step over a type follows** where the brackets around it are closed. -/
theorem follows_typeStep {a b : TypeScan} (ht : K.Taking depth a b c c') :
    K.Follows s (Stepped (K.Taking depth) a b)
      (typeStep ends lineBreaksEnd a c) (typeStep ends lineBreaksEnd b c') := by
  obtain ⟨hab, h, htails, hc⟩ := ht
  unfold typeStep
  cases he : c.current.isEnd with
  | false =>
    rw [← typeEnds_eq hends.same lineBreaksEnd hab h he]
    cases hstop : typeEnds ends lineBreaksEnd a c with
    | true => exact .ok (.none ⟨hab, h, htails, hc⟩)
    | false =>
      have ha := h.alike he
      obtain ⟨hr, hr'⟩ := h.rest_eq he
      have hnext : K.Closes (typeDepth a.depth c.current + depth) c.next := by
        rw [← typeDepth_add hstop]
        exact hc.next hr
      refine .ok (.some ⟨⟨?_, .cons ⟨ha.lexeme, ha.trivia⟩ hab.taken⟩, h.next he, ?_, hnext⟩)
      · show typeDepth a.depth c.current = typeDepth b.depth c'.current
        unfold typeDepth
        rw [ha.toSame.isPunctOf, ha.toSame.isPunctOf, hab.depth]
      · rw [List.reverse_cons, List.reverse_cons, List.append_assoc, List.append_assoc, ← hr, ← hr']
        exact htails
  | true =>
    have hstop : typeEnds ends lineBreaksEnd a c = true := by
      unfold typeEnds
      rw [he, Bool.true_or]
    rw [if_pos hstop]
    obtain ⟨hend, ⟨_, he'⟩ | ⟨hm, hsemi⟩⟩ := h.of_isEnd he
    · have hstop' : typeEnds ends lineBreaksEnd b c' = true := by
        unfold typeEnds
        rw [he', Bool.true_or]
      rw [if_pos hstop']
      exact .ok (.none ⟨hab, h, htails, hc⟩)
    · -- no bracket is open, so the semicolon ends the type unless the end is left open
      have hzero := hc.eq_zero hm hend
      by_cases hs : s = .spending
      · subst hs
        refine .gone hm fun _ _ hr => ?_
        cases hr
        exact hend
      · have hstop' : typeEnds ends lineBreaksEnd b c' = true := by
          have hd : b.depth = 0 := hab.depth ▸ (by omega)
          unfold typeEnds
          rw [hends.semicolon (by omega) hs _ hsemi, hd]
          simp
        rw [if_pos hstop']
        exact .ok (.none ⟨hab, h, htails, hc⟩)

/-- **Types are read side by side**, and their texts compare. -/
theorem follows_typeUntil (h : K.Beside false c c') (hc : K.Closes depth c) :
    K.Follows s (fun n m c c' => K.Like n m ∧ K.Beside false c c' ∧ K.Closes depth c)
      (typeUntil ends lineBreaksEnd c) (typeUntil ends lineBreaksEnd c') := by
  unfold typeUntil
  rw [here_bind, here_bind]
  have hscan := Follows.repeatWhile (s := s)
    (fun _ _ _ _ h => h.beside.remaining) (fun a _ c₁ h₁ => ?_)
    (fun a b c c' h => follows_typeStep hends lineBreaksEnd h)
    (a := ⟨0, []⟩) (b := ⟨0, []⟩) ⟨⟨rfl, .nil⟩, h, h.tails, (Nat.zero_add depth).symm ▸ hc⟩
  · refine hscan.bind (fun a _ c₁ h₁ => ?_) ?_
    · rw [ite_run]
      split
      · exact spending_of_error (refuse_eq_error _ c₁).choose_spec
      · intro _ _ he
        cases he
        exact ⟨h₁.rest, h₁.isEnd⟩
    · rintro a b c₁ c₁' ⟨hab, h₁, htails, hc₁⟩
      have hempty : a.taken.isEmpty = b.taken.isEmpty := hab.isEmpty
      rw [← hempty, ite_run, ite_run]
      split
      · exact follows_refuse h₁ _
      · have htexts := K.texts htails (List.cons_ne_nil _ _) (List.cons_ne_nil _ _)
          (List.rel_reverse hab.taken)
        refine .ok ⟨K.like (.typeText htexts) (K.ranges h.start h₁.previousStop) h₁.indices,
          h₁.store, ?_⟩
        exact hc₁.mono (Nat.le_add_left _ _)
  · -- a step over a type does not leave the end
    intro _ _ he
    unfold typeStep typeEnds at he
    rw [h₁.isEnd, Bool.true_or, if_pos rfl] at he
    cases he
    exact h₁

end Types

/-- At the end of a text no type is read. -/
theorem typeUntil_of_atEnd (ends : Token → Bool) (lineBreaksEnd : Bool) (h : c.AtEnd) :
    ∃ fault, typeUntil ends lineBreaksEnd c = .error fault := by
  have hstop : typeStep ends lineBreaksEnd ⟨0, []⟩ c = .ok (none, c) := by
    unfold typeStep typeEnds
    rw [h.isEnd, Bool.true_or, if_pos rfl]
  unfold typeUntil
  rw [here_bind, bind_of_ok _ (repeatWhile_of_none hstop)]
  exact refuse_eq_error _ c

/-- A type after a colon, if there is one. -/
theorem follows_typeAfterColon {ends : Token → Bool} (hends : K.Ending s 0 ends)
    (lineBreaksEnd : Bool) (h : K.Beside false c c') :
    K.Agree s (Option.Rel K.Like) (typeAfterColon ends lineBreaksEnd c)
      (typeAfterColon ends lineBreaksEnd c') := by
  unfold typeAfterColon
  refine (follows_accept h (by decide)).bind (fun colon _ c₁ h₁ => ?_) ?_
  · rw [ite_run]
    split
    · obtain ⟨f, hf⟩ := typeUntil_of_atEnd ends lineBreaksEnd h₁
      exact spending_of_error (bind_of_error _ hf)
    · intro _ _ he
      cases he
      exact h₁
  · rintro colon _ c₁ c₁' ⟨rfl, h₁⟩
    rw [ite_run, ite_run]
    split
    · refine (follows_typeUntil hends lineBreaksEnd h₁ h₁.closes).bind
        (fun n _ c₂ h₂ => ?_) (fun n m c₂ c₂' h₂ => .ok ⟨.some h₂.1, h₂.2.1⟩)
      intro _ _ he
      cases he
      exact h₂
    · exact .ok ⟨.none, h₁⟩

/-! ## Type parameters and type arguments -/

theorem ending_isPunctOf {depth : Nat} {ps : List Char} (hps : ';' ∈ ps) :
    K.Ending s depth (·.isPunctOf ps) := by
  refine ⟨fun hs => hs.isPunctOf ps, fun _ _ t ht => ?_⟩
  unfold Token.isPunctOf
  rw [eq_of_beq ht]
  exact List.contains_iff_mem.mpr hps

theorem ending_spending {ends : Token → Bool} {depth : Nat}
    (h : ∀ {t u : Token}, K.Same t u → ends t = ends u) : K.Ending .spending depth ends :=
  ⟨h, fun _ hs => absurd rfl hs⟩

theorem follows_skipConstraint (h : K.Beside false c c') :
    K.Follows .spending (fun _ _ c c' => K.Beside false c c') (skipConstraint c)
      (skipConstraint c') := by
  unfold skipConstraint
  rw [current_bind, current_bind, ← h.similar.isPunctOf (by decide), ite_run, ite_run]
  split
  · exact .ok h
  · refine (follows_typeUntil (ending_spending fun hs => hs.isPunctOf _) false h h.closes).bind
      (fun n _ c₁ h₁ => ?_) (fun n m c₁ c₁' h₁ => .ok h₁.2.1)
    intro _ _ he
    cases he
    exact h₁

theorem follows_typeParameter (h : K.Beside false c c') :
    K.Agree .spending Eq (typeParameter c) (typeParameter c') := by
  unfold typeParameter
  refine (follows_name h _).andThen_spending ?_
  rintro own _ c₁ c₁' ⟨rfl, h₁⟩
  refine (follows_skipConstraint h₁).bind (fun _ _ c₂ h₂ => ?_) (fun _ _ _ _ h₂ => .ok ⟨rfl, h₂⟩)
  intro _ _ he
  cases he
  exact h₂

/-- **Type parameters** are read side by side. -/
theorem follows_typeParameters (h : K.Beside false c c') :
    K.Agree .refusing Eq (typeParameters c) (typeParameters c') := by
  unfold typeParameters
  rw [atPunct_bind, atPunct_bind, ← h.similar.isPunct (by decide), ite_run, ite_run]
  split
  · rename_i hp
    have hlist := follows_angleList (s := .spending) (C := K.Beside false) (fun _ _ h => h)
      (fun _ _ h hp => h.next (isEnd_of_isPunct hp)) (fun _ _ h => follows_typeParameter h) h
      (fun hp => h.next (isEnd_of_isPunct hp))
    refine Follows.imp hlist fun a b c₁ c₁' h₁ => ⟨?_, h₁.2⟩
    exact List.forall₂_eq_eq_eq ▸ h₁.1
  · exact .ok ⟨rfl, h⟩

/-- **What is tried is read in both texts or in none.** -/
theorem follows_attempt {p : Parser α} {q : Parser β} {Q : α → β → Prop} {follow : Token → Bool}
    (hfollow : ∀ {t u : Token}, Token.Similar t u → follow t = follow u)
    (h : K.Beside fresh c c') (hp : K.Agree .exact Q (p c) (q c')) :
    K.Follows s (fun o o' c c' => Option.Rel Q o o' ∧ K.Beside fresh c c')
      (attempt follow p c) (attempt follow q c') := by
  unfold attempt
  generalize p c = r at hp
  generalize q c' = r' at hp
  cases hp with
  | ok hab =>
    dsimp only
    rw [← hfollow hab.2.similar]
    split
    · exact .ok ⟨.some hab.1, hab.2.weaken⟩
    · exact .ok ⟨.none, h⟩
  | fault => exact .ok ⟨.none, h⟩
  | gone _ hr => exact absurd hr id

/-- **Type arguments** are read in both texts or in none: the bracket that opens them is closed
in the first text. -/
theorem follows_typeArguments (h : K.Beside false c c') :
    K.Agree s (Option.Rel (List.Forall₂ K.Like)) (typeArguments c) (typeArguments c') := by
  have hdepth : ∀ {t : Token} {p : Char} (d : Nat), t.isPunct p = true →
      typeDepth d t = if ('<' :: openers).contains p then d + 1
        else if ('>' :: closers).contains p then d - 1 else d := by
    intro t p d ht
    unfold typeDepth Token.isPunctOf
    rw [eq_of_beq ht]
  refine follows_attempt (fun hs => hs.isPunct (by decide)) h
    (follows_angleList (s := .exact) (C := fun c c' => K.Beside false c c' ∧ K.Closes 1 c)
      (fun _ _ h => h.1) (fun c c' h hp => ?_) (fun c c' h => ?_) h (fun hp => ?_))
  · refine ⟨h.1.next (isEnd_of_isPunct hp), ?_⟩
    have hnext := h.2.next (h.1.rest_eq (isEnd_of_isPunct hp)).1
    rwa [hdepth _ hp] at hnext
  · refine follows_typeUntil ⟨fun hs => ?_, fun hd => absurd hd Nat.one_ne_zero⟩ false h.1 h.2
    exact hs.similar.isPunct (by decide)
  · refine ⟨h.next (isEnd_of_isPunct hp), ?_⟩
    have hnext := h.closes.next (h.rest_eq (isEnd_of_isPunct hp)).1
    rwa [hdepth _ hp] at hnext

end Comparison

end TypeTest

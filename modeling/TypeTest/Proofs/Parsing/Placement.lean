import TypeTest.Proofs.Parsing.Running
import TypeTest.Proofs.Parsing.TokenOrder

/-!
# Where nodes stand

A node is **placed** among tokens in order if it and all nodes below it run from the
start of a token to the end of one, cover some text, have their parts inside of them,
one after the other, and, if they are calls, go on after their callee and have for their
types what was read as type arguments. What a parser does between two cursors is then one
relation, `Span`: the nodes it read stand in a row between the cursors and are placed, and
they and all nodes below them were stored on the way, each once and after its parts. Spans
compose, and a node is put over a span by `Span.node`; that every parser of the grammar
gives a span follows from these two.
-/

namespace TypeTest

/-! ## Cursors on tokens -/

namespace Cursor

/-- **The cursor stands on one of the tokens** `ts`, with the others around it. -/
def On (ts : List Token) (c : Cursor) : Prop :=
  ∃ before, before ++ c.current :: c.rest = ts ∧ before.getLast? = c.previous

variable {ts : List Token} {c c' : Cursor}

/-- A cursor on tokens stays on them. -/
theorem On.next (h : c.On ts) : c.next.On ts := by
  obtain ⟨before, hts, hp⟩ := h
  unfold Cursor.next
  split
  · exact ⟨before, hts, hp⟩
  · rename_i t us hr
    refine ⟨before ++ [c.current], ?_, List.getLast?_concat⟩
    rw [← hts, hr, List.append_assoc]
    rfl

/-- The cursor that parsing starts with stands on the tokens. -/
theorem on_ofTokens (h : ts ≠ []) : (ofTokens ts).On ts := by
  cases ts with
  | nil => exact absurd rfl h
  | cons t us => exact ⟨[], rfl, rfl⟩

theorem On.current_mem (h : c.On ts) : c.current ∈ ts := by
  obtain ⟨before, rfl, _⟩ := h
  exact List.mem_append_right _ List.mem_cons_self

/-- Of two cursors on the same tokens, the one with fewer tokens left is further on:
the current token of the other is behind it. -/
theorem On.exists_between (h : c.On ts) (h' : c'.On ts) (hlt : c'.remaining < c.remaining) :
    ∃ mid, c.rest = mid ++ c'.current :: c'.rest
      ∧ (c.current :: mid).getLast? = c'.previous := by
  obtain ⟨before, hts, _⟩ := h
  obtain ⟨before', hts', hp'⟩ := h'
  rcases List.append_eq_append_iff.mp (hts.trans hts'.symm) with ⟨mid, hm, hr⟩ | ⟨mid, hm, hr⟩
  · cases mid with
    | nil =>
      obtain ⟨_, hr⟩ := List.cons.inj hr
      unfold remaining at hlt
      rw [hr] at hlt
      exact absurd hlt (Nat.lt_irrefl _)
    | cons t mid =>
      obtain ⟨rfl, hr⟩ := List.cons.inj hr
      refine ⟨mid, (List.cons.inj hr).2, ?_⟩
      rw [← hp', hm, List.getLast?_append_of_ne_nil _ (List.cons_ne_nil _ _)]
  · have hl := congrArg List.length hr
    rw [List.length_append, List.length_cons, List.length_cons] at hl
    unfold remaining at hlt
    omega

/-- Where a cursor on tokens stands is determined by how many of them are left. -/
theorem On.eq_of_remaining (h : c.On ts) (h' : c'.On ts) (he : c'.remaining = c.remaining) :
    c'.previous = c.previous ∧ c'.current = c.current ∧ c'.rest = c.rest := by
  obtain ⟨before, hts, hp⟩ := h
  obtain ⟨before', hts', hp'⟩ := h'
  have hl : (c'.current :: c'.rest).length = (c.current :: c.rest).length := by
    rw [List.length_cons, List.length_cons]
    exact congrArg (· + 1) he
  obtain ⟨hb, hr⟩ := List.append_inj' (hts'.trans hts.symm) hl
  refine ⟨?_, List.cons.inj hr⟩
  rw [← hp, ← hp', hb]

/-- What cursors passed is determined by how many tokens are left. -/
theorem On.previousStop_eq (h : c.On ts) (h' : c'.On ts) (he : c'.remaining = c.remaining) :
    c'.previousStop = c.previousStop := by
  unfold previousStop
  rw [(h.eq_of_remaining h' he).1]

/-- Before the end token there is a next one. -/
theorem On.remaining_next_lt (hts : Token.EndOnce ts) (h : c.On ts)
    (he : c.current.isEnd = false) : c.next.remaining < c.remaining := by
  obtain ⟨before, hb, _⟩ := h
  obtain ⟨init, e, hi, hend, _⟩ := hts
  have hrest : 0 < c.remaining := by
    unfold remaining
    cases hr : c.rest with
    | cons t us => exact Nat.succ_pos _
    | nil =>
      rw [hr, hi] at hb
      obtain ⟨_, hce⟩ := List.append_inj' hb rfl
      rw [(List.cons.inj hce).1, hend] at he
      cases he
  have := remaining_next c hrest
  omega

/-- The next one is the first of those left, and stands after the current one. -/
theorem On.rest_eq (hts : Token.EndOnce ts) (h : c.On ts) (he : c.current.isEnd = false) :
    c.rest = c.next.current :: c.next.rest ∧ c.next.previous = some c.current := by
  have hlt := h.remaining_next_lt hts he
  unfold Cursor.next at hlt ⊢
  cases hr : c.rest with
  | nil =>
    rw [hr] at hlt
    exact absurd hlt (Nat.lt_irrefl _)
  | cons t us => exact ⟨rfl, rfl⟩

section InOrder

variable (hts : Token.InOrder ts)

include hts

theorem On.start_lt_stop (h : c.On ts) (he : c.current.isEnd = false) :
    c.current.start < c.current.stop :=
  hts.nonempty _ h.current_mem he

/-- The previous token stops before the current one starts. -/
theorem On.previousStop_le (h : c.On ts) : c.previousStop ≤ c.current.start := by
  obtain ⟨before, rfl, hp⟩ := h
  unfold previousStop
  rw [← hp]
  split
  · rename_i t ht
    exact (List.pairwise_append.mp hts.pairwise).2.2 _ (List.mem_of_getLast? ht) _
      List.mem_cons_self
  · exact Nat.zero_le _

/-- What is behind a cursor stops before it. -/
theorem On.current_stop_le (h : c.On ts) (h' : c'.On ts) (hlt : c'.remaining < c.remaining) :
    c.current.stop ≤ c'.previousStop := by
  obtain ⟨mid, hr, hl⟩ := h.exists_between h' hlt
  obtain ⟨before, rfl, _⟩ := h
  obtain ⟨t, ht⟩ := Option.isSome_iff_exists.mp
    (List.getLast?_isSome.mpr (List.cons_ne_nil c.current mid))
  have hstop : c'.previousStop = t.stop := by
    unfold previousStop
    rw [← hl, ht]
  rw [hstop]
  rcases List.mem_cons.mp (List.mem_of_getLast? ht) with rfl | hmem
  · exact Nat.le_refl _
  · have hpair := (List.pairwise_append.mp hts.pairwise).2.1
    rw [hr, List.pairwise_cons] at hpair
    exact Nat.le_trans (hpair.1 t (List.mem_append_left _ hmem)) t.start_le_stop

/-- What is behind a cursor that went on covers some text. -/
theorem On.start_lt_previousStop (h : c.On ts) (h' : c'.On ts)
    (hlt : c'.remaining < c.remaining) : c.current.start < c'.previousStop := by
  refine Nat.lt_of_lt_of_le (h.start_lt_stop hts ?_) (h.current_stop_le hts h' hlt)
  -- the end token is the last one, and another one follows
  obtain ⟨mid, hr, _⟩ := h.exists_between h' hlt
  obtain ⟨before, hb, _⟩ := h
  obtain ⟨init, e, hi, _, hinit⟩ := hts.last
  refine hinit _ ?_
  have hne : c.rest ≠ [] := by
    rw [hr]
    exact List.append_ne_nil_of_right_ne_nil _ (List.cons_ne_nil _ _)
  have hd := congrArg List.dropLast (hb.trans hi)
  rw [List.dropLast_concat, List.dropLast_append_of_ne_nil (List.cons_ne_nil _ _),
    List.dropLast_cons_of_ne_nil hne] at hd
  rw [← hd]
  exact List.mem_append_right _ List.mem_cons_self

/-- What was read from a cursor ends where the last of it does. -/
theorem On.stop_rangeFrom (h : c.On ts) (h' : c'.On ts) (hlt : c'.remaining < c.remaining) :
    (c'.rangeFrom c.current.start).stop = c'.previousStop :=
  Nat.add_sub_of_le (Nat.le_of_lt (h.start_lt_previousStop hts h' hlt))

/-- A cursor further on has more behind it. -/
theorem On.previousStop_mono (h : c.On ts) (h' : c'.On ts)
    (hle : c'.remaining ≤ c.remaining) : c.previousStop ≤ c'.previousStop := by
  rcases Nat.lt_or_eq_of_le hle with hlt | he
  · exact Nat.le_trans (h.previousStop_le hts) (Nat.le_of_lt (h.start_lt_previousStop hts h' hlt))
  · exact Nat.le_of_eq (h.previousStop_eq h' he).symm

/-- A cursor that went on stands after a token. -/
theorem On.exists_stop (h : c.On ts) (h' : c'.On ts) (hlt : c'.remaining < c.remaining) :
    ∃ t ∈ ts, t.stop = c'.previousStop := by
  obtain ⟨_, _, hl⟩ := h.exists_between h' hlt
  obtain ⟨before, rfl, hp⟩ := h'
  unfold previousStop
  cases hc : c'.previous with
  | none =>
    rw [hc, List.getLast?_eq_none_iff] at hl
    cases hl
  | some t =>
    rw [hc] at hp
    exact ⟨t, List.mem_append_left _ (List.mem_of_getLast? hp), rfl⟩

end InOrder

end Cursor

/-! ## Type arguments -/

/-- **Tokens of one type argument**, read inside of `depth` brackets: outside of all brackets no
comma and no closing bracket stands, and at the end no bracket is open. -/
def Token.Argued : Nat → List Token → Prop
  | depth, [] => depth = 0
  | depth, t :: ts =>
    (depth = 0 → (t.isPunct ',' || t.isPunctOf ('>' :: Parser.closers)) = false)
      ∧ Argued (Parser.typeDepth depth t) ts

/-- Whether tokens are those of an argument is decided from the first to the last. -/
instance Token.decidableArgued : (depth : Nat) → (ts : List Token) →
    Decidable (Token.Argued depth ts)
  | depth, [] => inferInstanceAs (Decidable (depth = 0))
  | depth, t :: ts =>
    haveI := decidableArgued (Parser.typeDepth depth t) ts
    inferInstanceAs (Decidable (_ ∧ Token.Argued (Parser.typeDepth depth t) ts))

/-- **A node is a type argument** among the tokens `ts`: the text of a run of them, with others
behind it. -/
def Node.IsArgument (ts : List Token) (n : Node) : Prop :=
  ∃ before t run rest, ts = before ++ t :: run ++ rest ∧ rest ≠ []
    ∧ Token.Argued 0 (t :: run) ∧ n.form = .typeText (Parser.spelling (t :: run))
    ∧ n.range.start = t.start ∧ ((t :: run).getLast?).map Token.stop = some n.range.stop

/-! ## Nodes in a row -/

namespace Node

/-- **Nodes in a row** between two offsets, none before the end of the one before. -/
def Row (lo : Nat) : List Node → Nat → Prop
  | [], _ => True
  | n :: ns, hi => lo ≤ n.range.start ∧ n.range.stop ≤ hi ∧ Row n.range.stop ns hi

theorem Row.mono {lo lo' hi hi' : Nat} {ns : List Node} (h : Row lo ns hi) (hlo : lo' ≤ lo)
    (hhi : hi ≤ hi') : Row lo' ns hi' := by
  induction ns generalizing lo lo' with
  | nil => trivial
  | cons n ns ih =>
    obtain ⟨h₁, h₂, h₃⟩ := h
    exact ⟨Nat.le_trans hlo h₁, Nat.le_trans h₂ hhi, ih h₃ (Nat.le_refl _)⟩

/-- Two rows, one after the other, are a row. -/
theorem Row.append {lo mid hi : Nat} {ns ms : List Node} (h : Row lo ns mid)
    (h' : Row mid ms hi) (hlo : lo ≤ mid) (hhi : mid ≤ hi) : Row lo (ns ++ ms) hi := by
  induction ns generalizing lo with
  | nil => exact h'.mono hlo (Nat.le_refl _)
  | cons n ns ih =>
    obtain ⟨h₁, h₂, h₃⟩ := h
    exact ⟨h₁, Nat.le_trans h₂ hhi, ih h₃ h₂⟩

/-- **A node fits** among the tokens `ts`. -/
structure Fits (ts : List Token) (n : Node) : Prop where
  /-- It starts where a token does. -/
  starts : ∃ t ∈ ts, t.start = n.range.start
  /-- It stops where a token does. -/
  stops : ∃ t ∈ ts, t.stop = n.range.stop
  nonempty : n.range.start < n.range.stop
  /-- Its parts stand in a row inside of it. -/
  row : Row n.range.start n.children n.range.stop
  /-- A call goes on after its callee. -/
  callee : ∀ f types args, n.form = .call f types args → f.range.stop < n.range.stop
  /-- What it has for type arguments was read as such. -/
  types : ∀ f types args, n.form = .call f types args → ∀ type ∈ types, type.IsArgument ts

/-- **A node is placed** among the tokens `ts`: it and all nodes below it fit. -/
def Placed (ts : List Token) (n : Node) : Prop := ∀ m ∈ n.descendants, m.Fits ts

theorem placed_iff {ts : List Token} {n : Node} :
    n.Placed ts ↔ n.Fits ts ∧ ∀ c ∈ n.children, c.Placed ts := by
  unfold Placed
  rw [descendants_eq, List.forall_mem_cons, List.forall_mem_flatMap]

theorem Placed.fits {ts : List Token} {n : Node} (h : n.Placed ts) : n.Fits ts :=
  (placed_iff.mp h).1

theorem Placed.of_mem_children {ts : List Token} {n c : Node} (h : n.Placed ts)
    (hc : c ∈ n.children) : c.Placed ts :=
  (placed_iff.mp h).2 c hc

end Node

/-! ## Nodes by index -/

namespace Node

/-- **Nodes that were stored between two times**, `lo` nodes being stored at the first and
`hi` at the second: they and the nodes below them have indices between these, no two the
same, and each a larger one than its parts. -/
structure Numbered (lo : Nat) (ns : List Node) (hi : Nat) : Prop where
  between : ∀ m ∈ ns.flatMap descendants, lo ≤ m.index ∧ m.index < hi
  nodup : ((ns.flatMap descendants).map index).Nodup
  below : ∀ m ∈ ns.flatMap descendants, ∀ c ∈ m.children, c.index < m.index

theorem Numbered.nil (lo hi : Nat) : Numbered lo [] hi :=
  ⟨fun _ h => absurd h List.not_mem_nil, List.nodup_nil, fun _ h => absurd h List.not_mem_nil⟩

/-- Nodes that were stored one after the other. -/
theorem Numbered.append {lo mid hi : Nat} {ns ms : List Node} (h : Numbered lo ns mid)
    (h' : Numbered mid ms hi) (hlo : lo ≤ mid) (hhi : mid ≤ hi) : Numbered lo (ns ++ ms) hi where
  between := by
    rw [List.flatMap_append, List.forall_mem_append]
    exact ⟨fun m hm => ⟨(h.between m hm).1, Nat.lt_of_lt_of_le (h.between m hm).2 hhi⟩,
      fun m hm => ⟨Nat.le_trans hlo (h'.between m hm).1, (h'.between m hm).2⟩⟩
  nodup := by
    rw [List.flatMap_append, List.map_append, List.nodup_append]
    refine ⟨h.nodup, h'.nodup, fun i hi j hj he => ?_⟩
    obtain ⟨m, hm, rfl⟩ := List.mem_map.mp hi
    obtain ⟨k, hk, rfl⟩ := List.mem_map.mp hj
    have := (h.between m hm).2
    have := (h'.between k hk).1
    omega
  below := by
    rw [List.flatMap_append, List.forall_mem_append]
    exact ⟨h.below, h'.below⟩

/-- A node that is stored after its parts. -/
theorem Numbered.node {lo hi : Nat} {form : Form Node} (h : Numbered lo form.children hi)
    (hle : lo ≤ hi) (range : TextRange) : Numbered lo [Node.mk form range hi] (hi + 1) := by
  have hd : [Node.mk form range hi].flatMap descendants
      = Node.mk form range hi :: form.children.flatMap descendants := by
    rw [List.flatMap_singleton, descendants_eq, children_mk]
  refine ⟨?_, ?_, ?_⟩
  · rw [hd, List.forall_mem_cons]
    exact ⟨⟨hle, Nat.lt_succ_self hi⟩,
      fun m hm => ⟨(h.between m hm).1, Nat.lt_succ_of_lt (h.between m hm).2⟩⟩
  · rw [hd, List.map_cons, List.nodup_cons]
    refine ⟨fun hmem => ?_, h.nodup⟩
    obtain ⟨m, hm, he⟩ := List.mem_map.mp hmem
    exact absurd he (Nat.ne_of_lt (h.between m hm).2)
  · rw [hd, List.forall_mem_cons]
    refine ⟨fun c hc => (h.between c ?_).2, h.below⟩
    exact List.mem_flatMap.mpr ⟨c, hc, c.mem_descendants_self⟩

end Node

/-! ## Spans -/

/-- **What was read between two cursors** on the tokens `ts`: the nodes `ns`. -/
structure Span (ts : List Token) (c : Cursor) (ns : List Node) (c' : Cursor) : Prop where
  start : c.On ts
  stop : c'.On ts
  le : c'.remaining ≤ c.remaining
  /-- What was stored before is still stored. -/
  stored : c.stored <:+ c'.stored
  row : Node.Row c.current.start ns c'.previousStop
  placed : ∀ n ∈ ns, n.Placed ts
  numbered : Node.Numbered c.nextIndex ns c'.nextIndex

namespace Span

variable {ts : List Token} {c c₀ c₁ c₂ : Cursor} {ns ms : List Node}

/-- Nothing was read. -/
theorem nil (h₀ : c₀.On ts) (h₁ : c₁.On ts) (hle : c₁.remaining ≤ c₀.remaining)
    (hs : c₀.stored <:+ c₁.stored) : Span ts c₀ [] c₁ :=
  ⟨h₀, h₁, hle, hs, trivial, fun _ h => absurd h List.not_mem_nil, .nil _ _⟩

theorem refl (h : c.On ts) : Span ts c [] c := nil h h (Nat.le_refl _) (List.suffix_refl _)

theorem next (h : c.On ts) : Span ts c [] c.next :=
  nil h h.next c.remaining_next_le (c.stored_next ▸ List.suffix_refl _)

/-- What was read may be dropped: it stays stored, but is part of nothing. -/
theorem drop (h : Span ts c₀ ns c₁) : Span ts c₀ [] c₁ := nil h.start h.stop h.le h.stored

theorem nextIndex_le (h : Span ts c₀ ns c₁) : c₀.nextIndex ≤ c₁.nextIndex := h.stored.length_le

section InOrder

variable (hts : Token.InOrder ts)

include hts

/-- Between cursors that a node was read between there is a token. -/
theorem remaining_lt (h : Span ts c₀ ns c₁) (hn : ns ≠ []) : c₁.remaining < c₀.remaining := by
  refine Nat.lt_of_le_of_ne h.le (fun he => ?_)
  obtain ⟨n, ms, rfl⟩ := List.exists_cons_of_ne_nil hn
  obtain ⟨h₁, h₂, _⟩ := h.row
  have hpos := (h.placed n List.mem_cons_self).fits.nonempty
  have hback := h.start.previousStop_le hts
  rw [h.start.previousStop_eq h.stop he] at h₂
  omega

/-- **Spans compose.** -/
theorem trans (h : Span ts c₀ ns c₁) (h' : Span ts c₁ ms c₂) : Span ts c₀ (ns ++ ms) c₂ where
  start := h.start
  stop := h'.stop
  le := Nat.le_trans h'.le h.le
  stored := h.stored.trans h'.stored
  numbered := h.numbered.append h'.numbered h.nextIndex_le h'.nextIndex_le
  row := by
    rcases Nat.lt_or_eq_of_le h.le with hlt | he
    · have hmid := h'.row.mono (h.stop.previousStop_le hts) (Nat.le_refl _)
      exact h.row.append hmid (Nat.le_of_lt (h.start.start_lt_previousStop hts h.stop hlt))
        (h.stop.previousStop_mono hts h'.stop h'.le)
    · -- the first span is empty, so it has no nodes either
      obtain rfl : ns = [] := by
        by_contra hn
        exact absurd he (Nat.ne_of_lt (h.remaining_lt hts hn))
      rw [← (h.start.eq_of_remaining h.stop he).2.1]
      exact h'.row
  placed n hn := (List.mem_append.mp hn).elim (h.placed n) (h'.placed n)

/-- Tokens after a span are taken into it. -/
theorem skip (h : Span ts c₀ ns c₁) (h' : Span ts c₁ [] c₂) : Span ts c₀ ns c₂ := by
  have := h.trans hts h'
  rwa [List.append_nil] at this

/-- **A node over a span**: what was read are its parts. A call has to go on after its
callee, and to have type arguments for its types. -/
theorem node {form : Form Node} (h : Span ts c₀ form.children c₁)
    (hlt : c₁.remaining < c₀.remaining)
    (hcall : ∀ f types args, form = .call f types args →
      f.range.stop < c₁.previousStop ∧ ∀ type ∈ types, type.IsArgument ts) :
    Span ts c₀ [c₁.newNode form (c₁.rangeFrom c₀.current.start)]
      (c₁.store form (c₁.rangeFrom c₀.current.start)) := by
  have hpos := h.start.start_lt_previousStop hts h.stop hlt
  have hstop := h.start.stop_rangeFrom hts h.stop hlt
  have hfits : (c₁.newNode form (c₁.rangeFrom c₀.current.start)).Fits ts :=
    { starts := ⟨c₀.current, h.start.current_mem, rfl⟩
      stops := by
        rw [Cursor.newNode, Node.range_mk, hstop]
        exact h.start.exists_stop hts h.stop hlt
      nonempty := by
        rw [Cursor.newNode, Node.range_mk, hstop]
        exact hpos
      row := by
        rw [Cursor.newNode, Node.range_mk, hstop]
        exact h.row
      callee := by
        rw [Cursor.newNode, Node.range_mk, hstop]
        exact fun f types args hf => (hcall f types args hf).1
      types := fun f types args hf => (hcall f types args hf).2 }
  exact
    { start := h.start
      stop := h.stop
      le := h.le
      stored := h.stored.trans (List.suffix_cons _ _)
      row := ⟨Nat.le_refl _, Nat.le_of_eq hstop, trivial⟩
      placed := by
        intro n hn
        rw [List.mem_singleton.mp hn]
        exact Node.placed_iff.mpr ⟨hfits, h.placed⟩
      numbered := h.numbered.node h.nextIndex_le _ }

/-- A node that is no call needs nothing but tokens. -/
theorem other {form : Form Node} (h : Span ts c₀ form.children c₁)
    (hlt : c₁.remaining < c₀.remaining) (hf : form.shape.isCall = false) :
    Span ts c₀ [c₁.newNode form (c₁.rangeFrom c₀.current.start)]
      (c₁.store form (c₁.rangeFrom c₀.current.start)) := by
  refine h.node hts hlt (fun f types args he => ?_)
  rw [he] at hf
  cases hf

/-- A node that is no call, over the nodes that were read. -/
theorem parent {form : Form Node} (h : Span ts c₀ form.children c₁) (hne : form.children ≠ [])
    (hf : form.shape.isCall = false) :
    Span ts c₀ [c₁.newNode form (c₁.rangeFrom c₀.current.start)]
      (c₁.store form (c₁.rangeFrom c₀.current.start)) :=
  h.other hts (h.remaining_lt hts hne) hf

/-- A node over the current token alone. -/
theorem leaf {form : Form Node} (hc : c.On ts) (he : c.current.isEnd = false)
    (hf : form.children = []) :
    Span ts c [c.next.newNode form c.current.range] (c.next.store form c.current.range) := by
  have hlt := hc.remaining_next_lt hts.last he
  have hrange : c.next.rangeFrom c.current.start = c.current.range := by
    unfold Cursor.rangeFrom Cursor.previousStop
    rw [(hc.rest_eq hts.last he).2]
    exact congrArg (TextRange.mk _) (Nat.add_sub_cancel_left _ _)
  rw [← hrange]
  refine node hts ?_ hlt (fun f types args h => ?_)
  · rw [hf]
    exact next hc
  · -- a call has its callee as a part
    rw [h] at hf
    cases hf

end InOrder

end Span

end TypeTest

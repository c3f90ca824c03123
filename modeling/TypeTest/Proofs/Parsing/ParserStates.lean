import TypeTest.Proofs.Parsing.Loops
import TypeTest.Proofs.Parsing.Spelling

/-!
# States of the parser

A cursor keeps what is before it and what is left, and how deep a parser is nested is kept by the
parser itself. Both can be seen as four plain things, the way an implementation would keep them:
all tokens, the **position** of the current one, a counter of the expressions and blocks that are
open, and the **arena** of the nodes in the order in which they were stored (`ParserState`). What
a parser does to these is read off from what it does to a cursor (`ParserState.run`), and the
counter is a counter indeed (`ParserState.run_expression`, `ParserState.run_block`).

In every state that is reached, the parser **proceeds** (`ParserState.Proceeds`): what succeeds
has taken a token and forgotten no node, what is tried and comes to nothing leaves no trace, loops
end, and no index and no range is out of bounds.
-/

open TypeTest.Parser

namespace TypeTest

/-- **A state of the parser.** -/
structure ParserState where
  tokens : List Token
  /-- The index of the current token. -/
  position : Nat
  /-- How many expressions and blocks are open. -/
  depth : Nat
  /-- The nodes that were stored, in order. -/
  arena : List Node

namespace ParserState

variable {α : Type} {ts : List Token} {s s' : ParserState} {c : Cursor}

/-! ## States and cursors -/

/-- **A well-formed state**: the tokens end once, the position is the index of one of them, and
no more is open than may be. -/
structure WellFormed (s : ParserState) : Prop where
  endOnce : Token.EndOnce s.tokens
  position_lt : s.position < s.tokens.length
  depth_le : s.depth ≤ maxNesting

/-- The cursor of a state. -/
def cursor (s : ParserState) : Cursor :=
  { Cursor.ofTokens (s.tokens.drop s.position) with
    previous := (s.tokens.take s.position).getLast?
    stored := s.arena.reverse }

/-- The state with the position and the arena of a cursor on its tokens. -/
def moveTo (s : ParserState) (c : Cursor) : ParserState :=
  { s with
    position := s.tokens.length - 1 - c.remaining
    arena := c.stored.reverse }

theorem tokens_moveTo (s : ParserState) (c : Cursor) : (s.moveTo c).tokens = s.tokens := rfl

/-- The cursor of a state has the tokens from the position on before it. -/
theorem cursor_split (h : s.position < s.tokens.length) :
    s.cursor.current :: s.cursor.rest = s.tokens.drop s.position := by
  unfold cursor
  cases hd : s.tokens.drop s.position with
  | nil =>
    have := List.drop_eq_nil_iff.mp hd
    omega
  | cons t us => rfl

theorem on_cursor (h : s.position < s.tokens.length) : s.cursor.On s.tokens :=
  ⟨s.tokens.take s.position, by rw [cursor_split h, List.take_append_drop], rfl⟩

theorem remaining_cursor (h : s.position < s.tokens.length) :
    s.cursor.remaining = s.tokens.length - 1 - s.position := by
  have hl := congrArg List.length (cursor_split h)
  rw [List.length_cons, List.length_drop] at hl
  unfold Cursor.remaining
  omega

theorem cursor_start (ts : List Token) : cursor ⟨ts, 0, 0, []⟩ = Cursor.ofTokens ts := by
  cases ts <;> rfl

/-- **A state moves to the cursors** on its tokens. -/
theorem cursor_moveTo (hc : c.On s.tokens) : (s.moveTo c).cursor = c := by
  obtain ⟨before, hts, hprevious⟩ := hc
  have hposition : (s.moveTo c).position = before.length := by
    have hl := congrArg List.length hts
    rw [List.length_append, List.length_cons] at hl
    show s.tokens.length - 1 - c.rest.length = before.length
    omega
  unfold cursor
  rw [hposition, tokens_moveTo, ← hts, List.drop_left, List.take_left, hprevious]
  show Cursor.mk c.previous c.current c.rest c.stored.reverse.reverse = c
  rw [List.reverse_reverse]

theorem moveTo_cursor (h : s.position < s.tokens.length) : s.moveTo s.cursor = s := by
  unfold moveTo
  rw [remaining_cursor h, Nat.sub_sub_self (Nat.le_sub_one_of_lt h)]
  show ParserState.mk s.tokens s.position s.depth s.arena.reverse.reverse = s
  rw [List.reverse_reverse]

theorem WellFormed.moveTo (h : s.WellFormed) (c : Cursor) : (s.moveTo c).WellFormed where
  endOnce := h.endOnce
  position_lt := by
    have := h.position_lt
    show s.tokens.length - 1 - c.remaining < s.tokens.length
    omega
  depth_le := h.depth_le

/-! ## Before and after -/

/-- **A state is before another one** of the same parse, in which at least one more token was
taken. -/
structure Before (s s' : ParserState) : Prop where
  tokens : s'.tokens = s.tokens
  position : s.position < s'.position
  valid : s'.position < s'.tokens.length
  depth : s'.depth = s.depth
  /-- What was stored before is still stored, where it was. -/
  arena : s.arena <+: s'.arena

theorem arena_isPrefix (ho : s.cursor.Onward ts c) : s.arena <+: (s.moveTo c).arena := by
  have h := List.reverse_prefix.mpr ho.moves.stored
  rwa [show s.cursor.stored.reverse = s.arena from List.reverse_reverse s.arena] at h

theorem before_moveTo (h : s.WellFormed) (ho : s.cursor.Onward s.tokens c)
    (hlt : c.remaining < s.cursor.remaining) : s.Before (s.moveTo c) where
  tokens := rfl
  position := by
    rw [remaining_cursor h.position_lt] at hlt
    show s.position < s.tokens.length - 1 - c.remaining
    omega
  valid := (h.moveTo c).position_lt
  depth := rfl
  arena := arena_isPrefix ho

/-- The state with a former position, and no more nodes than were stored then. -/
def rewind (s : ParserState) (position count : Nat) : ParserState :=
  { s with position, arena := s.arena.take count }

/-- **Rewinding is exact**, since nothing that was stored before is lost on the way. -/
theorem rewind_moveTo (ho : s.cursor.Onward s.tokens c) :
    (s.moveTo c).rewind s.position s.arena.length = s := by
  unfold rewind
  rw [← List.prefix_iff_eq_take.mp (arena_isPrefix ho)]
  rfl

/-! ## Running parsers -/

/-- **Runs a parser in a state**, with as many levels of nesting as are left. -/
def run (p : Inner → Parser α) (s : ParserState) : Except SyntaxFault (α × ParserState) :=
  (p (within (maxNesting - s.depth)) s.cursor).map fun r => (r.1, s.moveTo r.2)

theorem run_eq_ok {p : Inner → Parser α} {a : α} (h : s.run p = .ok (a, s')) :
    ∃ c, p (within (maxNesting - s.depth)) s.cursor = .ok (a, c) ∧ s' = s.moveTo c := by
  obtain ⟨r, hr, he⟩ := exists_of_map_eq_ok h
  cases he
  exact ⟨r.2, hr, rfl⟩

/-- **A script is parsed from the first state**, in which no token is taken and nothing is open or
stored. -/
theorem run_start (ts : List Token) :
    run (statements · false) ⟨ts, 0, 0, []⟩
      = (script (Cursor.ofTokens ts)).map fun r => (r.1, moveTo ⟨ts, 0, 0, []⟩ r.2) := by
  unfold run
  rw [cursor_start]
  rfl

/-- The state when something more is opened, -/
def opened (s : ParserState) : ParserState := { s with depth := s.depth + 1 }

/-- and when it is closed. -/
def closed (s : ParserState) : ParserState := { s with depth := s.depth - 1 }

/-- **Something nested**: it is refused if too much is open already, and is counted while it is
open. -/
def nest (body : ParserState → Except SyntaxFault (α × ParserState)) (s : ParserState) :
    Except SyntaxFault (α × ParserState) :=
  if maxNesting ≤ s.depth then .error ⟨.tooDeeplyNested, s.cursor.current.start⟩
  else (body s.opened).map fun r => (r.1, r.2.closed)

/-- What has a level less to use is nested. -/
theorem run_eq_nest {p q : Inner → Parser α} (hzero : p (within 0) = fail .tooDeeplyNested)
    (hsucc : ∀ levels, p (within (levels + 1)) = q (within levels)) (s : ParserState) :
    s.run p = s.nest (run q) := by
  unfold nest
  split
  · rename_i hle
    unfold run
    rw [Nat.sub_eq_zero_of_le hle, hzero]
    rfl
  · rename_i hlt
    have hlevels : maxNesting - s.depth = maxNesting - (s.depth + 1) + 1 := by omega
    unfold run
    rw [hlevels, hsucc]
    show (q (within (maxNesting - (s.depth + 1))) s.cursor).map _
      = ((q (within (maxNesting - (s.depth + 1))) s.cursor).map _).map _
    cases q (within (maxNesting - (s.depth + 1))) s.cursor <;> rfl

/-- **An expression is nested.** -/
theorem run_expression (s : ParserState) : s.run (·.expression) = s.nest (run operation) :=
  run_eq_nest rfl (fun _ => rfl) s

/-- **A block is nested.** -/
theorem run_block (s : ParserState) : s.run (·.block) = s.nest (run block) :=
  run_eq_nest rfl (fun _ => rfl) s

/-- **The steps of the parser.** -/
inductive IsStep : {α : Type} → (Inner → Parser α) → Prop
  | statement : IsStep statement
  | block : IsStep (·.block)
  | expression : IsStep (·.expression)
  | type (ends : Token → Bool) (lineBreaksEnd : Bool) : IsStep fun _ => typeUntil ends lineBreaksEnd
  | parameters : IsStep parameters
  | skipBracketed : IsStep fun _ => skipBracketed
  | typeArguments : IsStep fun _ => typeArgumentList

theorem consumes_of_isStep {inner : Inner} (hts : Token.EndOnce ts) (hi : inner.Consumes ts)
    {p : Inner → Parser α} (h : IsStep p) : Parser.Consumes ts (p inner) := by
  cases h with
  | statement => exact consumes_statement hts hi
  | block => exact hi.block
  | expression => exact hi.expression
  | type ends lineBreaksEnd => exact consumes_typeUntil hts ends lineBreaksEnd
  | parameters => exact consumes_parameters hts hi
  | skipBracketed => exact consumes_skipBracketed hts
  | typeArguments => exact consumes_typeArgumentList hts

/-- A step that succeeds moves the state onward. -/
theorem exists_onward (h : s.WellFormed) {p : Inner → Parser α} (hp : IsStep p) {a : α}
    (hrun : s.run p = .ok (a, s')) :
    ∃ c, s' = s.moveTo c ∧ s.cursor.Onward s.tokens c ∧ c.remaining < s.cursor.remaining := by
  obtain ⟨c, hc, rfl⟩ := run_eq_ok hrun
  have hi := consumes_within h.endOnce (maxNesting - s.depth)
  obtain ⟨ho, hlt⟩ := consumes_of_isStep h.endOnce hi hp _ (on_cursor h.position_lt) rfl hc
  exact ⟨c, rfl, ho, hlt rfl⟩

/-- **A step takes a token** and forgets no node. -/
theorem before_of_isStep (h : s.WellFormed) {p : Inner → Parser α} (hp : IsStep p) {a : α}
    (hrun : s.run p = .ok (a, s')) : s.Before s' ∧ s'.WellFormed := by
  obtain ⟨c, rfl, ho, hlt⟩ := exists_onward h hp hrun
  exact ⟨before_moveTo h ho hlt, h.moveTo c⟩

/-! ## Attempts -/

/-- **An attempt at type arguments** raises no fault. It gives a list that is read, if a
parenthesis follows; or it gives nothing, and the state is as it was. -/
theorem run_typeArguments (h : s.WellFormed) :
    s.run (fun _ => typeArguments) = .ok (none, s)
      ∨ ∃ types s', s.run (fun _ => typeArgumentList) = .ok (types, s')
        ∧ s'.cursor.current.isPunct '(' = true
        ∧ s.run (fun _ => typeArguments) = .ok (some types, s') := by
  have hc := on_cursor h.position_lt
  rcases typeArguments_run s.cursor with hnone | ⟨types, c, hlist, hp, hsome⟩
  · refine .inl ?_
    show (typeArguments s.cursor).map _ = _
    rw [hnone]
    show Except.ok (none, s.moveTo s.cursor) = _
    rw [moveTo_cursor h.position_lt]
  · have hon := (consumes_typeArgumentList h.endOnce _ hc rfl hlist).1.on
    refine .inr ⟨types, s.moveTo c, ?_, ?_, ?_⟩
    · show (typeArgumentList s.cursor).map _ = _
      rw [hlist]
      rfl
    · rw [cursor_moveTo hon]
      exact hp
    · show (typeArguments s.cursor).map _ = _
      rw [hsome]
      rfl

/-! ## Looking at tokens -/

theorem getElem?_position (h : s.position < s.tokens.length) :
    s.tokens[s.position]? = some s.cursor.current := by
  have hd := congrArg List.head? (cursor_split h)
  rw [List.head?_cons, List.head?_drop] at hd
  exact hd.symm

/-- Before a token that is not the first one there is another. -/
theorem exists_previous (h : s.position < s.tokens.length) (hpos : 0 < s.position) :
    ∃ t, s.tokens[s.position - 1]? = some t ∧ s.cursor.previous = some t := by
  have hlt : s.position - 1 < s.tokens.length := Nat.lt_of_le_of_lt (Nat.sub_le _ _) h
  refine ⟨s.tokens[s.position - 1], List.getElem?_eq_getElem hlt, ?_⟩
  show (s.tokens.take s.position).getLast? = _
  rw [List.getLast?_take, if_neg (Nat.ne_of_gt hpos), List.getElem?_eq_getElem hlt]
  rfl

/-- **A look ahead** is at the token so many places ahead, or at the last one. -/
theorem exists_ahead (h : s.WellFormed) (count : Nat) :
    ∃ t, s.tokens[min (s.position + count) (s.tokens.length - 1)]? = some t
      ∧ s.cursor.kindAhead count = t.kind := by
  have hposition := h.position_lt
  unfold Cursor.kindAhead
  rw [cursor_split hposition, List.getElem?_drop]
  by_cases hin : s.position + count < s.tokens.length
  · rw [Nat.min_eq_left (Nat.le_sub_one_of_lt hin), List.getElem?_eq_getElem hin]
    exact ⟨_, rfl, rfl⟩
  · obtain ⟨before, e, hts, he, _⟩ := h.endOnce
    rw [Nat.min_eq_right (by omega), List.getElem?_eq_none (Nat.le_of_not_lt hin)]
    refine ⟨e, ?_, (eq_of_beq he).symm⟩
    rw [hts, List.length_append, List.length_singleton, Nat.add_sub_cancel,
      List.getElem?_concat_length]

/-- **The look-ahead over parameters** is the same with more tokens behind the last one. -/
theorem arrowAhead_more (h : s.WellFormed) (depth : Nat) (more : List Token) :
    arrowAhead depth (s.tokens.drop s.position ++ more)
      = arrowAhead depth (s.tokens.drop s.position) := by
  obtain ⟨before, e, hts, he, _⟩ := h.endOnce
  have hle : s.position ≤ before.length := by
    have := h.position_lt
    rw [hts, List.length_append, List.length_singleton] at this
    omega
  rw [hts, List.drop_append_of_le_length hle, List.append_assoc]
  exact arrowAhead_append depth he more

/-! ## Looking at the text -/

/-- **The ranges of a text that a parser looks at** in a state are slices of it. -/
structure Slices (text : String) (s : ParserState) : Prop where
  /-- Each token is one, -/
  tokens : ∀ t ∈ s.tokens, t.range.SliceOf text.toList
  /-- what stands between the previous token and the current one, -/
  gap_le : s.cursor.previousStop ≤ s.cursor.current.start
  gap : TextRange.SliceOf
    ⟨s.cursor.previousStop, s.cursor.current.start - s.cursor.previousStop⟩ text.toList
  /-- and what is read from the current token on. -/
  read_le : ∀ s', s.Before s' → s.cursor.current.start ≤ s'.cursor.previousStop
  read : ∀ s', s.Before s' →
    (s'.cursor.rangeFrom s.cursor.current.start).SliceOf text.toList

/-- The token before a cursor, if there is one, stops between two characters. -/
theorem isBoundary_previousStop {text : String} (htext : tokenize text = .ok ts) (hc : c.On ts) :
    IsBoundary text.toList c.previousStop := by
  obtain ⟨before, rfl, hprevious⟩ := hc
  unfold Cursor.previousStop
  split
  · rename_i t ht
    rw [ht] at hprevious
    have hmem := List.mem_append_left (c.current :: c.rest) (List.mem_of_getLast? hprevious)
    exact (standsIn_tokenize htext t hmem).isBoundary.2
  · exact isBoundary_zero _

theorem slices_of_tokenize {text : String} (htext : tokenize text = .ok s.tokens)
    (h : s.position < s.tokens.length) : s.Slices text := by
  have hts := inOrder_tokenize htext
  have hc := on_cursor h
  have hstart : IsBoundary text.toList s.cursor.current.start :=
    (standsIn_tokenize htext _ hc.current_mem).isBoundary.1
  have hafter : ∀ s', s.Before s' →
      s'.cursor.On s.tokens ∧ s'.cursor.remaining < s.cursor.remaining := by
    intro s' hs
    have hvalid := hs.valid
    refine ⟨hs.tokens ▸ on_cursor hvalid, ?_⟩
    have hlt := hs.position
    rw [remaining_cursor h, remaining_cursor hvalid, hs.tokens]
    rw [hs.tokens] at hvalid
    omega
  refine ⟨fun t ht => ?_, hc.previousStop_le hts, ?_, fun s' hs => ?_, fun s' hs => ?_⟩
  · obtain ⟨hfirst, hlast⟩ := (standsIn_tokenize htext t ht).isBoundary
    exact ⟨hfirst, hlast, hlast.le⟩
  · have hstop := Nat.add_sub_of_le (hc.previousStop_le hts)
    have hlast : IsBoundary text.toList (s.cursor.previousStop
        + (s.cursor.current.start - s.cursor.previousStop)) := hstop.symm ▸ hstart
    exact ⟨isBoundary_previousStop htext hc, hlast, hlast.le⟩
  · obtain ⟨hc', hlt⟩ := hafter s' hs
    exact Nat.le_of_lt (hc.start_lt_previousStop hts hc' hlt)
  · obtain ⟨hc', hlt⟩ := hafter s' hs
    have hlast := isBoundary_previousStop htext hc'
    rw [← hc.stop_rangeFrom hts hc' hlt] at hlast
    exact ⟨hstart, hlast, hlast.le⟩

/-! ## The states that are reached -/

/-- **The states that are reached** in a parse of the tokens `ts`: a parser takes the current token
or stores a node, and opens and closes what is nested. Where it rewinds, it goes back to a state
that was reached before. -/
inductive Reachable (ts : List Token) : ParserState → Prop
  | start : Reachable ts ⟨ts, 0, 0, []⟩
  | take {s : ParserState} (h : Reachable ts s) : Reachable ts (s.moveTo s.cursor.next)
  | store {s : ParserState} (h : Reachable ts s) (form : Form Node) (range : TextRange) :
    Reachable ts (s.moveTo (s.cursor.store form range))
  | opened {s : ParserState} (h : Reachable ts s) (hdepth : s.depth < maxNesting) :
    Reachable ts s.opened
  | closed {s : ParserState} (h : Reachable ts s) : Reachable ts s.closed

/-- **Every state that is reached is well-formed.** -/
theorem Reachable.wellFormed (hts : Token.EndOnce ts) (h : Reachable ts s) :
    s.WellFormed ∧ s.tokens = ts := by
  induction h with
  | start =>
    refine ⟨⟨hts, ?_, Nat.zero_le _⟩, rfl⟩
    obtain ⟨before, e, rfl, _⟩ := hts
    exact List.length_pos_of_ne_nil (List.append_ne_nil_of_right_ne_nil _ (List.cons_ne_nil _ _))
  | take _ ih => exact ⟨ih.1.moveTo _, ih.2⟩
  | store _ form range ih => exact ⟨ih.1.moveTo _, ih.2⟩
  | opened _ hdepth ih => exact ⟨⟨ih.1.endOnce, ih.1.position_lt, hdepth⟩, ih.2⟩
  | closed _ ih =>
    exact ⟨⟨ih.1.endOnce, ih.1.position_lt, Nat.le_trans (Nat.sub_le _ _) ih.1.depth_le⟩, ih.2⟩

/-- A state that is reached moves to others that are. -/
theorem Reachable.moveTo (hts : Token.EndOnce ts) (h : Reachable ts s)
    (hmoves : s.cursor.Moves c) : Reachable ts (s.moveTo c) := by
  obtain ⟨hs, rfl⟩ := h.wellFormed hts
  have hc := on_cursor hs.position_lt
  induction hmoves with
  | refl => rwa [moveTo_cursor hs.position_lt]
  | next hmoves ih =>
    have hnext := ih.take
    rwa [cursor_moveTo (hmoves.on hc)] at hnext
  | store hmoves form range ih =>
    have hstore := ih.store form range
    rwa [cursor_moveTo (hmoves.on hc)] at hstore

/-- **A step that succeeds reaches a state.** -/
theorem Reachable.run (hts : Token.EndOnce ts) (h : Reachable ts s) {p : Inner → Parser α}
    (hp : IsStep p) {a : α} (hrun : s.run p = .ok (a, s')) : Reachable ts s' := by
  obtain ⟨c, rfl, ho, _⟩ := exists_onward (h.wellFormed hts).1 hp hrun
  exact h.moveTo hts ho.moves

/-- **The parser proceeds** from a state. -/
structure Proceeds (s : ParserState) : Prop where
  wellFormed : s.WellFormed
  /-- A step that succeeds has taken a token and forgotten no node, and nothing is open that was
  not open before. -/
  step : ∀ {α : Type} {p : Inner → Parser α}, IsStep p → ∀ {a : α} {s' : ParserState},
    s.run p = .ok (a, s') → s.Before s' ∧ s'.WellFormed
  /-- Expressions and blocks are counted while they are open. -/
  expression : s.run (·.expression) = s.nest (run operation)
  block : s.run (·.block) = s.nest (run block)
  /-- While a type is read, its depth is what its brackets add up to, and no bracket is closed
  that is not open. -/
  reading : ∀ {ends : Token → Bool} {lineBreaksEnd : Bool} {scan : TypeScan} {c : Cursor},
    Turned (typeStep ends lineBreaksEnd) ⟨0, []⟩ s.cursor scan c →
      TypeReading s.cursor scan c
      ∧ ∀ scan' c', typeStep ends lineBreaksEnd scan c = .ok (some scan', c') →
        c.current.isPunctOf ('>' :: closers) = true → 0 < scan.depth
  /-- An attempt at type arguments raises no fault, and if it fails nothing has changed. -/
  attempt : s.run (fun _ => typeArguments) = .ok (none, s)
    ∨ ∃ types s', s.run (fun _ => typeArgumentList) = .ok (types, s')
      ∧ s'.cursor.current.isPunct '(' = true
      ∧ s.run (fun _ => typeArguments) = .ok (some types, s')
  /-- The position and the number of nodes are enough to go back from all that it passed, -/
  rewind : ∀ {c : Cursor}, PassesArguments s.cursor c →
    (s.moveTo c).rewind s.position s.arena.length = s
  /-- also from where a fault was raised. -/
  refused : ∀ {fault : SyntaxFault}, s.run (fun _ => typeArgumentList) = .error fault →
    ∃ c, PassesArguments s.cursor c ∧ fault.offset = c.current.start
  /-- Loops end, with what the guarded repetitions give, and so does the look-ahead. -/
  loops : ∀ {σ : Type} {step : σ → Parser (Option σ)},
    IsLoop (within (maxNesting - s.depth)) step → ∀ {x : σ} {r : Except SyntaxFault (σ × Cursor)},
      LoopsTo step x s.cursor r ↔ repeatWhile step x s.cursor = r
  lookahead : ∀ (depth : Nat) (more : List Token),
    arrowAhead depth (s.tokens.drop s.position ++ more)
      = arrowAhead depth (s.tokens.drop s.position)
  /-- The current token has the position for its index, a look ahead is at the last token at
  most, and before each token but the first there is another. -/
  current : s.tokens[s.position]? = some s.cursor.current
  ahead : ∀ count, ∃ t, s.tokens[min (s.position + count) (s.tokens.length - 1)]? = some t
    ∧ s.cursor.kindAhead count = t.kind
  previous : 0 < s.position → ∃ t, s.tokens[s.position - 1]? = some t ∧ s.cursor.previous = some t
  /-- Ranges are slices of the text. -/
  slices : ∀ text, tokenize text = .ok s.tokens → s.Slices text

/-- **The parser proceeds from every state that is reached.** -/
theorem Reachable.proceeds (hts : Token.EndOnce ts) (h : Reachable ts s) : s.Proceeds := by
  obtain ⟨hs, rfl⟩ := h.wellFormed hts
  have hc := on_cursor hs.position_lt
  exact {
    wellFormed := hs
    step := fun hp _ _ hrun => before_of_isStep hs hp hrun
    expression := run_expression s
    block := run_block s
    reading := fun hturned =>
      ⟨typeReading_of_turned hts hc hturned, fun _ _ hstep => depth_pos_of_typeStep hstep⟩
    attempt := run_typeArguments hs
    rewind := fun hpassed => rewind_moveTo (hpassed.onward hts hc)
    refused := fun hrun => by
      unfold ParserState.run at hrun
      exact exists_passed_of_error hts hc (eq_error_of_map_eq_error hrun)
    loops := fun hloop x _ =>
      loopsTo_iff (isTurn_of_isLoop hts (consumes_within hts _) hloop) hc x
    lookahead := arrowAhead_more hs
    current := getElem?_position hs.position_lt
    ahead := exists_ahead hs
    previous := exists_previous hs.position_lt
    slices := fun _ htext => slices_of_tokenize htext hs.position_lt }

/-- The tokens of a call that breaks off in its type arguments. -/
def brokenCall : List Token :=
  [⟨.identifier, "", "f", 0⟩, ⟨.punct '<', "", "<", 1⟩, ⟨.identifier, "", "A", 2⟩,
    ⟨.endOfText, "", "", 3⟩]

/-- The parser proceeds from the bracket on, in an expression. -/
theorem proceeds_brokenCall :
    tokenize "f<A" = .ok brokenCall ∧ Token.EndOnce brokenCall
      ∧ Reachable brokenCall ⟨brokenCall, 1, 1, []⟩ ∧ Proceeds ⟨brokenCall, 1, 1, []⟩ := by
  have hts : Token.EndOnce brokenCall :=
    ⟨[⟨.identifier, "", "f", 0⟩, ⟨.punct '<', "", "<", 1⟩, ⟨.identifier, "", "A", 2⟩],
      ⟨.endOfText, "", "", 3⟩, rfl, rfl, by decide⟩
  have hreached : Reachable brokenCall ⟨brokenCall, 1, 1, []⟩ :=
    .take (.opened .start (by decide))
  exact ⟨by decide +kernel, hts, hreached, hreached.proceeds hts⟩

end ParserState

end TypeTest

import TypeTest.Proofs.Parsing.Likeness
import TypeTest.Proofs.Parsing.Running
import TypeTest.Proofs.Printing.Lexemes

/-!
# Two texts side by side

Two texts are read **side by side** as long as their tokens are of the same kinds, with the
same characters and the same line breaks between them. A `Comparison` says what else is known
of corresponding tokens, their offsets and the blanks before them, and what it says of the
nodes made of them, their ranges, their indices and the texts of types. The two texts may end
together; or, where the first one ends, the second goes on after a semicolon.

In that second case a parser can come to know that the first text ended. What it comes to
is therefore said with some **slack**: nothing is said of the second run where the first one
refuses its text, or, while the first is bound to refuse it, where it merely stands at the
end. What keeps the runs together over the semicolon is that no bracket of the first text is
left open, neither for a reader who counts angle brackets nor for one who does not.
-/

namespace TypeTest

open TypeTest.Parser

/-! ## Brackets left open -/

/-- The bracket depth after a token, angle brackets left aside. -/
def Parser.bracketDepth (depth : Nat) (t : Token) : Nat :=
  if t.isPunctOf openers then depth + 1
  else if t.isPunctOf closers then depth - 1
  else depth

/-- **Tokens that leave no bracket open.** Brackets of different kinds close each other, and
angle brackets count for one of two readers. -/
structure Token.Closed (ts : List Token) : Prop where
  angled : ts.foldl typeDepth 0 = 0
  plain : ts.foldl bracketDepth 0 = 0

namespace Token

instance (ts : List Token) : Decidable (Closed ts) :=
  decidable_of_iff (ts.foldl typeDepth 0 = 0 ∧ ts.foldl bracketDepth 0 = 0)
    ⟨fun h => ⟨h.1, h.2⟩, fun h => ⟨h.angled, h.plain⟩⟩

theorem typeDepth_mono (t : Token) {d e : Nat} (h : d ≤ e) : typeDepth d t ≤ typeDepth e t := by
  unfold typeDepth
  split
  · omega
  · split <;> omega

theorem bracketDepth_mono (t : Token) {d e : Nat} (h : d ≤ e) :
    bracketDepth d t ≤ bracketDepth e t := by
  unfold bracketDepth
  split
  · omega
  · split <;> omega

theorem foldl_mono {step : Nat → Token → Nat} (hstep : ∀ t d e, d ≤ e → step d t ≤ step e t)
    (ts : List Token) {d e : Nat} (h : d ≤ e) : ts.foldl step d ≤ ts.foldl step e := by
  induction ts generalizing d e with
  | nil => exact h
  | cons t ts ih => exact ih (hstep t d e h)

/-- What follows a token leaves no bracket open either. -/
theorem Closed.tail {t : Token} {ts : List Token} (h : Closed (t :: ts)) : Closed ts := by
  have hangled : ts.foldl typeDepth 0 ≤ (t :: ts).foldl typeDepth 0 :=
    foldl_mono (fun t _ _ => typeDepth_mono t) ts (Nat.zero_le _)
  have hplain : ts.foldl bracketDepth 0 ≤ (t :: ts).foldl bracketDepth 0 :=
    foldl_mono (fun t _ _ => bracketDepth_mono t) ts (Nat.zero_le _)
  rw [h.angled] at hangled
  rw [h.plain] at hplain
  exact ⟨Nat.le_zero.mp hangled, Nat.le_zero.mp hplain⟩

/-! ## Tokens that look the same -/

/-- **Tokens that look the same** to a reader who does not ask for the end of the text or for
a semicolon. -/
structure Similar (t u : Token) : Prop where
  kind : ∀ k, k ≠ .endOfText → k ≠ .punct ';' → (t.kind = k ↔ u.kind = k)
  text : t.kind = .identifier → t.text = u.text

namespace Similar

variable {t u : Token}

theorem beq_kind (h : Similar t u) {k : TokenKind} (he : k ≠ .endOfText) (hs : k ≠ .punct ';') :
    (t.kind == k) = (u.kind == k) := by
  rw [Bool.eq_iff_iff, beq_iff_eq, beq_iff_eq]
  exact h.kind k he hs

theorem isPunct (h : Similar t u) {p : Char} (hp : p ≠ ';') : t.isPunct p = u.isPunct p :=
  h.beq_kind TokenKind.noConfusion fun he => hp (TokenKind.punct.inj he)

theorem isIdentifier (h : Similar t u) : t.isIdentifier = u.isIdentifier :=
  h.beq_kind TokenKind.noConfusion TokenKind.noConfusion

theorem isPunctOf (h : Similar t u) {ps : List Char} (hps : ';' ∉ ps) :
    t.isPunctOf ps = u.isPunctOf ps := by
  have hiff : ∀ {t u : Token}, (∀ p, p ≠ ';' → t.kind = .punct p → u.kind = .punct p) →
      t.isPunctOf ps = true → u.isPunctOf ps = true := by
    intro t u htu ht
    unfold Token.isPunctOf at ht
    split at ht
    · rename_i p hp
      have hne : p ≠ ';' := fun he => hps (he ▸ List.contains_iff_mem.mp ht)
      unfold Token.isPunctOf
      rw [htu p hne hp]
      exact ht
    · cases ht
  have hpunct : ∀ p, p ≠ ';' → (t.kind = .punct p ↔ u.kind = .punct p) := fun p hp =>
    h.kind _ TokenKind.noConfusion fun he => hp (TokenKind.punct.inj he)
  rw [Bool.eq_iff_iff]
  exact ⟨hiff fun p hp => (hpunct p hp).mp, hiff fun p hp => (hpunct p hp).mpr⟩

/-- Of names, the texts are equal too. -/
theorem isIdentifier_and (h : Similar t u) (test : String → Bool) :
    (t.isIdentifier && test t.text) = (u.isIdentifier && test u.text) := by
  rw [← h.isIdentifier]
  cases ht : t.isIdentifier with
  | false => rfl
  | true => rw [h.text (eq_of_beq ht)]

theorem isWord (h : Similar t u) (word : String) : t.isWord word = u.isWord word :=
  h.isIdentifier_and (· == word)

theorem isWordOf (h : Similar t u) (words : List String) : t.isWordOf words = u.isWordOf words :=
  h.isIdentifier_and words.contains

end Similar

end Token

/-! ## Comparisons -/

/-- **How two texts compare**: what is known of the offsets of corresponding tokens and of the
blanks before them, of the tokens left and of the indices of nodes, and what follows for the
ranges of nodes, the texts of types and the nodes themselves. -/
structure Comparison where
  Offsets : Nat → Nat → Prop
  Trivia : String → String → Prop
  Tails : List Token → List Token → Prop
  Indices : Nat → Nat → Prop
  Ranges : TextRange → TextRange → Prop
  Texts : String → String → Prop
  Like : Node → Node → Prop
  /-- The tokens of the second text after a semicolon that stands where the first text ends;
  none if the texts end together. -/
  more : Option (List Token)
  ranges : ∀ {start start' stop stop' : Nat}, Offsets start start' → Offsets stop stop' →
    Ranges ⟨start, stop - start⟩ ⟨start', stop' - start'⟩
  tail : ∀ {t u : Token} {ts us : List Token}, Tails (t :: ts) (u :: us) → Tails ts us
  /-- A type is a run of the tokens left, with others behind it. -/
  texts : ∀ {ts us rest rest' : List Token}, Tails (ts ++ rest) (us ++ rest') → rest ≠ [] →
    rest' ≠ [] →
    List.Forall₂ (fun t u => t.lexeme = u.lexeme ∧ Trivia t.trivia u.trivia) ts us →
    Texts (spelling ts) (spelling us)
  succ : ∀ {index index' : Nat}, Indices index index' → Indices (index + 1) (index' + 1)
  like : ∀ {form form' : Form Node} {range range' : TextRange} {index index' : Nat},
    Form.Like Like Texts form form' → Ranges range range' → Indices index index' →
    Like (.mk form range index) (.mk form' range' index')
  /-- Where the second text goes on, offsets are not compared. -/
  free : more ≠ none → ∀ start start', Offsets start start'
  /-- Nor are indices. -/
  unnumbered : more ≠ none → ∀ index index', Indices index index'

/-- **The cursor stands at the end** of its tokens. -/
structure Cursor.AtEnd (c : Cursor) : Prop where
  rest : c.rest = []
  isEnd : c.current.isEnd = true

namespace Comparison

/-- Corresponding tokens. -/
structure Same (K : Comparison) (t u : Token) : Prop where
  kind : t.kind = u.kind
  text : t.text = u.text
  start : K.Offsets t.start u.start
  stop : K.Offsets t.stop u.stop

/-- Corresponding tokens with what stands before them. -/
structure Alike (K : Comparison) (t u : Token) : Prop extends K.Same t u where
  breaksLine : t.breaksLine = u.breaksLine
  trivia : K.Trivia t.trivia u.trivia

/-- **What is left of the two texts.** Where reading is `fresh`, nothing is known of what stands
before the first token. -/
inductive Left (K : Comparison) : Bool → List Token → List Token → Prop where
  | ended {fresh : Bool} {e e' : Token} : K.more = none → e.isEnd = true → e'.isEnd = true →
    K.Offsets e.start e'.start → Left K fresh [e] [e']
  | separated {fresh : Bool} {e s t : Token} {ts : List Token} : K.more = some (t :: ts) →
    e.isEnd = true → s.isPunct ';' = true → Left K fresh [e] (s :: t :: ts)
  | cons {fresh : Bool} {t u : Token} {ts us : List Token} : t.isEnd = false → K.Same t u →
    (fresh = false → K.Alike t u) → Left K false ts us → Left K fresh (t :: ts) (u :: us)

/-- **The cursors stand side by side** on the two texts. -/
structure Beside (K : Comparison) (fresh : Bool) (c c' : Cursor) : Prop where
  previous : fresh = false → ∃ t u, c.previous = some t ∧ c'.previous = some u ∧ K.Same t u
  left : K.Left fresh (c.current :: c.rest) (c'.current :: c'.rest)
  tails : K.Tails (c.current :: c.rest) (c'.current :: c'.rest)
  indices : K.Indices c.nextIndex c'.nextIndex
  closed : K.more ≠ none → Token.Closed (c.current :: c.rest)

/-- How many more tokens are left of the second text. -/
def extra (K : Comparison) : Nat :=
  match K.more with
  | none => 0
  | some more => more.length

variable {K : Comparison} {fresh : Bool} {c c' : Cursor} {t u : Token}

theorem Same.lexeme (h : K.Same t u) : t.lexeme = u.lexeme := by
  unfold Token.lexeme
  rw [h.kind, h.text]

theorem Same.similar (h : K.Same t u) : Token.Similar t u :=
  ⟨fun k _ _ => by rw [h.kind], fun _ => h.text⟩

theorem Same.isEnd (h : K.Same t u) : t.isEnd = u.isEnd := by
  unfold Token.isEnd
  rw [h.kind]

theorem Left.length {ts us : List Token} (h : K.Left fresh ts us) :
    us.length = ts.length + K.extra := by
  unfold extra
  induction h with
  | ended hm =>
    rw [hm]
    rfl
  | separated hm =>
    rw [hm]
    exact Nat.add_comm _ _
  | cons _ _ _ _ ih =>
    rw [List.length_cons, List.length_cons, ih]
    omega

/-- **The first tokens left look the same**: where one text ends and a semicolon stands in the
other, no one asks for either. -/
theorem Left.similar {ts us : List Token} (h : K.Left fresh (t :: ts) (u :: us)) :
    Token.Similar t u := by
  cases h with
  | ended _ he he' _ =>
    have hk : t.kind = .endOfText := eq_of_beq he
    have hk' : u.kind = .endOfText := eq_of_beq he'
    exact ⟨fun k _ _ => by rw [hk, hk'], fun hi => by rw [hk] at hi; cases hi⟩
  | separated _ he hs =>
    have hk : t.kind = .endOfText := eq_of_beq he
    have hk' : u.kind = .punct ';' := eq_of_beq hs
    refine ⟨fun k hne hns => ?_, fun hi => by rw [hk] at hi; cases hi⟩
    rw [hk, hk']
    exact ⟨fun hf => absurd hf.symm hne, fun hf => absurd hf.symm hns⟩
  | cons _ hs => exact hs.similar

/-- Something is left of both texts. -/
theorem Left.exists_cons {ts us : List Token} (h : K.Left fresh ts us) :
    ∃ t ts' u us', ts = t :: ts' ∧ us = u :: us' := by
  cases h <;> exact ⟨_, _, _, _, rfl, rfl⟩

/-- Nothing need be known of what stands before the first token. -/
theorem Left.weaken {ts us : List Token} (h : K.Left false ts us) : K.Left fresh ts us := by
  cases h with
  | ended hm he he' ho => exact .ended hm he he' ho
  | separated hm he hs => exact .separated hm he hs
  | cons he hs ha hl => exact .cons he hs (fun _ => ha rfl) hl

namespace Beside

/-- Nothing need be known of what stands before the current token. -/
theorem weaken (h : K.Beside false c c') : K.Beside fresh c c' :=
  ⟨fun _ => h.previous rfl, h.left.weaken, h.tails, h.indices, h.closed⟩

theorem remaining (h : K.Beside fresh c c') : c'.remaining = c.remaining + K.extra := by
  have hl := h.left.length
  rw [List.length_cons, List.length_cons] at hl
  unfold Cursor.remaining
  omega

/-- At the end of the first text, the second ends too or goes on after a semicolon. -/
theorem of_isEnd (h : K.Beside fresh c c') (he : c.current.isEnd = true) :
    c.AtEnd ∧ ((K.more = none ∧ c'.current.isEnd = true)
      ∨ (K.more ≠ none ∧ c'.current.isPunct ';' = true)) := by
  obtain ⟨previous, current, rest, stored⟩ := c
  obtain ⟨previous', current', rest', stored'⟩ := c'
  cases h.left with
  | ended hm hend he' _ => exact ⟨⟨rfl, hend⟩, .inl ⟨hm, he'⟩⟩
  | separated hm hend hs => exact ⟨⟨rfl, hend⟩, .inr ⟨hm ▸ Option.some_ne_none _, hs⟩⟩
  | cons hne => exact absurd (he.symm.trans hne) (by decide)

/-- Where the second text goes on after a semicolon, what it goes on with is next. -/
theorem more_eq (h : K.Beside fresh c c') (he : c.current.isEnd = true) (hm : K.more ≠ none) :
    K.more = some (c'.next.current :: c'.next.rest) := by
  obtain ⟨previous, current, rest, stored⟩ := c
  obtain ⟨previous', current', rest', stored'⟩ := c'
  cases h.left with
  | ended hnone => exact absurd hnone hm
  | separated hsome => exact hsome
  | cons hne => exact absurd (he.symm.trans hne) (by decide)

/-- Where the first text goes on, the current tokens correspond. -/
theorem same (h : K.Beside fresh c c') (he : c.current.isEnd = false) :
    K.Same c.current c'.current := by
  obtain ⟨previous, current, rest, stored⟩ := c
  obtain ⟨previous', current', rest', stored'⟩ := c'
  cases h.left with
  | ended _ hend => exact absurd (he.symm.trans hend) (by decide)
  | separated _ hend => exact absurd (he.symm.trans hend) (by decide)
  | cons _ hs => exact hs

theorem alike (h : K.Beside false c c') (he : c.current.isEnd = false) :
    K.Alike c.current c'.current := by
  obtain ⟨previous, current, rest, stored⟩ := c
  obtain ⟨previous', current', rest', stored'⟩ := c'
  cases h.left with
  | ended _ hend => exact absurd (he.symm.trans hend) (by decide)
  | separated _ hend => exact absurd (he.symm.trans hend) (by decide)
  | cons _ _ ha => exact ha rfl

/-- **The current tokens look the same.** -/
theorem similar (h : K.Beside fresh c c') : Token.Similar c.current c'.current := h.left.similar

theorem start (h : K.Beside fresh c c') : K.Offsets c.current.start c'.current.start := by
  cases he : c.current.isEnd with
  | false => exact (h.same he).start
  | true =>
    obtain ⟨previous, current, rest, stored⟩ := c
    obtain ⟨previous', current', rest', stored'⟩ := c'
    cases h.left with
    | ended _ _ _ ho => exact ho
    | separated hm => exact K.free (hm ▸ Option.some_ne_none _) _ _
    | cons hne => exact absurd (he.symm.trans hne) (by decide)

theorem previousStop (h : K.Beside false c c') : K.Offsets c.previousStop c'.previousStop := by
  obtain ⟨t, u, ht, hu, hs⟩ := h.previous rfl
  unfold Cursor.previousStop
  rw [ht, hu]
  exact hs.stop

/-- A line breaks before both of the current tokens or before none. -/
theorem breaksLine (h : K.Beside false c c') (he : c.current.isEnd = false) :
    c.breaksLine = c'.breaksLine := by
  obtain ⟨t, u, ht, hu, _⟩ := h.previous rfl
  unfold Cursor.breaksLine
  rw [ht, hu, (h.alike he).breaksLine]
  rfl

/-- The next token of the first text is at the cursor after the current one. -/
theorem rest_eq (h : K.Beside fresh c c') (he : c.current.isEnd = false) :
    c.rest = c.next.current :: c.next.rest ∧ c'.rest = c'.next.current :: c'.next.rest := by
  obtain ⟨previous, current, rest, stored⟩ := c
  obtain ⟨previous', current', rest', stored'⟩ := c'
  cases h.left with
  | ended _ hend => exact absurd (he.symm.trans hend) (by decide)
  | separated _ hend => exact absurd (he.symm.trans hend) (by decide)
  | cons _ _ _ hl => cases hl <;> exact ⟨rfl, rfl⟩

/-- **The cursors go on side by side** after tokens that correspond. -/
theorem next (h : K.Beside fresh c c') (he : c.current.isEnd = false) :
    K.Beside false c.next c'.next := by
  have hs := h.same he
  obtain ⟨hrest, hrest'⟩ := h.rest_eq he
  obtain ⟨previous, current, rest, stored⟩ := c
  obtain ⟨previous', current', rest', stored'⟩ := c'
  cases h.left with
  | ended _ hend => exact absurd (he.symm.trans hend) (by decide)
  | separated _ hend => exact absurd (he.symm.trans hend) (by decide)
  | cons _ _ _ hl =>
    cases rest with
    | nil => cases hrest
    | cons t ts =>
      cases rest' with
      | nil => cases hrest'
      | cons u us =>
        exact ⟨fun _ => ⟨current, current', rfl, rfl, hs⟩, hl, K.tail h.tails, h.indices,
          fun hm => (h.closed hm).tail⟩

theorem next_lt (h : K.Beside fresh c c') (he : c.current.isEnd = false) :
    c.next.remaining < c.remaining := by
  unfold Cursor.remaining
  rw [(h.rest_eq he).1, List.length_cons]
  exact Nat.lt_succ_self _

/-- Storing a node leaves the cursors where they are. -/
theorem store (h : K.Beside fresh c c') {form form' : Form Node} {range range' : TextRange} :
    K.Beside fresh (c.store form range) (c'.store form' range') :=
  ⟨h.previous, h.left, h.tails, K.succ h.indices, h.closed⟩

/-- Of the tokens after the current one, too, the first ones look the same. -/
theorem kindAhead_one (h : K.Beside fresh c c') (he : c.current.isEnd = false) {k : TokenKind}
    (hne : k ≠ .endOfText) (hns : k ≠ .punct ';') :
    (c.kindAhead 1 == k) = (c'.kindAhead 1 == k) := by
  have hsim := (h.next he).similar.beq_kind hne hns
  obtain ⟨hr, hr'⟩ := h.rest_eq he
  unfold Cursor.kindAhead
  rw [hr, hr']
  exact hsim

/-- What depends on the token after the current one is the same if it is asked for only where
the first text goes on. -/
theorem and_kindAhead (h : K.Beside fresh c c') {b b' : Bool} (hb : b = b')
    (he : b = true → c.current.isEnd = false) {k : TokenKind}
    (hne : k ≠ .endOfText) (hns : k ≠ .punct ';') :
    (b && c.kindAhead 1 == k) = (b' && c'.kindAhead 1 == k) := by
  subst hb
  cases b with
  | false => rfl
  | true => rw [h.kindAhead_one (he rfl) hne hns]

theorem and_kindAhead_ne (h : K.Beside fresh c c') {b b' : Bool} (hb : b = b')
    (he : b = true → c.current.isEnd = false) {k : TokenKind}
    (hne : k ≠ .endOfText) (hns : k ≠ .punct ';') :
    (b && c.kindAhead 1 != k) = (b' && c'.kindAhead 1 != k) := by
  subst hb
  cases b with
  | false => rfl
  | true =>
    unfold bne
    rw [h.kindAhead_one (he rfl) hne hns]

theorem kindAhead_two (h : K.Beside fresh c c') (he : c.current.isEnd = false)
    (hi : c.kindAhead 1 = .identifier) {k : TokenKind}
    (hne : k ≠ .endOfText) (hns : k ≠ .punct ';') :
    (c.kindAhead 2 == k) = (c'.kindAhead 2 == k) := by
  obtain ⟨hr, hr'⟩ := h.rest_eq he
  have hnext : c.next.current.isEnd = false := by
    have hk : c.kindAhead 1 = c.next.current.kind := by
      unfold Cursor.kindAhead
      rw [hr]
      rfl
    unfold Token.isEnd
    rw [← hk, hi]
    rfl
  have hsim := ((h.next he).next hnext).similar.beq_kind hne hns
  obtain ⟨hs, hs'⟩ := (h.next he).rest_eq hnext
  unfold Cursor.kindAhead
  rw [hr, hr', hs, hs']
  exact hsim

end Beside

end Comparison

end TypeTest

import TypeTest.Script.Cursor
import TypeTest.TypeText.Arguments

/-!
# One argument, character by character

The arguments of an instance of a generic are told apart by characters: quotes hide what is
between them, brackets count, the `>` of an arrow closes nothing, and a comma or a closing
bracket that is in no bracket but that of the instance ends the argument. `Nesting.read` is
what one character of an argument does to that count, and gives nothing where the argument
ends. `argumentsFrom` keeps just the characters that are read so (`argumentsFrom_of_readAll`), so
an argument is what an instance has for its first one exactly if it is **read through**. Readings
compose as texts do, and a **sealed** text, which stays in the brackets it stands in and closes
all that it opens, is read through wherever it stands.
-/

namespace TypeTest.TypeText

/-- **Where the reader of an argument is**: with respect to quotes, after which character, and
in how many brackets, that of the instance included. -/
structure Nesting where
  quoting : Quoting
  before : Char
  depth : Nat
  deriving DecidableEq

namespace Nesting

/-- In how many brackets a reader is after a character that is not quoted, if the argument
goes on with it. -/
def depthAfter (before : Char) (depth : Nat) (c : Char) : Option Nat :=
  if ('<' :: Parser.openers).contains c then some (depth + 1)
  else if c == '>' && (before == '=' || depth == 0) then some depth
  else if (c == '>' || c == ',') && depth == 1 then none
  else if ('>' :: Parser.closers).contains c then some (depth - 1)
  else some depth

/-- **Where the reader is after a character** of the argument. -/
def read (n : Nesting) (c : Char) : Option Nesting :=
  if n.quoting.covers c then some ⟨n.quoting.next c, c, n.depth⟩
  else (depthAfter n.before n.depth c).map (⟨.outside, c, ·⟩)

/-- **Where the reader is after several characters** of the argument. -/
def readAll (n : Nesting) (cs : List Char) : Option Nesting := cs.foldlM read n

@[simp] theorem readAll_cons (n : Nesting) (c : Char) (cs : List Char) :
    n.readAll (c :: cs) = (n.read c).bind (·.readAll cs) := rfl

/-- **Readings compose** as texts do. -/
theorem readAll_append (n : Nesting) (as bs : List Char) :
    n.readAll (as ++ bs) = (n.readAll as).bind (·.readAll bs) :=
  List.foldlM_append

variable {n m : Nesting} {b c : Char} {cs ds : List Char} {d d' : Nat}

theorem readAll_append_of_some (h : n.readAll cs = some m) :
    n.readAll (cs ++ ds) = m.readAll ds := by
  rw [readAll_append, h]
  rfl

/-! ## One character -/

/-- The reader keeps the last character. -/
theorem before_of_read (h : n.read c = some m) : m.before = c := by
  unfold read at h
  split at h
  · rw [← Option.some.inj h]
  · obtain ⟨depth, _, rfl⟩ := Option.map_eq_some_iff.mp h
    rfl

theorem before_of_readAll (h : n.readAll cs = some m) :
    m.before = (cs.getLast?).getD n.before := by
  induction cs generalizing n with
  | nil =>
    rw [← Option.some.inj h]
    rfl
  | cons c cs ih =>
    obtain ⟨k, hk, h⟩ := Option.bind_eq_some_iff.mp h
    rw [ih h, before_of_read hk, List.getLast?_cons]
    rfl

/-- Quotes are told apart without regard to brackets. -/
theorem quoting_of_read (h : n.read c = some m) : m.quoting = n.quoting.next c := by
  unfold read at h
  split at h
  · rw [← Option.some.inj h]
  · rename_i hc
    obtain ⟨depth, _, rfl⟩ := Option.map_eq_some_iff.mp h
    cases hq : n.quoting with
    | outside =>
      rw [hq] at hc
      exact (if_neg hc).symm
    | inside quote escaped =>
      rw [hq] at hc
      exact absurd rfl hc

/-- A quoted character changes no depth. -/
theorem read_inside (quote : Char) (escaped : Bool) (b : Char) (d : Nat) (c : Char) :
    read ⟨.inside quote escaped, b, d⟩ c
      = some ⟨(Quoting.inside quote escaped).next c, c, d⟩ := rfl

/-- A quote opens a text in quotes. -/
theorem read_opening (h : isQuote c = true) (b : Char) (d : Nat) :
    read ⟨.outside, b, d⟩ c = some ⟨.inside c false, c, d⟩ := by
  have hnext : Quoting.next .outside c = .inside c false := if_pos h
  rw [← hnext]
  exact if_pos h

/-- Outside of quotes a character that does not quote is read by what it does to the depth. -/
theorem read_outside (h : isQuote c = false) (b : Char) (d : Nat) :
    read ⟨.outside, b, d⟩ c = (depthAfter b d c).map (⟨.outside, c, ·⟩) :=
  if_neg (Bool.eq_false_iff.mp h)

/-- The characters that mean something to the reader. -/
def marks : List Char :=
  ['"', '\'', '\x60', ','] ++ '<' :: Parser.openers ++ '>' :: Parser.closers

/-- **A character that means nothing** changes no depth. -/
theorem read_of_notMem (h : c ∉ marks) (b : Char) (d : Nat) :
    read ⟨.outside, b, d⟩ c = some ⟨.outside, c, d⟩ := by
  simp only [marks, Parser.openers, Parser.closers, List.cons_append, List.nil_append,
    List.mem_cons, List.not_mem_nil, or_false, not_or] at h
  simp [read, depthAfter, Quoting.covers, isQuote, Parser.openers, Parser.closers, h]

/-- An argument ends outside of quotes, at a bracket that closes the instance or at a comma. -/
theorem of_read_eq_none (h : n.read c = none) :
    n.quoting = .outside ∧ isQuote c = false ∧ n.depth = 1
      ∧ (c = ',' ∨ c = '>' ∧ n.before ≠ '=') := by
  unfold read at h
  split at h
  · cases h
  rename_i hc
  have hdepth := Option.map_eq_none_iff.mp h
  cases hq : n.quoting with
  | inside quote escaped =>
    rw [hq] at hc
    exact absurd rfl hc
  | outside =>
    rw [hq] at hc
    refine ⟨rfl, Bool.eq_false_iff.mpr hc, ?_⟩
    unfold depthAfter at hdepth
    grind

/-! ## Sealed texts -/

/-- At the start of an argument no bracket closes, so the character before does not matter. -/
theorem depthAfter_of_blank (h : depthAfter ' ' 1 c = some d) (b : Char) :
    depthAfter b 1 c = some d := by
  unfold depthAfter at h ⊢
  grind

/-- **More brackets around it change nothing** for what stays in brackets. -/
theorem depthAfter_add (h : depthAfter b (d + 1) c = some (d' + 1)) (count : Nat) :
    depthAfter b (d + 1 + count) c = some (d' + 1 + count) := by
  unfold depthAfter at h ⊢
  grind

/-- The reader in more brackets. -/
def deeper (n : Nesting) (count : Nat) : Nesting := { n with depth := n.depth + count }

/-- Where the reader is after a character, if it is still in brackets. -/
def readInside (n : Nesting) (c : Char) : Option Nesting := (n.read c).filter (0 < ·.depth)

theorem readInside_eq_some_iff : n.readInside c = some m ↔ n.read c = some m ∧ 0 < m.depth := by
  unfold readInside
  rw [Option.filter_eq_some_iff, decide_eq_true_iff]

theorem read_deeper (h : n.readInside c = some m) (hn : 0 < n.depth) (count : Nat) :
    (n.deeper count).read c = some (m.deeper count) := by
  obtain ⟨h, hm⟩ := readInside_eq_some_iff.mp h
  unfold read at h ⊢
  split at h
  · rename_i hc
    rw [← Option.some.inj h]
    exact if_pos hc
  · rename_i hc
    obtain ⟨depth, hd, rfl⟩ := Option.map_eq_some_iff.mp h
    obtain ⟨d, hd₁⟩ := Nat.exists_eq_add_one.mpr hn
    obtain ⟨d', rfl⟩ := Nat.exists_eq_add_one.mpr hm
    rw [hd₁] at hd
    have hdeeper : depthAfter n.before (n.depth + count) c = some (d' + 1 + count) :=
      hd₁ ▸ depthAfter_add hd count
    show (if n.quoting.covers c then _ else (depthAfter n.before (n.depth + count) c).map _) = _
    rw [if_neg hc, hdeeper]
    rfl

theorem readAll_deeper (h : cs.foldlM readInside n = some m) (hn : 0 < n.depth) (count : Nat) :
    (n.deeper count).readAll cs = some (m.deeper count) := by
  induction cs generalizing n with
  | nil =>
    cases h
    rfl
  | cons c cs ih =>
    obtain ⟨k, hk, h⟩ := Option.bind_eq_some_iff.mp h
    rw [readAll_cons, read_deeper hk hn count]
    exact ih h (readInside_eq_some_iff.mp hk).2

/-- **A sealed text**: all quotes and brackets that it opens it closes, nothing in it would end
an argument, and it does not end as an arrow begins. -/
def Sealed (cs : List Char) : Prop :=
  ∃ n ∈ cs.foldlM readInside ⟨.outside, ' ', 1⟩,
    n.quoting = .outside ∧ n.depth = 1 ∧ n.before ≠ '='

instance (cs : List Char) : Decidable (Sealed cs) :=
  inferInstanceAs (Decidable (∃ n ∈ cs.foldlM readInside ⟨.outside, ' ', 1⟩, _))

/-- **A sealed text is read through anywhere** in brackets and outside of quotes. -/
theorem Sealed.readAll (h : Sealed cs) (b : Char) (d : Nat) :
    ∃ last, Nesting.readAll ⟨.outside, b, d + 1⟩ cs = some ⟨.outside, last, d + 1⟩
      ∧ (cs = [] ∧ last = b ∨ last ≠ '=') := by
  obtain ⟨⟨q, last, depth⟩, hn, rfl, rfl, hlast⟩ := h
  cases cs with
  | nil => exact ⟨b, rfl, .inl ⟨rfl, rfl⟩⟩
  | cons c cs =>
    obtain ⟨k, hk, hn⟩ := Option.bind_eq_some_iff.mp hn
    obtain ⟨hk, hpos⟩ := readInside_eq_some_iff.mp hk
    have hfirst : readInside ⟨.outside, b, 1⟩ c = some k := by
      refine readInside_eq_some_iff.mpr ⟨?_, hpos⟩
      unfold read at hk ⊢
      split at hk
      · rename_i hc
        exact (if_pos hc).trans hk
      · rename_i hc
        obtain ⟨depth, hd, rfl⟩ := Option.map_eq_some_iff.mp hk
        rw [if_neg hc, depthAfter_of_blank hd b]
        rfl
    have hall : (c :: cs).foldlM readInside ⟨.outside, b, 1⟩ = some ⟨.outside, last, 1⟩ := by
      rw [List.foldlM_cons, hfirst]
      exact hn
    have hdeeper := readAll_deeper hall Nat.one_pos d
    unfold deeper at hdeeper
    rw [Nat.add_comm 1 d] at hdeeper
    exact ⟨last, hdeeper, .inr hlast⟩

/-! ## The reader of arguments -/

/-- An argument goes on at the end of an arrow, and where its own brackets close. -/
theorem depthAfter_close (b : Char) (d : Nat) :
    depthAfter b d '>'
      = if b == '=' || d == 0 then some d else if d == 1 then none else some (d - 1) := by
  simp [depthAfter, Parser.openers, Parser.closers]

/-- An argument goes on at a comma in brackets of its own. -/
theorem depthAfter_comma (b : Char) (d : Nat) :
    depthAfter b d ',' = if d == 1 then none else some d := by
  simp [depthAfter, Parser.openers, Parser.closers]

section Others

variable (hopen : c ≠ '<') (hclose : c ≠ '>') (hcomma : c ≠ ',') (b : Char) (d : Nat)

include hopen hclose hcomma

/-- The depth after one of the other brackets, or a character that is no bracket. -/
theorem depthAfter_other :
    depthAfter b d c
      = some (if c == '(' || c == '[' || c == '\x7b' then d + 1
          else if c == ')' || c == ']' || c == '\x7d' then d - 1 else d) := by
  rw [apply_ite some, apply_ite some]
  simp [depthAfter, Parser.openers, Parser.closers, hopen, hclose, hcomma, or_assoc]

theorem argumentsFrom_other (current : Option (List Char)) (found : List String)
    (ms : List (Char × Bool)) :
    argumentsFrom ⟨d, b, current, found⟩ ((c, false) :: ms)
      = argumentsFrom ⟨if c == '(' || c == '[' || c == '\x7b' then d + 1
          else if c == ')' || c == ']' || c == '\x7d' then d - 1 else d,
          c, current.map (c :: ·), found⟩ ms := by
  rw [argumentsFrom]
  · split
    · rfl
    · split <;> rfl
  · exact hopen
  · exact hclose
  · exact hcomma

end Others

/-- A character that is not quoted and ends no argument is kept, if it does not open the list. -/
theorem argumentsFrom_of_depthAfter (h : depthAfter b d c = some d') {current : Option (List Char)}
    (hopen : c = '<' → d = 0 → current ≠ none) (found : List String)
    (ms : List (Char × Bool)) :
    argumentsFrom ⟨d, b, current, found⟩ ((c, false) :: ms)
      = argumentsFrom ⟨d', c, current.map (c :: ·), found⟩ ms := by
  by_cases hangle : c = '<'
  · subst hangle
    cases h
    rw [argumentsFrom]
    refine if_neg fun hfirst => ?_
    obtain ⟨hd, hnone⟩ := Bool.and_eq_true_iff.mp hfirst
    exact hopen rfl (eq_of_beq hd) (Option.isNone_iff_eq_none.mp hnone)
  by_cases hclose : c = '>'
  · subst hclose
    rw [depthAfter_close] at h
    rw [argumentsFrom]
    split at h
    · rename_i hc
      cases h
      exact if_pos hc
    rename_i hc
    rw [if_neg hc]
    split at h
    · cases h
    · rename_i hd
      cases h
      exact if_neg hd
  by_cases hcomma : c = ','
  · subst hcomma
    rw [depthAfter_comma] at h
    rw [argumentsFrom]
    split at h
    · cases h
    · rename_i hd
      cases h
      exact if_neg fun hc => hd (Bool.and_eq_true_iff.mp hc).1
  rw [depthAfter_other hangle hclose hcomma] at h
  rw [argumentsFrom_other hangle hclose hcomma, Option.some.inj h]

/-- **A character that ends no argument is kept**, if it does not open the list. -/
theorem argumentsFrom_of_read (h : n.read c = some m) {current : Option (List Char)}
    (hopen : n.quoting = .outside → c = '<' → n.depth = 0 → current ≠ none)
    (found : List String) (ms : List (Char × Bool)) :
    argumentsFrom ⟨n.depth, n.before, current, found⟩ ((c, n.quoting.covers c) :: ms)
      = argumentsFrom ⟨m.depth, m.before, current.map (c :: ·), found⟩ ms := by
  unfold read at h
  split at h
  · rename_i hc
    rw [← Option.some.inj h, hc]
    rfl
  · rename_i hc
    obtain ⟨depth, hd, rfl⟩ := Option.map_eq_some_iff.mp h
    rw [Bool.eq_false_iff.mpr hc]
    refine argumentsFrom_of_depthAfter hd (hopen ?_) found ms
    cases hq : n.quoting with
    | outside => rfl
    | inside quote escaped =>
      rw [hq] at hc
      exact absurd rfl hc

/-- **An argument is kept** as long as it goes on. -/
theorem argumentsFrom_of_readAll (h : n.readAll cs = some m) (kept : List Char)
    (found : List String) (more : List Char) :
    argumentsFrom ⟨n.depth, n.before, some kept, found⟩ (markFrom n.quoting (cs ++ more))
      = argumentsFrom ⟨m.depth, m.before, some (cs.reverse ++ kept), found⟩
          (markFrom m.quoting more) := by
  induction cs generalizing n kept with
  | nil =>
    rw [← Option.some.inj h]
    rfl
  | cons c cs ih =>
    obtain ⟨k, hk, h⟩ := Option.bind_eq_some_iff.mp h
    rw [List.cons_append, markFrom, argumentsFrom_of_read hk fun _ _ _ => Option.some_ne_none _,
      ← quoting_of_read hk, Option.map_some, ih h, List.reverse_cons, List.append_assoc]
    rfl

/-- Where a reader comes to the end of an argument before the end of a text. -/
theorem exists_of_readAll_eq_none (h : n.readAll cs = none) :
    ∃ before c after k, cs = before ++ c :: after ∧ n.readAll before = some k
      ∧ k.read c = none := by
  induction cs generalizing n with
  | nil => cases h
  | cons c cs ih =>
    cases hk : n.read c with
    | none => exact ⟨[], c, cs, n, rfl, rfl, hk⟩
    | some k =>
      rw [readAll_cons, hk] at h
      obtain ⟨before, c', after, k', rfl, hbefore, hc'⟩ := ih h
      refine ⟨c :: before, c', after, k', rfl, ?_, hc'⟩
      rw [readAll_cons, hk]
      exact hbefore

end Nesting

/-- **A text that is read through** as an argument: the reader comes to its end in no bracket
but that of the instance, and not in the middle of an arrow. -/
def ReadThrough (text : String) : Prop :=
  ∃ last, Nesting.readAll ⟨.outside, '<', 1⟩ text.toList = some ⟨.outside, last, 1⟩ ∧ last ≠ '='

end TypeTest.TypeText

import Mathlib.Data.List.Infix
import TypeTest.Proofs.TypeText.ArgumentList

/-!
# Splitting undoes joining

When does a list of arguments survive being written out? `arguments` keeps a single count for
brackets of all kinds, and it never starts over. What is left open in one argument would swallow
the next comma, and what is closed too often would end the list. If each argument, read by
itself, stays in its own brackets, nothing of it is seen from outside, and the list that was
joined is the list that is found.

Here the condition is told by counting (`ReadsAlone`): how many brackets more than it closes does
each beginning of the text open? The reader of arguments has the same number in its depth
(`foldlM_readInside_eq_some_iff`), so a text reads alone exactly if it is sealed.
-/

namespace TypeTest.TypeText

open Nesting

variable {cs list : List Char} {b c : Char}

/-! ## Counting brackets -/

/-- **What a character does to the number of open brackets.** The `>` of an arrow closes
nothing. -/
def bracketStep (before c : Char) : Int :=
  if ('<' :: Parser.openers).contains c then 1
  else if c = '>' ∧ before = '=' then 0
  else if ('>' :: Parser.closers).contains c then -1
  else 0

/-- What a character does to that number where it may be quoted. -/
def quotedStep (q : Quoting) (before c : Char) : Int :=
  if q.covers c then 0 else bracketStep before c

/-- `balance` from a place that is not the start of the text. -/
def balanceFrom (q : Quoting) (before : Char) : List Char → Int
  | [] => 0
  | c :: cs => quotedStep q before c + balanceFrom (q.next c) c cs

/-- **How many brackets more a text opens than it closes**, outside of quotes. -/
def balance (cs : List Char) : Int := balanceFrom .outside ' ' cs

/-- Where a reader is with respect to quotes after a text. -/
def quotingAfter (cs : List Char) : Quoting := cs.foldl Quoting.next .outside

theorem quotingAfter_concat (cs : List Char) (c : Char) :
    quotingAfter (cs ++ [c]) = (quotingAfter cs).next c :=
  List.foldl_concat _ _ _ _

theorem balanceFrom_concat (q : Quoting) (b : Char) (cs : List Char) (c : Char) :
    balanceFrom q b (cs ++ [c])
      = balanceFrom q b cs + quotedStep (cs.foldl Quoting.next q) (cs.getLastD b) c := by
  induction cs generalizing q b with
  | nil => exact Int.add_comm _ _
  | cons d ds ih =>
    rw [List.cons_append, balanceFrom, ih, balanceFrom, Int.add_assoc, List.foldl_cons,
      List.getLastD_cons]

theorem balance_concat (cs : List Char) (c : Char) :
    balance (cs ++ [c])
      = balance cs + quotedStep (quotingAfter cs) (cs.getLastD ' ') c :=
  balanceFrom_concat .outside ' ' cs c

/-- **A text that stays in the brackets it stands in**: no beginning of it closes more than it
opens, and each comma outside of quotes stands in brackets of its own. -/
structure StaysInside (cs : List Char) : Prop where
  nonneg : ∀ before, before <+: cs → 0 ≤ balance before
  comma : ∀ before, before ++ [','] <+: cs → quotingAfter before = .outside → 0 < balance before

/-- **A text that is an argument by itself**: it stays inside, all its brackets and quotes are
closed at its end, and it does not end as an arrow begins. -/
structure ReadsAlone (cs : List Char) : Prop extends StaysInside cs where
  balance_eq : balance cs = 0
  quotingAfter_eq : quotingAfter cs = .outside
  getLast?_ne : cs.getLast? ≠ some '='

theorem staysInside_nil : StaysInside [] where
  nonneg before h := by
    rw [List.prefix_nil.mp h]
    exact Int.le_refl 0
  comma before h := absurd (List.prefix_nil.mp h) (List.append_ne_nil_of_right_ne_nil _ (by decide))

theorem staysInside_concat :
    StaysInside (cs ++ [c]) ↔ StaysInside cs ∧ 0 ≤ balance (cs ++ [c])
      ∧ (quotingAfter cs = .outside → c = ',' → 0 < balance cs) := by
  constructor
  · intro h
    refine ⟨⟨fun before hb => ?_, fun before hb => ?_⟩, ?_, fun hq hc => ?_⟩
    · exact h.nonneg before (hb.trans (List.prefix_append cs [c]))
    · exact h.comma before (hb.trans (List.prefix_append cs [c]))
    · exact h.nonneg _ (List.prefix_refl _)
    · exact h.comma cs (hc ▸ List.prefix_refl _) hq
  · rintro ⟨h, hlast, hcomma⟩
    refine ⟨fun before hb => ?_, fun before hb hq => ?_⟩
    · rcases List.prefix_concat_iff.mp hb with rfl | hb
      · exact hlast
      · exact h.nonneg before hb
    · rcases List.prefix_concat_iff.mp hb with heq | hb
      · obtain ⟨rfl, hc⟩ := List.append_inj' heq rfl
        exact hcomma hq (List.singleton_inj.mp hc).symm
      · exact h.comma before hb hq

/-! ## The reader counts the same -/

/-- A character keeps the reader in brackets unless it closes the last one, or is a comma in no
other. -/
theorem depthAfter_inside_iff {d d' : Nat} (hd : 0 < d) :
    depthAfter b d c = some d' ∧ 0 < d'
      ↔ (d' : Int) = d + bracketStep b c ∧ 0 < d' ∧ (c = ',' → 1 < d) := by
  unfold depthAfter bracketStep Parser.openers Parser.closers
  simp only [List.contains_cons, List.contains_nil, Bool.or_false, Bool.or_eq_true, beq_iff_eq,
    Bool.and_eq_true]
  grind

/-- **Where the reader is after a character** that keeps it in brackets. -/
theorem Nesting.readInside_iff {n m : Nesting} (hn : 0 < n.depth) :
    n.readInside c = some m ↔
      m.quoting = n.quoting.next c ∧ m.before = c
        ∧ (m.depth : Int) = n.depth + quotedStep n.quoting n.before c ∧ 0 < m.depth
        ∧ (n.quoting = .outside → c = ',' → 1 < n.depth) := by
  obtain ⟨q, b, d⟩ := n
  obtain ⟨q', b', d'⟩ := m
  rw [readInside_eq_some_iff]
  unfold Nesting.read quotedStep
  dsimp only
  by_cases hc : q.covers c = true
  · have hcomma : q = .outside → c ≠ ',' := by
      rintro rfl rfl
      exact absurd hc (by decide)
    rw [if_pos hc, if_pos hc, Option.some.injEq, Nesting.mk.injEq]
    constructor
    · rintro ⟨⟨rfl, rfl, rfl⟩, hpos⟩
      exact ⟨rfl, rfl, (Int.add_zero _).symm, hpos, fun hq hc => absurd hc (hcomma hq)⟩
    · rintro ⟨rfl, rfl, hdepth, hpos, _⟩
      rw [Int.add_zero, Int.natCast_inj] at hdepth
      exact ⟨⟨rfl, rfl, hdepth.symm⟩, hpos⟩
  · rw [if_neg hc, if_neg hc]
    have hq : q = .outside := by
      cases q with
      | outside => rfl
      | inside quote escaped => exact absurd rfl hc
    subst hq
    have hnext : Quoting.next .outside c = .outside := if_neg hc
    rw [hnext]
    constructor
    · rintro ⟨h, hpos⟩
      obtain ⟨depth, hdepth, hm⟩ := Option.map_eq_some_iff.mp h
      cases hm
      obtain ⟨hstep, _, hcomma⟩ := (depthAfter_inside_iff hn).mp ⟨hdepth, hpos⟩
      exact ⟨rfl, rfl, hstep, hpos, fun _ => hcomma⟩
    · rintro ⟨rfl, rfl, hstep, hpos, hcomma⟩
      obtain ⟨hdepth, _⟩ := (depthAfter_inside_iff hn).mpr ⟨hstep, hpos, hcomma rfl⟩
      rw [hdepth]
      exact ⟨rfl, hpos⟩

/-- **What the reader has counted after a text.** -/
structure Nesting.Counts (n : Nesting) (cs : List Char) : Prop where
  quoting : n.quoting = quotingAfter cs
  before : n.before = cs.getLastD ' '
  depth : (n.depth : Int) = balance cs + 1

/-- Counting goes on with a character that leads to no negative balance, and is no comma outside
of brackets. -/
theorem Nesting.Counts.readInside_iff {k m : Nesting} (hk : k.Counts cs) (hcs : 0 ≤ balance cs) :
    k.readInside c = some m ↔
      m.Counts (cs ++ [c]) ∧ 0 ≤ balance (cs ++ [c])
        ∧ (quotingAfter cs = .outside → c = ',' → 0 < balance cs) := by
  have hdepth := hk.depth
  have hpos : 0 < k.depth := by omega
  rw [Nesting.readInside_iff hpos, hk.quoting, hk.before, balance_concat]
  constructor
  · rintro ⟨hquoting, hbefore, hstep, hm, hcomma⟩
    refine ⟨⟨?_, ?_, ?_⟩, by omega, fun hq hc => ?_⟩
    · rw [hquoting, quotingAfter_concat]
    · rw [hbefore, List.getLastD_concat]
    · rw [hstep, balance_concat]
      omega
    · have hdeep := hcomma hq hc
      omega
  · rintro ⟨⟨hquoting, hbefore, hm⟩, hlast, hcomma⟩
    rw [balance_concat] at hm
    refine ⟨?_, ?_, by omega, by omega, fun hq hc => ?_⟩
    · rw [hquoting, quotingAfter_concat]
    · rw [hbefore, List.getLastD_concat]
    · have hdeep := hcomma hq hc
      omega

/-- **The reader comes to the end of a text in brackets exactly if the text stays inside**, and
then it has counted what the text opens. -/
theorem foldlM_readInside_eq_some_iff {n : Nesting} :
    cs.foldlM readInside ⟨.outside, ' ', 1⟩ = some n ↔ StaysInside cs ∧ n.Counts cs := by
  induction cs using List.reverseRecOn generalizing n with
  | nil =>
    constructor
    · intro h
      cases h
      exact ⟨staysInside_nil, rfl, rfl, rfl⟩
    · rintro ⟨_, hquoting, hbefore, hdepth⟩
      obtain ⟨q, b, d⟩ := n
      cases hquoting
      cases hbefore
      cases Int.natCast_inj.mp hdepth
      rfl
  | append_singleton cs c ih =>
    have hone : ∀ k : Nesting, [c].foldlM readInside k = k.readInside c := fun k => bind_pure _
    rw [List.foldlM_append, staysInside_concat]
    constructor
    · intro h
      obtain ⟨k, hk, h⟩ := Option.bind_eq_some_iff.mp h
      rw [hone] at h
      obtain ⟨hcs, hcounts⟩ := ih.mp hk
      obtain ⟨hm, hlast⟩ := (hcounts.readInside_iff (hcs.nonneg cs List.prefix_rfl)).mp h
      exact ⟨⟨hcs, hlast⟩, hm⟩
    · rintro ⟨⟨hcs, hlast⟩, hm⟩
      have hnonneg := hcs.nonneg cs List.prefix_rfl
      obtain ⟨k, hk⟩ : ∃ k : Nesting, k.Counts cs := by
        refine ⟨⟨quotingAfter cs, cs.getLastD ' ', (balance cs + 1).toNat⟩, rfl, rfl, ?_⟩
        exact Int.toNat_of_nonneg (by omega)
      have hstep := (hk.readInside_iff hnonneg).mpr ⟨hm, hlast⟩
      rw [ih.mpr ⟨hcs, hk⟩, Option.bind_eq_bind, Option.bind_some, hone, hstep]

/-- **A text is an argument by itself exactly if it is sealed.** -/
theorem readsAlone_iff_sealed : ReadsAlone cs ↔ Sealed cs := by
  have hlast : cs.getLastD ' ' ≠ '=' ↔ cs.getLast? ≠ some '=' := by
    rw [List.getLastD_eq_getLast?]
    cases cs.getLast? with
    | none => decide
    | some c => simp
  constructor
  · intro h
    have hread := foldlM_readInside_eq_some_iff.mpr ⟨h.toStaysInside,
      (⟨rfl, rfl, by rw [h.balance_eq]; rfl⟩ : Nesting.Counts ⟨_, _, 1⟩ cs)⟩
    exact ⟨_, hread, h.quotingAfter_eq, rfl, hlast.mpr h.getLast?_ne⟩
  · rintro ⟨n, hread, hquoting, hdepth, hbefore⟩
    obtain ⟨hcs, hcounts⟩ := foldlM_readInside_eq_some_iff.mp hread
    refine ⟨hcs, ?_, ?_, ?_⟩
    · have hcount := hcounts.depth
      omega
    · rw [← hcounts.quoting, hquoting]
    · rw [hcounts.before] at hbefore
      exact hlast.mp hbefore

instance (cs : List Char) : Decidable (ReadsAlone cs) :=
  decidable_of_iff _ readsAlone_iff_sealed.symm

/-! ## Joined arguments -/

/-- A blank in front of a list does not matter. -/
theorem Nesting.Listed.blank {found : List String} (h : Listed list found) :
    Listed (' ' :: list) found := by
  have hblank : ∀ cs, readAll ⟨.outside, '<', 1⟩ (' ' :: cs) = readAll ⟨.outside, ' ', 1⟩ cs := by
    intro cs
    rw [readAll_cons, read_of_notMem (by decide), Option.bind_some]
  have hspace : ' ' ≠ '=' := by decide
  have htrim : ∀ cs, trim (' ' :: cs) = trim cs := by
    intro cs
    rw [trim, trimStart_cons, if_pos (by decide), trim]
  cases h with
  | last hread hlast =>
    obtain ⟨last', hread, hlast'⟩ := exists_readAll_of_ne (by decide) hspace hread
    rw [← htrim]
    exact .last ((hblank _).trans hread) (hlast' hlast)
  | @more cs rest last found hread hrest =>
    obtain ⟨last', hread, _⟩ := exists_readAll_of_ne (by decide) hspace hread
    rw [← htrim]
    exact .more ((hblank _).trans hread) hrest

/-- **Arguments that are joined make a list of them.** -/
theorem listed_intercalate {args : List String} (hne : args ≠ [])
    (hargs : ∀ a ∈ args, trim a.toList = a.toList ∧ Sealed a.toList) :
    Listed (", ".intercalate args).toList args := by
  induction args with
  | nil => exact absurd rfl hne
  | cons a args ih =>
    obtain ⟨⟨htrim, hsealed⟩, hargs⟩ := List.forall_mem_cons.mp hargs
    obtain ⟨last, hread, hlast⟩ := hsealed.readAll '<' 0
    have hname : String.ofList (trim a.toList) = a := by
      rw [htrim, String.ofList_toList]
    cases args with
    | nil =>
      rw [String.intercalate_singleton]
      have hdone : Listed a.toList [String.ofList (trim a.toList)] := by
        refine .last hread ?_
        rcases hlast with ⟨_, rfl⟩ | hlast
        · decide
        · exact hlast
      rwa [hname] at hdone
    | cons a' args =>
      have hjoin : (", ".intercalate (a :: a' :: args)).toList
          = a.toList ++ ',' :: ' ' :: (", ".intercalate (a' :: args)).toList := by
        rw [String.intercalate_cons_cons, String.toList_append, String.toList_append,
          List.append_assoc]
        rfl
      have hmore := Listed.more hread (ih (List.cons_ne_nil a' args) hargs).blank
      rwa [hname, ← hjoin] at hmore

/-- **Splitting undoes joining**: behind a head without marks the arguments that were joined are
found again, whole and in their order, if each of them reads alone and has no blanks around it. -/
theorem arguments_joined {head : String} {args : List String}
    (hhead : ∀ c ∈ head.toList, c ∉ marks) (hne : args ≠ [])
    (hargs : ∀ a ∈ args, trim a.toList = a.toList ∧ ReadsAlone a.toList) :
    arguments (head ++ "<" ++ ", ".intercalate args ++ ">") = args := by
  have hlisted := listed_intercalate hne fun a ha =>
    ⟨(hargs a ha).1, readsAlone_iff_sealed.mp (hargs a ha).2⟩
  exact arguments_of_listed (trim_instance _ _) (opensNoList_trimStart hhead) hlisted

/-- Commas, arrows and brackets within arguments and in quotes do no harm. -/
theorem arguments_joined_nested :
    (∀ c ∈ "a.Pair".toList, c ∉ marks)
      ∧ (∀ a ∈ ["Box<A, B[]>", "(x: T, y: \x7b\x7d) => U", "'it\\'s, >'", "\x60<$\x7b\x60"],
        trim a.toList = a.toList ∧ ReadsAlone a.toList)
      ∧ arguments ("a.Pair" ++ "<" ++ ", ".intercalate
          ["Box<A, B[]>", "(x: T, y: \x7b\x7d) => U", "'it\\'s, >'", "\x60<$\x7b\x60"] ++ ">")
        = ["Box<A, B[]>", "(x: T, y: \x7b\x7d) => U", "'it\\'s, >'", "\x60<$\x7b\x60"] := by
  have hmarks : "a.Pair".toList.all (· ∉ marks) = true := by decide
  have hhead : ∀ c ∈ "a.Pair".toList, c ∉ marks :=
    fun c hc => of_decide_eq_true (List.all_eq_true.mp hmarks c hc)
  have hargs : ∀ a ∈ ["Box<A, B[]>", "(x: T, y: \x7b\x7d) => U", "'it\\'s, >'", "\x60<$\x7b\x60"],
      trim a.toList = a.toList ∧ ReadsAlone a.toList := by decide +kernel
  exact ⟨hhead, hargs, arguments_joined hhead (List.cons_ne_nil _ _) hargs⟩

-- What ends as an arrow begins makes one with the closing bracket.
example : ¬ ReadsAlone "x =".toList ∧ arguments "F<x =>" = [] := by decide +kernel

end TypeTest.TypeText

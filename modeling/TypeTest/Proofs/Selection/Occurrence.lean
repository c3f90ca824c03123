import Mathlib.Data.Nat.Bitwise
import TypeTest.Pattern.Search

/-!
# Where expressions occur

The search for an expression never follows one way to match it. It sends sets of places to
sets of places, takes a turn of a repetition only while it adds a place, and bounds a repetition
without a bound by the length of the text. What an expression means is a relation between two
places of a text instead, given by recursion on the expression (`PatternExpr.Matches`), in which
a repetition is any number of turns. The search finds exactly the places that the relation leads
to (`PatternExpr.leads_reach`), so an expression occurs in a text if it matches somewhere in it
(`PatternExpr.occursIn_iff`).

Only a repetition without a bound needs an argument. A match never goes back, so a turn that goes
nowhere can be left out, and of the others there are no more than the text has characters
(`Turns.exists_le`).
-/

namespace TypeTest

/-! ## Turns -/

/-- **So many turns** of a relation between places, one after the other. -/
def Turns (R : Nat → Nat → Prop) : Nat → Nat → Nat → Prop
  | 0, i, j => i = j
  | n + 1, i, k => ∃ j, R i j ∧ Turns R n j k

section Turns

variable {R : Nat → Nat → Prop} {n i j : Nat}

@[simp] theorem turns_zero : Turns R 0 i j ↔ i = j := Iff.rfl

theorem turns_one : Turns R 1 i j ↔ R i j :=
  ⟨fun ⟨_, h, he⟩ => he ▸ h, fun h => ⟨j, h, rfl⟩⟩

/-- Turns and more turns are turns. -/
theorem turns_add {m k : Nat} : Turns R (m + n) i k ↔ ∃ j, Turns R m i j ∧ Turns R n j k := by
  induction m generalizing i with
  | zero =>
    rw [Nat.zero_add]
    exact ⟨fun h => ⟨i, rfl, h⟩, fun ⟨_, he, h⟩ => he ▸ h⟩
  | succ m ih =>
    rw [Nat.add_right_comm]
    constructor
    · rintro ⟨l, hl, h⟩
      obtain ⟨j, hm, hn⟩ := ih.mp h
      exact ⟨j, ⟨l, hl, hm⟩, hn⟩
    · rintro ⟨j, ⟨l, hl, hm⟩, hn⟩
      exact ⟨l, hl, ih.mpr ⟨j, hm, hn⟩⟩

/-- What every turn keeps, all of them keep. -/
theorem Turns.keeps {P : Nat → Nat → Prop} (hrefl : ∀ i, P i i)
    (hstep : ∀ i j k, R i j → P j k → P i k) (h : Turns R n i j) : P i j := by
  induction n generalizing i with
  | zero => exact h ▸ hrefl i
  | succ n ih =>
    obtain ⟨k, hk, h⟩ := h
    exact hstep i k j hk (ih h)

/-- **Turns that go nowhere can be left out**, if none goes back. -/
theorem Turns.exists_le (hR : ∀ i j, R i j → i ≤ j) (h : Turns R n i j) :
    ∃ m ≤ j - i, Turns R m i j := by
  induction n generalizing i with
  | zero => exact ⟨0, Nat.zero_le _, h⟩
  | succ n ih =>
    obtain ⟨k, hk, h⟩ := h
    have hkj : k ≤ j := h.keeps Nat.le_refl fun _ _ _ h h' => Nat.le_trans (hR _ _ h) h'
    obtain ⟨m, hm, hturns⟩ := ih h
    rcases Nat.lt_or_eq_of_le (hR i k hk) with hlt | rfl
    · exact ⟨m + 1, by omega, k, hk, hturns⟩
    · exact ⟨m, hm, hturns⟩

end Turns

/-! ## What expressions match -/

/-- **An expression matches** what stands in a text between two places. -/
def PatternExpr.Matches (text : List Char) : PatternExpr → Nat → Nat → Prop
  | .empty, i, j => i = j
  | .one s, i, j => text[i]?.any s.has = true ∧ j = i + 1
  | .here a, i, j =>
    i = j ∧ i ≤ text.length ∧ a.holds (if i = 0 then none else text[i - 1]?) text[i]? = true
  | .seq e f, i, k => ∃ j, e.Matches text i j ∧ f.Matches text j k
  | .alt e f, i, j => e.Matches text i j ∨ f.Matches text i j
  | .rep e least most, i, j =>
    ∃ n, least ≤ n ∧ (∀ m ∈ most, n ≤ max least m) ∧ Turns (e.Matches text) n i j

/-- **A match never goes back**, and not beyond the end of the text. -/
theorem PatternExpr.Matches.le {text : List Char} {e : PatternExpr} {i j : Nat}
    (h : e.Matches text i j) : i ≤ j ∧ j ≤ max i text.length := by
  induction e generalizing i j with
  | empty =>
    obtain rfl := h
    omega
  | one s =>
    obtain ⟨hs, rfl⟩ := h
    obtain ⟨c, hc, _⟩ := (Option.any_eq_true _ _).mp hs
    have hi := (List.getElem?_eq_some_iff.mp hc).1
    omega
  | here a =>
    obtain ⟨rfl, _, _⟩ := h
    omega
  | seq e f ihe ihf =>
    obtain ⟨k, he, hf⟩ := h
    have h₁ := ihe he
    have h₂ := ihf hf
    omega
  | alt e f ihe ihf => exact h.elim ihe ihf
  | rep e least most ih =>
    obtain ⟨n, _, _, hturns⟩ := h
    refine hturns.keeps (P := fun i j => i ≤ j ∧ j ≤ max i text.length) ?_ ?_
    · exact fun i => ⟨Nat.le_refl i, Nat.le_max_left i _⟩
    · intro i j k hij hjk
      have := ih hij
      omega

/-! ## Sets of places -/

namespace Places

/-- **A step on sets of places leads along a relation**: to the places that the relation leads to
from a place of the set. -/
def Leads (step : Places → Places) (R : Nat → Nat → Prop) : Prop :=
  ∀ s j, (step s).testBit j = true ↔ ∃ i, s.testBit i = true ∧ R i j

variable {step step' : Places → Places} {R R' : Nat → Nat → Prop} {s : Places}

theorem Leads.seq (h : Leads step R) (h' : Leads step' R') :
    Leads (fun s => step' (step s)) fun i k => ∃ j, R i j ∧ R' j k := by
  intro s k
  rw [h']
  constructor
  · rintro ⟨j, hj, hk⟩
    obtain ⟨i, hi, hij⟩ := (h s j).mp hj
    exact ⟨i, hi, j, hij, hk⟩
  · rintro ⟨i, hi, j, hij, hk⟩
    exact ⟨j, (h s j).mpr ⟨i, hi, hij⟩, hk⟩

theorem Leads.alt (h : Leads step R) (h' : Leads step' R') :
    Leads (fun s => step s ||| step' s) fun i j => R i j ∨ R' i j := by
  intro s j
  rw [Nat.testBit_or, Bool.or_eq_true, h, h']
  constructor
  · rintro (⟨i, hi, hij⟩ | ⟨i, hi, hij⟩)
    · exact ⟨i, hi, .inl hij⟩
    · exact ⟨i, hi, .inr hij⟩
  · rintro ⟨i, hi, hij | hij⟩
    · exact .inl ⟨i, hi, hij⟩
    · exact .inr ⟨i, hi, hij⟩

/-- A step that changes nothing may be left out of all turns. -/
theorem iterate_succ (step : Places → Places) (n : Nat) (s : Places) :
    iterate step (n + 1) s = iterate step n (step s) := by
  rw [iterate]
  by_cases h : step s = s
  · rw [if_pos h, h]
    cases n with
    | zero => rfl
    | succ n => rw [iterate, if_pos h]
  · rw [if_neg h]

theorem spread_succ (step : Places → Places) (n : Nat) (s : Places) :
    spread step (n + 1) s = spread step n (s ||| step s) := by
  rw [spread]
  by_cases h : s ||| step s = s
  · rw [if_pos h, h]
    cases n with
    | zero => rfl
    | succ n => rw [spread, if_pos h]
  · rw [if_neg h]

/-- **A step taken so many times** leads along so many turns. -/
theorem Leads.iterate (h : Leads step R) (n : Nat) : Leads (iterate step n) (Turns R n) := by
  induction n with
  | zero =>
    intro s j
    exact ⟨fun hj => ⟨j, hj, rfl⟩, fun ⟨_, hi, he⟩ => he ▸ hi⟩
  | succ n ih =>
    intro s j
    rw [iterate_succ]
    exact h.seq ih s j

/-- **A step taken at most so many times** leads along as many turns or fewer. -/
theorem Leads.spread (h : Leads step R) (n : Nat) :
    Leads (spread step n) fun i j => ∃ m ≤ n, Turns R m i j := by
  induction n with
  | zero =>
    intro s j
    constructor
    · exact fun hj => ⟨j, hj, 0, Nat.le_refl 0, rfl⟩
    · rintro ⟨i, hi, m, hm, hturns⟩
      obtain rfl := Nat.le_zero.mp hm
      exact turns_zero.mp hturns ▸ hi
  | succ n ih =>
    intro s j
    rw [spread_succ, ih]
    constructor
    · rintro ⟨i, hi, m, hm, hturns⟩
      rw [Nat.testBit_or, Bool.or_eq_true, h] at hi
      rcases hi with hi | ⟨k, hk, hki⟩
      · exact ⟨i, hi, m, Nat.le_succ_of_le hm, hturns⟩
      · exact ⟨k, hk, m + 1, Nat.succ_le_succ hm, i, hki, hturns⟩
    · rintro ⟨i, hi, m, hm, hturns⟩
      cases m with
      | zero => exact ⟨i, by rw [Nat.testBit_or, hi, Bool.true_or], 0, Nat.zero_le n, hturns⟩
      | succ m =>
        obtain ⟨k, hik, hturns⟩ := hturns
        refine ⟨k, ?_, m, Nat.le_of_succ_le_succ hm, hturns⟩
        rw [Nat.testBit_or, (h s k).mpr ⟨i, hi, hik⟩, Bool.or_true]

/-- The places where an anchor holds are those of the text between the right neighbours. -/
theorem testBit_anchored (a : Anchor) (prev : Option Char) (cs : List Char) (i : Nat) :
    (anchored a prev cs).testBit i = true
      ↔ i ≤ cs.length ∧ a.holds (if i = 0 then prev else cs[i - 1]?) cs[i]? = true := by
  induction cs generalizing prev i with
  | nil =>
    cases i with
    | zero => cases h : a.holds prev none <;> simp [anchored, h]
    | succ i => cases h : a.holds prev none <;> simp [anchored, h, Nat.testBit_succ]
  | cons c cs ih =>
    cases i with
    | zero => cases h : a.holds prev (some c) <;> simp [anchored, h]
    | succ i =>
      have hhalf : ∀ b : Bool, (b.toNat + 2 * anchored a (some c) cs) / 2
          = anchored a (some c) cs := by
        intro b
        cases b <;> simp only [Bool.toNat_false, Bool.toNat_true] <;> omega
      rw [anchored, Nat.testBit_succ, hhalf, ih]
      cases i <;> simp

end Places

/-! ## The search -/

namespace PatternExpr

open Places

/-- **The search leads exactly along what an expression matches.** -/
theorem leads_reach (text : List Char) (e : PatternExpr) :
    Leads (e.reach text) (e.Matches text) := by
  induction e with
  | empty =>
    intro s j
    exact ⟨fun hj => ⟨j, hj, rfl⟩, fun ⟨_, hi, he⟩ => he ▸ hi⟩
  | one set =>
    intro s j
    rw [reach_one, Nat.testBit_shiftLeft, Nat.testBit_and, testBit_before]
    simp only [Bool.and_eq_true, decide_eq_true_eq]
    constructor
    · rintro ⟨hj, hi, hset⟩
      exact ⟨j - 1, hi, hset, by omega⟩
    · rintro ⟨i, hi, hset, rfl⟩
      exact ⟨Nat.le_add_left 1 i, hi, hset⟩
  | here a =>
    intro s j
    rw [reach_here, Nat.testBit_and, Bool.and_eq_true, testBit_anchored]
    exact ⟨fun ⟨hj, ha⟩ => ⟨j, hj, rfl, ha⟩, fun ⟨_, hi, he, ha⟩ => he ▸ ⟨hi, ha⟩⟩
  | seq e f ihe ihf => exact ihe.seq ihf
  | alt e f ihe ihf => exact ihe.alt ihf
  | rep e least most ih =>
    intro s j
    rw [reach_rep, (ih.iterate least).seq (ih.spread _) s j]
    refine exists_congr fun i => and_congr_right fun _ => ?_
    constructor
    · rintro ⟨k, hleast, m, hm, hmore⟩
      refine ⟨least + m, Nat.le_add_right _ _, ?_, turns_add.mpr ⟨k, hleast, hmore⟩⟩
      rintro bound rfl
      rw [Option.elim_some] at hm
      omega
    · rintro ⟨n, hn, hbound, hturns⟩
      obtain ⟨more, rfl⟩ := Nat.exists_eq_add_of_le hn
      obtain ⟨k, hleast, hmore⟩ := turns_add.mp hturns
      refine ⟨k, hleast, ?_⟩
      cases most with
      | some bound =>
        have := hbound bound rfl
        exact ⟨more, by rw [Option.elim_some]; omega, hmore⟩
      | none =>
        -- turns that take no character can be left out, and no others are beyond the text
        obtain ⟨m, hm, hfew⟩ := hmore.exists_le fun _ _ h => h.le.1
        have hkj : j ≤ max k text.length := by
          refine (hmore.keeps (P := fun k j => k ≤ j ∧ j ≤ max k text.length)
            (fun i => ⟨Nat.le_refl i, Nat.le_max_left i _⟩) fun i j k hij hjk => ?_).2
          have := hij.le
          omega
        exact ⟨m, by rw [Option.elim_none]; omega, hfew⟩

/-- **An expression occurs in a text if it matches somewhere in it.** -/
theorem occursIn_iff {e : PatternExpr} {text : String} :
    e.occursIn text = true
      ↔ ∃ i j, i ≤ text.toList.length ∧ e.Matches text.toList i j := by
  have hall : ∀ n i, (upTo n).testBit i = true ↔ i ≤ n := by
    intro n i
    rw [show upTo n = 2 ^ (n + 1) - 1 from rfl, Nat.testBit_two_pow_sub_one, decide_eq_true_iff,
      Nat.lt_succ_iff]
  unfold occursIn
  rw [bne_iff_ne]
  constructor
  · intro hne
    obtain ⟨j, hj⟩ := Nat.exists_testBit_of_ne_zero hne
    obtain ⟨i, hi, hm⟩ := (leads_reach _ e _ j).mp hj
    exact ⟨i, j, (hall _ i).mp hi, hm⟩
  · rintro ⟨i, j, hi, hm⟩ hzero
    have hj := (leads_reach _ e _ j).mpr ⟨i, (hall _ i).mpr hi, hm⟩
    rw [hzero, Nat.zero_testBit] at hj
    cases hj

end PatternExpr

end TypeTest

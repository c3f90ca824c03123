import Mathlib.Data.List.Nodup
import TypeTest.Diagnostic

/-!
# The standard order of diagnostics

The standard order is a linear order on diagnostics, being lexicographic in linear orders
on all their fields. So sorting brings equal diagnostics next to each other, where
`dropRepeats` sees them: what a session shows is sorted and has no member twice.

A list without repetitions in a linear order is determined by its members
(`Increasing.ext`). So `sortUnique` forgets everything about a list but its members, and
needs not be applied twice.
-/

namespace TypeTest

namespace Diagnostic

/-- The standard order is lexicographic. -/
theorem compare_eq : compare =
    compareLex (compareOn file) (compareLex (compareOn start) (compareLex (compareOn length)
      (compareLex (compareOn code) (compareLex (compareOn message)
        (compareOn fun d : Diagnostic => d.severity.rank))))) := rfl

instance : Std.TransCmp compare := by
  rw [compare_eq]
  infer_instance

/-- **Only equal diagnostics are equal in the order.** -/
theorem eq_of_compare {a b : Diagnostic} (h : compare a b = .eq) : a = b := by
  simp only [compare, Ordering.then_eq_eq, Std.compare_eq_iff_eq] at h
  obtain ⟨hf, hs, hl, hc, hm, hr⟩ := h
  have hr := Severity.rank_injective hr
  cases a
  cases b
  simp_all

theorem le_trans {a b c : Diagnostic} (hab : le a b = true) (hbc : le b c = true) :
    le a c = true :=
  Std.TransCmp.isLE_trans hab hbc

theorem le_total (a b : Diagnostic) : (le a b || le b a) = true := by
  have hs : compare b a = (compare a b).swap := Std.OrientedCmp.eq_swap
  unfold le
  rw [hs]
  cases compare a b <;> rfl

theorem le_antisymm {a b : Diagnostic} (hab : le a b = true) (hba : le b a = true) : a = b :=
  eq_of_compare (Std.OrientedCmp.isLE_antisymm hab hba)

/-- **Sorted diagnostics without repetitions have no member twice.** -/
theorem nodup_dropRepeats {ds : List Diagnostic} (h : ds.Pairwise fun a b => le a b = true) :
    (dropRepeats ds).Nodup := by
  fun_induction dropRepeats ds with
  | case1 => exact List.nodup_nil
  | case2 d => exact List.nodup_singleton d
  | case3 e ds ih => exact ih h.of_cons
  | case4 d e ds hne ih =>
    refine List.nodup_cons.mpr ⟨fun hd => hne ?_, ih h.of_cons⟩
    -- were `d` among those after it, `e` would stand between `d` and `d`
    rw [mem_dropRepeats] at hd
    rcases List.mem_cons.mp hd with rfl | hd
    · rfl
    · have hde := (List.pairwise_cons.mp h).1 e List.mem_cons_self
      have hed := (List.pairwise_cons.mp h.of_cons).1 d hd
      exact le_antisymm hde hed

/-- **What a session shows has no member twice.** -/
theorem nodup_sortUnique (ds : List Diagnostic) : (sortUnique ds).Nodup :=
  nodup_dropRepeats (@List.pairwise_mergeSort Diagnostic le (fun _ _ _ => le_trans) le_total ds)

/-! ## One list for each set of diagnostics -/

/-- **Diagnostics in the standard order, each once.** -/
def Increasing (ds : List Diagnostic) : Prop := ds.Pairwise fun a b => compare a b = .lt

theorem Increasing.nodup {ds : List Diagnostic} (h : Increasing ds) : ds.Nodup :=
  h.imp fun {a b} hab he => by
    have hself : compare b b = .eq := Std.ReflCmp.compare_self
    rw [he, hself] at hab
    cases hab

theorem dropRepeats_sublist (ds : List Diagnostic) : (dropRepeats ds).Sublist ds := by
  fun_induction dropRepeats ds with
  | case1 => exact .slnil
  | case2 d => exact List.Sublist.refl _
  | case3 e ds ih => exact ih.cons e
  | case4 d e ds _ ih => exact ih.cons_cons d

/-- **What a session shows is in the standard order, each once.** -/
theorem increasing_sortUnique (ds : List Diagnostic) : Increasing (sortUnique ds) := by
  have hle : (sortUnique ds).Pairwise fun a b => le a b = true :=
    (@List.pairwise_mergeSort Diagnostic le (fun _ _ _ => le_trans) le_total ds).sublist
      (dropRepeats_sublist _)
  refine (hle.and (nodup_sortUnique ds)).imp fun {a b} ⟨hab, hne⟩ => ?_
  cases hc : compare a b with
  | lt => rfl
  | eq => exact absurd (eq_of_compare hc) hne
  | gt =>
    rw [le, hc] at hab
    cases hab

/-- **Diagnostics in the standard order, each once, are determined by which they are.** -/
theorem Increasing.ext {ds es : List Diagnostic} (hd : Increasing ds) (he : Increasing es)
    (h : ∀ d, d ∈ ds ↔ d ∈ es) : ds = es := by
  have hperm : ds.Perm es := (List.perm_ext_iff_of_nodup hd.nodup he.nodup).mpr h
  refine hperm.eq_of_pairwise (fun a b _ _ hab hba => ?_) hd he
  exact le_antisymm (congrArg Ordering.isLE hab) (congrArg Ordering.isLE hba)

/-- **What a session shows is the one increasing list of the given diagnostics.** -/
theorem eq_sortUnique_iff {ds es : List Diagnostic} :
    es = sortUnique ds ↔ Increasing es ∧ ∀ d, d ∈ es ↔ d ∈ ds := by
  constructor
  · rintro rfl
    exact ⟨increasing_sortUnique ds, fun d => mem_sortUnique d ds⟩
  · rintro ⟨hes, h⟩
    exact hes.ext (increasing_sortUnique ds) fun d => (h d).trans (mem_sortUnique d ds).symm

end Diagnostic

end TypeTest

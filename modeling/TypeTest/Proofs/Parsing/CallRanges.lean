import Mathlib.Data.List.Nodup
import TypeTest.Proofs.Parsing.PlacedTree

/-!
# No two calls stand at the same place

Calls nest through their callees and arguments, and a call starts where its callee does:
`f(a)(b)` is two calls with one start. Ranges still tell them apart. A call goes on after
its callee, its other parts start after the callee, and nodes side by side do not
overlap; so in a placed tree the ranges of the calls are distinct. The ranges of their
callees are distinct for the same reasons, and both are cases of a **place** in each call
that no call below it has.
-/

namespace TypeTest

namespace Node

/-- **The calls of a tree**, each before those below it. -/
def calls (n : Node) : List Node := n.descendants.filter (·.shape.isCall)

/-- The calls of a tree are its root, if that is one, and those below it. -/
theorem calls_eq (n : Node) :
    n.calls = [n].filter (·.shape.isCall) ++ n.children.flatMap calls := by
  rw [calls, descendants_eq, ← List.singleton_append, List.filter_append, List.filter_flatMap]
  rfl

theorem mem_descendants_of_mem_calls {m n : Node} (h : m ∈ n.calls) : m ∈ n.descendants :=
  (List.mem_filter.mp h).1

/-- A node that looks like a call is one. -/
theorem exists_form_of_isCall {n : Node} (h : n.shape.isCall = true) :
    ∃ f types args, n.form = .call f types args := by
  unfold shape at h
  cases hf : n.form with
  | call f types args => exact ⟨f, types, args, rfl⟩
  | _ =>
    rw [hf] at h
    cases h

variable {ts : List Token}

/-- What stands in a row stands between its ends. -/
theorem Row.between {lo hi : Nat} {ns : List Node} {n : Node} (h : Row lo ns hi)
    (hp : ∀ m ∈ ns, m.Placed ts) (hn : n ∈ ns) : lo ≤ n.range.start ∧ n.range.stop ≤ hi := by
  induction ns generalizing lo with
  | nil => exact absurd hn List.not_mem_nil
  | cons m ns ih =>
    obtain ⟨h₁, h₂, h₃⟩ := h
    rcases List.mem_cons.mp hn with rfl | hn
    · exact ⟨h₁, h₂⟩
    · have hm := (hp m List.mem_cons_self).fits.nonempty
      obtain ⟨h₄, h₅⟩ := ih h₃ (fun k hk => hp k (List.mem_cons_of_mem _ hk)) hn
      exact ⟨by omega, h₅⟩

/-- **Nodes below a placed node stand inside of it.** -/
theorem Placed.within (n : Node) (h : n.Placed ts) :
    ∀ m ∈ n.descendants, n.range.start ≤ m.range.start ∧ m.range.stop ≤ n.range.stop := by
  induction n using descendants.induct with
  | _ n ih =>
    intro m hm
    rw [descendants_eq] at hm
    rcases List.mem_cons.mp hm with rfl | hm
    · exact ⟨Nat.le_refl _, Nat.le_refl _⟩
    · obtain ⟨c, hc, hm⟩ := List.mem_flatMap.mp hm
      obtain ⟨h₁, h₂⟩ := h.fits.row.between (fun k hk => h.of_mem_children hk) hc
      obtain ⟨h₃, h₄⟩ := ih ⟨c, hc⟩ (h.of_mem_children hc) m hm
      exact ⟨Nat.le_trans h₁ h₃, Nat.le_trans h₄ h₂⟩

/-- **The parts of a placed call** stand in a row, the callee first, and are placed. -/
theorem Placed.row_of_form {n f : Node} {types args : List Node} (h : n.Placed ts)
    (hf : n.form = .call f types args) :
    n.children = f :: (types ++ args) ∧ Row n.range.start (f :: (types ++ args)) n.range.stop ∧
      ∀ k ∈ f :: (types ++ args), k.Placed ts := by
  have hc : n.children = f :: (types ++ args) := by
    rw [children, hf]
    rfl
  refine ⟨hc, hc ▸ h.fits.row, fun k hk => h.of_mem_children ?_⟩
  rw [hc]
  exact hk

/-- **A node below a call** stands in the callee or starts after it. -/
theorem Placed.in_callee_or_after {n f c m : Node} {types args : List Node} (h : n.Placed ts)
    (hf : n.form = .call f types args) (hc : c ∈ n.children) (hm : m ∈ c.descendants) :
    m.range.stop ≤ f.range.stop ∨ f.range.start < m.range.start := by
  obtain ⟨h₁, h₂⟩ := (h.of_mem_children hc).within c m hm
  obtain ⟨hchildren, hrow, hplaced⟩ := h.row_of_form hf
  rw [hchildren] at hc
  rcases List.mem_cons.mp hc with rfl | hc
  · exact .inl h₂
  · have hpos := (hplaced f List.mem_cons_self).fits.nonempty
    have hlater := hrow.2.2.between (fun k hk => hplaced k (List.mem_cons_of_mem _ hk)) hc
    exact .inr (by omega)

/-! ## Places that tell calls apart -/

/-- **The range of the callee** of a call. -/
def calleeRange (n : Node) : TextRange :=
  match n.form with
  | .call callee _ _ => callee.range
  | _ => n.range

theorem calleeRange_of_form {n f : Node} {types args : List Node}
    (h : n.form = .call f types args) : n.calleeRange = f.range := by
  unfold calleeRange
  rw [h]

/-- **A place in each call** that is never the place in a call below it. -/
structure Separates (ts : List Token) (place : Node → TextRange) : Prop where
  /-- The place covers some text of the call. -/
  inside : ∀ {n : Node}, n.Placed ts → n.shape.isCall = true →
    n.range.start ≤ (place n).start ∧ (place n).start < (place n).stop ∧
      (place n).stop ≤ n.range.stop
  below : ∀ {n m c : Node}, n.Placed ts → n.shape.isCall = true → c ∈ n.children →
    m ∈ c.calls → place n ≠ place m

/-- What lies below a placed node is placed. -/
theorem Placed.of_mem_descendants {n m : Node} (h : n.Placed ts) (hm : m ∈ n.descendants) :
    m.Placed ts := by
  induction n using descendants.induct with
  | _ n ih =>
    rw [descendants_eq] at hm
    rcases List.mem_cons.mp hm with rfl | hm
    · exact h
    · obtain ⟨c, hc, hm⟩ := List.mem_flatMap.mp hm
      exact ih ⟨c, hc⟩ (h.of_mem_children hc) hm

/-- **A call has another range than the calls below it**: those in its callee stop
earlier, the others start later. -/
theorem separates_range : Separates ts range where
  inside h _ := ⟨Nat.le_refl _, h.fits.nonempty, Nat.le_refl _⟩
  below {n m c} h hn hc hm he := by
    obtain ⟨f, types, args, hf⟩ := exists_form_of_isCall hn
    have hstart := (h.row_of_form hf).2.1.1
    have hcallee := h.fits.callee f types args hf
    have := h.in_callee_or_after hf hc (mem_descendants_of_mem_calls hm)
    rw [he] at hstart hcallee
    omega

/-- **A call has another callee than the calls below it**: the callees of those in its callee
stop earlier, those of the others start later. -/
theorem separates_calleeRange : Separates ts calleeRange where
  inside {n} h hn := by
    obtain ⟨f, types, args, hf⟩ := exists_form_of_isCall hn
    obtain ⟨_, hrow, hplaced⟩ := h.row_of_form hf
    rw [calleeRange_of_form hf]
    exact ⟨hrow.1, (hplaced f List.mem_cons_self).fits.nonempty, hrow.2.1⟩
  below {n m c} h hn hc hm he := by
    obtain ⟨f, types, args, hf⟩ := exists_form_of_isCall hn
    obtain ⟨hmc, hcall⟩ := List.mem_filter.mp hm
    obtain ⟨g, types', args', hg⟩ := exists_form_of_isCall hcall
    have hmp := (h.of_mem_children hc).of_mem_descendants hmc
    have hstart := (hmp.row_of_form hg).2.1.1
    have hcallee := hmp.fits.callee g types' args' hg
    have := h.in_callee_or_after hf hc hmc
    rw [calleeRange_of_form hf, calleeRange_of_form hg] at he
    rw [he] at this
    omega

section Separates

variable {place : Node → TextRange} (hs : Separates ts place)

include hs

/-- Calls of nodes in a row have distinct places if those of each node have. -/
theorem Row.nodup_places {lo hi : Nat} {ns : List Node} (h : Row lo ns hi)
    (hp : ∀ n ∈ ns, n.Placed ts) (hd : ∀ n ∈ ns, (n.calls.map place).Nodup) :
    ((ns.flatMap calls).map place).Nodup := by
  induction ns generalizing lo with
  | nil => exact List.nodup_nil
  | cons n ns ih =>
    rw [List.flatMap_cons, List.map_append, List.nodup_append]
    have hp' : ∀ m ∈ ns, m.Placed ts := fun m hm => hp m (List.mem_cons_of_mem _ hm)
    refine ⟨hd n List.mem_cons_self,
      ih h.2.2 hp' (fun m hm => hd m (List.mem_cons_of_mem _ hm)), fun r hr s hs' he => ?_⟩
    -- a call of the first node stops before any call of the others starts
    obtain ⟨m, hm, rfl⟩ := List.mem_map.mp hr
    obtain ⟨k, hk, rfl⟩ := List.mem_map.mp hs'
    obtain ⟨c, hc, hk⟩ := List.mem_flatMap.mp hk
    obtain ⟨hm, hcallm⟩ := List.mem_filter.mp hm
    obtain ⟨hk, hcallk⟩ := List.mem_filter.mp hk
    have hn := hp n List.mem_cons_self
    have h₁ := (hn.within n m hm).2
    have h₂ := (h.2.2.between hp' hc).1
    have h₃ := ((hp' c hc).within c k hk).1
    have h₄ := hs.inside (hn.of_mem_descendants hm) hcallm
    have h₅ := hs.inside ((hp' c hc).of_mem_descendants hk) hcallk
    rw [he] at h₄
    omega

/-- The calls of a placed tree have distinct places. -/
theorem Placed.nodup_places (n : Node) (h : n.Placed ts) : (n.calls.map place).Nodup := by
  induction n using descendants.induct with
  | _ n ih =>
    rw [calls_eq, List.map_append, List.nodup_append]
    refine ⟨?_, ?_, fun r hr s hs' => ?_⟩
    · exact List.Nodup.sublist (List.filter_sublist.map _) (List.nodup_singleton (place n))
    · exact h.fits.row.nodup_places hs (fun c hc => h.of_mem_children hc)
        (fun c hc => ih ⟨c, hc⟩ (h.of_mem_children hc))
    · obtain ⟨m, hm, rfl⟩ := List.mem_map.mp hr
      obtain ⟨hm, hcall⟩ := List.mem_filter.mp hm
      obtain rfl := List.mem_singleton.mp hm
      obtain ⟨k, hk, rfl⟩ := List.mem_map.mp hs'
      obtain ⟨c, hc, hk⟩ := List.mem_flatMap.mp hk
      exact hs.below h hcall hc hk

end Separates

/-- Calls of nodes in a row have distinct ranges if those of each node have. -/
theorem Row.nodup_ranges {lo hi : Nat} {ns : List Node} (h : Row lo ns hi)
    (hp : ∀ n ∈ ns, n.Placed ts) (hd : ∀ n ∈ ns, (n.calls.map range).Nodup) :
    ((ns.flatMap calls).map range).Nodup :=
  h.nodup_places separates_range hp hd

/-- **The calls of a placed tree have distinct ranges.** -/
theorem Placed.nodup_ranges (n : Node) (h : n.Placed ts) : (n.calls.map range).Nodup :=
  h.nodup_places separates_range

end Node

/-- **The calls of a parsed text fit** among its tokens. -/
theorem exists_fits_of_parseTree {text : String} {root : Node} (h : parseTree text = .ok root) :
    ∃ ts, tokenize text = .ok ts ∧ ∀ n ∈ root.calls, n.Fits ts := by
  obtain ⟨ts, htokens, statements, _, _, rfl, _, hp, _⟩ := exists_placed_of_parseTree h
  refine ⟨ts, htokens, fun n hn => ?_⟩
  rw [Node.calls_eq] at hn
  obtain ⟨statement, hstatement, hn⟩ := List.mem_flatMap.mp hn
  exact hp statement hstatement n (Node.mem_descendants_of_mem_calls hn)

/-- The calls of a parsed text have distinct places, whatever place tells them apart. -/
theorem nodup_places_of_parseTree {text : String} {root : Node} {place : Node → TextRange}
    (hs : ∀ ts, Node.Separates ts place) (h : parseTree text = .ok root) :
    (root.calls.map place).Nodup := by
  obtain ⟨ts, _, statements, stop, index, rfl, hrow, hp, _⟩ := exists_placed_of_parseTree h
  rw [Node.calls_eq]
  exact hrow.nodup_places (hs ts) hp (fun n hn => (hp n hn).nodup_places (hs ts))

/-- **The calls of a parsed text have distinct ranges.** -/
theorem nodup_ranges_of_parseTree {text : String} {root : Node} (h : parseTree text = .ok root) :
    (root.calls.map Node.range).Nodup :=
  nodup_places_of_parseTree (fun _ => Node.separates_range) h

end TypeTest

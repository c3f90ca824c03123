import Mathlib.Data.List.Pairwise
import Mathlib.Data.List.Perm.Basic
import Mathlib.Logic.Relation
import TypeTest.Proofs.Parsing.CallRanges
import TypeTest.Proofs.Parsing.Spelling

/-!
# A parsed script is a tree in its text

What a script is parsed to is a tree in two senses. As nodes that were stored one by one
it is a tree because a node is stored after its parts and becomes part of one node at
most: the nodes that are reachable from the root have different indices, and all of them
but the root are parts of one reachable node (`Node.perm_descendants`). As ranges of a
text it is a tree because parts lie inside of their node and beside each other, on
boundaries between characters. `Node.TreeIn` states both.

That nodes were stored which are part of nothing, and that indices are used again after
the parser took back what it tried, is no matter: the first leave gaps, and the second
happens to nodes that nothing refers to.
-/

namespace TypeTest

namespace Node

/-! ## Reachable nodes -/

/-- **A node is reached** from another by going to parts. -/
def Reaches : Node → Node → Prop := Relation.ReflTransGen fun n c => c ∈ n.children

/-- What lies below a node that lies below another lies below that one. -/
theorem mem_descendants_trans {k m : Node} (hk : k ∈ m.descendants) (n : Node)
    (hm : m ∈ n.descendants) : k ∈ n.descendants := by
  induction n using descendants.induct with
  | _ n ih =>
    rw [descendants_eq] at hm ⊢
    rcases List.mem_cons.mp hm with rfl | hm
    · rwa [descendants_eq] at hk
    · obtain ⟨c, hc, hm⟩ := List.mem_flatMap.mp hm
      exact List.mem_cons_of_mem _ (List.mem_flatMap.mpr ⟨c, hc, ih ⟨c, hc⟩ hm⟩)

theorem mem_descendants_of_mem_children {c n : Node} (h : c ∈ n.children) :
    c ∈ n.descendants := by
  rw [descendants_eq]
  exact List.mem_cons_of_mem _ (List.mem_flatMap.mpr ⟨c, h, c.mem_descendants_self⟩)

/-- **The nodes listed are those that are reached.** -/
theorem mem_descendants_iff {m n : Node} : m ∈ n.descendants ↔ n.Reaches m := by
  constructor
  · intro h
    induction n using descendants.induct with
    | _ n ih =>
      rw [descendants_eq] at h
      rcases List.mem_cons.mp h with rfl | h
      · exact .refl
      · obtain ⟨c, hc, h⟩ := List.mem_flatMap.mp h
        exact .head hc (ih ⟨c, hc⟩ h)
  · intro h
    induction h with
    | refl => exact n.mem_descendants_self
    | tail _ hc ih => exact mem_descendants_trans (mem_descendants_of_mem_children hc) n ih

/-- **Every node that is reached is the root or a part of one that is reached**, and the
nodes listed are the root and the parts of the nodes listed, as often as they occur. -/
theorem perm_descendants (n : Node) :
    n.descendants.Perm (n :: n.descendants.flatMap children) := by
  induction n using descendants.induct with
  | _ n ih =>
    rw [descendants_eq]
    refine .cons n ?_
    have hparts : (n.children.flatMap descendants).Perm
        (n.children.flatMap fun c => c :: c.descendants.flatMap children) :=
      List.Perm.flatMap_left _ fun c hc => ih ⟨c, hc⟩
    refine hparts.trans ?_
    rw [List.flatMap_cons, List.flatMap_assoc]
    have hsplit := List.map_append_flatMap_perm n.children id
      fun c => c.descendants.flatMap children
    rw [List.map_id] at hsplit
    exact hsplit.symm

/-- **No node has two parents** if the nodes listed have different indices. -/
theorem eq_of_index_eq {n m k c d : Node} (h : (n.descendants.map index).Nodup)
    (hm : m ∈ n.descendants) (hk : k ∈ n.descendants) (hc : c ∈ m.children)
    (hd : d ∈ k.children) (he : c.index = d.index) : m = k := by
  have hparts : ((n.descendants.flatMap children).map index).Nodup := by
    have hperm := (perm_descendants n).map index
    rw [List.map_cons] at hperm
    exact (List.nodup_cons.mp (hperm.nodup_iff.mp h)).2
  rw [List.map_flatMap, List.nodup_flatMap] at hparts
  by_contra hne
  have : Std.Symm (Function.onFun List.Disjoint fun a : Node => a.children.map index) :=
    ⟨fun _ _ h _ ha hb => h hb ha⟩
  have hdisjoint := hparts.2.forall hm hk hne
  exact hdisjoint (List.mem_map_of_mem hc) (he ▸ List.mem_map_of_mem hd)

/-! ## Ranges of a placed tree -/

variable {ts : List Token}

/-- Nodes in a row stand beside each other, each before the ones after it. -/
theorem Row.pairwise {lo hi : Nat} {ns : List Node} (h : Row lo ns hi)
    (hp : ∀ n ∈ ns, n.Placed ts) : ns.Pairwise fun c d => c.range.stop ≤ d.range.start := by
  induction ns generalizing lo with
  | nil => exact .nil
  | cons n ns ih =>
    obtain ⟨_, _, h⟩ := h
    have hp' : ∀ m ∈ ns, m.Placed ts := fun m hm => hp m (List.mem_cons_of_mem _ hm)
    exact List.pairwise_cons.mpr ⟨fun d hd => (h.between hp' hd).1, ih h hp'⟩

/-- Below nodes in a row, nodes are listed in the order in which they start, if they are
below each node. -/
theorem Row.starts_le {lo hi : Nat} {ns : List Node} (h : Row lo ns hi)
    (hp : ∀ n ∈ ns, n.Placed ts)
    (hs : ∀ n ∈ ns, n.descendants.Pairwise fun a b => a.range.start ≤ b.range.start) :
    (ns.flatMap descendants).Pairwise fun a b => a.range.start ≤ b.range.start := by
  rw [List.pairwise_flatMap]
  refine ⟨hs, (h.pairwise hp).imp_of_mem fun {c d} hc hd hcd a ha b hb => ?_⟩
  have hpos := (hp c hc a ha).nonempty
  have h₁ := ((hp c hc).within c a ha).2
  have h₂ := ((hp d hd).within d b hb).1
  omega

/-- **Nodes are listed in the order in which they start.** -/
theorem Placed.starts_le (n : Node) (h : n.Placed ts) :
    n.descendants.Pairwise fun a b => a.range.start ≤ b.range.start := by
  induction n using descendants.induct with
  | _ n ih =>
    have hparts := h.fits.row.starts_le (fun c hc => h.of_mem_children hc)
      (fun c hc => ih ⟨c, hc⟩ (h.of_mem_children hc))
    have hwithin := h.within n
    rw [descendants_eq] at hwithin ⊢
    exact List.pairwise_cons.mpr
      ⟨fun m hm => (hwithin m (List.mem_cons_of_mem _ hm)).1, hparts⟩

/-! ## The whole tree -/

/-- **A tree in a text.** -/
structure TreeIn (text : String) (root : Node) : Prop where
  /-- The nodes listed are those reached from the root. -/
  reached : ∀ n, n ∈ root.descendants ↔ root.Reaches n
  /-- Each is listed once. -/
  once : (root.descendants.map index).Nodup
  /-- A part was stored before the node it is part of. -/
  index_lt : ∀ n ∈ root.descendants, ∀ c ∈ n.children, c.index < n.index
  /-- No node is part of two. -/
  parent : ∀ m ∈ root.descendants, ∀ n ∈ root.descendants, ∀ c ∈ m.children, ∀ d ∈ n.children,
    c.index = d.index → m.index = n.index
  /-- Nodes cover slices of the text, -/
  slice : ∀ n ∈ root.descendants, n.range.SliceOf text.toList
  /-- all of them but the root some characters of it. -/
  nonempty : ∀ n ∈ root.descendants, n.index ≠ root.index → 0 < n.range.length
  /-- Parts lie inside of their node -/
  inside : ∀ n ∈ root.descendants, ∀ c ∈ n.children,
    n.range.start ≤ c.range.start ∧ c.range.stop ≤ n.range.stop
  /-- and beside each other, in order. -/
  beside : ∀ n ∈ root.descendants, n.children.Pairwise fun c d => c.range.stop ≤ d.range.start
  /-- Nodes are listed in the order in which they start. -/
  starts_le : root.descendants.Pairwise fun a b => a.range.start ≤ b.range.start
  /-- No two calls have the same range. -/
  calls : (root.calls.map range).Nodup

namespace TreeIn

variable {text : String} {root : Node} (h : root.TreeIn text)

include h

/-- What lies below a node covers a part of what the node covers. -/
theorem within {n m : Node} (hn : n ∈ root.descendants) (hm : m ∈ n.descendants) :
    n.range.start ≤ m.range.start ∧ m.range.stop ≤ n.range.stop := by
  induction n using descendants.induct with
  | _ n ih =>
    rw [descendants_eq] at hm
    rcases List.mem_cons.mp hm with rfl | hm
    · exact ⟨Nat.le_refl _, Nat.le_refl _⟩
    · obtain ⟨c, hc, hm⟩ := List.mem_flatMap.mp hm
      have hroot := mem_descendants_trans (mem_descendants_of_mem_children hc) root hn
      have hin := h.inside n hn c hc
      have hbelow := ih ⟨c, hc⟩ hroot hm
      exact ⟨Nat.le_trans hin.1 hbelow.1, Nat.le_trans hbelow.2 hin.2⟩

/-- **Of two nodes the one that is listed first lies before the other or around it.** -/
theorem before_or_around {n : Node} (hn : n ∈ root.descendants) :
    n.descendants.Pairwise fun a b => a.range.stop ≤ b.range.start
      ∨ a.range.start ≤ b.range.start ∧ b.range.stop ≤ a.range.stop := by
  induction n using descendants.induct with
  | _ n ih =>
    have hparts : ∀ c ∈ n.children, c ∈ root.descendants := fun c hc =>
      mem_descendants_trans (mem_descendants_of_mem_children hc) root hn
    have hself : ∀ m ∈ n.descendants, _ := fun m hm => h.within hn hm
    rw [descendants_eq] at hself ⊢
    refine List.pairwise_cons.mpr ⟨fun m hm => .inr (hself m (List.mem_cons_of_mem _ hm)), ?_⟩
    rw [List.pairwise_flatMap]
    refine ⟨fun c hc => ih ⟨c, hc⟩ (hparts c hc),
      (h.beside n hn).imp_of_mem fun {c d} hc hd hcd a ha b hb => .inl ?_⟩
    have ha := (h.within (hparts c hc) ha).2
    have hb := (h.within (hparts d hd) hb).1
    omega

end TreeIn

/-- A placed node covers a slice of the text that its tokens stand in. -/
theorem Fits.sliceOf {n : Node} {cs : List Char} (h : n.Fits ts)
    (hts : ∀ t ∈ ts, t.StandsIn 0 cs) : n.range.SliceOf cs := by
  obtain ⟨t, ht, hstart⟩ := h.starts
  obtain ⟨u, hu, hstop⟩ := h.stops
  have hboundary := (hts u hu).isBoundary.2
  rw [hstop] at hboundary
  exact ⟨hstart ▸ (hts t ht).isBoundary.1, hboundary, hboundary.le⟩

/-- Nodes in a row end where the last of them does. -/
theorem Row.of_stop_le {lo hi hi' : Nat} {ns : List Node} (h : Row lo ns hi)
    (hs : ∀ n ∈ ns, n.range.stop ≤ hi') : Row lo ns hi' := by
  induction ns generalizing lo with
  | nil => trivial
  | cons n ns ih =>
    obtain ⟨hn, hns⟩ := List.forall_mem_cons.mp hs
    exact ⟨h.1, hn, ih h.2.2 hns⟩

/-- **A node over placed nodes in a row, which covers the whole text, is a tree in the
text.** -/
theorem treeIn_of_row {text : String} {ns : List Node} {form : Form Node} {index : Nat}
    (hform : form.children = ns) (hcall : form.shape.isCall = false)
    (hstands : ∀ t ∈ ts, t.StandsIn 0 text.toList)
    (hrow : Row 0 ns (byteLength text.toList)) (hp : ∀ n ∈ ns, n.Placed ts)
    (hn : Numbered 0 ns index) :
    (mk form ⟨0, byteLength text.toList⟩ index).TreeIn text := by
  subst hform
  generalize hroot : mk form ⟨0, byteLength text.toList⟩ index = root
  have hchildren : root.children = form.children := by rw [← hroot, children_mk]
  have hrange : root.range = ⟨0, byteLength text.toList⟩ := by rw [← hroot, range_mk]
  -- a node of the tree is the root, or placed
  have hcases : ∀ n ∈ root.descendants, n = root ∨ n.Placed ts := by
    intro n hmem
    rw [descendants_eq, hchildren] at hmem
    refine (List.mem_cons.mp hmem).imp id fun hmem => ?_
    obtain ⟨c, hc, hmem⟩ := List.mem_flatMap.mp hmem
    exact fun m hm => hp c hc m (mem_descendants_trans hm c hmem)
  have hparts : ∀ n ∈ root.descendants,
      Row n.range.start n.children n.range.stop ∧ ∀ c ∈ n.children, c.Placed ts := by
    intro n hmem
    rcases hcases n hmem with rfl | hplaced
    · rw [hchildren, hrange, TextRange.stop, Nat.zero_add]
      exact ⟨hrow, hp⟩
    · exact ⟨hplaced.fits.row, fun c hc => hplaced.of_mem_children hc⟩
  have hnumbered : Numbered 0 [root] (index + 1) := hroot ▸ hn.node (Nat.zero_le _) _
  obtain ⟨_, honce, hbelow⟩ := hnumbered
  rw [List.flatMap_singleton] at honce hbelow
  exact
    { reached := fun n => mem_descendants_iff
      once := honce
      index_lt := hbelow
      parent := fun m hm n hn c hc d hd he =>
        congrArg Node.index (eq_of_index_eq honce hm hn hc hd he)
      slice := by
        intro n hmem
        rcases hcases n hmem with rfl | hplaced
        · rw [hrange]
          refine ⟨isBoundary_zero _, ?_, Nat.le_of_eq (Nat.zero_add _)⟩
          rw [TextRange.stop, Nat.zero_add]
          exact isBoundary_byteLength _
        · exact hplaced.fits.sliceOf hstands
      nonempty := by
        intro n hmem hne
        have hplaced := (hcases n hmem).resolve_left fun he => hne (congrArg Node.index he)
        have hpos := hplaced.fits.nonempty
        unfold TextRange.stop at hpos
        omega
      inside := fun n hmem c hc => (hparts n hmem).1.between (hparts n hmem).2 hc
      beside := fun n hmem => (hparts n hmem).1.pairwise (hparts n hmem).2
      starts_le := by
        obtain ⟨hrow, hp⟩ := hparts root root.mem_descendants_self
        rw [descendants_eq, List.pairwise_cons]
        refine ⟨fun m _ => ?_, hrow.starts_le hp fun n hn => (hp n hn).starts_le⟩
        rw [hrange]
        exact Nat.zero_le _
      calls := by
        obtain ⟨hrow, hp⟩ := hparts root root.mem_descendants_self
        have hself : [root].filter (·.shape.isCall) = [] := by
          rw [← hroot]
          exact List.filter_cons_of_neg (by rw [shape, form_mk, hcall]; exact Bool.false_ne_true)
        rw [calls_eq, hself, List.nil_append]
        exact hrow.nodup_ranges hp fun n hn => (hp n hn).nodup_ranges }

end Node

/-- **What a text is parsed to is a tree in it.** -/
theorem treeIn_of_parseTree {text : String} {root : Node} (h : parseTree text = .ok root) :
    root.TreeIn text := by
  obtain ⟨ts, htokens, statements, stop, index, rfl, hrow, hp, hn⟩ := exists_placed_of_parseTree h
  have hstands := standsIn_tokenize htokens
  refine Node.treeIn_of_row rfl rfl hstands (hrow.of_stop_le fun s hs => ?_) hp hn
  exact ((hp s hs).fits.sliceOf hstands).stop.le

/-- **A parsed script is a tree in its text**: its nodes are stored as a tree, and their
ranges are slices of the text that nest and follow each other as the nodes do. -/
theorem ScriptFile.treeIn_of_parse (name text : String) (file : ScriptFile)
    (h : ScriptFile.parse name text = .ok file) : file.root.TreeIn text := by
  cases hroot : parseTree text with
  | error fault => cases (parse_of_error hroot).symm.trans h
  | ok root =>
    cases (parse_of_ok hroot).symm.trans h
    exact treeIn_of_parseTree hroot

/-- A call of a call, types that are part of nothing, and a list of type arguments that is
taken back. -/
theorem ScriptFile.treeIn_nested :
    ∃ file, ScriptFile.parse "a.ts" "f<A>(x as B)(); 1 < g" = .ok file
      ∧ file.root.TreeIn "f<A>(x as B)(); 1 < g" := by
  have hsome : (ScriptFile.parse "a.ts" "f<A>(x as B)(); 1 < g").toOption.isSome = true := by
    decide +kernel
  cases hparse : ScriptFile.parse "a.ts" "f<A>(x as B)(); 1 < g" with
  | error e =>
    rw [hparse] at hsome
    cases hsome
  | ok file => exact ⟨file, rfl, treeIn_of_parse _ _ file hparse⟩

end TypeTest

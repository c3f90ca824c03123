import TypeTest.Proofs.Isolation.AlikeTrees

/-!
# A statement that is inserted into a block

`Node.IsInserted block place n n'` says that `n'` is `n` with a statement inserted: into the
block at the path `block`, before what stood at `place` in it. All else is alike up to the
places in the text. The relation is a recursion on the path, so whether it holds of given
trees can be computed.

Nodes that are related so, or alike, are **near** each other (`Node.Near`). Their forms are
of the same kind, with the same names and values and with parts that are near each other
(`Near.form`); only of the blocks themselves, which differ in a part, nothing is said. In
preorder an insertion is what it is in the text (`IsInserted.exists_descendants`): all nodes
of the statement stand together, those before are near those that were there, those after are
alike. And the statements behind the new one are found at the next place of the block
(`IsInserted.exists_at?`).
-/

namespace TypeTest

/-- A list is cut at any of its members. -/
theorem eq_take_append_cons_drop {α : Type} {l : List α} {i : Nat} {a : α} (h : l[i]? = some a) :
    l = l.take i ++ a :: l.drop (i + 1) := by
  obtain ⟨hi, rfl⟩ := List.getElem?_eq_some_iff.mp h
  rw [← List.drop_eq_getElem_cons hi, List.take_append_drop]

/-- **Forms that an insertion leaves near each other**: alike, with parts that compare by
`N`, or both of a block. -/
inductive Form.Near (N : Node → Node → Prop) : Form Node → Form Node → Prop where
  | like {form form' : Form Node} : Form.Like N Eq form form' → Near N form form'
  | block {ns ms : List Node} : Near N (.block ns) (.block ms)

namespace Node

variable {n n' : Node} {block : List Nat} {place : Nat}

/-- Whether a node is a block. -/
def isBlock (n : Node) : Bool :=
  match n.form with
  | .block _ => true
  | _ => false

theorem exists_form_of_isBlock (h : n.isBlock) : ∃ ns, n.form = .block ns := by
  unfold isBlock at h
  split at h
  · exact ⟨_, ‹_›⟩
  · cases h

/-- **`n'` is `n` with a statement inserted** into the block at a path, at a place among the
statements of the block. -/
def IsInserted : List Nat → Nat → Node → Node → Prop
  | [], place, n, n' => n.isBlock ∧ n'.isBlock ∧ place < n'.children.length
      ∧ List.Forall₂ Alike n.children (n'.children.eraseIdx place)
  | i :: block, place, n, n' => n.form.label = n'.form.label
      ∧ List.Forall₂ Alike (n.children.eraseIdx i) (n'.children.eraseIdx i)
      ∧ ∃ c ∈ n.children[i]?, ∃ c' ∈ n'.children[i]?, IsInserted block place c c'

/-- Whether a statement is inserted is decided along the path to the block. -/
instance decidableIsInserted : ∀ (block : List Nat) (place : Nat) (n n' : Node),
    Decidable (IsInserted block place n n')
  | [], _, _, _ => inferInstanceAs (Decidable (_ ∧ _ ∧ _ ∧ _))
  | i :: block, place, n, n' =>
    have := decidableIsInserted block place
    inferInstanceAs (Decidable (_ ∧ _ ∧ ∃ c ∈ n.children[i]?, ∃ c' ∈ n'.children[i]?, _))

/-- What comes before the node at a path in the order of the text: the nodes around it and
those in the parts before it. -/
def before : List Nat → Node → List Node
  | [], _ => []
  | i :: path, n =>
    n :: (n.children.take i).flatMap descendants ++ (n.children[i]?).elim [] (before path)

/-- **Nodes that are alike up to an inserted statement**, in the first or in the second. -/
def Near (n n' : Node) : Prop := n.Alike n' ∨ ∃ block place, IsInserted block place n n'

theorem near_of_alike (h : n.Alike n') : n.Near n' := .inl h

theorem near_refl (n : Node) : n.Near n := .inl n.alike_refl

theorem IsInserted.near (h : IsInserted block place n n') : n.Near n' := .inr ⟨block, place, h⟩

theorem near_of_forall₂_alike {ns ms : List Node} (h : List.Forall₂ Alike ns ms) :
    List.Forall₂ Near ns ms :=
  h.imp fun _ _ => near_of_alike

/-- What an insertion below a node leaves of its parts: those before and after the one that
the path leads to are alike. -/
theorem IsInserted.exists_parts {i : Nat} (h : IsInserted (i :: block) place n n') :
    ∃ c c', n.children = n.children.take i ++ c :: n.children.drop (i + 1)
      ∧ n'.children = n'.children.take i ++ c' :: n'.children.drop (i + 1)
      ∧ n.children[i]? = some c ∧ n'.children[i]? = some c'
      ∧ List.Forall₂ Alike (n.children.take i) (n'.children.take i)
      ∧ List.Forall₂ Alike (n.children.drop (i + 1)) (n'.children.drop (i + 1))
      ∧ IsInserted block place c c' := by
  obtain ⟨_, hc, c, hi, c', hi', hcc⟩ := h
  obtain ⟨hbefore, hafter⟩ := forall₂_of_eraseIdx hc (List.getElem?_eq_some_iff.mp hi).1
    (List.getElem?_eq_some_iff.mp hi').1
  exact ⟨c, c', eq_take_append_cons_drop hi, eq_take_append_cons_drop hi', hi, hi', hbefore,
    hafter, hcc⟩

/-- The parts of a node that is not the block itself are near each other. -/
theorem IsInserted.forall₂_children {i : Nat} (h : IsInserted (i :: block) place n n') :
    List.Forall₂ Near n.children n'.children := by
  obtain ⟨c, c', hn, hn', _, _, hbefore, hafter, hcc⟩ := h.exists_parts
  rw [hn, hn']
  exact List.rel_append (near_of_forall₂_alike hbefore)
    (.cons hcc.near (near_of_forall₂_alike hafter))

/-- The statements of a block into which one is inserted. -/
theorem IsInserted.exists_statements (h : IsInserted [] place n n') :
    ∃ added, n'.children = n'.children.take place ++ added :: n'.children.drop (place + 1)
      ∧ n'.children[place]? = some added
      ∧ List.Forall₂ Alike (n.children.take place) (n'.children.take place)
      ∧ List.Forall₂ Alike (n.children.drop place) (n'.children.drop (place + 1)) := by
  obtain ⟨_, _, hplace, hc⟩ := h
  have hi : n'.children[place]? = some n'.children[place] := List.getElem?_eq_getElem hplace
  have hlen := hc.length_eq
  rw [List.length_eraseIdx_of_lt hplace] at hlen
  rw [← List.take_append_drop place n.children, List.eraseIdx_eq_take_drop_succ] at hc
  obtain ⟨hbefore, hafter⟩ := (forall₂_append_iff (by
    rw [List.length_take_of_le (by omega), List.length_take_of_le (by omega)])).mp hc
  exact ⟨_, eq_take_append_cons_drop hi, hi, hbefore, hafter⟩

/-- **Nodes that are near each other have forms that are.** -/
theorem Near.form (h : n.Near n') : Form.Near Near n.form n'.form := by
  obtain h | ⟨block, place, h⟩ := h
  · exact .like (h.form.imp fun _ _ => near_of_alike)
  · cases block with
    | nil =>
      obtain ⟨ns, hn⟩ := exists_form_of_isBlock h.1
      obtain ⟨ms, hn'⟩ := exists_form_of_isBlock h.2.1
      rw [hn, hn']
      exact .block
    | cons i block => exact .like (Form.like_of_label_eq h.1 h.forall₂_children)

/-- **What is inserted stands in one place of the order of the text.** The nodes before it
are near those that were there, and the nodes after it are alike. -/
theorem IsInserted.exists_descendants (h : IsInserted block place n n') :
    ∃ added earlier later later', n'.at? (block ++ [place]) = some added
      ∧ n.descendants = earlier ++ later
      ∧ n'.descendants = n'.before (block ++ [place]) ++ added.descendants ++ later'
      ∧ List.Forall₂ Near earlier (n'.before (block ++ [place]))
      ∧ List.Forall₂ Alike later later' := by
  have hbelow : ∀ {ns ms : List Node}, List.Forall₂ Alike ns ms →
      List.Forall₂ Alike (ns.flatMap descendants) (ms.flatMap descendants) :=
    fun hns => List.rel_flatMap hns fun _ _ hnm => hnm.forall₂_descendants
  induction block generalizing n n' with
  | nil =>
    obtain ⟨added, hn', hi, hbefore, hafter⟩ := h.exists_statements
    have hfirst : n'.before [place] = n' :: (n'.children.take place).flatMap descendants := by
      rw [before, hi, Option.elim_some, before, List.append_nil]
    refine ⟨added, n :: (n.children.take place).flatMap descendants,
      (n.children.drop place).flatMap descendants,
      (n'.children.drop (place + 1)).flatMap descendants, ?_, ?_, ?_, ?_, hbelow hafter⟩
    · rw [List.nil_append, at?, hi]
      rfl
    · rw [descendants_eq, List.cons_append, ← List.flatMap_append, List.take_append_drop]
    · rw [List.nil_append, hfirst, descendants_eq]
      conv_lhs => rw [hn']
      simp only [List.flatMap_append, List.flatMap_cons, List.cons_append, List.append_assoc]
    · rw [List.nil_append, hfirst]
      exact .cons h.near (near_of_forall₂_alike (hbelow hbefore))
  | cons i block ih =>
    obtain ⟨c, c', hn, hn', _, hi', hbefore, hafter, hcc⟩ := h.exists_parts
    obtain ⟨added, earlier, later, later', ha, hd, hd', hearlier, hlater⟩ := ih hcc
    have hfirst : n'.before (i :: block ++ [place])
        = n' :: (n'.children.take i).flatMap descendants ++ c'.before (block ++ [place]) := by
      rw [List.cons_append, before, hi', Option.elim_some]
    refine ⟨added, n :: (n.children.take i).flatMap descendants ++ earlier,
      later ++ (n.children.drop (i + 1)).flatMap descendants,
      later' ++ (n'.children.drop (i + 1)).flatMap descendants, ?_, ?_, ?_, ?_,
      List.rel_append hlater (hbelow hafter)⟩
    · rw [List.cons_append, at?, hi']
      exact ha
    · rw [descendants_eq]
      conv_lhs => rw [hn]
      simp only [List.flatMap_append, List.flatMap_cons, hd, List.cons_append, List.append_assoc]
    · rw [hfirst, descendants_eq]
      conv_lhs => rw [hn']
      simp only [List.flatMap_append, List.flatMap_cons, hd', List.cons_append, List.append_assoc]
    · rw [hfirst]
      exact List.rel_append (.cons h.near (near_of_forall₂_alike (hbelow hbefore))) hearlier

/-- **What stands behind the inserted statement** in the block moves on by one place, and is
alike. -/
theorem IsInserted.exists_at? (h : IsInserted block place n n') {j : Nat} (hj : place ≤ j)
    {rest : List Nat} {t : Node} (ht : n.at? (block ++ j :: rest) = some t) :
    ∃ t', n'.at? (block ++ (j + 1) :: rest) = some t' ∧ t.Alike t' := by
  induction block generalizing n n' with
  | nil =>
    have hi := rel_getElem? h.2.2.2 j
    rw [List.getElem?_eraseIdx_of_ge hj] at hi
    have hr := rel_bind hi fun _ _ hab => hab.rel_at? rest
    rw [List.nil_append, at?] at ht
    rw [ht] at hr
    generalize ho : (n'.children[j + 1]?).bind (at? rest) = o at hr
    cases hr with
    | some htt => exact ⟨_, ho, htt⟩
  | cons i block ih =>
    obtain ⟨c, c', _, _, hi, hi', _, _, hcc⟩ := h.exists_parts
    rw [List.cons_append, at?, hi] at ht
    rw [List.cons_append, at?, hi']
    exact ih hcc ht

end Node

end TypeTest

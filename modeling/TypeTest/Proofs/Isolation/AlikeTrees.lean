import TypeTest.Proofs.Parsing.Likeness

/-!
# Trees that are alike up to their places

Two nodes are **alike** (`Node.Alike`) if they head the same trees but for the places in
the text. Whether two given nodes are can be computed. The **label** of a node is its form
without the parts, of which it keeps the number; so a list of labels can be read as the
labels of a tree in preorder in at most one way (`alike_of_labels_append`), and nodes are
alike exactly if they have the same labels below them.

A node of a tree is told by its **path**, the numbers of the parts that lead to it. In
trees that are alike the same paths lead to nodes that are alike.
-/

namespace TypeTest

/-! ## Lists and options of parts -/

section Parts

variable {α β : Type} {R : α → β → Prop}

/-- Lists that are cut at the same place compare exactly if their pieces do. -/
theorem forall₂_append_iff {as₁ as₂ : List α} {bs₁ bs₂ : List β}
    (h : as₁.length = bs₁.length) :
    List.Forall₂ R (as₁ ++ as₂) (bs₁ ++ bs₂)
      ↔ List.Forall₂ R as₁ bs₁ ∧ List.Forall₂ R as₂ bs₂ := by
  refine ⟨fun hr => ⟨?_, ?_⟩, fun ⟨h₁, h₂⟩ => List.rel_append h₁ h₂⟩
  · have := List.forall₂_take as₁.length hr
    rwa [List.take_left, h, List.take_left] at this
  · have := List.forall₂_drop as₁.length hr
    rwa [List.drop_left, h, List.drop_left] at this

/-- Options compare as the lists that they are. -/
theorem forall₂_toList_iff {o : Option α} {p : Option β} :
    List.Forall₂ R o.toList p.toList ↔ Option.Rel R o p := by
  cases o <;> cases p
  · exact ⟨fun _ => .none, fun _ => .nil⟩
  · exact ⟨nofun, nofun⟩
  · exact ⟨nofun, nofun⟩
  · exact ⟨fun h => .some (List.forall₂_cons.mp h).1, fun | .some h => .cons h .nil⟩

/-- At the same place of lists that compare stand members that do, or none. -/
theorem rel_getElem? {as : List α} {bs : List β} (h : List.Forall₂ R as bs) (i : Nat) :
    Option.Rel R as[i]? bs[i]? := by
  induction h generalizing i with
  | nil => exact .none
  | cons hab _ ih =>
    cases i with
    | zero => exact .some hab
    | succ i => exact ih i

/-- What is first in lists that compare to pass tests that agree compares. -/
theorem rel_find? {f : α → Bool} {g : β → Bool} {as : List α} {bs : List β}
    (h : List.Forall₂ R as bs) (hfg : ∀ a b, R a b → f a = g b) :
    Option.Rel R (as.find? f) (bs.find? g) := by
  induction h with
  | nil => exact .none
  | cons hab _ ih =>
    rw [List.find?_cons, List.find?_cons, hfg _ _ hab]
    split
    · exact .some hab
    · exact ih

/-- What is found with the help of members that compare does so as well. -/
theorem rel_bind {γ δ : Type} {S : γ → δ → Prop} {o : Option α} {p : Option β}
    {f : α → Option γ} {g : β → Option δ} (h : Option.Rel R o p)
    (hfg : ∀ a b, R a b → Option.Rel S (f a) (g b)) : Option.Rel S (o.bind f) (p.bind g) := by
  cases h with
  | none => exact .none
  | some hab => exact hfg _ _ hab

/-- Lists that compare without their members at a place do so before and after it. -/
theorem forall₂_of_eraseIdx {as : List α} {bs : List β} {i : Nat}
    (h : List.Forall₂ R (as.eraseIdx i) (bs.eraseIdx i)) (ha : i < as.length)
    (hb : i < bs.length) :
    List.Forall₂ R (as.take i) (bs.take i)
      ∧ List.Forall₂ R (as.drop (i + 1)) (bs.drop (i + 1)) := by
  rw [List.eraseIdx_eq_take_drop_succ, List.eraseIdx_eq_take_drop_succ] at h
  refine (forall₂_append_iff ?_).mp h
  rw [List.length_take_of_le (Nat.le_of_lt ha), List.length_take_of_le (Nat.le_of_lt hb)]

end Parts

/-! ## Labels -/

namespace Form

variable {α β : Type} {N : α → β → Prop} {form : Form α} {form' : Form β}

/-- **A form without its parts**, which are still counted. -/
def label (form : Form α) : Form Unit := form.map fun _ => ()

theorem length_children_of_label_eq (h : form.label = form'.label) :
    form.children.length = form'.children.length := by
  have hc := congrArg (fun f : Form Unit => f.children.length) h
  simpa only [label, children_map, List.length_map] using hc

/-- Nothing is left of parts but their number. -/
theorem map_unit_eq_iff {as : List α} {bs : List β} :
    (as.map fun _ => ()) = bs.map (fun _ => ()) ↔ as.length = bs.length := by
  simp

/-- An option that lost its part is still known to be there or not. -/
theorem length_toList_eq_of_map_unit {o : Option α} {p : Option β}
    (h : (o.map fun _ => ()) = p.map fun _ => ()) : o.toList.length = p.toList.length := by
  cases o <;> cases p <;> first | rfl | cases h

/-- **Forms are alike if they have the same label and their parts compare one by one**: the
label says how many parts there are of each kind. -/
theorem like_of_label_eq (h : form.label = form'.label)
    (hc : List.Forall₂ N form.children form'.children) : Like N Eq form form' := by
  -- forms of different kinds have different labels
  cases form <;> cases form' <;> first | (simp only [label, map, reduceCtorEq] at h; done) | skip
  case sourceFile => exact .sourceFile hc
  case block => exact .block hc
  case expressionStatement => exact .expressionStatement (List.forall₂_cons.mp hc).1
  case returnStatement => exact .returnStatement (forall₂_toList_iff.mp hc)
  case importDeclaration => exact .importDeclaration
  case skipped => exact .skipped
  case functionDeclaration =>
    obtain ⟨rfl, rfl, hp, hr, hb⟩ := functionDeclaration.inj h
    obtain ⟨hc, hbody⟩ := (forall₂_append_iff (by
      rw [List.length_append, List.length_append, map_unit_eq_iff.mp hp,
        length_toList_eq_of_map_unit hr])).mp hc
    obtain ⟨hparameters, hreturn⟩ := (forall₂_append_iff (map_unit_eq_iff.mp hp)).mp hc
    exact .functionDeclaration hparameters (forall₂_toList_iff.mp hreturn)
      (forall₂_toList_iff.mp hbody)
  case variableDeclaration =>
    obtain ⟨rfl, ht, -⟩ := variableDeclaration.inj h
    obtain ⟨htype, hvalue⟩ := (forall₂_append_iff (length_toList_eq_of_map_unit ht)).mp hc
    exact .variableDeclaration (forall₂_toList_iff.mp htype) (forall₂_toList_iff.mp hvalue)
  case typeAlias => exact .typeAlias (List.forall₂_cons.mp hc).1
  case parameter =>
    obtain ⟨rfl, ht, -⟩ := parameter.inj h
    obtain ⟨htype, hvalue⟩ := (forall₂_append_iff (length_toList_eq_of_map_unit ht)).mp hc
    exact .parameter (forall₂_toList_iff.mp htype) (forall₂_toList_iff.mp hvalue)
  case typeText => exact .typeText (typeText.inj h)
  case call =>
    obtain ⟨-, ht, -⟩ := call.inj h
    obtain ⟨hcallee, hc⟩ := List.forall₂_cons.mp hc
    obtain ⟨htypes, harguments⟩ := (forall₂_append_iff (map_unit_eq_iff.mp ht)).mp hc
    exact .call hcallee htypes harguments
  case identifier =>
    obtain rfl := identifier.inj h
    exact .identifier
  case stringLiteral =>
    obtain rfl := stringLiteral.inj h
    exact .stringLiteral
  case templateLiteral => exact .templateLiteral
  case numericLiteral =>
    obtain rfl := numericLiteral.inj h
    exact .numericLiteral
  case propertyAccess =>
    obtain ⟨-, rfl⟩ := propertyAccess.inj h
    exact .propertyAccess (List.forall₂_cons.mp hc).1
  case parenthesized => exact .parenthesized (List.forall₂_cons.mp hc).1
  case function =>
    obtain ⟨hp, hr, -⟩ := function.inj h
    obtain ⟨hc, hbody⟩ := (forall₂_append_iff (by
      rw [List.length_append, List.length_append, map_unit_eq_iff.mp hp,
        length_toList_eq_of_map_unit hr])).mp hc
    obtain ⟨hparameters, hreturn⟩ := (forall₂_append_iff (map_unit_eq_iff.mp hp)).mp hc
    exact .function hparameters (forall₂_toList_iff.mp hreturn) (List.forall₂_cons.mp hbody).1
  case arrayLiteral => exact .arrayLiteral hc
  case objectLiteral => exact .objectLiteral hc
  case propertyAssignment =>
    obtain ⟨rfl, -⟩ := propertyAssignment.inj h
    exact .propertyAssignment (List.forall₂_cons.mp hc).1
  case shorthandProperty => exact .shorthandProperty
  case method => exact .method (List.forall₂_cons.mp hc).1
  case spread => exact .spread (List.forall₂_cons.mp hc).1
  case operands => exact .operands hc

theorem map_unit_eq_of_rel {o : Option α} {p : Option β} (h : Option.Rel N o p) :
    (o.map fun _ => ()) = p.map fun _ => () := by
  cases h <;> rfl

/-- Forms that are alike have the same label. -/
theorem Like.label_eq (h : Like N Eq form form') : form.label = form'.label := by
  unfold label
  cases h <;> simp only [map] <;> congr 1 <;>
    first | exact map_unit_eq_iff.mpr (List.Forall₂.length_eq ‹_›) | exact map_unit_eq_of_rel ‹_›

/-- The parts of forms that are alike compare one by one. -/
theorem Like.forall₂_children {X : String → String → Prop} (h : Like N X form form') :
    List.Forall₂ N form.children form'.children := by
  cases h with
  | sourceFile h | block h | arrayLiteral h | objectLiteral h | operands h => exact h
  | expressionStatement h | typeAlias h | propertyAccess h | parenthesized h
  | propertyAssignment h | method h | spread h => exact .cons h .nil
  | returnStatement h => exact forall₂_toList_iff.mpr h
  | functionDeclaration hp hr hb =>
    exact List.rel_append (List.rel_append hp (forall₂_toList_iff.mpr hr))
      (forall₂_toList_iff.mpr hb)
  | variableDeclaration ht hv | parameter ht hv =>
    exact List.rel_append (forall₂_toList_iff.mpr ht) (forall₂_toList_iff.mpr hv)
  | call hc ht ha => exact .cons hc (List.rel_append ht ha)
  | function hp hr hb =>
    exact List.rel_append (List.rel_append hp (forall₂_toList_iff.mpr hr)) (.cons hb .nil)
  | _ => exact .nil
/-- Forms stay alike if less is asked of their parts. -/
theorem Like.imp {N' : α → β → Prop} (h : Like N Eq form form') (hN : ∀ a b, N a b → N' a b) :
    Like N' Eq form form' :=
  like_of_label_eq h.label_eq (h.forall₂_children.imp hN)

end Form

/-! ## Nodes that are alike -/

namespace Node

variable {n n' : Node}

/-- **Nodes that are alike** but for the places in the text. -/
abbrev Alike : Node → Node → Prop := Like (fun _ _ => True) Eq

theorem Alike.form (h : n.Alike n') : Form.Like Alike Eq n.form n'.form := by
  cases h with
  | mk h _ => exact h

/-- **Nodes are alike if they have the same label and parts that are alike.** -/
theorem alike_iff :
    n.Alike n' ↔ n.form.label = n'.form.label ∧ List.Forall₂ Alike n.children n'.children := by
  refine ⟨fun h => ⟨h.form.label_eq, h.form.forall₂_children⟩, fun ⟨hl, hc⟩ => ?_⟩
  cases n
  cases n'
  exact .mk (Form.like_of_label_eq hl hc) trivial

theorem alike_refl (n : Node) : n.Alike n := by
  induction n using descendants.induct with
  | _ n ih => exact alike_iff.mpr ⟨rfl, List.forall₂_same.mpr fun c hc => ih ⟨c, hc⟩⟩

/-- **Induction on two nodes that are alike**, from their parts to the nodes. -/
theorem Alike.induct {P : Node → Node → Prop} (h : n.Alike n')
    (step : ∀ n n' : Node, n.Alike n' → List.Forall₂ P n.children n'.children → P n n') :
    P n n' := by
  induction n using descendants.induct generalizing n' with
  | _ n ih =>
    have hc : List.Forall₂ (fun c c' => (∀ m, c.Alike m → P c m) ∧ c.Alike c')
        n.children n'.children :=
      (List.forall₂_and_left _ _).mpr ⟨fun c hc m => ih ⟨c, hc⟩, (alike_iff.mp h).2⟩
    exact step n n' h (hc.imp fun c c' hcc => hcc.1 c' hcc.2)

/-- The nodes below nodes that are alike are alike, one by one. -/
theorem Alike.forall₂_descendants (h : n.Alike n') :
    List.Forall₂ Alike n.descendants n'.descendants := by
  refine h.induct (P := fun n n' => List.Forall₂ Alike n.descendants n'.descendants)
    fun n n' h hc => ?_
  rw [descendants_eq, descendants_eq]
  exact .cons h (List.rel_flatMap hc fun _ _ hcc => hcc)

/-! ## Reading a tree off its labels -/

/-- **The labels of a node and of all nodes below it**, each before its parts. -/
def labels (n : Node) : List (Form Unit) := n.descendants.map (·.form.label)

theorem labels_eq (n : Node) : n.labels = n.form.label :: n.children.flatMap labels := by
  rw [labels, descendants_eq, List.map_cons, List.map_flatMap]
  rfl

theorem Alike.labels_eq (h : n.Alike n') : n.labels = n'.labels := by
  refine h.induct (P := fun n n' => n.labels = n'.labels) fun n n' h hc => ?_
  have hmap : n.children.map labels = n'.children.map labels := by
    rw [← List.forall₂_eq_eq_eq, List.forall₂_map_left_iff, List.forall₂_map_right_iff]
    exact hc
  rw [Node.labels_eq, Node.labels_eq, (alike_iff.mp h).1, List.flatMap_def, List.flatMap_def, hmap]

/-- **Labels are read as a tree in one way.** Where the labels of two nodes, each followed by
others, make the same list, the nodes are alike and the same labels follow. The induction is
on the first tree, and within a node on its parts: their number is known from the label, and
the labels that follow a part are those of the parts after it. -/
theorem alike_of_labels_append {xs xs' : List (Form Unit)}
    (h : n.labels ++ xs = n'.labels ++ xs') : n.Alike n' ∧ xs = xs' := by
  induction n using descendants.induct generalizing n' xs xs' with
  | _ n ih =>
    have hparts : ∀ ns ms : List Node, (∀ c ∈ ns, c ∈ n.children) → ns.length = ms.length →
        ns.flatMap labels ++ xs = ms.flatMap labels ++ xs' →
        List.Forall₂ Alike ns ms ∧ xs = xs' := by
      intro ns
      induction ns with
      | nil =>
        intro ms _ hlen he
        obtain rfl := List.length_eq_zero_iff.mp hlen.symm
        exact ⟨.nil, he⟩
      | cons c ns ihns =>
        intro ms hmem hlen he
        cases ms with
        | nil => cases hlen
        | cons m ms =>
          rw [List.flatMap_cons, List.flatMap_cons, List.append_assoc, List.append_assoc] at he
          obtain ⟨hc, he⟩ := ih ⟨c, hmem c List.mem_cons_self⟩ he
          obtain ⟨hns, hx⟩ := ihns ms (fun d hd => hmem d (List.mem_cons_of_mem _ hd))
            (Nat.succ.inj hlen) he
          exact ⟨.cons hc hns, hx⟩
    rw [labels_eq, labels_eq, List.cons_append, List.cons_append] at h
    obtain ⟨hl, h⟩ := List.cons.inj h
    obtain ⟨hc, hx⟩ := hparts _ _ (fun _ hc => hc) (Form.length_children_of_label_eq hl) h
    exact ⟨alike_iff.mpr ⟨hl, hc⟩, hx⟩

theorem alike_iff_labels_eq : n.Alike n' ↔ n.labels = n'.labels := by
  refine ⟨Alike.labels_eq, fun h => ?_⟩
  have h : n.labels ++ [] = n'.labels ++ [] := by rw [h]
  exact (alike_of_labels_append h).1

instance : DecidableRel Alike := fun _ _ => decidable_of_iff _ alike_iff_labels_eq.symm

/-! ## Paths -/

/-- **The node at the end of a path**, which names a part of the node, a part of that part,
and so on, by their numbers. -/
def at? : List Nat → Node → Option Node
  | [], n => some n
  | i :: path, n => (n.children[i]?).bind (at? path)

/-- The same paths lead to nodes that are alike. -/
theorem Alike.rel_at? (h : n.Alike n') (path : List Nat) :
    Option.Rel Alike (n.at? path) (n'.at? path) := by
  induction path generalizing n n' with
  | nil => exact .some h
  | cons i path ih => exact rel_bind (rel_getElem? (alike_iff.mp h).2 i) fun _ _ => ih

end Node

end TypeTest

import TypeTest.Proofs.Isolation.InsertedStatement
import TypeTest.Proofs.Parsing.PlacedTree
import TypeTest.Script.Program

/-!
# What an inserted statement does to the names of a program

A statement that is inserted into a block declares nothing at the top level. So the
functions of the program stay what they were, and every call keeps its signature.

A name of a variable is another matter. It is looked up in the whole file, not only in
the blocks around the place where it is used, and the first declaration counts. So a
statement that declares a variable **captures** its name (`Node.Captures`) if no node before
the statement declares it: from then on the name means that variable everywhere in the file.
A type that is found without looking up a captured name stays what it was
(`Insertion.typeWithin_eq`).
-/

namespace TypeTest

/-! ## Looking up names -/

section Named

variable {α β : Type} {Q : α → β → Prop}

/-- Entries of the same name with values that compare by `Q`. -/
def Named (Q : α → β → Prop) (a : String × α) (b : String × β) : Prop := a.1 = b.1 ∧ Q a.2 b.2

/-- What is found under a name in lists of entries that compare does so as well. -/
theorem rel_lookup {l : List (String × α)} {l' : List (String × β)}
    (h : List.Forall₂ (Named Q) l l') (key : String) :
    Option.Rel Q (l.lookup key) (l'.lookup key) := by
  induction h with
  | nil => exact .none
  | @cons a b _ _ hab _ ih =>
    rw [List.lookup_cons, List.lookup_cons, hab.1]
    split
    · exact .some hab.2
    · exact ih

/-- Lists that compare do so with the places of their members. -/
theorem forall₂_zipIdx {R : α → β → Prop} {as : List α} {bs : List β}
    (h : List.Forall₂ R as bs) (k : Nat) :
    List.Forall₂ (fun a b => R a.1 b.1 ∧ a.2 = b.2) (as.zipIdx k) (bs.zipIdx k) := by
  induction h generalizing k with
  | nil => exact .nil
  | cons hab _ ih => exact .cons ⟨hab, rfl⟩ (ih (k + 1))

/-- Choices between options that compare do so as well. -/
theorem rel_or {o o₂ : Option α} {p p₂ : Option β} (h : Option.Rel Q o p)
    (h₂ : Option.Rel Q o₂ p₂) : Option.Rel Q (o.or o₂) (p.or p₂) := by
  cases h with
  | none => exact h₂
  | some hab => exact .some hab

end Named

/-! ## Declarations -/

/-- Origins of the type of a variable that are near each other. -/
inductive ValueSource.Near : ValueSource → ValueSource → Prop where
  | declared {t t' : Node} : t.Near t' → Near (.declared t) (.declared t')
  | initialized {i : Nat} {v v' : Node} : v.Near v' →
    Near (.initialized ⟨i, v⟩) (.initialized ⟨i, v'⟩)

theorem ValueSource.near_refl (v : ValueSource) : v.Near v := by
  cases v with
  | declared type => exact .declared type.near_refl
  | initialized value => exact .initialized value.node.near_refl

/-- Functions that every call takes to be the same. -/
structure FunctionSignature.Same (f f' : FunctionSignature) : Prop where
  typeParameters : f.typeParameters = f'.typeParameters
  returnType : f.returnType.bind Node.typeText? = f'.returnType.bind Node.typeText?

namespace Node

variable {n n' : Node}

theorem Near.typeText?_eq (h : n.Near n') : n.typeText? = n'.typeText? := by
  have hf := h.form
  unfold typeText?
  generalize n.form = form at hf
  generalize n'.form = form' at hf
  cases hf with
  | block => rfl
  | like hf =>
    cases hf with
    | typeText hs => rw [hs]
    | _ => rfl

theorem Near.calleeName?_eq (h : n.Near n') : n.calleeName? = n'.calleeName? := by
  have hf := h.form
  unfold calleeName?
  generalize n.form = form at hf
  generalize n'.form = form' at hf
  cases hf with
  | block => rfl
  | like hf => cases hf <;> rfl

theorem Near.rel_function? (h : n.Near n') :
    Option.Rel (Named FunctionSignature.Same) n.function? n'.function? := by
  have hf := h.form
  unfold function?
  generalize n.form = form at hf
  generalize n'.form = form' at hf
  cases hf with
  | block => exact .none
  | like hf =>
    cases hf with
    | functionDeclaration _ hr _ =>
      refine .some ⟨rfl, rfl, ?_⟩
      cases hr with
      | none => rfl
      | some ht => exact ht.typeText?_eq
    | _ => exact .none

theorem Near.rel_value? (h : n.Near n') (i : Nat) :
    Option.Rel (Named ValueSource.Near) (n.value? i) (n'.value? i) := by
  have hf := h.form
  unfold value?
  generalize n.form = form at hf
  generalize n'.form = form' at hf
  cases hf with
  | block => exact .none
  | like hf =>
    cases hf with
    | variableDeclaration ht hv =>
      cases ht with
      | some ht => exact .some ⟨rfl, .declared ht⟩
      | none =>
        cases hv with
        | some hv => exact .some ⟨rfl, .initialized hv⟩
        | none => exact .none
    | _ => exact .none

/-- **The name of the variable that a node declares**, with a type or a value. -/
def declaredName? (n : Node) : Option String := (n.value? 0).map Prod.fst

theorem map_fst_value? (n : Node) (i : Nat) : (n.value? i).map Prod.fst = n.declaredName? := by
  unfold declaredName? value?
  split <;> rfl

/-- **The statement at a path captures a name**: it declares a variable of that name, and no
node before it does. -/
def Captures (root : Node) (path : List Nat) (name : String) : Prop :=
  (∃ n ∈ (root.at? path).toList.flatMap descendants, n.declaredName? = some name)
    ∧ ∀ n ∈ root.before path, n.declaredName? ≠ some name

instance (root : Node) (path : List Nat) (name : String) : Decidable (root.Captures path name) :=
  inferInstanceAs (Decidable (_ ∧ _))

/-- Nothing is found under a name exactly if no node declares it. -/
theorem lookup_values_eq_none_iff {ns : List Node} {i : Nat} {name : String} :
    (ns.filterMap (value? i)).lookup name = none ↔ ∀ n ∈ ns, n.declaredName? ≠ some name := by
  rw [List.lookup_eq_none_iff]
  constructor
  · intro h n hn hname
    rw [← n.map_fst_value? i] at hname
    obtain ⟨entry, hv, rfl⟩ := Option.map_eq_some_iff.mp hname
    exact absurd rfl (bne_iff_ne.mp (h entry (List.mem_filterMap.mpr ⟨n, hn, hv⟩)))
  · intro h entry hentry
    obtain ⟨n, hn, hv⟩ := List.mem_filterMap.mp hentry
    refine bne_iff_ne.mpr fun he => h n hn ?_
    rw [← n.map_fst_value? i, hv, Option.map_some, he]

/-- Nodes that are near those of another list declare variables that are near theirs. -/
theorem rel_lookup_values {ns ms : List Node} (h : List.Forall₂ Near ns ms) (i : Nat)
    (name : String) :
    Option.Rel ValueSource.Near ((ns.filterMap (value? i)).lookup name)
      ((ms.filterMap (value? i)).lookup name) :=
  rel_lookup (List.rel_filterMap (fun _ _ hnm => hnm.rel_value? i) h) name

/-- **A name that is not captured means what it meant**, up to the insertion. Where it is
declared before the statement, that declaration counts; and else the statement does not
declare it either, and what counts stands behind. -/
theorem IsInserted.rel_lookup_values {block : List Nat} {place : Nat}
    (h : IsInserted block place n n') {name : String}
    (hc : ¬ n'.Captures (block ++ [place]) name) (i : Nat) :
    Option.Rel ValueSource.Near ((n.descendants.filterMap (value? i)).lookup name)
      ((n'.descendants.filterMap (value? i)).lookup name) := by
  obtain ⟨added, earlier, later, later', ha, hd, hd', hearlier, hlater⟩ := h.exists_descendants
  have hfirst := Node.rel_lookup_values hearlier i name
  have hlast := Node.rel_lookup_values (near_of_forall₂_alike hlater) i name
  rw [hd, hd']
  simp only [List.filterMap_append, List.lookup_append]
  by_cases hb : ∀ m ∈ n'.before (block ++ [place]), m.declaredName? ≠ some name
  · have hadded : (added.descendants.filterMap (value? i)).lookup name = none := by
      refine lookup_values_eq_none_iff.mpr fun m hm hname => hc ⟨⟨m, ?_, hname⟩, hb⟩
      rw [ha]
      exact List.mem_flatMap.mpr ⟨added, List.mem_singleton_self added, hm⟩
    rw [hadded, Option.or_none]
    exact rel_or hfirst hlast
  · have hsome := mt (lookup_values_eq_none_iff (i := i)).mp hb
    generalize (earlier.filterMap (value? i)).lookup name = o at hfirst
    generalize ((n'.before (block ++ [place])).filterMap (value? i)).lookup name = o'
      at hfirst hsome
    cases hfirst with
    | none => exact absurd rfl hsome
    | some hv => exact .some hv

end Node

namespace ScriptProgram

/-- Types at the same place of lists that are near each other have the same text. -/
theorem bind_typeText?_eq {types types' : List Node} (h : List.Forall₂ Node.Near types types')
    (i : Nat) : (types[i]?).bind Node.typeText? = (types'[i]?).bind Node.typeText? := by
  have hi := rel_getElem? h i
  generalize types[i]? = o at hi
  generalize types'[i]? = o' at hi
  cases hi with
  | none => rfl
  | some ht => exact ht.typeText?_eq

/-- Type arguments of the same texts are put in for type parameters in the same way. -/
theorem bindings_eq {types types' : List Node} (h : List.Forall₂ Node.Near types types')
    (typeParameters : List String) :
    bindings typeParameters types = bindings typeParameters types' := by
  refine List.map_congr_left fun ⟨parameter, i⟩ _ => ?_
  dsimp only
  rw [bind_typeText?_eq h]

/-- **Programs whose functions are the same give every call the same signature.** -/
theorem signature?_eq_of_same {p p' : ScriptProgram}
    (h : ∀ name, Option.Rel FunctionSignature.Same (p.functions.lookup name)
      (p'.functions.lookup name)) {r r' : NodeRef} (hr : r.node.Near r'.node) :
    p'.signature? r' = p.signature? r := by
  have hf := hr.form
  unfold signature?
  generalize r.node.form = form at hf
  generalize r'.node.form = form' at hf
  cases hf with
  | block => rfl
  | like hf =>
    cases hf with
    | call hcallee htypes _ =>
      dsimp only
      rw [hcallee.calleeName?_eq]
      split
      · rfl
      · rename_i name _
        have hl := h name
        rw [lookup_functions, lookup_functions]
        generalize p.functions.lookup name = o at hl
        generalize p'.functions.lookup name = o' at hl
        cases hl with
        | none => rfl
        | some hs =>
          dsimp only
          rw [hs.returnType, hs.typeParameters, bindings_eq htypes]
    | _ => rfl

/-! ## Programs -/

/-- **An insertion of a statement into a program**: into a block of one of its scripts. -/
structure Insertion (p p' : ScriptProgram) where
  /-- The scripts before the one that is changed. -/
  others : List ScriptFile
  /-- The scripts after it. -/
  more : List ScriptFile
  file : ScriptFile
  /-- The script with the statement. -/
  file' : ScriptFile
  /-- The path to the block. -/
  block : List Nat
  /-- How many statements of the block are before the new one. -/
  place : Nat
  files : p.files = others ++ file :: more
  files' : p'.files = others ++ file' :: more
  inserted : file.root.IsInserted block place file'.root

namespace Insertion

variable {p p' : ScriptProgram} (e : Insertion p p')

/-- The number of the script that is changed. -/
def number : Nat := e.others.length

/-- **The new statement captures a name** in its script. -/
def Captures (name : String) : Prop := e.file'.root.Captures (e.block ++ [e.place]) name

instance (name : String) : Decidable (e.Captures name) :=
  inferInstanceAs (Decidable (Node.Captures _ _ name))

theorem getElem?_number : p.files[e.number]? = some e.file := by
  rw [e.files, number, List.getElem?_append_right (Nat.le_refl _), Nat.sub_self]
  rfl

theorem getElem?_number' : p'.files[e.number]? = some e.file' := by
  rw [e.files', number, List.getElem?_append_right (Nat.le_refl _), Nat.sub_self]
  rfl

include e

/-- The other scripts stay what they were. -/
theorem getElem?_of_ne {i : Nat} (hi : i ≠ e.number) : p'.files[i]? = p.files[i]? := by
  rw [e.files, e.files']
  obtain hlt | hle := Nat.lt_or_ge i e.others.length
  · rw [List.getElem?_append_left hlt, List.getElem?_append_left hlt]
  · obtain ⟨k, hk⟩ := Nat.exists_eq_add_of_lt (Nat.lt_of_le_of_ne hle (Ne.symm hi))
    rw [List.getElem?_append_right hle, List.getElem?_append_right hle,
      show i - e.others.length = k + 1 by omega, List.getElem?_cons_succ, List.getElem?_cons_succ]

/-! ## The top level -/

/-- The root of a script is no block, so nothing is inserted at the top level. -/
theorem forall₂_statements : List.Forall₂ Node.Near e.file.statements e.file'.statements := by
  have h := e.inserted
  cases hblock : e.block with
  | nil =>
    obtain ⟨_, _, _, _, _, hroot, _⟩ := exists_placed_of_parseTree e.file.parsed
    rw [hblock] at h
    have hb := h.1
    rw [hroot] at hb
    cases hb
  | cons i block =>
    rw [hblock] at h
    exact h.forall₂_children

/-- The statements of the scripts, those of blocks excepted. -/
theorem forall₂_files :
    List.Forall₂ (fun f f' => List.Forall₂ Node.Near f.statements f'.statements)
      p.files p'.files := by
  have hsame : ∀ fs : List ScriptFile,
      List.Forall₂ (fun f f' => List.Forall₂ Node.Near f.statements f'.statements) fs fs :=
    fun fs => List.forall₂_same.mpr fun f _ => List.forall₂_same.mpr fun n _ => n.near_refl
  rw [e.files, e.files']
  exact List.rel_append (hsame _) (.cons e.forall₂_statements (hsame _))

theorem rel_lookup_functions (name : String) :
    Option.Rel FunctionSignature.Same (p.functions.lookup name) (p'.functions.lookup name) := by
  refine rel_lookup ?_ name
  exact List.rel_flatMap e.forall₂_files fun _ _ hf =>
    List.rel_filterMap (fun _ _ hnm => hnm.rel_function?) hf

theorem rel_lookup_values (name : String) :
    Option.Rel ValueSource.Near (p.values.lookup name) (p'.values.lookup name) := by
  refine rel_lookup (List.rel_flatMap (forall₂_zipIdx e.forall₂_files 0) ?_) name
  rintro ⟨f, i⟩ ⟨f', _⟩ ⟨hf, rfl⟩
  exact List.rel_filterMap (fun _ _ hnm => hnm.rel_value? i) hf

/-! ## Variables -/

theorem rel_localValue? {i : Nat} {name : String} (hc : i = e.number → ¬ e.Captures name) :
    Option.Rel ValueSource.Near (p.localValue? i name) (p'.localValue? i name) := by
  by_cases hi : i = e.number
  · subst hi
    rw [localValue?_eq, localValue?_eq, e.getElem?_number, e.getElem?_number', Option.bind_some,
      Option.bind_some, ScriptFile.nodes_eq, ScriptFile.nodes_eq]
    exact e.inserted.rel_lookup_values (hc rfl) e.number
  · have hsame : p'.localValue? i name = p.localValue? i name := by
      rw [localValue?_eq, localValue?_eq, e.getElem?_of_ne hi]
    rw [hsame]
    cases p.localValue? i name with
    | none => exact .none
    | some value => exact .some value.near_refl

/-- **A name that is not captured refers to the variable that it referred to.** -/
theorem rel_value? {i : Nat} {name : String} (hc : i = e.number → ¬ e.Captures name) :
    Option.Rel ValueSource.Near (p.value? i name) (p'.value? i name) := by
  have hlocal := e.rel_localValue? hc
  rw [value?_eq, value?_eq]
  generalize p.localValue? i name = o at hlocal
  generalize p'.localValue? i name = o' at hlocal
  cases hlocal with
  | none => exact e.rel_lookup_values name
  | some hv => exact .some hv

/-! ## Types -/

/-- **Every call keeps its signature.** -/
theorem signature?_eq {r r' : NodeRef} (hr : r.node.Near r'.node) :
    p'.signature? r' = p.signature? r :=
  signature?_eq_of_same e.rel_lookup_functions hr

end Insertion

/-- **The names that are looked up for a type** that is found in at most `hops` hops, each
with the number of the script that it is looked up in. -/
def lookups (p : ScriptProgram) (hops : Nat) (r : NodeRef) : List (Nat × String) :=
  match r.node.form with
  | .identifier name =>
    (r.file, name) ::
      match p.value? r.file name with
      | some (.initialized value) =>
        match hops with
        | 0 => []
        | hops + 1 => p.lookups hops value
      | _ => []
  | .parenthesized expression =>
    match hops with
    | 0 => []
    | hops + 1 => p.lookups hops ⟨r.file, expression⟩
  | _ => []

/-- **A type that is found without looking up a captured name stays what it was**, by
induction on the hops to the declaration that it comes from. -/
theorem Insertion.typeWithin_eq {p p' : ScriptProgram} (e : Insertion p p') (hops : Nat)
    {i : Nat} {n n' : Node} (h : n.Near n')
    (hc : ∀ name, (e.number, name) ∈ p.lookups hops ⟨i, n⟩ → ¬ e.Captures name) :
    p'.typeWithin hops ⟨i, n'⟩ = p.typeWithin hops ⟨i, n⟩ := by
  induction hops using Nat.strongRecOn generalizing i n n' with
  | _ hops ih =>
    have hf := h.form
    have hs : p'.signature? ⟨i, n'⟩ = p.signature? ⟨i, n⟩ := e.signature?_eq h
    rw [lookups.eq_def] at hc
    rw [typeWithin.eq_def, typeWithin.eq_def]
    dsimp only at hc ⊢
    generalize n.form = form at hf hc
    generalize n'.form = form' at hf
    cases hf with
    | block => rfl
    | like hf =>
      cases hf with
      | @identifier name =>
        have hv : Option.Rel ValueSource.Near (p.value? i name) (p'.value? i name) :=
          e.rel_value? fun hi => hc name (hi ▸ List.mem_cons_self)
        dsimp only at hc ⊢
        generalize p.value? i name = o at hv hc
        generalize p'.value? i name = o' at hv
        cases hv with
        | none => rfl
        | some hv =>
          cases hv with
          | declared ht => exact ht.typeText?_eq.symm
          | initialized hv =>
            cases hops with
            | zero => rfl
            | succ hops =>
              exact ih hops (Nat.lt_succ_self hops) hv
                fun name hn => hc name (List.mem_cons_of_mem _ hn)
      | parenthesized hn =>
        cases hops with
        | zero => rfl
        | succ hops => exact ih hops (Nat.lt_succ_self hops) hn hc
      | call => exact congrArg (Option.map CallSignature.returnType) hs
      | _ => rfl

end ScriptProgram

end TypeTest

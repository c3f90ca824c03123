import TypeTest.Script.Program

/-!
# The type of an expression as the end of a chain

An expression that is a name or stands in parentheses has no type of its own. It **hops** to
another one: a name to the value that its variable starts with, parentheses to what is in
them. A name whose variable is declared with a type, a call and a literal give a type on the
spot, and every other expression gives none. So the expressions of a program form chains that
either end or go on forever, and the type of an expression is what the end of its chain gives.

Chains may be cyclic, since `let a = b; let b = a;` is a script like any other. Nothing but
the number of hops bounds the search, so what is found is the type at the end **if the end is
at most `maxHops` hops away**, and nothing otherwise (`ScriptProgram.typeAt?_follows_chain`).

What a name means is stated here without looking anything up. Of the nodes of its file, and
only if none of them declares the name of those at the top level of all files, it is the first
one that declares it; a variable that has neither a type nor a value declares nothing, and is
skipped on the way.
-/

namespace TypeTest

/-! ## What a name means -/

/-- **That a node declares a variable** and where the type of the variable comes from. A
variable with a type and a value has its type from the type. -/
inductive Node.Declares (file : Nat) (name : String) (n : Node) : ValueSource → Prop where
  | typed {type : Node} {value : Option Node}
    (form : n.form = .variableDeclaration name (some type) value) :
    n.Declares file name (.declared type)
  | valued {value : Node} (form : n.form = .variableDeclaration name none (some value)) :
    n.Declares file name (.initialized ⟨file, value⟩)

/-- A node declares what is looked up. -/
theorem Node.declares_iff_value?_eq {file : Nat} {name : String} {n : Node}
    {source : ValueSource} :
    n.Declares file name source ↔ n.value? file = some (name, source) := by
  constructor
  · intro h
    unfold value?
    cases h with
    | typed form => rw [form]
    | valued form => rw [form]
  · intro h
    unfold value? at h
    split at h
    · cases h
      exact .typed ‹_›
    · cases h
      exact .valued ‹_›
    · cases h

/-- **The first of the given nodes that declares a name**, each node being given with the
number of its file. -/
def FirstDeclares (nodes : List (Nat × Node)) (name : String) (source : ValueSource) : Prop :=
  ∃ before i n after, nodes = before ++ (i, n) :: after ∧ n.Declares i name source ∧
    ∀ m ∈ before, ∀ other, ¬ m.2.Declares m.1 name other

/-- No declaration is found under a name that no node declares. -/
theorem lookup_value?_eq_none_iff {nodes : List (Nat × Node)} {name : String} :
    (nodes.filterMap fun m => m.2.value? m.1).lookup name = none ↔
      ∀ m ∈ nodes, ∀ other, ¬ m.2.Declares m.1 name other := by
  simp only [List.lookup_eq_none_iff, List.mem_filterMap, Node.declares_iff_value?_eq, bne_iff_ne]
  constructor
  · intro h m hm other hother
    exact h _ ⟨m, hm, hother⟩ rfl
  · rintro h ⟨_, other⟩ ⟨m, hm, hother⟩ rfl
    exact h m hm other hother

/-- **The declaration that is found under a name is the first one.** -/
theorem lookup_value?_eq_some_iff {nodes : List (Nat × Node)} {name : String}
    {source : ValueSource} :
    (nodes.filterMap fun m => m.2.value? m.1).lookup name = some source ↔
      FirstDeclares nodes name source := by
  constructor
  · intro h
    obtain ⟨found, _, hfound, hnone⟩ := List.lookup_eq_some_iff.mp h
    obtain ⟨before, rest, rfl, rfl, hrest⟩ := List.filterMap_eq_append_iff.mp hfound
    obtain ⟨skipped, ⟨i, n⟩, after, rfl, hskipped, hn, _⟩ := List.filterMap_eq_cons_iff.mp hrest
    refine ⟨before ++ skipped, i, n, after, (List.append_assoc _ _ _).symm,
      Node.declares_iff_value?_eq.mpr hn, lookup_value?_eq_none_iff.mp ?_⟩
    rw [List.filterMap_append, List.filterMap_eq_nil_iff.mpr hskipped, List.append_nil]
    exact List.lookup_eq_none_iff.mpr hnone
  · rintro ⟨before, i, n, after, rfl, hn, hbefore⟩
    rw [List.filterMap_append, List.lookup_append, lookup_value?_eq_none_iff.mpr hbefore,
      Option.none_or]
    exact List.lookup_eq_some_iff.mpr
      ⟨[], _, List.filterMap_cons_some (Node.declares_iff_value?_eq.mp hn), by simp⟩

namespace ScriptProgram

/-- The statements outside of blocks of all files in order, with the numbers of the files. -/
def topLevel (p : ScriptProgram) : List (Nat × Node) :=
  p.files.zipIdx.flatMap fun (file, i) => file.statements.map (i, ·)

/-- The nodes of one file of a program, each before its parts. -/
def nodesOf (p : ScriptProgram) (i : Nat) : List (Nat × Node) :=
  (p.files[i]?.elim [] fun file => file.root.descendants).map (i, ·)

/-- **What a name means in a file.** The file comes before the top level of the program, even
where the declaration stands in a block or after the place where the name is used. -/
inductive Refers (p : ScriptProgram) (i : Nat) (name : String) (source : ValueSource) :
    Prop where
  | local (first : FirstDeclares (p.nodesOf i) name source)
  | global (undeclared : ∀ m ∈ p.nodesOf i, ∀ other, ¬ m.2.Declares m.1 name other)
    (first : FirstDeclares p.topLevel name source)

theorem localValue?_eq_lookup (p : ScriptProgram) (i : Nat) (name : String) :
    p.localValue? i name =
      ((p.nodesOf i).filterMap fun m => m.2.value? m.1).lookup name := by
  rw [localValue?_eq, nodesOf, List.filterMap_map]
  cases p.files[i]? with
  | none => rfl
  | some file =>
    rw [Option.bind_some, file.nodes_eq]
    rfl

theorem values_eq_filterMap (p : ScriptProgram) :
    p.values = p.topLevel.filterMap fun m => m.2.value? m.1 := by
  unfold values topLevel
  rw [List.filterMap_flatMap]
  simp only [List.filterMap_map]
  rfl

/-- **A name refers to what is looked up.** -/
theorem value?_eq_some_iff {p : ScriptProgram} {i : Nat} {name : String} {source : ValueSource} :
    p.value? i name = some source ↔ p.Refers i name source := by
  rw [value?_eq, localValue?_eq_lookup, values_eq_filterMap, Option.or_eq_some_iff,
    lookup_value?_eq_some_iff, lookup_value?_eq_some_iff, lookup_value?_eq_none_iff]
  constructor
  · rintro (first | ⟨undeclared, first⟩)
    · exact .local first
    · exact .global undeclared first
  · rintro (first | ⟨undeclared, first⟩)
    · exact .inl first
    · exact .inr ⟨undeclared, first⟩

/-! ## Chains of hops -/

/-- **One hop**: from a name to the value that its variable starts with, or into
parentheses. -/
inductive Hop (p : ScriptProgram) (r : NodeRef) : NodeRef → Prop where
  | initializer {name : String} {value : NodeRef} (form : r.node.form = .identifier name)
    (refers : p.Refers r.file name (.initialized value)) : p.Hop r value
  | content {expression : Node} (form : r.node.form = .parenthesized expression) :
    p.Hop r ⟨r.file, expression⟩

/-- **The type that an expression gives on the spot.** -/
inductive Gives (p : ScriptProgram) (r : NodeRef) : String → Prop where
  | annotated {name text : String} {type : Node} (form : r.node.form = .identifier name)
    (refers : p.Refers r.file name (.declared type)) (type : type.form = .typeText text) :
    p.Gives r text
  | call {callee : Node} {types arguments : List Node} {signature : CallSignature}
    (form : r.node.form = .call callee types arguments)
    (resolved : p.signature? r = some signature) : p.Gives r signature.returnType
  | string {value : String} (form : r.node.form = .stringLiteral value) :
    p.Gives r (quoted value)
  | number {text : String} (form : r.node.form = .numericLiteral text) : p.Gives r text

/-- **That a chain ends at an expression**, and the type it ends with: what the expression
gives, or none if the expression neither gives a type nor hops. -/
inductive Ends (p : ScriptProgram) (r : NodeRef) : Option String → Prop where
  | type {text : String} (gives : p.Gives r text) : p.Ends r (some text)
  | nothing (hop : ∀ s, ¬ p.Hop r s) (gives : ∀ text, ¬ p.Gives r text) : p.Ends r none

/-- **That a number of hops lead from one expression to another.** -/
inductive Chain (p : ScriptProgram) : Nat → NodeRef → NodeRef → Prop where
  | here (r : NodeRef) : p.Chain 0 r r
  | hop {k : Nat} {r s e : NodeRef} (first : p.Hop r s) (rest : p.Chain k s e) :
    p.Chain (k + 1) r e

variable {p : ScriptProgram} {r s e : NodeRef}

/-! ## One step of the search -/

/-- **A hop costs one of the hops that are left.** -/
theorem typeWithin_of_hop (h : p.Hop r s) (hops : Nat) :
    p.typeWithin 0 r = none ∧ p.typeWithin (hops + 1) r = p.typeWithin hops s := by
  cases h with
  | initializer form refers =>
    constructor <;> (rw [typeWithin, form]; dsimp only; rw [value?_eq_some_iff.mpr refers])
  | content form => constructor <;> rw [typeWithin, form]

/-- What an expression gives on the spot is found without a hop. -/
theorem typeWithin_of_gives {text : String} (h : p.Gives r text) (hops : Nat) :
    p.typeWithin hops r = some text := by
  cases h with
  | annotated form refers type =>
    rw [typeWithin.eq_def, form]
    dsimp only
    rw [value?_eq_some_iff.mpr refers]
    dsimp only
    rw [Node.typeText?, type]
  | call form resolved =>
    rw [typeWithin.eq_def, form]
    dsimp only
    rw [resolved, Option.map_some]
  | string form => rw [typeWithin.eq_def, form]
  | number form => rw [typeWithin.eq_def, form]

/-- **What is found is given on the spot or found one hop further.** -/
theorem gives_or_hop_of_typeWithin {hops : Nat} {text : String}
    (h : p.typeWithin hops r = some text) : p.Gives r text ∨ ∃ s, p.Hop r s := by
  rw [typeWithin.eq_def] at h
  split at h
  · rename_i form
    split at h
    · rename_i type hvalue
      refine .inl (.annotated form (value?_eq_some_iff.mp hvalue) ?_)
      unfold Node.typeText? at h
      split at h
      · cases h
        assumption
      · cases h
    · rename_i value hvalue
      exact .inr ⟨value, .initializer form (value?_eq_some_iff.mp hvalue)⟩
    · cases h
  · rename_i form
    exact .inr ⟨_, .content form⟩
  · rename_i form
    obtain ⟨signature, hresolved, rfl⟩ := Option.map_eq_some_iff.mp h
    exact .inl (.call form hresolved)
  · rename_i form
    cases h
    exact .inl (.string form)
  · rename_i form
    cases h
    exact .inl (.number form)
  · cases h

/-- The search at an end finds what the end gives, however many hops are left. -/
theorem typeWithin_of_ends {type : Option String} (h : p.Ends r type) (hops : Nat) :
    p.typeWithin hops r = type := by
  cases h with
  | type gives => exact typeWithin_of_gives gives hops
  | nothing hop gives =>
    rw [Option.eq_none_iff_forall_ne_some]
    intro text htext
    obtain hgives | ⟨s, hs⟩ := gives_or_hop_of_typeWithin htext
    · exact gives text hgives
    · exact hop s hs

/-! ## Following a chain -/

/-- **The search along a chain that is too long finds nothing**, whether it ends or not. -/
theorem Chain.typeWithin_eq_none {k : Nat} (h : p.Chain k r e) {hops : Nat} (hk : hops < k) :
    p.typeWithin hops r = none := by
  induction h generalizing hops with
  | here => omega
  | hop first rest ih =>
    cases hops with
    | zero => exact (typeWithin_of_hop first 0).1
    | succ hops => rw [(typeWithin_of_hop first hops).2, ih (by omega)]

/-- The search goes along a chain, as far as it may. -/
theorem Chain.typeWithin_add {k : Nat} (h : p.Chain k r e) (hops : Nat) :
    p.typeWithin (k + hops) r = p.typeWithin hops e := by
  induction h with
  | here => rw [Nat.zero_add]
  | @hop k _ _ _ first _ ih => rw [Nat.add_right_comm, (typeWithin_of_hop first _).2, ih]

/-- **What is found is what the end of a chain gives**, and the chain is short enough. -/
theorem exists_chain_of_typeWithin {hops : Nat} {text : String}
    (h : p.typeWithin hops r = some text) :
    ∃ k ≤ hops, ∃ e, p.Chain k r e ∧ p.Gives e text := by
  induction hops generalizing r with
  | zero =>
    obtain hgives | ⟨s, hs⟩ := gives_or_hop_of_typeWithin h
    · exact ⟨0, Nat.le_refl 0, r, .here r, hgives⟩
    · rw [(typeWithin_of_hop hs 0).1] at h
      cases h
  | succ hops ih =>
    obtain hgives | ⟨s, hs⟩ := gives_or_hop_of_typeWithin h
    · exact ⟨0, Nat.zero_le _, r, .here r, hgives⟩
    · rw [(typeWithin_of_hop hs hops).2] at h
      obtain ⟨k, hk, e, hchain, hgives⟩ := ih h
      exact ⟨k + 1, Nat.succ_le_succ hk, e, .hop hs hchain, hgives⟩

/-- A chain that ends at an expression goes on from there. -/
theorem Chain.append {j k : Nat} (h : p.Chain j r s) (h' : p.Chain k s e) :
    p.Chain (j + k) r e := by
  induction h with
  | here => rwa [Nat.zero_add]
  | hop first _ ih =>
    rw [Nat.add_right_comm]
    exact .hop first (ih h')

/-- **A cycle is a chain as long as one likes.** -/
theorem Chain.exists_longer {k : Nat} (h : p.Chain (k + 1) s s) (n : Nat) :
    ∃ m, n ≤ m ∧ p.Chain m s s := by
  induction n with
  | zero => exact ⟨0, Nat.le_refl 0, .here s⟩
  | succ n ih =>
    obtain ⟨m, hm, hchain⟩ := ih
    exact ⟨k + 1 + m, by omega, h.append hchain⟩

/-- **A type is found at the end of the chain, if it ends in time.** The four parts say that
the type of an expression is that of the end of its chain if the end is at most 32 hops away,
and none if it is further away; that what is found is always found so; that an expression whose
chain runs into a cycle has no type; and that with more hops at hand whatever was found is
found again. -/
theorem typeAt?_follows_chain (p : ScriptProgram) (r : NodeRef) :
    (∀ k e type, p.Chain k r e → p.Ends e type →
      p.typeAt? r = if k ≤ 32 then type else none) ∧
    (∀ text, p.typeAt? r = some text →
      ∃ k ≤ 32, ∃ e, p.Chain k r e ∧ p.Ends e (some text)) ∧
    (∀ j k s, p.Chain j r s → p.Chain (k + 1) s s → p.typeAt? r = none) ∧
    (∀ few many text, few ≤ many → p.typeWithin few r = some text →
      p.typeWithin many r = some text) := by
  refine ⟨?ends, ?found, ?cycle, ?more⟩
  case ends =>
    intro k e type hchain hends
    show p.typeWithin 32 r = _
    split
    · rename_i hk
      obtain ⟨hops, hhops⟩ := Nat.exists_eq_add_of_le hk
      rw [hhops, hchain.typeWithin_add, typeWithin_of_ends hends]
    · exact hchain.typeWithin_eq_none (by omega)
  case found =>
    intro text htext
    obtain ⟨k, hk, e, hchain, hgives⟩ := exists_chain_of_typeWithin htext
    exact ⟨k, hk, e, hchain, .type hgives⟩
  case cycle =>
    intro j k s hlead hcycle
    obtain ⟨m, hm, hround⟩ := hcycle.exists_longer (maxHops + 1)
    exact (hlead.append hround).typeWithin_eq_none (by omega)
  case more =>
    intro few many text hle hfew
    obtain ⟨k, hk, e, hchain, hgives⟩ := exists_chain_of_typeWithin hfew
    obtain ⟨hops, hhops⟩ := Nat.exists_eq_add_of_le (Nat.le_trans hk hle)
    rw [hhops, hchain.typeWithin_add, typeWithin_of_gives hgives]

end ScriptProgram

end TypeTest

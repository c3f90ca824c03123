import TypeTest.Script.File

/-!
# What a program holds while it grows

A program is built script by script. Each script is parsed under a number, which every
reference to one of its nodes carries: how many scripts there are before it. What its
statements declare is entered into two tables, one of functions and one of variables, in
which **the first declaration of a name stays**, and then the script is put behind the
others.

These are steps that change a store (`ScriptStore.addSource`). A syntax error ends them
with the store that there is then, and nothing but the order of the steps makes it the
one that there was before. A store that came about like this is *well formed*: the
numbers are the places of the scripts, and the tables say of a name what the scripts
declare first under it.
-/

namespace TypeTest

/-- What a function declares: its type parameters and its return type. -/
structure FunctionSignature where
  typeParameters : List String
  returnType : Option Node

/-- Where the type of a variable comes from. -/
inductive ValueSource where
  /-- From the type it is declared with. -/
  | declared (type : Node)
  /-- From the value it starts with. -/
  | initialized (value : NodeRef)

namespace Node

/-- The name and the signature of a function declaration. -/
def function? (n : Node) : Option (String × FunctionSignature) :=
  match n.form with
  | .functionDeclaration name typeParameters _ returnType _ =>
    some (name, ⟨typeParameters, returnType⟩)
  | _ => none

/-- The name of a variable declaration in file number `file`, and where its type
comes from, if it comes from anywhere. -/
def value? (file : Nat) (n : Node) : Option (String × ValueSource) :=
  match n.form with
  | .variableDeclaration name (some type) _ => some (name, .declared type)
  | .variableDeclaration name none (some value) => some (name, .initialized ⟨file, value⟩)
  | _ => none

end Node

/-- **A script with the number that it was parsed under.** -/
structure NumberedScript where
  number : Nat
  script : ScriptFile

/-- Parses a script under a number. -/
def NumberedScript.parse (number : Nat) (name text : String) :
    Except ScriptError NumberedScript :=
  (ScriptFile.parse name text).map (⟨number, ·⟩)

/-! ## Tables -/

section Tables

variable {α : Type} (declarations : List (String × α)) (own : String × α) (name : String)

/-- **Enters a declaration under its name**, unless there is one of this name. -/
def enter : List (String × α) :=
  match declarations.lookup own.1 with
  | some _ => declarations
  | none => declarations ++ [own]

/-- What a table says after an entry is what it would say if the entry stood behind all
others. -/
theorem lookup_enter :
    (enter declarations own).lookup name = (declarations ++ [own]).lookup name := by
  unfold enter
  split
  · rename_i earlier hearlier
    by_cases hname : name = own.1
    · rw [List.lookup_append, hname, hearlier, Option.some_or]
    · have hother : [own].lookup name = none := by
        rw [List.lookup_cons, beq_false_of_ne hname, List.lookup_nil]
      rw [List.lookup_append, hother, Option.or_none]
  · rfl

/-- **Of the entries of a name the first one counts.** -/
theorem lookup_foldl_enter (more : List (String × α)) :
    (more.foldl enter declarations).lookup name = (declarations ++ more).lookup name := by
  induction more generalizing declarations with
  | nil => rw [List.append_nil, List.foldl_nil]
  | cons own more ih =>
    rw [List.foldl_cons, ih, List.lookup_append, lookup_enter, ← List.lookup_append,
      List.append_assoc, List.singleton_append]

end Tables

/-! ## The store -/

/-- **What a program holds**: its scripts, and the tables of what they declare at the top
level. -/
structure ScriptStore where
  scripts : List NumberedScript
  functions : List (String × FunctionSignature)
  values : List (String × ValueSource)

namespace ScriptStore

/-- A store without scripts. -/
def empty : ScriptStore := ⟨[], [], []⟩

/-- Enters what a statement of script number `number` declares. -/
def declare (number : Nat) (store : ScriptStore) (statement : Node) : ScriptStore :=
  { store with
    functions := statement.function?.toList.foldl enter store.functions
    values := (statement.value? number).toList.foldl enter store.values }

/-- **Parses a script and adds it.** The number is taken before the script is parsed, and
the script is put behind the others after what it declares is entered. -/
def addSource (name text : String) : EStateM ScriptError ScriptStore Unit := do
  let number := (← get).scripts.length
  let parsed ← MonadExcept.ofExcept (NumberedScript.parse number name text)
  for statement in parsed.script.statements do
    modify fun store => store.declare parsed.number statement
  modify fun store => { store with scripts := store.scripts ++ [parsed] }

/-- The functions that the scripts declare at the top level, in order. -/
def declaredFunctions (store : ScriptStore) : List (String × FunctionSignature) :=
  store.scripts.flatMap fun s => s.script.statements.filterMap Node.function?

/-- The variables that the scripts declare at the top level with a type or a value, in
order. -/
def declaredValues (store : ScriptStore) : List (String × ValueSource) :=
  store.scripts.flatMap fun s => s.script.statements.filterMap (Node.value? s.number)

/-- **A store that says what its scripts declare.** -/
structure WellFormed (store : ScriptStore) : Prop where
  /-- The number of a script is its place. -/
  numbered : store.scripts.map NumberedScript.number = List.range store.scripts.length
  /-- A name stands for the first function that is declared under it. -/
  functions : ∀ name, store.functions.lookup name = store.declaredFunctions.lookup name
  /-- A name stands for the first variable that is declared under it. -/
  values : ∀ name, store.values.lookup name = store.declaredValues.lookup name

theorem wellFormed_empty : empty.WellFormed := ⟨rfl, fun _ => rfl, fun _ => rfl⟩

/-- A store with what the statements of script number `number` declare. -/
def declareAll (number : Nat) (store : ScriptStore) (statements : List Node) : ScriptStore :=
  statements.foldl (declare number) store

section Declare

variable (number : Nat) (store : ScriptStore) (statements : List Node)

@[simp] theorem scripts_declareAll :
    (declareAll number store statements).scripts = store.scripts := by
  induction statements generalizing store with
  | nil => rfl
  | cons n statements ih => exact ih (store.declare number n)

theorem functions_declareAll :
    (declareAll number store statements).functions
      = (statements.filterMap Node.function?).foldl enter store.functions := by
  induction statements generalizing store with
  | nil => rfl
  | cons n statements ih =>
    refine (ih (store.declare number n)).trans ?_
    rw [List.filterMap_cons]
    cases hn : n.function? with
    | none => rw [declare, hn]; rfl
    | some own => rw [declare, hn]; rfl

theorem values_declareAll :
    (declareAll number store statements).values
      = (statements.filterMap (Node.value? number)).foldl enter store.values := by
  induction statements generalizing store with
  | nil => rfl
  | cons n statements ih =>
    refine (ih (store.declare number n)).trans ?_
    rw [List.filterMap_cons]
    cases hn : n.value? number with
    | none => rw [declare, hn]; rfl
    | some own => rw [declare, hn]; rfl

end Declare

/-- The store with one more script. -/
def push (store : ScriptStore) (script : ScriptFile) : ScriptStore :=
  { declareAll store.scripts.length store script.statements with
    scripts := store.scripts ++ [⟨store.scripts.length, script⟩] }

@[simp] theorem scripts_push (store : ScriptStore) (script : ScriptFile) :
    (store.push script).scripts = store.scripts ++ [⟨store.scripts.length, script⟩] := rfl

theorem declaredFunctions_push (store : ScriptStore) (script : ScriptFile) :
    (store.push script).declaredFunctions
      = store.declaredFunctions ++ script.statements.filterMap Node.function? := by
  rw [declaredFunctions, scripts_push, List.flatMap_append, List.flatMap_singleton]
  rfl

theorem declaredValues_push (store : ScriptStore) (script : ScriptFile) :
    (store.push script).declaredValues
      = store.declaredValues
        ++ script.statements.filterMap (Node.value? store.scripts.length) := by
  rw [declaredValues, scripts_push, List.flatMap_append, List.flatMap_singleton]
  rfl

/-- **A script that is added keeps the store well formed.** -/
theorem WellFormed.push {store : ScriptStore} (h : store.WellFormed) (script : ScriptFile) :
    (store.push script).WellFormed where
  numbered := by
    rw [scripts_push, List.map_append, h.numbered, List.length_append, List.length_singleton,
      List.range_succ]
    rfl
  functions name := by
    show (declareAll _ _ _).functions.lookup name = _
    rw [functions_declareAll, lookup_foldl_enter, declaredFunctions_push, List.lookup_append,
      List.lookup_append, h.functions]
  values name := by
    show (declareAll _ _ _).values.lookup name = _
    rw [values_declareAll, lookup_foldl_enter, declaredValues_push, List.lookup_append,
      List.lookup_append, h.values]

/-! ## What adding a script comes to -/

section Run

variable {ε σ α β : Type} {x : EStateM ε σ α} {f : α → EStateM ε σ β} {s s' : σ}

/-- Steps after one that succeeds go on with its store. -/
theorem run_bind_of_ok {a : α} (h : x.run s = .ok a s') : (x >>= f).run s = (f a).run s' := by
  show EStateM.bind x f s = _
  unfold EStateM.bind
  rw [show x s = .ok a s' from h]
  rfl

/-- Steps after one that fails are left out, and the store is that of the failure. -/
theorem run_bind_of_error {e : ε} (h : x.run s = .error e s') :
    (x >>= f).run s = .error e s' := by
  show EStateM.bind x f s = _
  unfold EStateM.bind
  rw [show x s = .error e s' from h]

end Run

variable {store : ScriptStore} {name text : String}

/-- The statements are entered one after the other. -/
theorem run_forIn_declare (number : Nat) (statements : List Node) (store : ScriptStore) :
    EStateM.run (ε := ScriptError) (forIn statements PUnit.unit fun n _ => do
      modify fun store => store.declare number n
      pure (ForInStep.yield PUnit.unit)) store
        = .ok PUnit.unit (declareAll number store statements) := by
  induction statements generalizing store with
  | nil => rfl
  | cons n statements ih =>
    rw [List.forIn_cons]
    exact ih (store.declare number n)

/-- **A script that parses is added.** -/
theorem run_addSource_of_ok {script : ScriptFile} (h : ScriptFile.parse name text = .ok script) :
    (addSource name text).run store = .ok () (store.push script) := by
  have hparsed : NumberedScript.parse store.scripts.length name text
      = .ok ⟨store.scripts.length, script⟩ := by
    rw [NumberedScript.parse, h]
    rfl
  unfold addSource
  refine (run_bind_of_ok rfl).trans ?_
  rw [hparsed]
  refine (run_bind_of_ok rfl).trans ((run_bind_of_ok (run_forIn_declare _ _ _)).trans ?_)
  have hscripts := scripts_declareAll store.scripts.length store script.statements
  exact congrArg (fun scripts => EStateM.Result.ok ()
    { declareAll store.scripts.length store script.statements with
      scripts := scripts ++ [NumberedScript.mk store.scripts.length script] }) hscripts

/-- **A script that does not parse leaves the store as it was.** -/
theorem run_addSource_of_error {e : ScriptError} (h : ScriptFile.parse name text = .error e) :
    (addSource name text).run store = .error e store := by
  have hparsed : NumberedScript.parse store.scripts.length name text = .error e := by
    rw [NumberedScript.parse, h]
    rfl
  unfold addSource
  refine (run_bind_of_ok rfl).trans ?_
  rw [hparsed]
  exact run_bind_of_error rfl

/-- **A store stays well formed**, whether a script is added to it or refused. -/
theorem WellFormed.addSource (h : store.WellFormed) (name text : String) :
    match (addSource name text).run store with
    | .ok _ store' => store'.WellFormed
    | .error _ store' => store'.WellFormed := by
  cases hs : ScriptFile.parse name text with
  | ok script =>
    rw [run_addSource_of_ok hs]
    exact h.push script
  | error e =>
    rw [run_addSource_of_error hs]
    exact h

end ScriptStore

end TypeTest

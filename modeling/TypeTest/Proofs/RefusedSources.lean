import TypeTest.Proofs.AddedSources

/-!
# Scripts that are refused

A script that does not parse leaves no trace in a program, although adding it starts before
the error is known: its number is taken from the store before it is parsed. But nothing is
entered into a table and no script is added before that, so the store that the error leaves
behind is the one that there was, in every part (`ScriptStore.run_addSource_of_error`). Had
it used up a number or entered a declaration, later scripts would have other numbers in the
references to their nodes, or other meanings of their names.

So among scripts of which some are refused, those that are not make the same program as if
they were alone (`withReadable_filter`): the same scripts under the same numbers, the same
tables, and hence the same answers to everything that can be asked about it. The strict way
of building a program stops at the first script that is refused. It succeeds exactly where
the lenient way leaves nothing out, and then with the same program.
-/

namespace TypeTest

/-- **Whether a script parses.** -/
def ScriptFile.isReadable (source : String × String) : Bool :=
  (ScriptFile.parse source.1 source.2).toOption.isSome

namespace ScriptFile

variable {source : String × String}

theorem isReadable_of_ok {file : ScriptFile} (h : parse source.1 source.2 = .ok file) :
    isReadable source = true := by
  rw [isReadable, h]
  rfl

theorem isReadable_of_error {e : ScriptError} (h : parse source.1 source.2 = .error e) :
    isReadable source = false := by
  rw [isReadable, h]
  rfl

theorem exists_parse_of_isReadable (h : isReadable source = true) :
    ∃ file, parse source.1 source.2 = .ok file := by
  cases hp : parse source.1 source.2 with
  | ok file => exact ⟨file, rfl⟩
  | error e =>
    rw [isReadable_of_error hp] at h
    cases h

end ScriptFile

namespace ScriptProgram

variable (p : ScriptProgram)

/-! ## One script -/

theorem withReadable_cons_of_ok {source : String × String} {file : ScriptFile}
    (h : ScriptFile.parse source.1 source.2 = .ok file) (sources : List (String × String)) :
    p.withReadable (source :: sources) = (p.push file).withReadable sources := by
  rw [withReadable, List.foldl_cons, addSource_of_ok h]
  rfl

/-- **A script that is refused leaves the program as it is.** -/
theorem withReadable_cons_of_error {source : String × String} {e : ScriptError}
    (h : ScriptFile.parse source.1 source.2 = .error e) (sources : List (String × String)) :
    p.withReadable (source :: sources) = p.withReadable sources := by
  rw [withReadable, List.foldl_cons, addSource_of_error h]
  rfl

/-! ## Scripts of which some are refused -/

/-- **Scripts that are refused make no difference to the others.** -/
theorem withReadable_filter (sources : List (String × String)) :
    p.withReadable (sources.filter ScriptFile.isReadable) = p.withReadable sources := by
  induction sources generalizing p with
  | nil => rfl
  | cons source sources ih =>
    cases hs : ScriptFile.parse source.1 source.2 with
    | ok file =>
      rw [List.filter_cons_of_pos (ScriptFile.isReadable_of_ok hs),
        withReadable_cons_of_ok p hs, withReadable_cons_of_ok p hs, ih]
    | error e =>
      rw [List.filter_cons_of_neg (ne_true_of_eq_false (ScriptFile.isReadable_of_error hs)),
        withReadable_cons_of_error p hs, ih]

/-- **The scripts of a program are those that parse.** -/
theorem files_withReadable (sources : List (String × String)) :
    (p.withReadable sources).files
      = p.files ++ sources.filterMap fun s => (ScriptFile.parse s.1 s.2).toOption := by
  induction sources generalizing p with
  | nil => exact (List.append_nil _).symm
  | cons source sources ih =>
    cases hs : ScriptFile.parse source.1 source.2 with
    | ok file =>
      rw [withReadable_cons_of_ok p hs, ih, List.filterMap_cons, hs, files_push, List.append_assoc]
      rfl
    | error e =>
      rw [withReadable_cons_of_error p hs, ih, List.filterMap_cons, hs]
      rfl

/-! ## Stopping at the first script that is refused -/

theorem withSources_cons_of_ok {source : String × String} {file : ScriptFile}
    (h : ScriptFile.parse source.1 source.2 = .ok file) (sources : List (String × String)) :
    p.withSources (source :: sources) = (p.push file).withSources sources := by
  rw [withSources, addSource_of_ok h]

theorem withSources_cons_of_error {source : String × String} {e : ScriptError}
    (h : ScriptFile.parse source.1 source.2 = .error e) (sources : List (String × String)) :
    p.withSources (source :: sources) = .error e := by
  rw [withSources, addSource_of_error h]

/-- **Scripts that all parse are all added.** -/
theorem withSources_of_readable {sources : List (String × String)}
    (h : ∀ source ∈ sources, ScriptFile.isReadable source = true) :
    p.withSources sources = .ok (p.withReadable sources) := by
  induction sources generalizing p with
  | nil => rfl
  | cons source sources ih =>
    obtain ⟨file, hs⟩ := ScriptFile.exists_parse_of_isReadable (h source List.mem_cons_self)
    rw [withSources_cons_of_ok p hs, withReadable_cons_of_ok p hs]
    exact ih _ fun s hmem => h s (List.mem_cons_of_mem _ hmem)

/-- **What stops the building of a program is the first script that is refused.** -/
theorem withSources_eq_error_iff {sources : List (String × String)} {e : ScriptError} :
    p.withSources sources = .error e
      ↔ ∃ before source after, sources = before ++ source :: after
          ∧ (∀ s ∈ before, ScriptFile.isReadable s = true)
          ∧ ScriptFile.parse source.1 source.2 = .error e := by
  constructor
  · intro h
    induction sources generalizing p with
    | nil => cases h
    | cons source sources ih =>
      cases hs : ScriptFile.parse source.1 source.2 with
      | ok file =>
        rw [withSources_cons_of_ok p hs] at h
        obtain ⟨before, refused, after, rfl, hbefore, he⟩ := ih _ h
        refine ⟨source :: before, refused, after, rfl, fun s hmem => ?_, he⟩
        rcases List.mem_cons.mp hmem with rfl | hmem
        · exact ScriptFile.isReadable_of_ok hs
        · exact hbefore s hmem
      | error e' =>
        rw [withSources_cons_of_error p hs] at h
        cases h
        exact ⟨[], source, sources, rfl, fun _ hmem => absurd hmem List.not_mem_nil, hs⟩
  · rintro ⟨before, source, after, rfl, hbefore, he⟩
    induction before generalizing p with
    | nil => exact withSources_cons_of_error p he after
    | cons s before ih =>
      obtain ⟨file, hs⟩ := ScriptFile.exists_parse_of_isReadable (hbefore s List.mem_cons_self)
      rw [List.cons_append, withSources_cons_of_ok p hs]
      exact ih _ fun s' hmem => hbefore s' (List.mem_cons_of_mem _ hmem)

/-- **A program of all given scripts exists exactly if each of them parses.** -/
theorem exists_withSources_iff {sources : List (String × String)} :
    (∃ p', p.withSources sources = .ok p')
      ↔ ∀ source ∈ sources, ScriptFile.isReadable source = true := by
  refine ⟨?_, fun h => ⟨_, p.withSources_of_readable h⟩⟩
  rintro ⟨p', h⟩
  induction sources generalizing p with
  | nil => exact fun _ hmem => absurd hmem List.not_mem_nil
  | cons source sources ih =>
    cases hs : ScriptFile.parse source.1 source.2 with
    | error e =>
      rw [withSources_cons_of_error p hs] at h
      cases h
    | ok file =>
      rw [withSources_cons_of_ok p hs] at h
      exact List.forall_mem_cons.mpr ⟨ScriptFile.isReadable_of_ok hs, ih _ h⟩

end ScriptProgram

/-- **A script that does not parse leaves no trace.** Adding it to a store, whatever the store
holds, ends with its error and with the scripts, the functions and the variables that were
there; adding it to a program is answered with its error and the program as it was. Adding
scripts of which some do not parse makes the program that the others make: its scripts are
those that parse, in their order and numbered without gaps, and it is what the strict way
makes of these. The strict way succeeds exactly if all scripts parse, and otherwise fails with
the error of the first that does not. -/
theorem ScriptProgram.refused_without_trace :
    (∀ (name text : String) (e : ScriptError), ScriptFile.parse name text = .error e →
        (∀ store : ScriptStore, (ScriptStore.addSource name text).run store = .error e store)
          ∧ ∀ p : ScriptProgram, p.addSource name text = (.error e, p))
      ∧ (∀ (p : ScriptProgram) (sources : List (String × String)),
          p.withReadable sources = p.withReadable (sources.filter ScriptFile.isReadable))
      ∧ ∀ sources : List (String × String),
          ofSources (sources.filter ScriptFile.isReadable) = .ok (ofReadable sources)
            ∧ (ofReadable sources).files
              = sources.filterMap (fun s => (ScriptFile.parse s.1 s.2).toOption)
            ∧ (ofReadable sources).store.scripts.map NumberedScript.number
              = List.range (ofReadable sources).files.length
            ∧ ((∃ p, ofSources sources = .ok p)
              ↔ ∀ source ∈ sources, ScriptFile.isReadable source = true)
            ∧ ∀ e, ofSources sources = .error e
              ↔ ∃ before source after, sources = before ++ source :: after
                  ∧ (∀ s ∈ before, ScriptFile.isReadable s = true)
                  ∧ ScriptFile.parse source.1 source.2 = .error e := by
  refine ⟨fun name text e h => ⟨fun store => ScriptStore.run_addSource_of_error h,
    fun p => addSource_of_error h⟩, fun p sources => (p.withReadable_filter sources).symm,
    fun sources => ⟨?_, ?_, ?_, ?_, fun e => ?_⟩⟩
  · have hall : ∀ s ∈ sources.filter ScriptFile.isReadable, ScriptFile.isReadable s = true :=
      fun s hs => (List.mem_filter.mp hs).2
    have hok := empty.withSources_of_readable hall
    rwa [withReadable_filter] at hok
  · exact empty.files_withReadable sources
  · rw [files, List.length_map]
    exact (ofReadable sources).wellFormed.numbered
  · exact empty.exists_withSources_iff
  · exact empty.withSources_eq_error_iff

end TypeTest

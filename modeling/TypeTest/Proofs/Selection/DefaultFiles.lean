import TypeTest.CommandLine
import TypeTest.Proofs.Counters
import TypeTest.Proofs.Selection.Occurrence

/-!
# The files that are tested by default

Where nothing else is said, the files to test and the files to leave out are given by two
patterns. Both begin with `.*`, which makes no difference to where a pattern occurs, since it may
match nothing. So the first one asks for an end of the name, and the second one for a part of it,
and line breaks in the name, which the dot does not match, are no concern of either.

What stands behind `.*` in the first pattern matches some words only, which are read off the
expression (`PatternExpr.words?`).
-/

namespace TypeTest

/-! ## Expressions for words -/

/-- **A word stands in a text** between two places. -/
def StandsBetween (text word : List Char) (i j : Nat) : Prop :=
  j = i + word.length ∧ text.drop i = word ++ text.drop j

section StandsBetween

variable {text : List Char} {i j k : Nat}

theorem standsBetween_nil : StandsBetween text [] i j ↔ i = j :=
  ⟨fun h => h.1.symm, fun h => h ▸ ⟨rfl, rfl⟩⟩

/-- Two words, one after the other. -/
theorem standsBetween_append {word more : List Char} :
    StandsBetween text (word ++ more) i k
      ↔ ∃ j, StandsBetween text word i j ∧ StandsBetween text more j k := by
  unfold StandsBetween
  constructor
  · rintro ⟨rfl, h⟩
    have hmore : text.drop (i + word.length)
        = more ++ text.drop (i + (word ++ more).length) := by
      rw [← List.drop_drop, h, List.append_assoc, List.drop_left]
    refine ⟨i + word.length, ⟨rfl, ?_⟩, ?_, hmore⟩
    · rw [hmore, ← List.append_assoc, h]
    · rw [List.length_append, Nat.add_assoc]
  · rintro ⟨j, ⟨rfl, h⟩, rfl, h'⟩
    refine ⟨by rw [List.length_append, Nat.add_assoc], ?_⟩
    rw [h, h', List.append_assoc]

/-- A word stands at an end of a text if it is one. -/
theorem exists_standsBetween_length {word : List Char} :
    (∃ i, StandsBetween text word i text.length) ↔ word <:+ text := by
  constructor
  · rintro ⟨i, _, h⟩
    rw [List.drop_length, List.append_nil] at h
    exact h ▸ List.drop_suffix i text
  · rintro ⟨before, rfl⟩
    refine ⟨before.length, List.length_append, ?_⟩
    rw [List.drop_left, List.drop_length, List.append_nil]

/-- A word stands somewhere in a text if it is a part of it. -/
theorem exists_standsBetween {word : List Char} :
    (∃ i j, i ≤ text.length ∧ StandsBetween text word i j) ↔ word <:+: text := by
  constructor
  · rintro ⟨i, j, _, _, h⟩
    refine ⟨text.take i, text.drop j, ?_⟩
    rw [List.append_assoc, ← h, List.take_append_drop]
  · rintro ⟨before, after, rfl⟩
    refine ⟨before.length, before.length + word.length, ?_, rfl, ?_⟩
    · rw [List.append_assoc, List.length_append]
      exact Nat.le_add_right _ _
    · rw [List.append_assoc, List.drop_left, ← List.drop_drop, List.drop_left, List.drop_left]

end StandsBetween

namespace PatternExpr

/-- **The words that an expression matches**, if it is made of single characters. -/
def words? : PatternExpr → Option (List (List Char))
  | .empty => some [[]]
  | .one (.one c) => some [[c]]
  | .seq e f =>
    e.words?.bind fun us => f.words?.map fun vs => us.flatMap fun u => vs.map (u ++ ·)
  | .alt e f => e.words?.bind fun us => f.words?.map fun vs => us ++ vs
  | .rep e 0 (some 1) => e.words?.map ([] :: ·)
  | _ => none

/-- One character, and then an expression. -/
def spelled (word : List Char) (e : PatternExpr) : PatternExpr :=
  word.foldr (fun c e => .seq (.one (.one c)) e) e

variable {text : List Char} {e : PatternExpr} {i j k : Nat}

theorem matches_char {c : Char} :
    (one (.one c)).Matches text i j ↔ StandsBetween text [c] i j := by
  unfold Matches StandsBetween
  rw [and_comm]
  refine and_congr_right fun hj => ?_
  subst hj
  rw [Option.any_eq_true]
  constructor
  · rintro ⟨d, hd, hc⟩
    obtain rfl := eq_of_beq hc
    obtain ⟨hi, hget⟩ := List.getElem?_eq_some_iff.mp hd
    rw [List.drop_eq_getElem_cons hi, hget]
    rfl
  · intro h
    refine ⟨c, ?_, beq_self_eq_true c⟩
    rw [← List.head?_drop, h]
    rfl

/-- **An expression matches its words** and nothing else. -/
theorem matches_iff_of_words? {ws : List (List Char)} (h : e.words? = some ws) :
    e.Matches text i j ↔ ∃ w ∈ ws, StandsBetween text w i j := by
  fun_induction words? e generalizing ws i j with
  | case1 =>
    cases h
    simpa [Matches] using standsBetween_nil.symm
  | case2 c =>
    cases h
    simpa using matches_char
  | case3 e f ihe ihf =>
    obtain ⟨us, hus, h⟩ := Option.bind_eq_some_iff.mp h
    obtain ⟨vs, hvs, rfl⟩ := Option.map_eq_some_iff.mp h
    constructor
    · rintro ⟨k, he, hf⟩
      obtain ⟨u, hu, hik⟩ := (ihe hus).mp he
      obtain ⟨v, hv, hkj⟩ := (ihf hvs).mp hf
      exact ⟨u ++ v, List.mem_flatMap.mpr ⟨u, hu, List.mem_map_of_mem hv⟩,
        standsBetween_append.mpr ⟨k, hik, hkj⟩⟩
    · rintro ⟨w, hw, h⟩
      obtain ⟨u, hu, hw⟩ := List.mem_flatMap.mp hw
      obtain ⟨v, hv, rfl⟩ := List.mem_map.mp hw
      obtain ⟨k, hik, hkj⟩ := standsBetween_append.mp h
      exact ⟨k, (ihe hus).mpr ⟨u, hu, hik⟩, (ihf hvs).mpr ⟨v, hv, hkj⟩⟩
  | case4 e f ihe ihf =>
    obtain ⟨us, hus, h⟩ := Option.bind_eq_some_iff.mp h
    obtain ⟨vs, hvs, rfl⟩ := Option.map_eq_some_iff.mp h
    simp only [Matches, ihe hus, ihf hvs, List.mem_append, or_and_right, exists_or]
  | case5 e ih =>
    obtain ⟨us, hus, rfl⟩ := Option.map_eq_some_iff.mp h
    rw [List.exists_mem_cons_iff, standsBetween_nil, ← ih hus]
    constructor
    · rintro ⟨n, _, hn, hturns⟩
      have hle := hn 1 rfl
      obtain rfl | rfl : n = 0 ∨ n = 1 := by omega
      · exact .inl hturns
      · exact .inr (turns_one.mp hturns)
    · rintro (he | h)
      · exact ⟨0, Nat.le_refl 0, fun m _ => Nat.zero_le _, he⟩
      · refine ⟨1, Nat.zero_le 1, ?_, turns_one.mpr h⟩
        rintro m ⟨⟩
        exact Nat.le_refl 1
  | case6 => cases h

theorem matches_spelled {word : List Char} :
    (spelled word e).Matches text i k
      ↔ ∃ j, StandsBetween text word i j ∧ e.Matches text j k := by
  induction word generalizing i with
  | nil =>
    constructor
    · exact fun h => ⟨i, standsBetween_nil.mpr rfl, h⟩
    · rintro ⟨j, hj, h⟩
      exact standsBetween_nil.mp hj ▸ h
  | cons c word ih =>
    constructor
    · rintro ⟨j, hc, h⟩
      obtain ⟨l, hl, h⟩ := ih.mp h
      exact ⟨l, standsBetween_append.mpr ⟨j, matches_char.mp hc, hl⟩, h⟩
    · rintro ⟨l, hl, h⟩
      have hword : StandsBetween text ([c] ++ word) i l := hl
      obtain ⟨j, hc, hj⟩ := standsBetween_append.mp hword
      exact ⟨j, matches_char.mpr hc, ih.mpr ⟨l, hj, h⟩⟩

/-! ## Where the rest of the text makes no difference -/

/-- A repetition may match nothing. -/
theorem matches_rep_self (e : PatternExpr) (most : Option Nat) (text : List Char) (i : Nat) :
    (rep e 0 most).Matches text i i :=
  ⟨0, Nat.le_refl 0, fun _ _ => Nat.zero_le _, rfl⟩

/-- **What may match nothing makes no difference before an expression** to whether that occurs. -/
theorem occursIn_seq_rep (e f : PatternExpr) (most : Option Nat) (text : String) :
    (seq (rep e 0 most) f).occursIn text = f.occursIn text := by
  rw [Bool.eq_iff_iff, occursIn_iff, occursIn_iff]
  constructor
  · rintro ⟨i, j, hi, k, hrep, h⟩
    have hk := hrep.le
    exact ⟨k, j, by omega, h⟩
  · rintro ⟨i, j, hi, h⟩
    exact ⟨i, j, hi, i, matches_rep_self e most _ i, h⟩

/-- **Words at the end**: an expression before the end of the text occurs if one of its words
ends the text. -/
theorem occursIn_ending {f : PatternExpr} {ws : List (List Char)} (h : f.words? = some ws)
    (e : PatternExpr) (most : Option Nat) (text : String) :
    (seq (rep e 0 most) (seq f (here .textEnd))).occursIn text = true
      ↔ ∃ w ∈ ws, w <:+ text.toList := by
  rw [occursIn_seq_rep, occursIn_iff]
  constructor
  · rintro ⟨i, j, _, k, hf, rfl, hk, hend⟩
    obtain ⟨w, hw, hwk⟩ := (matches_iff_of_words? h).mp hf
    have hlength : k = text.toList.length :=
      Nat.le_antisymm hk (List.getElem?_eq_none_iff.mp (Option.isNone_iff_eq_none.mp hend))
    exact ⟨w, hw, exists_standsBetween_length.mp ⟨i, hlength ▸ hwk⟩⟩
  · rintro ⟨w, hw, hsuffix⟩
    obtain ⟨i, hi⟩ := exists_standsBetween_length.mpr hsuffix
    refine ⟨i, _, by have := hi.1; omega, text.toList.length,
      (matches_iff_of_words? h).mpr ⟨w, hw, hi⟩, rfl, Nat.le_refl _, ?_⟩
    exact Option.isNone_iff_eq_none.mpr (List.getElem?_eq_none (Nat.le_refl _))

/-- **A word between anything** occurs if it is a part of the text. -/
theorem occursIn_containing (e f : PatternExpr) (most most' : Option Nat) (word : List Char)
    (text : String) :
    (seq (rep e 0 most) (spelled word (rep f 0 most'))).occursIn text = true
      ↔ word <:+: text.toList := by
  rw [occursIn_seq_rep, occursIn_iff, ← exists_standsBetween]
  constructor
  · rintro ⟨i, _, hi, h⟩
    obtain ⟨j, hj, _⟩ := matches_spelled.mp h
    exact ⟨i, j, hi, hj⟩
  · rintro ⟨i, j, hi, hj⟩
    exact ⟨i, j, hi, matches_spelled.mpr ⟨j, hj, matches_rep_self f most' _ j⟩⟩

end PatternExpr

/-! ## The default patterns -/

/-- How the names of test files end. -/
def testEndings : List String := [".spec.ts", ".spec-types.ts", ".test.ts", ".test-types.ts"]

/-- **The name of a test file**: it ends like one, and does not name the folder of installed
packages. -/
def IsTestName (name : String) : Prop :=
  (∃ ending ∈ testEndings, ending.toList <:+ name.toList)
    ∧ ¬ "node_modules".toList <:+: name.toList

instance (name : String) : Decidable (IsTestName name) :=
  inferInstanceAs (Decidable (_ ∧ _))

namespace RunSettings

open PatternExpr

/-- Anything within a line. -/
def anything : PatternExpr := .rep (.one .notLineFeed) 0 none

/-- What the default pattern of the files to test asks for at the end of a name. -/
def testEnding : PatternExpr :=
  .seq (.one (.one '.'))
    (.seq (.alt (spelled "spe".toList (.one (.one 'c'))) (spelled "tes".toList (.one (.one 't'))))
      (.seq (.rep (spelled "-type".toList (.one (.one 's'))) 0 (some 1))
        (spelled ".t".toList (.one (.one 's')))))

theorem words?_testEnding : testEnding.words? = some (testEndings.map String.toList) := by
  decide

/-- The default pattern of the files to test. -/
def testFiles : Pattern := ⟨defaultIncluded, .seq anything (.seq testEnding (.here .textEnd))⟩

/-- The default pattern of the files to leave out. -/
def packageFiles : Pattern :=
  ⟨defaultExcluded, .seq anything (spelled "node_modules".toList anything)⟩

/-- **Both default texts are patterns** within the limits. -/
theorem of_default : RunSettings.of {} {} = .ok ⟨false, [testFiles], [packageFiles]⟩ := by
  have hincluded : Pattern.ofText? defaultIncluded = some testFiles := by decide +kernel
  have hexcluded : Pattern.ofText? defaultExcluded = some packageFiles := by decide +kernel
  unfold RunSettings.of
  simp only [RunOptions.inclusion, RunOptions.exclusion, Option.map_none, Option.or_none,
    Option.getD_none, List.mapM_cons, List.mapM_nil, pattern, hincluded, hexcluded]
  rfl

/-- **By default the files with the names of test files are tested.** -/
theorem selects_default (name : String) :
    RunSettings.selects ⟨false, [testFiles], [packageFiles]⟩ name = decide (IsTestName name) := by
  have hincluded : testFiles.accepts name = true
      ↔ ∃ ending ∈ testEndings, ending.toList <:+ name.toList := by
    refine (occursIn_ending words?_testEnding _ none name).trans ?_
    simp only [List.mem_map, exists_exists_and_eq_and]
  have hexcluded : packageFiles.accepts name = true ↔ "node_modules".toList <:+: name.toList :=
    occursIn_containing _ _ none none _ name
  rw [Bool.eq_iff_iff, decide_eq_true_iff, IsTestName, ← hincluded, ← hexcluded]
  simp [RunSettings.selects]

/-- **The files tested where nothing is said** are those with the names of test files, in the
order of the program. That is so for every program of a host, and of the program that the scripts
of a folder make if it has no project file and the program is called without arguments. -/
theorem tests_by_default :
    ∃ settings, RunSettings.of {} {} = .ok settings
      ∧ (∀ {ν : Type} (program : HostProgram ν),
          (program.run settings.selects).files
            = (program.files.filter fun file => IsTestName file.name).map
                fun file => ⟨file.name, file.walk program.oracle⟩)
      ∧ ∀ (root : String) (folder : Folder) (milliseconds : Int),
          folder.find? ProjectSettings.fileName = none →
            CommandLine.execute root folder [] milliseconds
              = CommandLine.outcome
                  (.ok (settings,
                    (ScriptProgram.ofReadable (folder.sources root)).toHost.run settings.selects))
                  milliseconds := by
  refine ⟨_, of_default, fun program => ?_, fun root folder milliseconds hnone => ?_⟩
  · rw [funext selects_default]
    exact RunResult.files_ofFiles _
  · have hproject : folder.project = {} := by
      unfold Folder.project Folder.project?
      rw [hnone]
    show CommandLine.outcome (CommandLine.test root folder {}) milliseconds = _
    unfold CommandLine.test
    rw [hproject, of_default]
    rfl

/-- A folder without a project file. The name of its first script is in two lines. -/
def namesInLines : Folder :=
  .file "a\nb.test.ts" "f();".toUTF8 (.file "a.ts" "".toUTF8 .empty)

/-- The script with the two lines in its name is tested, and the other one is not. -/
theorem tests_namesInLines :
    namesInLines.find? ProjectSettings.fileName = none
      ∧ ∃ run, CommandLine.execute "project" namesInLines [] 0
            = CommandLine.outcome (.ok (⟨false, [testFiles], [packageFiles]⟩, run)) 0
          ∧ run.files.map FileResult.name = ["a\nb.test.ts"] := by
  have hnone : namesInLines.find? ProjectSettings.fileName = none := by decide +kernel
  obtain ⟨settings, hsettings, hfiles, hfolder⟩ := tests_by_default
  obtain rfl := Except.ok.inj (of_default.symm.trans hsettings)
  refine ⟨hnone, _, hfolder "project" namesInLines 0 hnone, ?_⟩
  rw [hfiles, List.map_map]
  decide +kernel

end RunSettings

end TypeTest

import Mathlib.Data.List.TakeWhile
import TypeTest.Sentinel

/-!
# A message is decoded wherever it is displayed

The display of a type can hold a failure message anywhere: behind other types, with blanks
around the opening bracket, and in front of more types, which may have sentinels and quotes of
their own. The message is found all the same. The first sentinel is the one that was put in,
because its word has **no border**, no beginning that is also an end: so no occurrence starts in
the text before it and ends within it. And the message ends at its own closing quote, since
every quote in it stands behind a backslash.

What a message shows as the expected type stands between its first two backticks.
-/

namespace TypeTest

/-! ## What is shown of a message -/

/-- **What stands between the first two backticks** of a text: nothing if there is none, and
after a lone one all that follows. -/
inductive BetweenBackticks : List Char → Option (List Char) → Prop where
  | none {text : List Char} : '\x60' ∉ text → BetweenBackticks text none
  | lone {before after : List Char} : '\x60' ∉ before → '\x60' ∉ after →
    BetweenBackticks (before ++ '\x60' :: after) (some after)
  | closed {before inside after : List Char} : '\x60' ∉ before → '\x60' ∉ inside →
    BetweenBackticks (before ++ '\x60' :: (inside ++ '\x60' :: after)) (some inside)

/-- Nothing is shown exactly if there is no backtick. -/
theorem BetweenBackticks.eq_none_iff {text : List Char} {shown : Option (List Char)}
    (h : BetweenBackticks text shown) : shown = .none ↔ '\x60' ∉ text := by
  cases h with
  | none h => exact ⟨fun _ => h, fun _ => rfl⟩
  | lone => simp
  | closed => simp

namespace Sentinel

/-- **The expected type that a message shows** stands between its first two backticks. -/
theorem betweenBackticks_simplifiedExpected (message : List Char) :
    BetweenBackticks message (simplifiedExpected message) := by
  have hne : ∀ {cs : List Char}, '\x60' ∉ cs → ∀ c ∈ cs, (c != '\x60') = true :=
    fun h c hc => bne_iff_ne.mpr fun he => h (he ▸ hc)
  unfold simplifiedExpected
  by_cases hfirst : '\x60' ∈ message
  · obtain ⟨before, after, rfl, hbefore⟩ := List.eq_append_cons_of_mem hfirst
    have hdrop : (before ++ '\x60' :: after).dropWhile (· != '\x60') = '\x60' :: after :=
      List.dropWhile_append_of_pos (hne hbefore)
    rw [hdrop]
    by_cases hsecond : '\x60' ∈ after
    · obtain ⟨inside, rest, rfl, hinside⟩ := List.eq_append_cons_of_mem hsecond
      have htake : (inside ++ '\x60' :: rest).takeWhile (· != '\x60') = inside :=
        (List.takeWhile_append_of_pos (hne hinside)).trans (List.append_nil inside)
      dsimp only
      rw [htake]
      exact .closed hbefore hinside
    · have htake : after.takeWhile (· != '\x60') = after :=
        List.takeWhile_eq_self_iff.mpr (hne hsecond)
      dsimp only
      rw [htake]
      exact .lone hbefore hsecond
  · have hdrop : message.dropWhile (· != '\x60') = [] :=
      List.dropWhile_eq_nil_iff.mpr (hne hfirst)
    rw [hdrop]
    exact .none hfirst

/-! ## The first sentinel -/

/-- **A word without a border**: no end of it but itself is a beginning of it. -/
def Unbordered (word : List Char) : Prop :=
  ∀ count, 0 < count → count < word.length → ¬ word.drop count <+: word

theorem unbordered_token : Unbordered token := by
  have h : ∀ count < token.length, 0 < count → ¬ token.drop count <+: token := by decide
  exact fun count hpos hlt => h count hlt hpos

variable {word before rest : List Char}

/-- **No occurrence of a word starts in front of the word**, if the text there does not hold it
and it has no border. -/
theorem Unbordered.not_prefix_append (hu : Unbordered word) (hb : ¬ word <:+: before)
    (hne : before ≠ []) : ¬ word <+: before ++ (word ++ rest) := by
  intro h
  rcases List.prefix_or_prefix_of_prefix h (List.prefix_append before (word ++ rest)) with hw | hw
  · exact hb hw.isInfix
  · obtain ⟨tail, rfl⟩ := hw
    have htail : tail <+: before ++ tail := by
      refine List.prefix_of_prefix_length_le ?_ (List.prefix_append (before ++ tail) rest) ?_
      · exact (List.prefix_append_right_inj before).mp h
      · rw [List.length_append]
        exact Nat.le_add_left _ _
    by_cases hnil : tail = []
    · rw [hnil, List.append_nil] at hb
      exact hb (List.infix_refl before)
    · refine hu before.length (List.length_pos_iff.mpr hne) ?_ ?_
      · rw [List.length_append]
        exact Nat.lt_add_of_pos_right (List.length_pos_iff.mpr hnil)
      · rwa [List.drop_left]

/-- **The first occurrence of a word** is the one that was put behind a text without it. -/
theorem Unbordered.afterFirst_append (hu : Unbordered word) (hb : ¬ word <:+: before) :
    afterFirst word (before ++ (word ++ rest)) = some rest := by
  induction before with
  | nil =>
    have hstart : afterStart word (word ++ rest) = some rest := afterStart_eq_some_iff.mpr rfl
    cases word with
    | nil => exact absurd (List.infix_refl []) hb
    | cons w ws => rw [List.nil_append, List.cons_append, afterFirst, ← List.cons_append, hstart]
  | cons c cs ih =>
    have hnone : afterStart word (c :: cs ++ (word ++ rest)) = none := by
      refine Option.not_isSome_iff_eq_none.mp fun h => ?_
      exact hu.not_prefix_append hb (List.cons_ne_nil c cs) (isSome_afterStart_iff.mp h)
    rw [List.cons_append, afterFirst, ← List.cons_append, hnone]
    exact ih fun h => hb (h.trans (List.suffix_cons c cs).isInfix)

/-! ## The message -/

/-- **A written message is read** from what stands behind the sentinel. -/
theorem messageAfter_of_isWritten {quote : Char} {message written gap inner : List Char}
    (hq : quote = '"' ∨ quote = '\'') (hw : IsWritten quote message written)
    (hgap : ∀ c ∈ gap, isBlank c = true) (hinner : ∀ c ∈ inner, isBlank c = true) :
    messageAfter (gap ++ '<' :: (inner ++ quote :: (written ++ quote :: rest))) = message := by
  have hquote : isBlank quote = false := by
    rcases hq with rfl | rfl <;> decide
  have hpayload : payloadMessage (quote :: (written ++ quote :: rest))
      = unquote quote (written ++ quote :: rest) := by
    rcases hq with rfl | rfl <;> rfl
  unfold messageAfter
  rw [trimStart_append hgap, trimStart_cons, if_neg (by decide)]
  show payloadMessage (trimStart _) = _
  rw [trimStart_append hinner, trimStart_cons, hquote, if_neg Bool.false_ne_true, hpayload]
  exact unquote_of_isWritten hq hw rest

/-- **The written message is decoded**, with the part of it between its first two backticks. -/
theorem decode_of_isWritten {quote : Char} {message written gap inner : List Char}
    (hq : quote = '"' ∨ quote = '\'') (hw : IsWritten quote message written)
    (hbefore : ¬ token <:+: before) (hgap : ∀ c ∈ gap, isBlank c = true)
    (hinner : ∀ c ∈ inner, isBlank c = true) (after : List Char) :
    decode (String.ofList (before
        ++ (token ++ (gap ++ '<' :: (inner ++ quote :: (written ++ quote :: after))))))
      = some ⟨String.ofList message, (simplifiedExpected message).map String.ofList⟩ := by
  unfold decode
  rw [String.toList_ofList, unbordered_token.afterFirst_append hbefore, Option.map_some,
    messageAfter_of_isWritten hq hw hgap hinner]

end Sentinel

/-! ## Messages in any display -/

/-- **A message to be written as a string literal**, in either kind of quotes. -/
structure QuotedMessage where
  message : String
  quote : Char
  isQuote : quote = '"' ∨ quote = '\''

/-- **A message displayed with a type**: a sentinel with a payload that says it, somewhere in a
text. -/
structure DisplayedMessage extends QuotedMessage where
  /-- The message between its quotes. -/
  written : List Char
  isWritten : Sentinel.IsWritten quote message.toList written
  /-- What stands before the sentinel, which is the first one. -/
  before : List Char
  isFirst : ¬ Sentinel.token <:+: before
  /-- What stands between the sentinel and the bracket, -/
  gap : List Char
  gap_blank : ∀ c ∈ gap, isBlank c = true
  /-- and between the bracket and the quote. -/
  inner : List Char
  inner_blank : ∀ c ∈ inner, isBlank c = true
  /-- What stands behind the closing quote. -/
  after : List Char

namespace DisplayedMessage

/-- The display of the type. -/
def text (d : DisplayedMessage) : String :=
  String.ofList (d.before ++ (Sentinel.token
    ++ (d.gap ++ '<' :: (d.inner ++ d.quote :: (d.written ++ d.quote :: d.after)))))

/-- **A displayed message is decoded as it was written**, whatever it says and wherever it
stands. No expected type is shown with it exactly if it has no backtick; else it is what stands
between its first two backticks, or behind a lone one. -/
theorem decode_text (d : DisplayedMessage) :
    ∃ shown, Sentinel.decode d.text = some ⟨d.message, shown⟩
      ∧ (shown = none ↔ '\x60' ∉ d.message.toList)
      ∧ BetweenBackticks d.message.toList (shown.map String.toList) := by
  have hdecode := Sentinel.decode_of_isWritten d.isQuote d.isWritten d.isFirst d.gap_blank
    d.inner_blank d.after
  have hshown := Sentinel.betweenBackticks_simplifiedExpected d.message.toList
  have htoList : String.toList ∘ String.ofList = id := funext fun _ => String.toList_ofList
  rw [String.ofList_toList] at hdecode
  refine ⟨_, hdecode, ?_, ?_⟩
  · rw [Option.map_eq_none_iff, hshown.eq_none_iff]
  · rw [Option.map_map, htoList, Option.map_id]
    exact hshown

/-- A message with both quotes, backticks and a backslash at its end, in front of another sentinel
and behind the beginning of one. -/
def amongOthers : DisplayedMessage where
  message := "it's \"\x60B\x60\" \\"
  quote := '\''
  isQuote := .inr rfl
  written := Sentinel.escape '\'' "it's \"\x60B\x60\" \\".toList
  isWritten := Sentinel.isWritten_escape _ _
  before := "A | RTT_FA".toList
  isFirst := by decide +kernel
  gap := ['\n']
  gap_blank := List.forall_mem_singleton.mpr (by decide)
  inner := [' ']
  inner_blank := List.forall_mem_singleton.mpr (by decide)
  after := "> & RTT_FAIL<\"no\">".toList

/-- The message is decoded among the others. -/
theorem decode_amongOthers :
    amongOthers.text
        = "A | RTT_FARTT_FAIL\n< 'it\\'s \"\x60B\x60\" \\\\'> & RTT_FAIL<\"no\">"
      ∧ ∃ shown, Sentinel.decode amongOthers.text = some ⟨"it's \"\x60B\x60\" \\", some shown⟩ := by
  obtain ⟨shown, hdecode, hnone, _⟩ := decode_text amongOthers
  have htick : '\x60' ∈ amongOthers.message.toList := by decide +kernel
  obtain ⟨shown, rfl⟩ := Option.ne_none_iff_exists'.mp fun h => hnone.mp h htick
  exact ⟨by decide +kernel, shown, hdecode⟩

end DisplayedMessage

end TypeTest

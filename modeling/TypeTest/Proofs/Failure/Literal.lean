import TypeTest.Proofs.Failure.Decoding
import TypeTest.Proofs.Printing.Types
import TypeTest.Proofs.TypeText.Segments

/-!
# A failure message in a type

A declaration that fails has a return type such as `RTT_FAIL<"no">`. The message in it is a
string literal that three readers come across, each with rules of its own for quotes and
backslashes: the scanner makes it one token, the substitution of type parameters goes over
it, and the decoder of sentinels reads the message from it. All three find its end at the
closing quote, and for all three what it says is the message that was written.
-/

namespace TypeTest

namespace QuotedMessage

/-- The message between its quotes, with backslash escapes. -/
def body (m : QuotedMessage) : List Char := Sentinel.escape m.quote m.message.toList

/-- The message as a string literal. -/
def literal (m : QuotedMessage) : String := String.ofList (m.quote :: (m.body ++ [m.quote]))

/-- **The type that displays as a failure** with the message. -/
def failingType (m : QuotedMessage) : String := "RTT_FAIL<" ++ m.literal ++ ">"

theorem toList_literal (m : QuotedMessage) :
    m.literal.toList = m.quote :: (m.body ++ [m.quote]) :=
  String.toList_ofList

theorem toList_failingType (m : QuotedMessage) :
    m.failingType.toList
      = Sentinel.token ++ '<' :: m.quote :: (m.body ++ [m.quote, '>']) := by
  have hopen : "RTT_FAIL<".toList = Sentinel.token ++ ['<'] := by decide
  have hclose : ">".toList = ['>'] := by decide
  rw [failingType, String.toList_append, String.toList_append, toList_literal, hopen, hclose]
  simp

end QuotedMessage

/-! ## The scanner -/

section Scanner

variable {opening cs rest : List Char} {quote c d : Char}

/-- An escaped character is read as what it stands for. -/
theorem readString_backslash (h : readEscape opening (c :: cs) = .ok ([d], cs)) {v : List Char}
    (hv : readString opening quote cs = .ok (v, rest)) :
    readString opening quote ('\\' :: c :: cs) = .ok (d :: v, rest) :=
  readString_of_readEscape h hv

/-- **An escaped text is read as the text**, up to the closing quote. -/
theorem readString_escape (hquote : quote = '"' ∨ quote = '\'') (message : List Char) :
    readString opening quote (Sentinel.escape quote message ++ quote :: rest)
      = .ok (message, rest) := by
  induction message with
  | nil =>
    rcases hquote with rfl | rfl
    · rw [Sentinel.escape, List.nil_append, readString, if_pos (beq_self_eq_true _)] <;> decide
    · rw [Sentinel.escape, List.nil_append, readString, if_pos (beq_self_eq_true _)] <;> decide
  | cons c cs ih =>
    rw [Sentinel.escape, List.append_assoc]
    split
    · rename_i hc
      rw [eq_of_beq hc]
      exact readString_backslash rfl ih
    split
    · rename_i hc
      rw [eq_of_beq hc]
      exact readString_backslash rfl ih
    split
    · rename_i hc
      refine readString_backslash ?_ ih
      rcases Bool.or_eq_true_iff.mp hc with hc | hc
      · rw [eq_of_beq hc]
        rfl
      · rw [eq_of_beq hc]
        rcases hquote with rfl | rfl <;> rfl
    · rename_i hn _ hc
      obtain ⟨hb, hq⟩ := Bool.or_eq_false_iff.mp (Bool.eq_false_iff.mpr hc)
      rw [List.singleton_append, readString, if_neg (Bool.eq_false_iff.mp hq), ih]
      · exact fun h => hn (beq_of_eq h)
      · exact fun h => Bool.eq_false_iff.mp hb (beq_of_eq h)

end Scanner

/-- **The literal of a message is one token**, a string that says the message. -/
theorem QuotedMessage.scans (m : QuotedMessage) :
    Lexeme.Scans ⟨.string m.message, m.literal⟩ := by
  refine ⟨m.quote, m.body ++ [m.quote], m.toList_literal, ?_, ?_⟩
  · rcases m.isQuote with h | h <;> rw [h] <;> decide
  · have hread := @readString_escape (m.quote :: (m.body ++ [m.quote])) [] _ m.isQuote
      m.message.toList
    have hstring : scanToken m.quote (m.body ++ [m.quote])
        = (readString (m.quote :: (m.body ++ [m.quote])) m.quote (m.body ++ [m.quote])).map
          fun r => (.string (String.ofList r.1), r.2) := by
      rcases m.isQuote with h | h <;> rw [h] <;> rfl
    rw [hstring]
    show (readString _ _ (Sentinel.escape _ _ ++ [_])).map _ = _
    rw [hread]
    show Except.ok (TokenKind.string (String.ofList _), _) = _
    rw [String.ofList_toList]

/-! ## The substitution -/

namespace TypeText

variable {bindings : Bindings}

/-- **A written message ends its region with its closing quote**, since every quote in it stands
behind a backslash. -/
theorem Region.of_isWritten {quote : Char} {message written : List Char}
    (h : Sentinel.IsWritten quote message written) : Region quote true (written ++ [quote]) := by
  induction h with
  | nil => exact .close
  | plain hbackslash hquote _ ih => exact .plain hbackslash hquote ih
  | kept _ _ ih => exact .escaped ih
  | lineBreak _ ih => exact .escaped ih
  | tab _ ih => exact .escaped ih

/-- **In the failing type of a message the literal is a region in quotes**, and the sentinel is
the only word. -/
theorem isSegmented_failingType (m : QuotedMessage) :
    IsSegmented m.failingType.toList
      [.word Sentinel.token, .mark '<', .quoted (m.quote :: (m.body ++ [m.quote])), .mark '>'] := by
  have hword : ∀ c ∈ Sentinel.token, isNamePart c = true :=
    List.all_eq_true.mp (by decide +kernel)
  have hopen : isNamePart '<' = false := by decide +kernel
  have hclose : isNamePart '>' = false := by decide +kernel
  have hquote : isQuote m.quote = true := by
    rcases m.isQuote with he | he <;> rw [he] <;> rfl
  have hregion : Region m.quote true (m.body ++ [m.quote]) :=
    .of_isWritten (Sentinel.isWritten_escape m.quote m.message.toList)
  have hliteral := IsSegmented.quoted hquote hregion nofun (.mark rfl hclose .nil)
  have hnext : ∀ c ∈ ('<' :: m.quote :: (m.body ++ [m.quote] ++ ['>'])).head?,
      isNamePart c = false := by
    rintro c ⟨rfl⟩
    exact hopen
  have htext := IsSegmented.word_append (by decide) hword hnext (.mark rfl hopen hliteral)
  rw [List.append_assoc] at htext
  rw [m.toList_failingType]
  exact htext

/-- **Substitution leaves the failing type of a message alone**, whatever names occur in the
message, unless it is the sentinel that is bound. -/
theorem substitute_failingType (m : QuotedMessage)
    (h : ∀ b ∈ bindings, b.1 ≠ "" ∧ b.1 ≠ "RTT_FAIL") :
    substitute m.failingType bindings = m.failingType := by
  refine substitute_eq_self (fun b hb => (h b hb).1) (isSegmented_failingType m)
    fun b hb hword => (h b hb).2 ?_
  simp only [List.mem_cons, Segment.word.injEq, reduceCtorEq, List.not_mem_nil, or_false] at hword
  exact String.toList_injective hword

end TypeText

/-! ## The decoder -/

namespace Sentinel

/-- **The failing type of a message is decoded to the message.** -/
theorem decode_failingType (m : QuotedMessage) :
    decode m.failingType
      = some ⟨m.message, (simplifiedExpected m.message.toList).map String.ofList⟩ := by
  have hblank : ∀ c ∈ ([] : List Char), isBlank c = true := fun _ h => absurd h List.not_mem_nil
  have hwritten := isWritten_escape m.quote m.message.toList
  have hdecode := @decode_of_isWritten [] _ _ _ _ _ m.isQuote hwritten (by decide) hblank hblank
    ['>']
  rw [String.ofList_toList] at hdecode
  rw [← hdecode]
  refine congrArg decode (String.toList_injective ?_)
  rw [m.toList_failingType, String.toList_ofList]
  rfl

end Sentinel

end TypeTest

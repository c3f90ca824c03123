import TypeTest.Proofs.Failure.Literal
import TypeTest.Script.Program

/-!
# The type of a string literal spells the string

The type of a string literal is a text: the string in double quotes, with escapes. Two readers
come across such a text. The scanner, which undoes escapes by rules of its own, must read the
string from it, and nothing else; and whoever looks for type arguments must find none,
whatever brackets and commas the string contains.

Both follow from one description of what an escape is (`EscapedAs`). A character stands for
itself, or behind a backslash as a letter that the scanner knows, or behind a backslash as its
number in braces. So no quote and no line break is left bare inside of the text, each escape is
read as its character, and the reader of types is in one region of quotes from the first
character of the text to the last.
-/

namespace TypeTest

/-! ## Numbers in base sixteen -/

theorem hexValue_digitChar : ∀ d < 16, hexValue d.digitChar = some d := by
  decide

/-- A digit more. -/
theorem hexNumber?_concat {cs : List Char} {c : Char} {n d : Nat} (h : hexNumber? cs = some n)
    (hc : hexValue c = some d) : hexNumber? (cs ++ [c]) = some (16 * n + d) := by
  cases cs with
  | nil => cases h
  | cons b cs =>
    have h : (b :: cs).foldl (fun n c => n.bind fun n => (hexValue c).map (16 * n + ·)) (some 0)
        = some n := h
    show ((b :: cs) ++ [c]).foldl _ _ = _
    rw [List.foldl_append, h, List.foldl_cons, List.foldl_nil, Option.bind_some, hc]
    rfl

/-- **The digits of a number are read as the number.** -/
theorem hexNumber?_hexDigits (n : Nat) : hexNumber? (hexDigits n) = some n := by
  induction n using Nat.strongRecOn with
  | ind n ih =>
    unfold hexDigits at ih ⊢
    rw [Nat.toDigits_eq_if (by decide)]
    split
    · rename_i hn
      show ((some 0).bind fun m => (hexValue n.digitChar).map (16 * m + ·)) = _
      rw [Option.bind_some, hexValue_digitChar n hn, Option.map_some, Nat.mul_zero, Nat.zero_add]
    · rename_i hn
      rw [hexNumber?_concat (ih (n / 16) (by omega))
        (hexValue_digitChar (n % 16) (Nat.mod_lt n (by decide))), Nat.div_add_mod]

/-- The digits of a number are digits. -/
theorem isSome_hexValue_of_mem_hexDigits {n : Nat} {c : Char} (h : c ∈ hexDigits n) :
    (hexValue c).isSome = true := by
  induction n using Nat.strongRecOn with
  | ind n ih =>
    unfold hexDigits at ih h
    rw [Nat.toDigits_eq_if (by decide)] at h
    split at h
    · rename_i hn
      rw [List.mem_singleton.mp h, hexValue_digitChar n hn]
      rfl
    · rename_i hn
      rcases List.mem_append.mp h with h | h
      · exact ih (n / 16) (by omega) h
      · rw [List.mem_singleton.mp h, hexValue_digitChar (n % 16) (Nat.mod_lt n (by decide))]
        rfl

/-- A character is the one with its number. -/
theorem charOfNat?_toNat (c : Char) : charOfNat? c.toNat = some c := by
  have hvalid : c.toNat.isValidChar := c.valid
  rw [charOfNat?, if_pos hvalid, Char.ofNat_toNat]

/-- **The number of a character in braces is read as the character.** -/
theorem readBraced_hexDigits (opening : List Char) (c : Char) (rest : List Char) :
    readBraced opening (hexDigits c.toNat ++ '\x7d' :: rest) = .ok ([c], rest) := by
  have hdigits : ∀ d ∈ hexDigits c.toNat, (hexValue d).isSome = true :=
    fun d hd => isSome_hexValue_of_mem_hexDigits hd
  have hbrace : ¬ (hexValue '\x7d').isSome = true := by decide
  have htake : ('\x7d' :: rest).takeWhile (fun d => (hexValue d).isSome) = [] :=
    List.takeWhile_cons_of_neg hbrace
  have hdrop : ('\x7d' :: rest).dropWhile (fun d => (hexValue d).isSome) = '\x7d' :: rest :=
    List.dropWhile_cons_of_neg hbrace
  unfold readBraced
  dsimp only
  rw [List.takeWhile_append_of_pos hdigits, List.dropWhile_append_of_pos hdigits, htake, hdrop,
    List.append_nil, hexNumber?_hexDigits, Option.bind_some, charOfNat?_toNat]
  rfl

/-! ## Escapes -/

/-- **How a character may stand in a string in double quotes.** -/
inductive EscapedAs (c : Char) : List Char → Prop where
  | itself : c ≠ '\\' → c ≠ '"' → c ≠ '\n' → EscapedAs c [c]
  /-- Behind a backslash, as a character that stands for it there. -/
  | letter {d : Char} : escapedChar d = c → d ≠ '\n' → d ≠ 'x' → d ≠ 'u' → EscapedAs c ['\\', d]
  | number : EscapedAs c (numberEscape c)

/-- **Each character of a quoted string is escaped in one of the three ways.** -/
theorem escapedAs_escapeExcept (c : Char) : EscapedAs c (escapeExcept ['\''] c) := by
  unfold escapeExcept
  split
  · rename_i hkept
    obtain rfl := List.mem_singleton.mp (List.contains_iff_mem.mp hkept)
    exact .itself (by decide) (by decide) (by decide)
  split
  · exact .letter rfl (by decide) (by decide) (by decide)
  · exact .letter rfl (by decide) (by decide) (by decide)
  · exact .letter rfl (by decide) (by decide) (by decide)
  · exact .letter rfl (by decide) (by decide) (by decide)
  · exact .letter rfl (by decide) (by decide) (by decide)
  · exact .letter rfl (by decide) (by decide) (by decide)
  · exact .letter rfl (by decide) (by decide) (by decide)
  · split
    · exact .number
    · exact .itself ‹_› ‹_› ‹_›

theorem numberEscape_append (c : Char) (more : List Char) :
    numberEscape c ++ more = '\\' :: 'u' :: '\x7b' :: (hexDigits c.toNat ++ '\x7d' :: more) := by
  simp [numberEscape]

section Reading

variable {c : Char} {cs v opening rest : List Char}

/-- **An escape is read as its character.** -/
theorem EscapedAs.readString (h : EscapedAs c cs) {more : List Char}
    (hv : readString opening '"' more = .ok (v, rest)) :
    readString opening '"' (cs ++ more) = .ok (c :: v, rest) := by
  cases h with
  | itself hbackslash hquote hbreak =>
    rw [List.singleton_append, TypeTest.readString, if_neg (Bool.eq_false_iff.mp
      (beq_false_of_ne hquote)), hv]
    · exact hbreak
    · exact hbackslash
  | @letter d hd hbreak hx hu =>
    refine readString_backslash ?_ hv
    rw [readEscape, hd]
    · exact hbreak
    · exact hx
    · exact fun _ he _ => hu he
    · exact hu
  | number =>
    have hread : readEscape opening ('u' :: '\x7b' :: (hexDigits c.toNat ++ '\x7d' :: more))
        = .ok ([c], more) := readBraced_hexDigits opening c more
    rw [numberEscape_append]
    exact readString_of_readEscape hread hv

/-- **A quoted text is read as the text**, up to the closing quote. -/
theorem readString_quoted (text : List Char) :
    readString opening '"' (text.flatMap (escapeExcept ['\'']) ++ '"' :: rest)
      = .ok (text, rest) := by
  induction text with
  | nil =>
    rw [List.flatMap_nil, List.nil_append, readString, if_pos (beq_self_eq_true _)] <;> decide
  | cons c text ih =>
    rw [List.flatMap_cons, List.append_assoc]
    exact (escapedAs_escapeExcept c).readString ih

end Reading

/-- **A quoted string is one token**, a string that says it. -/
theorem scans_quoted (value : String) : Lexeme.Scans ⟨.string value, quoted value⟩ := by
  refine ⟨'"', _, String.toList_ofList, by decide, ?_⟩
  have hread := @readString_quoted (quotedChars value.toList) [] value.toList
  show (readString (quotedChars value.toList) '"'
    (value.toList.flatMap (escapeExcept ['\'']) ++ ['"'])).map _ = _
  rw [hread]
  show Except.ok (TokenKind.string (String.ofList _), _) = _
  rw [String.ofList_toList]

/-! ## The reader of types -/

namespace TypeText

variable {c : Char} {cs more : List Char}

/-- Characters other than the quote and the backslash do not end a region. -/
theorem Region.append {quote : Char} {closed : Bool} (hmore : Region quote closed more)
    (h : ∀ d ∈ cs, d ≠ '\\' ∧ d ≠ quote) : Region quote closed (cs ++ more) := by
  induction cs with
  | nil => exact hmore
  | cons d cs ih =>
    obtain ⟨⟨hbackslash, hquote⟩, hcs⟩ := List.forall_mem_cons.mp h
    exact .plain hbackslash hquote (ih hcs)

/-- An escape does not end a region in double quotes. -/
theorem Region.append_escape (h : EscapedAs c cs) (hmore : Region '"' true more) :
    Region '"' true (cs ++ more) := by
  cases h with
  | itself hbackslash hquote _ => exact .plain hbackslash hquote hmore
  | letter => exact .escaped hmore
  | number =>
    rw [numberEscape_append]
    refine .escaped (.plain (by decide) (by decide) (.append ?_ fun d hd => ?_))
    · exact .plain (by decide) (by decide) hmore
    · have hvalue := isSome_hexValue_of_mem_hexDigits hd
      constructor <;>
      · rintro rfl
        exact absurd hvalue (by decide)

/-- **A quoted string is one region in quotes.** -/
theorem region_quoted (text : List Char) :
    Region '"' true (text.flatMap (escapeExcept ['\'']) ++ ['"']) := by
  induction text with
  | nil => exact .close
  | cons c text ih =>
    rw [List.flatMap_cons, List.append_assoc]
    exact .append_escape (escapedAs_escapeExcept c) ih

/-- Quoted characters alone hold no list of arguments. -/
theorem argumentsFrom_of_quoted (s : ArgumentScan) (cs : List Char) :
    argumentsFrom s (cs.map (·, true)) = [] := by
  induction cs generalizing s with
  | nil => rfl
  | cons c cs ih =>
    rw [List.map_cons, argumentsFrom]
    exact ih _

/-- **A quoted string has no type arguments**, whatever is in it. -/
theorem arguments_quoted (value : String) : arguments (quoted value) = [] := by
  have htrim : trim (quotedChars value.toList) = quotedChars value.toList := by
    refine trim_eq_self ?_ ?_
    · rintro c ⟨rfl⟩
      decide
    · have hlast : (quotedChars value.toList).getLast? = some '"' := List.getLast?_concat
      rw [hlast]
      rintro c ⟨rfl⟩
      decide
  have hregion := @Region.markFrom_append _ _ _ [] (region_quoted value.toList) (by decide) nofun
  rw [List.append_nil, markFrom, List.append_nil] at hregion
  have hmarks : markQuoted (quotedChars value.toList)
      = (quotedChars value.toList).map (·, true) := congrArg (('"', true) :: ·) hregion
  rw [arguments, quoted, String.toList_ofList, htrim, hmarks]
  exact argumentsFrom_of_quoted _ _

end TypeText

namespace ScriptProgram

/-- **The type of a string literal spells the string and nothing else.** -/
theorem typeAt?_stringLiteral (p : ScriptProgram) (file : Nat) (value : String)
    (range : TextRange) (index : Nat) :
    ∃ text, p.typeAt? ⟨file, .mk (.stringLiteral value) range index⟩ = some text ∧
      text = quoted value ∧
      tokenize text = .ok [⟨.string value, "", text, 0⟩,
        ⟨.endOfText, "", "", byteLength text.toList⟩] ∧
      TypeText.arguments text = [] :=
  ⟨quoted value, rfl, rfl, (scans_quoted value).tokenize_eq, TypeText.arguments_quoted value⟩

end ScriptProgram

end TypeTest

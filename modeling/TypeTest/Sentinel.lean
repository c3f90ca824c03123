import TypeTest.Text.Blank

/-!
# The failure sentinel

An assertion that fails has a type that displays with the word `RTT_FAIL`, the
**sentinel**, usually with the failure message as a quoted type argument. `decode`
reads the message from the display of a type. It is generous: a payload that does
not end is read up to the end, and a sentinel without a payload has the empty
message. A message can show the expected type between backticks.
-/

namespace TypeTest.Sentinel

/-- The word that marks a failing assertion. -/
def token : List Char := "RTT_FAIL".toList

/-- **What a sentinel says.** -/
structure Payload where
  /-- The failure message. -/
  message : String
  /-- The part of the message between its first two backticks. -/
  simplifiedExpected : Option String
  deriving DecidableEq, Repr

/-! ## Finding the sentinel -/

/-- The rest of a text that starts with `word`. -/
def afterStart : List Char → List Char → Option (List Char)
  | [], cs => some cs
  | _ :: _, [] => none
  | w :: word, c :: cs => if w == c then afterStart word cs else none

/-- The rest of a text after the first occurrence of `word`. -/
def afterFirst (word : List Char) : List Char → Option (List Char)
  | [] => afterStart word []
  | c :: cs =>
    match afterStart word (c :: cs) with
    | some rest => some rest
    | none => afterFirst word cs

theorem afterStart_eq_some_iff {word cs rest : List Char} :
    afterStart word cs = some rest ↔ cs = word ++ rest := by
  induction word generalizing cs with
  | nil => simp [afterStart]
  | cons w word ih =>
    cases cs with
    | nil => simp [afterStart]
    | cons c cs =>
      rw [afterStart, List.cons_append, List.cons.injEq]
      split
      · rename_i hw
        rw [ih, beq_iff_eq.mp hw]
        simp
      · rename_i hw
        simp only [reduceCtorEq, false_iff, not_and]
        exact fun hc => absurd (beq_iff_eq.mpr hc.symm) hw

theorem isSome_afterStart_iff {word cs : List Char} :
    (afterStart word cs).isSome = true ↔ word <+: cs := by
  rw [Option.isSome_iff_exists]
  exact exists_congr fun rest => afterStart_eq_some_iff.trans eq_comm

/-- A word occurs in a text exactly if there is a rest after its first occurrence. -/
theorem isSome_afterFirst_iff {word cs : List Char} :
    (afterFirst word cs).isSome = true ↔ word <:+: cs := by
  induction cs with
  | nil => rw [afterFirst, isSome_afterStart_iff, List.prefix_nil, List.infix_nil]
  | cons c cs ih =>
    rw [List.infix_cons_iff, ← isSome_afterStart_iff, ← ih, afterFirst]
    cases afterStart word (c :: cs) <;> simp

/-- Whether the display of a type holds the sentinel. -/
def isFailure (description : String) : Bool := (afterFirst token description.toList).isSome

/-! ## Reading the payload -/

/-- A quoted payload up to its closing quote. A backslash before `n` or `t` stands
for a line break or a tab, and keeps any other character as it is. -/
def unquote (quote : Char) : List Char → List Char
  | [] => []
  | '\\' :: [] => ['\\']
  | '\\' :: 'n' :: cs => '\n' :: unquote quote cs
  | '\\' :: 't' :: cs => '\t' :: unquote quote cs
  | '\\' :: c :: cs => c :: unquote quote cs
  | c :: cs => if c == quote then [] else c :: unquote quote cs

/-- The way a message is written as a payload quoted with `quote`. -/
def escape (quote : Char) : List Char → List Char
  | [] => []
  | c :: cs =>
    (if c == '\n' then ['\\', 'n']
      else if c == '\t' then ['\\', 't']
      else if c == '\\' || c == quote then ['\\', c]
      else [c]) ++ escape quote cs

/-- **A message and a payload that says it**, quoted with `quote`: a backslash and the
quote stand behind a backslash, and line breaks and tabs are written as letters
behind one or stay as they are. -/
inductive IsWritten (quote : Char) : List Char → List Char → Prop where
  | nil : IsWritten quote [] []
  | plain {c : Char} {message written : List Char} : c ≠ '\\' → c ≠ quote →
    IsWritten quote message written → IsWritten quote (c :: message) (c :: written)
  | kept {c : Char} {message written : List Char} : c = '\\' ∨ c = quote →
    IsWritten quote message written → IsWritten quote (c :: message) ('\\' :: c :: written)
  | lineBreak {message written : List Char} : IsWritten quote message written →
    IsWritten quote ('\n' :: message) ('\\' :: 'n' :: written)
  | tab {message written : List Char} : IsWritten quote message written →
    IsWritten quote ('\t' :: message) ('\\' :: 't' :: written)

/-- Every message can be written. -/
theorem isWritten_escape (quote : Char) (message : List Char) :
    IsWritten quote message (escape quote message) := by
  induction message with
  | nil => exact .nil
  | cons c cs ih =>
    rw [escape]
    split
    · rename_i hc
      exact eq_of_beq hc ▸ .lineBreak ih
    split
    · rename_i hc
      exact eq_of_beq hc ▸ .tab ih
    split
    · rename_i hc
      exact .kept ((Bool.or_eq_true_iff.mp hc).imp eq_of_beq eq_of_beq) ih
    · rename_i hc
      obtain ⟨hb, hq⟩ := Bool.or_eq_false_iff.mp (Bool.eq_false_iff.mpr hc)
      exact .plain (ne_of_beq_false hb) (ne_of_beq_false hq) ih

/-- **Reading undoes writing**, whatever follows the closing quote. -/
theorem unquote_of_isWritten {quote : Char} {message written : List Char}
    (h : quote = '"' ∨ quote = '\'') (hw : IsWritten quote message written)
    (rest : List Char) : unquote quote (written ++ quote :: rest) = message := by
  induction hw with
  | nil => rcases h with rfl | rfl <;> simp [unquote]
  | plain hb hq _ ih => simp [unquote, hb, hq, ih]
  | kept hc _ ih =>
    rcases h with rfl | rfl <;> rcases hc with rfl | rfl <;> simp [unquote, ih]
  | lineBreak _ ih => simp [unquote, ih]
  | tab _ ih => simp [unquote, ih]

/-- The text up to the `>` that closes the bracket it is in, inside `depth` more
brackets; none if there is no such character. -/
def untilClosed : Nat → List Char → Option (List Char)
  | _, [] => none
  | depth, '<' :: cs => (untilClosed (depth + 1) cs).map ('<' :: ·)
  | 0, '>' :: _ => some []
  | depth + 1, '>' :: cs => (untilClosed depth cs).map ('>' :: ·)
  | depth, c :: cs => (untilClosed depth cs).map (c :: ·)

/-- **The message of a payload**, which is quoted or goes up to the closing
bracket. -/
def payloadMessage : List Char → List Char
  | '"' :: cs => unquote '"' cs
  | '\'' :: cs => unquote '\'' cs
  | cs =>
    match untilClosed 0 cs with
    | some inner => trimEnd inner
    | none => cs

/-- The part of a message between its first two backticks; after a lone one, the
rest. -/
def simplifiedExpected (message : List Char) : Option (List Char) :=
  match message.dropWhile (· != '\x60') with
  | [] => none
  | _ :: cs => some (cs.takeWhile (· != '\x60'))

/-- The message after a sentinel. -/
def messageAfter (rest : List Char) : List Char :=
  match trimStart rest with
  | '<' :: payload => payloadMessage (trimStart payload)
  | _ => []

/-- **Decodes the first sentinel** in the display of a type, if there is one. -/
def decode (description : String) : Option Payload :=
  (afterFirst token description.toList).map fun rest =>
    let message := messageAfter rest
    ⟨String.ofList message, (simplifiedExpected message).map String.ofList⟩

theorem isSome_decode (description : String) :
    (decode description).isSome = isFailure description := by
  simp [decode, isFailure]

/-- **What the display of a type says is decoded exactly if it holds the sentinel.** -/
theorem exists_decode_iff (description : String) :
    (∃ payload, decode description = some payload) ↔ token <:+: description.toList := by
  rw [← Option.isSome_iff_exists, isSome_decode]
  exact isSome_afterFirst_iff

end TypeTest.Sentinel

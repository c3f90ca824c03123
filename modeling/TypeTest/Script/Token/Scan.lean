import TypeTest.Script.Fault
import TypeTest.Script.Token
import TypeTest.Text.Blank
import TypeTest.Text.HexNumber
import TypeTest.Text.NameChar

/-!
# Scanning a text into tokens

Each scanning function takes the text that is left and returns what it read
together with what is then left, so a token's own text is the difference of two
rests and **the tokens spell the text** by construction. A fault is likewise
placed by the rest of the text from its place on. That every step leaves less
than it was given is what ends `tokensFrom`, and is proved beside each step.
-/

namespace TypeTest

/-- A scanning fault: a cause and the text from the place of the fault on. -/
structure ScanFault where
  cause : SyntaxCause
  rest : List Char
  deriving DecidableEq, Repr

/-- What a scanning step gives: a fault, or a value and the text then left. -/
abbrev Scanned (α : Type) := Except ScanFault (α × List Char)

/-! ## Classes of characters -/

/-- A number goes on with letters, digits, points and underscores. -/
def isNumberPart (c : Char) : Bool := c.isAlphanum || c == '.' || c == '_'

/-- The characters that can stand as one-character tokens. -/
def isPunctuation (c : Char) : Bool :=
  ('!' ≤ c && c ≤ '/') || (':' ≤ c && c ≤ '@') || ('[' ≤ c && c ≤ '\x60') ||
    ('\x7b' ≤ c && c ≤ '~')

/-! ## Blanks and comments -/

/-- The text after the first `*/`, if there is one. -/
def afterComment : List Char → Option (List Char)
  | [] => none
  | '*' :: '/' :: cs => some cs
  | _ :: cs => afterComment cs

theorem afterComment_length {cs rest : List Char} (h : afterComment cs = some rest) :
    rest.length < cs.length := by
  fun_induction afterComment cs with
  | case1 => simp at h
  | case2 cs =>
    obtain rfl := Option.some.inj h
    simp only [List.length_cons]
    omega
  | case3 c cs _ ih => have := ih h; simp; omega

/-- **The text after the blanks and comments at its start.** A line comment ends
before the line break; a block comment has to end. -/
def skipTrivia : List Char → Except ScanFault (List Char)
  | [] => .ok []
  | '/' :: '/' :: cs => skipTrivia (cs.dropWhile (· != '\n'))
  | '/' :: '*' :: cs =>
    match _h : afterComment cs with
    | some rest => skipTrivia rest
    | none => .error ⟨.prematureEnd, '/' :: '*' :: cs⟩
  | c :: cs => if isBlank c then skipTrivia cs else .ok (c :: cs)
termination_by cs => cs.length
decreasing_by
  · have := (List.dropWhile_suffix (l := cs) (· != '\n')).length_le
    simp; omega
  · have := afterComment_length _h
    simp; omega
  · simp

theorem skipTrivia_length {cs rest : List Char} (h : skipTrivia cs = .ok rest) :
    rest.length ≤ cs.length := by
  fun_induction skipTrivia cs with
  | case1 => cases h; simp
  | case2 cs ih =>
    have := ih h
    have := (List.dropWhile_suffix (l := cs) (· != '\n')).length_le
    simp; omega
  | case3 cs r hr ih =>
    have := ih h
    have := afterComment_length hr
    simp; omega
  | case4 => simp at h
  | case5 c cs _ _ hb ih => have := ih h; simp; omega
  | case6 => cases h; simp

/-! ## Strings and templates -/

/-- The characters named by one-letter escapes; any other escaped character
stands for itself. -/
def escapedChar : Char → Char
  | 'n' => '\n'
  | 't' => '\t'
  | 'r' => '\r'
  | 'b' => '\x08'
  | 'f' => '\x0C'
  | 'v' => '\x0B'
  | '0' => '\x00'
  | c => c

/-- Reads `count` hexadecimal digits as a character. `opening` is the text from
the opening quote on, where a string that ends too early is at fault, and also
one whose digits give no character. -/
def readHex (opening : List Char) : Nat → Nat → List Char → Scanned (List Char)
  | 0, value, cs =>
    match charOfNat? value with
    | some c => .ok ([c], cs)
    | none => .error ⟨.unexpectedChar 'u', opening⟩
  | _ + 1, _, [] => .error ⟨.unterminatedString, opening⟩
  | count + 1, value, c :: cs =>
    match hexValue c with
    | some digit => readHex opening count (value * 16 + digit) cs
    | none => .error ⟨.unexpectedChar c, c :: cs⟩

theorem readHex_length {opening cs v rest : List Char} {count value : Nat}
    (h : readHex opening count value cs = .ok (v, rest)) : rest.length ≤ cs.length := by
  fun_induction readHex opening count value cs with
  | case1 => cases h; simp
  | case2 => simp at h
  | case3 => simp at h
  | case4 count value c cs d hd ih => have := ih h; simp; omega
  | case5 => simp at h

/-- Reads the digits and the closing brace of an escape by number. -/
def readBraced (opening cs : List Char) : Scanned (List Char) :=
  let digits := cs.takeWhile fun c => (hexValue c).isSome
  let point := (hexNumber? digits).bind charOfNat?
  match point, cs.dropWhile fun c => (hexValue c).isSome with
  | some c, '\x7d' :: rest => .ok ([c], rest)
  | _, c :: rest => .error ⟨.unexpectedChar c, c :: rest⟩
  | _, [] => .error ⟨.prematureEnd, opening⟩

theorem readBraced_length {opening cs v rest : List Char}
    (h : readBraced opening cs = .ok (v, rest)) : rest.length ≤ cs.length := by
  have hd := (List.dropWhile_suffix (l := cs) fun c => (hexValue c).isSome).length_le
  simp only [readBraced] at h
  split at h
  · rename_i hr
    cases h
    rw [hr] at hd
    simp at hd
    omega
  · simp at h
  · simp at h

/-- **Reads an escape**, the backslash being read already: what it stands for
and the rest. An escaped line break stands for nothing. -/
def readEscape (opening : List Char) : List Char → Scanned (List Char)
  | [] => .error ⟨.unterminatedString, opening⟩
  | '\n' :: cs => .ok ([], cs)
  | 'x' :: cs => readHex opening 2 0 cs
  | 'u' :: '\x7b' :: cs => readBraced opening cs
  | 'u' :: cs => readHex opening 4 0 cs
  | c :: cs => .ok ([escapedChar c], cs)

theorem readEscape_length {opening cs v rest : List Char}
    (h : readEscape opening cs = .ok (v, rest)) : rest.length < cs.length := by
  unfold readEscape at h
  split at h
  · simp at h
  · cases h; simp
  · have := readHex_length h; simp; omega
  · have := readBraced_length h; simp; omega
  · have := readHex_length h; simp; omega
  · cases h; simp

/-- **Reads a string** up to its closing quote, the opening one being read
already. A line break or the end of the text leaves it unterminated. -/
def readString (opening : List Char) (quote : Char) : List Char → Scanned (List Char)
  | [] => .error ⟨.unterminatedString, opening⟩
  | '\n' :: _ => .error ⟨.unterminatedString, opening⟩
  | '\\' :: cs =>
    match _h : readEscape opening cs with
    | .error fault => .error fault
    | .ok (value, rest) =>
      match readString opening quote rest with
      | .error fault => .error fault
      | .ok (more, rest) => .ok (value ++ more, rest)
  | c :: cs =>
    if c == quote then .ok ([], cs)
    else
      match readString opening quote cs with
      | .error fault => .error fault
      | .ok (more, rest) => .ok (c :: more, rest)
termination_by cs => cs.length
decreasing_by
  · have := readEscape_length _h
    simp; omega
  · simp

theorem readString_length {opening cs v rest : List Char} {quote : Char}
    (h : readString opening quote cs = .ok (v, rest)) : rest.length < cs.length := by
  fun_induction readString opening quote cs generalizing v rest with
  | case1 => simp at h
  | case2 => simp at h
  | case3 => simp at h
  | case4 => simp at h
  | case5 cs v' r hr m r' hm ih =>
    cases h
    have := ih hm
    have := readEscape_length hr
    simp; omega
  | case6 => cases h; simp
  | case7 => simp at h
  | case8 c cs _ _ _ m r hm ih =>
    cases h
    have := ih hm
    simp; omega

/-- The value of a template so far: its characters and whether a substitution
was among them. -/
structure TemplateValue where
  chars : List Char
  substitutions : Bool

/-- **Reads a template** up to its closing backtick. Substitutions are kept as
written; inside one (`depth` counts its open braces) nothing but braces matters. -/
def readTemplate (opening : List Char) : Nat → List Char → Scanned TemplateValue
  | _, [] => .error ⟨.unterminatedString, opening⟩
  | 0, '\x60' :: cs => .ok (⟨[], false⟩, cs)
  | 0, '\\' :: cs =>
    match _h : readEscape opening cs with
    | .error fault => .error fault
    | .ok (value, rest) =>
      match readTemplate opening 0 rest with
      | .error fault => .error fault
      | .ok (more, rest) => .ok (⟨value ++ more.chars, more.substitutions⟩, rest)
  | 0, '$' :: '\x7b' :: cs =>
    match readTemplate opening 1 cs with
    | .error fault => .error fault
    | .ok (more, rest) => .ok (⟨'$' :: '\x7b' :: more.chars, true⟩, rest)
  | depth, c :: cs =>
    let inside :=
      if depth = 0 then 0
      else if c == '\x7b' then depth + 1
      else if c == '\x7d' then depth - 1
      else depth
    match readTemplate opening inside cs with
    | .error fault => .error fault
    | .ok (more, rest) => .ok (⟨c :: more.chars, more.substitutions⟩, rest)
termination_by _ cs => cs.length
decreasing_by
  · have := readEscape_length _h
    simp only [List.length_cons]
    omega
  · simp only [List.length_cons]
    omega
  · simp

theorem readTemplate_length {opening cs rest : List Char} {depth : Nat} {v : TemplateValue}
    (h : readTemplate opening depth cs = .ok (v, rest)) : rest.length < cs.length := by
  fun_induction readTemplate opening depth cs generalizing v rest with
  | case1 => simp at h
  | case2 => cases h; simp
  | case3 => simp at h
  | case4 => simp at h
  | case5 cs v' r hr m r' hm ih =>
    cases h
    have := ih hm
    have := readEscape_length hr
    simp; omega
  | case6 => simp at h
  | case7 cs m r hm ih =>
    cases h
    have := ih hm
    simp; omega
  | case8 => simp at h
  | case9 =>
    rename_i hm ih
    cases h
    have := ih hm
    simp; omega

/-! ## Tokens -/

/-- **Reads one token** that starts with the character `c`: what it is and the
rest. -/
def scanToken (c : Char) (cs : List Char) : Scanned TokenKind :=
  if isNameStart c then .ok (.identifier, cs.dropWhile isNamePart)
  else if c.isDigit then .ok (.number, cs.dropWhile isNumberPart)
  else if c == '"' || c == '\'' then
    (readString (c :: cs) c cs).map fun r => (.string (String.ofList r.1), r.2)
  else if c == '\x60' then
    (readTemplate (c :: cs) 0 cs).map fun r =>
      (.template (String.ofList r.1.chars) r.1.substitutions, r.2)
  else
    match c, cs with
    | '=', '>' :: rest => .ok (.arrow, rest)
    | '.', '.' :: '.' :: rest => .ok (.ellipsis, rest)
    | _, _ =>
      if isPunctuation c then .ok (.punct c, cs) else .error ⟨.unexpectedChar c, c :: cs⟩

theorem scanToken_length {c : Char} {cs rest : List Char} {kind : TokenKind}
    (h : scanToken c cs = .ok (kind, rest)) : rest.length ≤ cs.length := by
  unfold scanToken at h
  split at h
  · cases h; exact (List.dropWhile_suffix _).length_le
  split at h
  · cases h; exact (List.dropWhile_suffix _).length_le
  split at h
  · cases hr : readString (c :: cs) c cs with
    | error => simp [hr, Except.map] at h
    | ok r =>
      obtain ⟨v, left⟩ := r
      simp only [hr, Except.map, Except.ok.injEq, Prod.mk.injEq] at h
      have := readString_length hr
      rw [← h.2]; omega
  split at h
  · cases hr : readTemplate (c :: cs) 0 cs with
    | error => simp [hr, Except.map] at h
    | ok r =>
      obtain ⟨v, left⟩ := r
      simp only [hr, Except.map, Except.ok.injEq, Prod.mk.injEq] at h
      have := readTemplate_length hr
      rw [← h.2]; omega
  split at h
  · cases h; simp
  · cases h; simp; omega
  · split at h
    · cases h; simp
    · simp at h

/-- The part of a text that was read when `rest` is left of it. -/
def readPart (text rest : List Char) : String :=
  String.ofList (text.take (text.length - rest.length))

/-- **The tokens of a text** that starts at the byte offset `offset`, the end
token last. -/
def tokensFrom (offset : Nat) (cs : List Char) : Except ScanFault (List Token) :=
  match _hs : skipTrivia cs with
  | .error fault => .error fault
  | .ok [] => .ok [⟨.endOfText, readPart cs [], "", offset + byteLength cs⟩]
  | .ok (c :: body) =>
    match _ht : scanToken c body with
    | .error fault => .error fault
    | .ok (kind, rest) =>
      let trivia := readPart cs (c :: body)
      let text := readPart (c :: body) rest
      let token : Token := ⟨kind, trivia, text, offset + byteLength trivia.toList⟩
      match tokensFrom token.stop rest with
      | .error fault => .error fault
      | .ok more => .ok (token :: more)
termination_by cs.length
decreasing_by
  have h1 := skipTrivia_length _hs
  have h2 := scanToken_length _ht
  simp only [List.length_cons] at h1
  omega

/-- A scanning fault with its offset in the whole text. -/
def ScanFault.locate (fault : ScanFault) (text : List Char) : SyntaxFault :=
  ⟨fault.cause, byteLength text - byteLength fault.rest⟩

/-- **The tokens of a text.** -/
def tokenize (text : String) : Except SyntaxFault (List Token) :=
  match tokensFrom 0 text.toList with
  | .error fault => .error (fault.locate text.toList)
  | .ok tokens => .ok tokens

end TypeTest

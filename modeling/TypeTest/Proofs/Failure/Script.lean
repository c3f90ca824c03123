import TypeTest.Proofs.Failure.Literal
import TypeTest.Proofs.Printing.Layout

/-!
# A script with a failing test

The smallest script in which a given message is shown: a function is declared that returns
the failing type of the message, and a test in a group calls it. The function may have type
parameters, and the call type arguments, any number of each.

```
declare function fails<A, B>(): RTT_FAIL<"no">;
describeType("g", () => { testType("t", () => fails<number>()); });
```

Here the script is written as a text, and the text is cut into its tokens. There is one case in
which these are not the tokens that were written: an equals sign at the end of the last type
argument makes an arrow with the bracket after it (`FailingScript.ClosesArguments`).
-/

namespace TypeTest

/-- **A script with a failing test**: a message, the type parameters of the function that
fails with it, none of which is the sentinel, and the type arguments of the call. -/
structure FailingScript extends QuotedMessage where
  parameters : List Word
  free : ∀ w ∈ parameters, w.text ≠ "RTT_FAIL"
  arguments : List TypeArgument

/-! ## The text -/

/-- Texts with commas between them in angle brackets, unless there are none. -/
def angled : List String → String
  | [] => ""
  | text :: more => "<" ++ ", ".intercalate (text :: more) ++ ">"

namespace FailingScript

variable (s : FailingScript)

/-- The declaration of the function that fails. -/
def declaration : String :=
  "declare function fails" ++ angled (s.parameters.map Word.text) ++ "(): " ++ s.failingType ++ ";"

/-- The test that calls it. -/
def test : String :=
  "describeType(\"g\", () => \x7b testType(\"t\", () => fails"
    ++ angled (s.arguments.map TypeLexemes.text) ++ "()); \x7d);"

/-- **The text of the script.** -/
def text : String := s.declaration ++ "\n" ++ s.test

/-- **The type arguments are closed** by the bracket behind them: the last of them does not end
in an equals sign, with which the bracket would be an arrow. -/
def ClosesArguments : Prop :=
  ∀ type ∈ s.arguments.getLast?, ∀ l ∈ type.lexemes.getLast?, l.kind ≠ .punct '='

end FailingScript

/-! ## The pieces of the text -/

/-- Rows of lexemes in angle brackets. -/
def angledPieces : List (List Lexeme) → List Piece
  | [] => []
  | ls :: lss => ⟨"", .mark '<'⟩ :: (listed "" (ls :: lss) ++ [⟨"", .mark '>'⟩])

variable {lss : List (List Lexeme)} {tail : List Char}

theorem characters_angledPieces (h : ∀ ls ∈ lss, ls ≠ []) :
    characters (angledPieces lss) = (angled (lss.map printed)).toList := by
  have hopen : (Lexeme.mark '<').text.toList = "<".toList := by decide
  have hclose : characters [⟨"", .mark '>'⟩] = ">".toList := by decide
  cases lss with
  | nil => rfl
  | cons ls lss =>
    rw [angledPieces, characters_cons, characters_append,
      characters_listed (List.cons_ne_nil _ _) h, hclose, hopen]
    show _ = ("<" ++ ", ".intercalate ((ls :: lss).map printed) ++ ">").toList
    simp

/-- **A token ends before a closing angle bracket** unless it is an equals sign. -/
theorem TokenKind.endsBefore_angle {kind : TokenKind} (h : kind ≠ .punct '=') :
    kind.endsBefore '>' = true := by
  unfold endsBefore
  split <;> first | exact absurd rfl h | decide +kernel

theorem apart_angledPieces (hscans : ∀ ls ∈ lss, ∀ l ∈ ls, l.Scans)
    (hends : ∀ ls ∈ lss.getLast?, ∀ l ∈ ls.getLast?, l.kind ≠ .punct '=') :
    Apart tail (angledPieces lss) := by
  cases lss with
  | nil => exact .nil
  | cons ls lss =>
    have hclose : Apart tail [⟨"", .mark '>'⟩] :=
      .cons rfl (.mark rfl rfl) (fun _ _ _ => rfl) .nil
    have hcharacters : characters [⟨"", .mark '>'⟩] = ['>'] := by decide
    refine .cons rfl (.mark rfl rfl) (fun _ _ _ => rfl) (.append ?_ hclose)
    rw [hcharacters]
    exact apart_listed rfl hscans fun ls hls l hl =>
      TokenKind.endsBefore_cons (TokenKind.endsBefore_angle (hends ls hls l hl)) tail

/-- Where an angle bracket or a parenthesis follows, a list in angle brackets may stand in
between. -/
theorem Apart.angled {ps : List Piece} (hangle : Apart ['<'] ps) (hparen : Apart ['('] ps)
    (lss : List (List Lexeme)) (more : List Char) :
    Apart (characters (angledPieces lss) ++ '(' :: more) ps := by
  have hmark : "".toList ++ (Lexeme.mark '<').text.toList = ['<'] := by decide
  cases lss with
  | nil => exact hparen.of_head more
  | cons ls lss =>
    rw [angledPieces, characters_cons, ← List.append_assoc, hmark]
    exact hangle.of_head _

/-- No line breaks in a list in angle brackets. -/
theorem unbroken_angledPieces : ∀ p ∈ angledPieces lss, p.Unbroken := by
  cases lss with
  | nil => exact nofun
  | cons ls lss =>
    refine List.forall_mem_cons.mpr ⟨by decide, List.forall_mem_append.mpr ⟨?_, ?_⟩⟩
    · exact unbroken_listed (by decide)
    · exact List.forall_mem_singleton.mpr (by decide)

theorem map_lexeme_angledPieces (types : List TypeArgument) :
    (angledPieces (types.map TypeLexemes.lexemes)).map Piece.lexeme
      = typeArgumentLexemes types := by
  cases types with
  | nil => rfl
  | cons type types =>
    rw [List.map_cons, angledPieces, List.map_cons, List.map_append, map_lexeme_listed]
    rfl

/-- The words that a function is declared with. -/
def declaringPieces : List Piece :=
  [⟨"", .word "declare"⟩, ⟨" ", .word "function"⟩, ⟨" ", .word "fails"⟩]

/-- What stands between the name of the function, with its type parameters, and its type. -/
def returningPieces : List Piece := [⟨"", .mark '('⟩, ⟨"", .mark ')'⟩, ⟨"", .mark ':'⟩]

/-- **The pieces of the failing type** of a message. -/
def QuotedMessage.typePieces (m : QuotedMessage) : List Piece :=
  [⟨" ", .word "RTT_FAIL"⟩, ⟨"", .mark '<'⟩, ⟨"", ⟨.string m.message, m.literal⟩⟩,
    ⟨"", .mark '>'⟩]

/-- What stands before the call, on the next line. -/
def testingPieces : List Piece :=
  [⟨"\n", .word "describeType"⟩, ⟨"", .mark '('⟩, ⟨"", ⟨.string "g", "\"g\""⟩⟩, ⟨"", .mark ','⟩,
    ⟨" ", .mark '('⟩, ⟨"", .mark ')'⟩, ⟨" ", .arrow⟩, ⟨" ", .mark '\x7b'⟩, ⟨" ", .word "testType"⟩,
    ⟨"", .mark '('⟩, ⟨"", ⟨.string "t", "\"t\""⟩⟩, ⟨"", .mark ','⟩, ⟨" ", .mark '('⟩,
    ⟨"", .mark ')'⟩, ⟨" ", .arrow⟩, ⟨" ", .word "fails"⟩]

/-- What stands after the type arguments of the call. -/
def closingPieces : List Piece :=
  [⟨"", .mark '('⟩, ⟨"", .mark ')'⟩, ⟨"", .mark ')'⟩, ⟨"", .mark ';'⟩, ⟨" ", .mark '\x7d'⟩,
    ⟨"", .mark ')'⟩, ⟨"", .mark ';'⟩]

theorem QuotedMessage.characters_typePieces (m : QuotedMessage) :
    characters m.typePieces = " ".toList ++ m.failingType.toList := by
  have hname : characters [⟨" ", .word "RTT_FAIL"⟩, ⟨"", .mark '<'⟩]
      = " ".toList ++ "RTT_FAIL<".toList := by decide +kernel
  have hclose : characters [⟨"", .mark '>'⟩] = ">".toList := by decide
  show characters ([⟨" ", .word "RTT_FAIL"⟩, ⟨"", .mark '<'⟩]
    ++ ⟨"", ⟨.string m.message, m.literal⟩⟩ :: [⟨"", .mark '>'⟩]) = _
  unfold QuotedMessage.failingType
  simp only [characters_append, hname, characters_cons _ [_], hclose, String.toList_append,
    List.append_assoc]
  rfl

theorem QuotedMessage.apart_typePieces (m : QuotedMessage) (tail : List Char) :
    Apart tail m.typePieces := by
  have hname : TokenKind.identifier.endsBefore '<' = true := by decide +kernel
  have hmark : (Lexeme.mark '<').text.toList = ['<'] := by decide
  refine .cons (by decide) (by decide +kernel) ?_ (.cons rfl (.mark rfl rfl) (fun _ _ _ => rfl)
    (.cons rfl m.scans (fun _ _ _ => rfl) (.cons rfl (.mark rfl rfl) (fun _ _ _ => rfl) .nil)))
  rw [characters_cons, hmark]
  exact TokenKind.endsBefore_cons hname _

namespace FailingScript

variable (s : FailingScript)

/-- The type parameters in angle brackets. -/
def parameterPieces : List Piece := angledPieces (s.parameters.map fun w => [w.lexeme])

/-- **The pieces of the declaration.** -/
def declarationPieces : List Piece :=
  declaringPieces ++ (s.parameterPieces ++ (returningPieces ++ (s.typePieces ++ [⟨"", .mark ';'⟩])))

/-- **The pieces of the test.** -/
def testPieces : List Piece :=
  testingPieces ++ (angledPieces (s.arguments.map TypeLexemes.lexemes) ++ closingPieces)

theorem characters_declarationPieces :
    characters s.declarationPieces = s.declaration.toList := by
  have hparameters : (s.parameters.map fun w => [w.lexeme]).map printed
      = s.parameters.map Word.text := by
    rw [List.map_map]
    exact List.map_congr_left fun w _ => @String.intercalate_singleton " " w.text
  have hangled := @characters_angledPieces (s.parameters.map fun w => [w.lexeme])
    (List.forall_mem_map.mpr fun _ _ => List.cons_ne_nil _ _)
  rw [hparameters] at hangled
  have hdeclaring : characters declaringPieces = "declare function fails".toList := by
    decide +kernel
  have hreturning : characters returningPieces ++ " ".toList = "(): ".toList := by decide +kernel
  have hending : characters [⟨"", .mark ';'⟩] = ";".toList := by decide
  have hpieces : characters s.parameterPieces
      = (angled (s.parameters.map Word.text)).toList := hangled
  unfold declarationPieces declaration
  simp only [characters_append, s.characters_typePieces, hpieces, hdeclaring, ← hreturning,
    hending, String.toList_append, List.append_assoc]

theorem characters_testPieces : characters s.testPieces = "\n".toList ++ s.test.toList := by
  have hangled := @characters_angledPieces (s.arguments.map TypeLexemes.lexemes)
    (List.forall_mem_map.mpr fun type _ => type.ne_nil)
  rw [List.map_map] at hangled
  have htesting : characters testingPieces
      = "\n".toList ++ "describeType(\"g\", () => \x7b testType(\"t\", () => fails".toList := by
    decide +kernel
  have hclosing : characters closingPieces = "()); \x7d);".toList := by decide +kernel
  unfold testPieces test
  simp only [characters_append, hangled, htesting, hclosing, String.toList_append,
    List.append_assoc]
  rfl

/-- **The text is made of its pieces.** -/
theorem characters_pieces :
    characters (s.declarationPieces ++ s.testPieces) = s.text.toList := by
  unfold text
  simp only [characters_append, characters_declarationPieces, characters_testPieces,
    String.toList_append, List.append_assoc]

theorem apart_declarationPieces (tail : List Char) : Apart tail s.declarationPieces := by
  have hsemicolon : Apart tail [⟨"", .mark ';'⟩] :=
    .cons rfl (.mark rfl rfl) (fun _ _ _ => rfl) .nil
  have hblank : (characters (s.typePieces ++ [⟨"", .mark ';'⟩]) ++ tail)
      = ' ' :: (s.failingType.toList ++ characters [⟨"", .mark ';'⟩] ++ tail) := by
    rw [characters_append, s.characters_typePieces]
    simp
  have hreturns : Apart (characters (s.typePieces ++ [⟨"", .mark ';'⟩]) ++ tail)
      returningPieces := by
    rw [hblank]
    exact .of_head (by decide +kernel) _
  have hparen : characters returningPieces = '(' :: "):".toList := by decide +kernel
  refine .append ?_ (.append (apart_angledPieces ?_ ?_)
    (.append hreturns (.append (s.apart_typePieces _) hsemicolon)))
  · rw [characters_append, characters_append, hparen, List.append_assoc, List.cons_append]
    exact .angled (by decide +kernel) (by decide +kernel) _ _
  · exact List.forall_mem_map.mpr fun w _ => List.forall_mem_singleton.mpr w.scans
  · -- the last type parameter is a name
    intro ls hls l hl
    obtain ⟨w, _, rfl⟩ := List.mem_map.mp (List.mem_of_getLast? hls)
    obtain rfl := Option.some.inj hl
    exact TokenKind.noConfusion

theorem apart_testPieces (h : s.ClosesArguments) : Apart [] s.testPieces := by
  have hparen : characters closingPieces = '(' :: ")); \x7d);".toList := by decide +kernel
  refine .append ?_ (.append (apart_angledPieces ?_ ?_) (by decide +kernel))
  · rw [List.append_nil, characters_append, hparen]
    exact .angled (by decide +kernel) (by decide +kernel) _ _
  · exact List.forall_mem_map.mpr fun type _ => type.scans
  · intro ls hls
    rw [List.getLast?_map] at hls
    obtain ⟨type, htype, rfl⟩ := Option.map_eq_some_iff.mp hls
    exact h type htype

/-- **The tokens of the text are its pieces**, where the type arguments are closed. -/
theorem exists_tokenize (h : s.ClosesArguments) :
    ∃ ts, tokenize s.text = .ok ts
      ∧ ts.map Token.piece = s.declarationPieces ++ (s.testPieces ++ [⟨"", .ending⟩]) := by
  have hapart : Apart [] (s.declarationPieces ++ s.testPieces) :=
    .append (s.apart_declarationPieces _) (s.apart_testPieces h)
  obtain ⟨ts, hts, hmap⟩ := exists_tokensFrom_characters hapart 0
  rw [s.characters_pieces] at hts
  exact ⟨ts, tokenize_eq_ok.mpr hts, hmap.trans (List.append_assoc _ _ _)⟩

end FailingScript

end TypeTest

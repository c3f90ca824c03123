import TypeTest.Proofs.Isolation.CapturedNames
import TypeTest.Proofs.Parsing.Declarations
import TypeTest.Proofs.Printing.Layout

/-!
# Return types of declared and of defined functions

A function is declared, as in `declare function f(): R;`, or defined, as in `function f(): R {}`,
and either way the type of its result is kept as raw text. Outside of brackets the type of a
declared function goes on to a semicolon. That of a defined one ends at an opening brace as well,
for a brace opens the body. So what may be declared may be defined with the same type **unless a
brace opens in the type outside of brackets**: the object type `{ a: string }` is the type of a
declared function, but in a definition it is taken for the body.

The type has its tokens, and what stands between them, in common with both scripts, so both scans
go over the same tokens and stop at the same line breaks; only the brace tells them apart
(`Parser.typeGoes_brace`).
-/

namespace TypeTest

open TypeTest.Parser

/-- The script that declares a function with a type of its result. -/
def declaringScript (type : String) : String := "declare function f(): " ++ type ++ ";"

/-- The script that defines a function with a type of its result. -/
def definingScript (type : String) : String := "function f(): " ++ type ++ " \x7b\x7d"

/-- **A file is one function** without parameters, with a type of its result as it is written, and
with a body or without one. -/
def ScriptFile.IsFunction (file : ScriptFile) (type : String) (hasBody : Bool) : Prop :=
  ∃ d t body, file.statements = [d] ∧ d.form = .functionDeclaration "f" [] [] (some t) body
    ∧ t.form = .typeText type ∧ body.isSome = hasBody

/-- The type of the result of the only function of a file, and whether it has a body. -/
def ScriptFile.onlyFunction? (file : ScriptFile) : Option (String × Bool) :=
  match file.statements.map Node.form with
  | [.functionDeclaration name [] [] (some t) body] =>
    match t.form with
    | .typeText type => if name = "f" then some (type, body.isSome) else none
    | _ => none
  | _ => none

theorem ScriptFile.isFunction_of_onlyFunction? {file : ScriptFile} {type : String} {hasBody : Bool}
    (h : file.onlyFunction? = some (type, hasBody)) : file.IsFunction type hasBody := by
  unfold onlyFunction? at h
  split at h
  next name t body hforms =>
    split at h
    next type' ht =>
      obtain ⟨hname, hsome⟩ := Option.ite_none_right_eq_some.mp h
      obtain ⟨htype, hbody⟩ := Prod.mk.inj (Option.some.inj hsome)
      obtain ⟨d, hd, hform⟩ := List.map_eq_singleton_iff.mp hforms
      exact ⟨d, t, body, hd, hname ▸ hform, ht.trans (congrArg _ htype), hbody⟩
    · cases h
  · cases h

/-- Whether every brace that opens in tokens of a type, from a depth on, does so in brackets. -/
def bracesInside : Nat → List Token → Bool
  | _, [] => true
  | depth, t :: ts => !(depth == 0 && t.isPunct '\x7b') && bracesInside (typeDepth depth t) ts

/-- **No brace opens in a type outside of brackets.** -/
def BracesInside (type : String) : Prop := ∃ ts, tokenize type = .ok ts ∧ bracesInside 0 ts = true

/-- **Only an opening brace tells the scans of the two types apart.** -/
theorem Parser.typeGoes_brace (last : Option Token) (depth : Nat) (us : List Token) :
    typeGoes (·.isPunctOf [';', '\x7b']) true last depth us
      = (typeGoes (·.isPunctOf [';']) true last depth us && bracesInside depth us) := by
  induction us generalizing last depth with
  | nil => rfl
  | cons u us ih =>
    have hends : u.isPunctOf [';', '\x7b'] = (u.isPunctOf [';'] || u.isPunct '\x7b') := by
      rw [isPunct_eq_isPunctOf]
      unfold Token.isPunctOf
      cases u.kind <;> simp
    have hstops : typeStops (·.isPunctOf [';', '\x7b']) true last depth u
        = (typeStops (·.isPunctOf [';']) true last depth u
          || (depth == 0 && u.isPunct '\x7b')) := by
      unfold typeStops
      dsimp only
      rw [hends]
      cases u.isEnd <;> cases depth == 0 <;> cases u.isPunctOf [';'] <;>
        cases u.isPunct '\x7b' <;> simp
    rw [typeGoes, typeGoes, bracesInside, hstops, ih, Bool.not_or]
    simp only [Bool.and_assoc, Bool.and_left_comm]

/-- In front of the end of a text no brace opens. -/
theorem bracesInside_eq_of_lexemes {us ts : List Token}
    (h : ts.map Token.lexeme = us.map Token.lexeme ++ [.ending]) (depth : Nat) :
    bracesInside depth ts = bracesInside depth us := by
  induction us generalizing ts depth with
  | nil =>
    obtain ⟨e, _, rfl, he, hnil⟩ := List.map_eq_cons_iff.mp h
    obtain rfl := List.map_eq_nil_iff.mp hnil
    have hbrace : e.isPunct '\x7b' = false :=
      beq_false_of_ne ((congrArg Lexeme.kind he).trans_ne TokenKind.noConfusion)
    show (!(depth == 0 && e.isPunct '\x7b') && true) = true
    rw [hbrace, Bool.and_false]
    rfl
  | cons u us ih =>
    obtain ⟨t, ts, rfl, ht, hts⟩ := List.map_eq_cons_iff.mp h
    have hkind : t.kind = u.kind := congrArg Lexeme.kind ht
    have hbrace : t.isPunct '\x7b' = u.isPunct '\x7b' := by
      unfold Token.isPunct
      rw [hkind]
    rw [bracesInside, bracesInside, hbrace, typeDepth_eq_of_lexeme ht, ih hts]

/-! ## The heads of the two scripts -/

/-- The lexemes from the word for a function up to the colon in front of its type. -/
def headLexemes : List Lexeme :=
  [.word "function", .word "f", .mark '(', .mark ')', .mark ':']

/-- **The pieces in front of the type** of the result. -/
def headPieces (declared : Bool) : List Piece :=
  if declared then
    [⟨"", .word "declare"⟩, ⟨" ", .word "function"⟩, ⟨" ", .word "f"⟩, ⟨"", .mark '('⟩,
      ⟨"", .mark ')'⟩, ⟨"", .mark ':'⟩]
  else
    [⟨"", .word "function"⟩, ⟨" ", .word "f"⟩, ⟨"", .mark '('⟩, ⟨"", .mark ')'⟩, ⟨"", .mark ':'⟩]

/-- The marks that end the type of the result. -/
def returnEnds (declared : Bool) : List Char := if declared then [';'] else [';', '\x7b']

namespace Parser

variable {us heads : List Token} {c : Cursor}

/-- What is read of a function behind the colon. -/
def functionTail (inner : Inner) (start : Nat) (declared : Bool) : Parser Node := do
  let type ← typeUntil (·.isPunctOf (returnEnds declared)) true
  let body ← functionBody inner declared
  node start (.functionDeclaration "f" [] [] (some type) body)

theorem exists_functionDeclaration_eq (hheads : heads.map Token.lexeme = headLexemes)
    (hne : us ≠ []) (h : c.current :: c.rest = heads ++ us) :
    ∃ c', c'.current :: c'.rest = us ∧ ∀ inner start declared,
      functionDeclaration inner start declared c = functionTail inner start declared c' := by
  obtain ⟨w, ws, rfl⟩ := List.exists_cons_of_ne_nil hne
  obtain ⟨function, _, rfl, _, hheads⟩ := List.map_eq_cons_iff.mp hheads
  obtain ⟨own, _, rfl, hown, hheads⟩ := List.map_eq_cons_iff.mp hheads
  obtain ⟨opening, _, rfl, hopening, hheads⟩ := List.map_eq_cons_iff.mp hheads
  obtain ⟨closing, _, rfl, hclosing, hheads⟩ := List.map_eq_cons_iff.mp hheads
  obtain ⟨colon, _, rfl, hcolon, hheads⟩ := List.map_eq_cons_iff.mp hheads
  obtain rfl := List.map_eq_nil_iff.mp hheads
  have h₁ := next_eq h (List.cons_ne_nil _ _)
  have h₂ := next_eq h₁ (List.cons_ne_nil _ _)
  have h₃ := next_eq h₂ (List.cons_ne_nil _ _)
  have h₄ := next_eq h₃ (List.cons_ne_nil _ _)
  have h₅ := next_eq h₄ (List.cons_ne_nil _ _)
  have hname : c.next.current.isIdentifier = true := by
    rw [current_eq h₁]
    exact beq_of_eq (congrArg Lexeme.kind hown)
  have htext : c.next.current.text = "f" := by
    rw [current_eq h₁]
    exact congrArg Lexeme.text hown
  have hnames : typeParameters c.next.next = .ok ([], c.next.next) :=
    typeParameters_nil ((congrArg Token.lexeme (current_eq h₂)).trans hopening)
  refine ⟨c.next.next.next.next.next, h₅, fun inner start declared => ?_⟩
  rw [functionDeclaration_eq hname hnames h₂ hopening hclosing hcolon, htext]
  rfl

/-- **Behind the head both scripts are read as the type and the body.** -/
theorem exists_statement_eq {declared : Bool}
    (hheads : heads.map Token.piece = headPieces declared) (hne : us ≠ []) :
    ∃ start c, c.current :: c.rest = us ∧ ∀ inner,
      statement inner (.ofTokens (heads ++ us)) = functionTail inner start declared c := by
  have hlexemes := congrArg (List.map Piece.lexeme) hheads
  rw [List.map_map] at hlexemes
  cases declared with
  | true =>
    obtain ⟨declare, heads, rfl, hdeclare, hlexemes⟩ := List.map_eq_cons_iff.mp hlexemes
    obtain ⟨function, heads, rfl, hfunction, _⟩ := List.map_eq_cons_iff.mp hlexemes
    have h : (Cursor.ofTokens (declare :: function :: heads ++ us)).current
        :: (Cursor.ofTokens (declare :: function :: heads ++ us)).rest
          = declare :: function :: (heads ++ us) := rfl
    obtain ⟨c', hc', hrun⟩ := exists_functionDeclaration_eq hlexemes hne
      (next_eq h (List.cons_ne_nil _ _))
    exact ⟨_, c', hc', fun inner => (statement_of_declare h hdeclare hfunction).trans (hrun _ _ _)⟩
  | false =>
    obtain ⟨function, heads, rfl, hfunction, hown⟩ := List.map_eq_cons_iff.mp hlexemes
    obtain ⟨own, heads, rfl, hown, _⟩ := List.map_eq_cons_iff.mp hown
    have h : (Cursor.ofTokens (function :: own :: heads ++ us)).current
        :: (Cursor.ofTokens (function :: own :: heads ++ us)).rest
          = function :: own :: (heads ++ us) := rfl
    obtain ⟨c', hc', hrun⟩ := exists_functionDeclaration_eq hlexemes hne h
    exact ⟨_, c', hc', fun inner =>
      (statement_of_function h hfunction (congrArg Lexeme.kind hown)).trans (hrun _ _ _)⟩

end Parser

/-- The first token of a head is a word. -/
theorem exists_cons_of_headPieces {declared : Bool} {heads : List Token}
    (h : heads.map Token.piece = headPieces declared) :
    ∃ t ts, heads = t :: ts ∧ t.isPunct ';' = false ∧ t.isEnd = false := by
  have hword : ∃ t ts word, heads = t :: ts ∧ t.lexeme = .word word := by
    cases declared <;>
    · obtain ⟨t, ts, rfl, ht, _⟩ := List.map_eq_cons_iff.mp h
      exact ⟨t, ts, _, rfl, congrArg Piece.lexeme ht⟩
  obtain ⟨t, ts, word, rfl, ht⟩ := hword
  have hkind : t.kind = .identifier := congrArg Lexeme.kind ht
  exact ⟨t, ts, rfl, beq_false_of_ne (hkind.trans_ne TokenKind.noConfusion),
    beq_false_of_ne (hkind.trans_ne TokenKind.noConfusion)⟩

/-- **A script that is one function reads its type** from the tokens behind the head, and stops
where the type does. -/
theorem ScriptFile.IsFunction.exists_type {declared hasBody : Bool} {name text type : String}
    {file : ScriptFile} {heads vs : List Token} (hfile : file.IsFunction type hasBody)
    (hparse : ScriptFile.parse name text = .ok file)
    (htokens : tokenize text = .ok (heads ++ vs))
    (hheads : heads.map Token.piece = headPieces declared) (hend : ∃ e ∈ vs, e.isEnd = true) :
    ∃ us t ts, vs = us ++ t :: ts ∧ us ≠ [] ∧ spelling us = type
      ∧ typeGoes (·.isPunctOf (returnEnds declared)) true none 0 us = true
      ∧ typeStops (·.isPunctOf (returnEnds declared)) true us.getLast? (us.foldl typeDepth 0) t
        = true := by
  obtain ⟨us, t, ts, rfl, hus, ht⟩ :=
    exists_typeSplit (·.isPunctOf (returnEnds declared)) true hend none 0
  rw [Option.or_none] at ht
  obtain ⟨d, type', body, hd, hform, htype, _⟩ := hfile
  obtain ⟨start, c, hc, hstatement⟩ := exists_statement_eq hheads (append_cons_ne_nil us)
  have hrun : ∃ c', functionTail (within maxNesting) start declared c = .ok (d, c') := by
    obtain ⟨h, hs, rfl, hnone, hnot⟩ := exists_cons_of_headPieces hheads
    obtain ⟨c', hrun⟩ := ScriptFile.exists_statement_of_parse htokens hnone hnot hparse hd
    exact ⟨c', (hstatement _).symm.trans hrun⟩
  obtain ⟨c', hrun⟩ := hrun
  obtain ⟨n, c₁, hn, hrun⟩ := bind_eq_ok.mp hrun
  obtain ⟨b, c₂, _, hnode⟩ := bind_eq_ok.mp hrun
  obtain ⟨c₃, _, huntil⟩ := exists_typeUntil_eq true hc hus ht
  have hne : us ≠ [] := by
    rintro rfl
    exact refuse_ne_ok (huntil.symm.trans hn)
  rw [List.isEmpty_eq_false_iff.mpr hne, if_neg Bool.false_ne_true] at huntil
  cases huntil.symm.trans hn
  cases hnode
  cases hform
  exact ⟨us, t, ts, rfl, hne, Form.typeText.inj htype, hus, ht⟩

/-! ## The tokens of the type -/

/-- **The tokens of a type that is declared.** They spell the type, the scan goes over them and is
outside of brackets behind them, and they are the tokens of the type, whether it stands alone or
behind a blank. -/
structure DeclaredType (type : String) (us : List Token) : Prop where
  ne_nil : us ≠ []
  spells : spelling us = type
  goes : typeGoes (·.isPunctOf [';']) true none 0 us = true
  closed : us.foldl typeDepth 0 = 0
  alone : ∃ ts, tokenize type = .ok ts ∧ ts.map Token.lexeme = us.map Token.lexeme ++ [.ending]
  behind : ∀ start, ∃ ts, tokensFrom start (' ' :: type.toList) = .ok ts
    ∧ ts.map Token.piece = us.map Token.piece ++ [⟨"", .ending⟩]

theorem apart_headPieces (declared : Bool) (more : List Char) :
    Apart (' ' :: more) (headPieces declared) := by
  cases declared with
  | true => exact .of_head (by decide +kernel) more
  | false => exact .of_head (by decide +kernel) more

/-- If a character can be moved from the front of a text to its end, the text consists of it. -/
theorem eq_of_cons_eq_append {a b : Char} {cs : List Char} (h : a :: cs = cs ++ [b]) :
    ∀ c ∈ cs, c = b := by
  induction cs generalizing a with
  | nil => exact fun _ hc => absurd hc List.not_mem_nil
  | cons d ds ih =>
    have htail : d :: ds = ds ++ [b] := (List.cons.inj h).2
    refine List.forall_mem_cons.mpr ⟨?_, ih htail⟩
    cases ds with
    | nil => exact (List.cons.inj htail).1
    | cons e es =>
      rw [(List.cons.inj htail).1]
      exact ih htail e List.mem_cons_self

/-- A lexeme that starts with a semicolon is one. -/
theorem Lexeme.Scans.kind_eq_of_semicolon {l : Lexeme} (h : l.Scans)
    (hl : ∀ c ∈ l.text.toList, c = ';') : l.kind = .punct ';' := by
  obtain ⟨c, cs, hcs, _, hscan⟩ := h
  obtain rfl : c = ';' := hl c (hcs ▸ List.mem_cons_self)
  have hmark : scanToken ';' cs = .ok (.punct ';', cs) := rfl
  exact (Prod.mk.inj (Except.ok.inj (hscan.symm.trans hmark))).1

/-- **Tokens that spell the type are all that stands in front of the semicolon.** -/
theorem exists_left_of_spelling {start : Nat} {type : String} {us vs : List Token}
    (h : tokensFrom start (' ' :: (type.toList ++ [';'])) = .ok (us ++ vs)) (hvs : vs ≠ [])
    (hus : us ≠ []) (hspells : spelling us = type)
    (hfirst : ∀ u ∈ us.head?, u.isPunct ';' = false) :
    characters (us.map Token.piece) = ' ' :: type.toList
      ∧ vs.map Token.piece = [⟨"", .mark ';'⟩, ⟨"", .ending⟩] := by
  obtain ⟨u, us, rfl⟩ := List.exists_cons_of_ne_nil hus
  obtain ⟨left, htext, hleft, _⟩ := exists_tokensFrom_cut h hvs
  have hcharacters : characters ((u :: us).map Token.piece) = u.trivia.toList ++ type.toList := by
    rw [← hspells, toList_spelling_cons, List.map_cons, characters_cons]
    rfl
  -- the blank is skipped before the first token
  obtain ⟨gap, hgap⟩ : ∃ gap, u.trivia.toList = ' ' :: gap := by
    obtain ⟨c, body, _, _, hfirst, hskip, _⟩ := exists_first_of_tokensFrom h
      (List.append_ne_nil_of_right_ne_nil us hvs)
    cases hu : u.trivia.toList with
    | nil =>
      rw [hu, List.nil_append] at hfirst
      have hblank := isBlank_of_skipTrivia hskip
      rw [← (List.cons.inj hfirst).1] at hblank
      cases hblank
    | cons b gap =>
      rw [hu] at hfirst
      exact ⟨gap, by rw [(List.cons.inj hfirst).1]⟩
  rw [hcharacters, hgap] at htext
  have hrest : type.toList ++ [';'] = gap ++ (type.toList ++ left) :=
    (List.cons.inj htext).2.trans (List.append_assoc _ _ _)
  have hlength : gap.length + left.length = 1 := by
    have hsum := congrArg List.length hrest
    simp only [List.length_append, List.length_cons, List.length_nil] at hsum
    omega
  cases gap with
  | nil =>
    obtain rfl : [';'] = left := List.append_cancel_left hrest
    obtain ⟨ts, hts, hpieces⟩ := exists_tokensFrom_characters
      (.cons rfl (.mark rfl rfl) (fun _ _ h => nomatch h) .nil : Apart [] [⟨"", .mark ';'⟩])
      (start + byteLength (characters ((u :: us).map Token.piece)))
    have hmark : characters [⟨"", .mark ';'⟩] = [';'] := by decide
    rw [hmark] at hts
    cases hts.symm.trans hleft
    exact ⟨by rw [hcharacters, hgap]; rfl, hpieces⟩
  | cons a gap =>
    -- then the type consists of semicolons, and its first token is one
    rw [List.length_cons] at hlength
    obtain rfl : gap = [] := List.eq_nil_of_length_eq_zero (by omega)
    obtain rfl : left = [] := List.eq_nil_of_length_eq_zero (by omega)
    rw [List.append_nil] at hrest
    have hmoved : a :: type.toList = type.toList ++ [';'] := hrest.symm
    have hall : ∀ c ∈ u.lexeme.text.toList, c = ';' := by
      intro c hc
      refine eq_of_cons_eq_append hmoved c ?_
      rw [← hspells, toList_spelling_cons]
      exact List.mem_append_left _ hc
    have hkind : u.kind = .punct ';' :=
      (scans_of_tokensFrom h (List.append_ne_nil_of_right_ne_nil us hvs)).kind_eq_of_semicolon hall
    have hnot := hfirst u rfl
    unfold Token.isPunct at hnot
    rw [hkind] at hnot
    cases hnot

theorem toList_declaringScript (type : String) :
    (declaringScript type).toList
      = characters (headPieces true) ++ ' ' :: (type.toList ++ [';']) := by
  have hhead : characters (headPieces true) ++ [' '] = "declare function f(): ".toList := by
    decide +kernel
  have hend : ";".toList = [';'] := by decide
  generalize characters (headPieces true) = head at hhead ⊢
  unfold declaringScript
  rw [String.toList_append, String.toList_append, hend, ← hhead]
  simp

theorem toList_definingScript (type : String) :
    (definingScript type).toList
      = characters (headPieces false) ++ ' ' :: (type.toList ++ [' ', '\x7b', '\x7d']) := by
  have hhead : characters (headPieces false) ++ [' '] = "function f(): ".toList := by
    decide +kernel
  have hend : " \x7b\x7d".toList = [' ', '\x7b', '\x7d'] := by decide
  generalize characters (headPieces false) = head at hhead ⊢
  unfold definingScript
  rw [String.toList_append, String.toList_append, hend, ← hhead]
  simp

/-- **A type that is declared has tokens.** -/
theorem exists_declaredType {name type : String} {file : ScriptFile}
    (hparse : ScriptFile.parse name (declaringScript type) = .ok file)
    (hfile : file.IsFunction type false) : ∃ us, DeclaredType type us := by
  obtain ⟨ts, _, htokens, _⟩ := ScriptFile.exists_script_of_parse hparse
  obtain ⟨heads, hheads, hfrom⟩ :=
    exists_tokensFrom_append (apart_headPieces true (type.toList ++ [';'])) 0
  have hall := tokenize_eq_ok.mp htokens
  rw [toList_declaringScript, hfrom] at hall
  obtain ⟨vs, hvs, rfl⟩ := exists_of_map_eq_ok hall
  have hend : ∃ e ∈ vs, e.isEnd = true := by
    obtain ⟨before, e, rfl, he, _⟩ := (inOrder_tokensFrom hvs).1.last
    exact ⟨e, List.mem_append_right _ List.mem_cons_self, he⟩
  obtain ⟨us, t, ts, rfl, hne, hspells, hgoes, hstops⟩ :=
    hfile.exists_type hparse htokens hheads hend
  obtain ⟨hcharacters, hpieces⟩ := exists_left_of_spelling hvs (List.cons_ne_nil t ts) hne hspells
    fun u hu => by
      obtain ⟨us', rfl⟩ := List.head?_eq_some_iff.mp hu
      have hgo := (Bool.and_eq_true_iff.mp hgoes).1
      unfold typeStops at hgo
      rw [isPunct_eq_isPunctOf]
      simp only [Bool.not_eq_true', Bool.or_eq_false_iff, beq_self_eq_true, Bool.true_and] at hgo
      exact hgo.2.1.1
  have hsemicolon : t.isEnd = false :=
    beq_false_of_ne ((congrArg (fun p => p.lexeme.kind) (List.cons.inj hpieces).1).trans_ne
      TokenKind.noConfusion)
  refine ⟨us, hne, hspells, hgoes, ?_, ?_, fun start => ?_⟩
  · unfold typeStops at hstops
    rw [hsemicolon, Bool.false_or] at hstops
    exact eq_of_beq (Bool.and_eq_true_iff.mp hstops).1
  · obtain ⟨u, us, rfl⟩ := List.exists_cons_of_ne_nil hne
    rw [← List.append_assoc] at htokens
    obtain ⟨ws, hws, hmap⟩ := exists_tokenize_spelling htokens (List.cons_ne_nil t ts)
    refine ⟨ws, hspells ▸ hws, ?_⟩
    have hlexemes := congrArg (List.map Piece.lexeme) hmap
    rw [List.map_map, List.map_append, List.map_cons, List.map_map] at hlexemes
    exact hlexemes
  · obtain ⟨_, _, _, hcut⟩ := exists_tokensFrom_cut hvs (List.cons_ne_nil t ts)
    exact hcharacters ▸ hcut start

/-- **The definition has the same tokens of the type**, and the braces of the body behind them. -/
theorem DeclaredType.exists_tokenize_defining {type : String} {us : List Token}
    (h : DeclaredType type us) :
    ∃ heads us' o p e, tokenize (definingScript type) = .ok (heads ++ (us' ++ [o, p, e]))
      ∧ heads.map Token.piece = headPieces false ∧ us'.map Token.piece = us.map Token.piece
      ∧ o.lexeme = .mark '\x7b' ∧ p.lexeme = .mark '\x7d' ∧ e.isEnd = true := by
  obtain ⟨heads, hheads, hfrom⟩ :=
    exists_tokensFrom_append (apart_headPieces false (type.toList ++ [' ', '\x7b', '\x7d'])) 0
  obtain ⟨ts, hts, hpieces⟩ := h.behind (0 + byteLength (characters (headPieces false)))
  obtain ⟨bs, hbs, hbraces⟩ := exists_tokensFrom_characters
    (by decide +kernel : Apart [] [⟨"", .mark '\x7b'⟩, ⟨"", .mark '\x7d'⟩])
    (0 + byteLength (characters (headPieces false)) + byteLength (' ' :: type.toList)
      + byteLength [' '])
  have hclosed : ∀ e ∈ ts.getLast?, e.trivia = "" := by
    intro e he
    have hlast := congrArg List.getLast? hpieces
    rw [List.getLast?_map, he, List.getLast?_concat] at hlast
    exact congrArg Piece.gap (Option.some.inj hlast)
  have hmarks : characters [⟨"", .mark '\x7b'⟩, ⟨"", .mark '\x7d'⟩] = ['\x7b', '\x7d'] := by decide
  rw [hmarks] at hbs
  obtain ⟨us', e', rfl, _, hjoined⟩ := tokensFrom_append_blank (by decide)
    (fun kind => kind.endsBefore_blank _) hts (.inr hclosed) hbs
  rw [List.map_append] at hpieces
  obtain ⟨o, _, rfl, ho, hbraces⟩ := List.map_eq_cons_iff.mp hbraces
  obtain ⟨p, _, rfl, hp, hbraces⟩ := List.map_eq_cons_iff.mp hbraces
  obtain ⟨e, _, rfl, he, hbraces⟩ := List.map_eq_cons_iff.mp hbraces
  obtain rfl := List.map_eq_nil_iff.mp hbraces
  refine ⟨heads, us', { o with trivia := e'.trivia ++ " " ++ o.trivia }, p, e, ?_, hheads,
    (List.append_inj' hpieces rfl).1, congrArg Piece.lexeme ho, congrArg Piece.lexeme hp,
    beq_of_eq (congrArg (fun p => p.lexeme.kind) he)⟩
  rw [tokenize_eq_ok, toList_definingScript, hfrom, ← List.cons_append, hjoined]
  rfl

/-! ## The two functions -/

/-- Tokens that cover some text spell more than nothing. -/
theorem eq_nil_of_characters_eq_nil {ts : List Token} (htext : ∀ t ∈ ts, t.text ≠ "")
    (h : characters (ts.map Token.piece) = []) : ts = [] := by
  cases ts with
  | nil => rfl
  | cons t ts =>
    rw [List.map_cons, characters_cons] at h
    have hnil := (List.append_eq_nil_iff.mp (List.append_eq_nil_iff.mp h).2).1
    exact absurd (String.toList_inj.mp hnil) (htext t List.mem_cons_self)

/-- **The beginning of a list of tokens is known by what it spells.** -/
theorem eq_of_spelling_eq {us vs us' vs' : List Token} (h : us ++ us' = vs ++ vs')
    (hus : us ≠ []) (hvs : vs ≠ []) (htext : ∀ t ∈ us ++ vs, t.text ≠ "")
    (hspells : spelling us = spelling vs) : us = vs := by
  rcases List.append_eq_append_iff.mp h with ⟨ds, rfl, _⟩ | ⟨ds, rfl, _⟩
  · have hsame := congrArg String.toList hspells
    rw [toList_spelling_append hus, List.self_eq_append_right] at hsame
    rw [eq_nil_of_characters_eq_nil (fun t ht => htext t (by simp [ht])) hsame, List.append_nil]
  · have hsame := congrArg String.toList hspells
    rw [toList_spelling_append hvs, List.append_right_eq_self] at hsame
    rw [eq_nil_of_characters_eq_nil (fun t ht => htext t (by simp [ht])) hsame, List.append_nil]

namespace DeclaredType

variable {type : String} {us : List Token}

theorem ne_nil_of_pieces (h : DeclaredType type us) {us' : List Token}
    (hus' : us'.map Token.piece = us.map Token.piece) : us' ≠ [] := by
  rintro rfl
  exact h.ne_nil (List.map_eq_nil_iff.mp hus'.symm)

theorem bracesInside_iff (h : DeclaredType type us) :
    BracesInside type ↔ bracesInside 0 us = true := by
  obtain ⟨ts, hts, hlexemes⟩ := h.alone
  rw [← bracesInside_eq_of_lexemes hlexemes]
  refine ⟨fun ⟨ts', hts', hinside⟩ => ?_, fun hinside => ⟨ts, hts, hinside⟩⟩
  cases hts.symm.trans hts'
  exact hinside

/-- **A type without braces outside of brackets may be defined.** -/
theorem exists_parse_defining (h : DeclaredType type us) (hinside : bracesInside 0 us = true)
    (name : String) :
    ∃ file, ScriptFile.parse name (definingScript type) = .ok file ∧ file.IsFunction type true := by
  obtain ⟨heads, us', o, p, e, htokens, hheads, hus', ho, hp, he⟩ := h.exists_tokenize_defining
  obtain ⟨start, c, hc, hstatement⟩ := exists_statement_eq hheads (append_cons_ne_nil us')
  have hdepth : us'.foldl typeDepth 0 = 0 :=
    (foldl_typeDepth_eq_of_pieces hus' 0).trans h.closed
  have hgoes : typeGoes (·.isPunctOf (returnEnds false)) true none 0 us' = true := by
    rw [typeGoes_eq_of_pieces _ true rfl hus']
    show typeGoes (·.isPunctOf [';', '\x7b']) true none 0 us = true
    rw [typeGoes_brace, h.goes, hinside]
    rfl
  have hstops : typeStops (·.isPunctOf (returnEnds false)) true us'.getLast?
      (us'.foldl typeDepth 0) o = true := by
    have hbrace : o.isPunctOf (returnEnds false) = true := Token.isPunctOf_of_lexeme ho _
    unfold typeStops
    dsimp only
    rw [hdepth, hbrace]
    simp
  obtain ⟨c₁, hc₁, huntil⟩ := exists_typeUntil_eq true hc hgoes hstops
  rw [List.isEmpty_eq_false_iff.mpr (h.ne_nil_of_pieces hus'), if_neg Bool.false_ne_true] at huntil
  obtain ⟨body, c₂, hbody, hc₂⟩ := exists_functionBody_of_braces 255
    (show (c₁.store (.typeText (spelling us')) (c₁.rangeFrom c.current.start)).current
      :: (c₁.store (.typeText (spelling us')) (c₁.rangeFrom c.current.start)).rest = _ from hc₁)
    ho hp
  change functionBody (within maxNesting) false _ = _ at hbody
  have hrun : ∃ d c₃, statement (within maxNesting) (.ofTokens (heads ++ (us' ++ [o, p, e])))
      = .ok (d, c₃) ∧ c₃.current :: c₃.rest = [e]
        ∧ ∃ t, d.form = .functionDeclaration "f" [] [] (some t) (some body)
          ∧ t.form = .typeText (spelling us') := by
    rw [hstatement]
    unfold functionTail
    rw [bind_of_ok _ huntil, bind_of_ok _ hbody]
    exact ⟨_, _, rfl, hc₂, _, rfl, rfl⟩
  obtain ⟨d, c₃, hrun, hc₃, t, hform, ht⟩ := hrun
  obtain ⟨w, ws, rfl, hnone, hnot⟩ := exists_cons_of_headPieces hheads
  obtain ⟨file, hfile, hd⟩ := ScriptFile.exists_parse_of_statement htokens hnone hnot hrun hc₃ he
    (List.append_ne_nil_of_right_ne_nil _ (append_cons_ne_nil us')) name
  have hspells : spelling us' = type := (spelling_eq_of_pieces hus').trans h.spells
  exact ⟨file, hfile, d, t, some body, hd, hform, hspells ▸ ht, rfl⟩

/-- **A type that is defined has no braces outside of brackets.** -/
theorem bracesInside_of_parse (h : DeclaredType type us) {name : String} {file : ScriptFile}
    (hparse : ScriptFile.parse name (definingScript type) = .ok file)
    (hfile : file.IsFunction type true) : bracesInside 0 us = true := by
  obtain ⟨heads, us', o, p, e, htokens, hheads, hus', ho, hp, he⟩ := h.exists_tokenize_defining
  obtain ⟨vs, t, ts, hvs, hne, hspells, hgoes, _⟩ := hfile.exists_type hparse htokens hheads
    ⟨e, by simp, he⟩
  have hgoes' : typeGoes (·.isPunctOf [';']) true none 0 us' = true :=
    (typeGoes_eq_of_pieces _ true rfl hus' 0).trans h.goes
  have htext : ∀ t ∈ us' ++ vs, t.text ≠ "" := by
    have hend : ∀ t ∈ us' ++ vs, t.isEnd = false :=
      List.forall_mem_append.mpr ⟨isEnd_of_typeGoes hgoes', isEnd_of_typeGoes hgoes⟩
    intro t ht hempty
    have hmem : t ∈ heads ++ (us' ++ [o, p, e]) := by
      refine List.mem_append_right _ ?_
      rcases List.mem_append.mp ht with ht | ht
      · exact List.mem_append_left _ ht
      · exact hvs ▸ List.mem_append_left _ ht
    have hlt := (inOrder_tokenize htokens).nonempty t hmem (hend t ht)
    unfold Token.stop at hlt
    rw [hempty] at hlt
    exact Nat.lt_irrefl _ hlt
  -- the definition takes the tokens of the type, no more and no less
  obtain rfl : us' = vs := eq_of_spelling_eq hvs (h.ne_nil_of_pieces hus') hne htext
    ((spelling_eq_of_pieces hus').trans (h.spells.trans hspells.symm))
  rw [typeGoes_eq_of_pieces _ true rfl hus'] at hgoes
  have hbraces : typeGoes (·.isPunctOf [';', '\x7b']) true none 0 us = true := hgoes
  rw [typeGoes_brace] at hbraces
  exact (Bool.and_eq_true_iff.mp hbraces).2

end DeclaredType

/-- Functions of the same type of result are the same to every call. -/
theorem ScriptFile.IsFunction.rel_function? {file file' : ScriptFile} {type : String}
    {hasBody hasBody' : Bool} (h : file.IsFunction type hasBody)
    (h' : file'.IsFunction type hasBody') :
    List.Forall₂ (Named FunctionSignature.Same) (file.statements.filterMap Node.function?)
      (file'.statements.filterMap Node.function?) := by
  obtain ⟨d, t, body, hd, hform, ht, _⟩ := h
  obtain ⟨d', t', body', hd', hform', ht', _⟩ := h'
  have hfunction : ∀ {d t : Node} {body : Option Node},
      d.form = .functionDeclaration "f" [] [] (some t) body →
      [d].filterMap Node.function? = [("f", ⟨[], some t⟩)] := by
    intro d t body hform
    have hsome : d.function? = some ("f", ⟨[], some t⟩) := by
      unfold Node.function?
      rw [hform]
    rw [List.filterMap_cons_some hsome]
    rfl
  have htype : t.typeText? = t'.typeText? := by
    unfold Node.typeText?
    rw [ht, ht']
  rw [hd, hd', hfunction hform, hfunction hform']
  exact .cons ⟨rfl, rfl, htype⟩ .nil

namespace ScriptProgram

/-- **Calls resolve to the same signature** whether a program has a function declared or defined
with a type of its result. -/
theorem signature?_eq_of_isFunction {file file' : ScriptFile} {type : String}
    {hasBody hasBody' : Bool} (h : file.IsFunction type hasBody)
    (h' : file'.IsFunction type hasBody') (before after : List ScriptFile) (call : NodeRef) :
    (ofFiles (before ++ file' :: after)).signature? call
      = (ofFiles (before ++ file :: after)).signature? call := by
  have hrefl : ∀ l : List (String × FunctionSignature),
      List.Forall₂ (Named FunctionSignature.Same) l l :=
    fun l => List.forall₂_same.mpr fun _ _ => ⟨rfl, rfl, rfl⟩
  refine signature?_eq_of_same (fun name => rel_lookup ?_ name) call.node.near_refl
  unfold functions
  rw [files_ofFiles, files_ofFiles, List.flatMap_append, List.flatMap_append, List.flatMap_cons,
    List.flatMap_cons]
  exact List.rel_append (hrefl _) (List.rel_append (h.rel_function? h') (hrefl _))

end ScriptProgram

/-- **What may be declared may be defined with the same type of result, if and only if no brace
opens in the type outside of brackets.** Then every call resolves to the same signature with the
function declared as with the function defined, in any program around it. -/
theorem exists_parse_defining_iff {name type : String} {file : ScriptFile}
    (hparse : ScriptFile.parse name (declaringScript type) = .ok file)
    (hfile : file.IsFunction type false) (name' : String) :
    ((∃ file', ScriptFile.parse name' (definingScript type) = .ok file'
        ∧ file'.IsFunction type true
        ∧ ∀ (before after : List ScriptFile) (call : NodeRef),
          (ScriptProgram.ofFiles (before ++ file' :: after)).signature? call
            = (ScriptProgram.ofFiles (before ++ file :: after)).signature? call)
      ↔ BracesInside type) := by
  obtain ⟨us, hus⟩ := exists_declaredType hparse hfile
  rw [hus.bracesInside_iff]
  refine ⟨fun ⟨file', hparse', hfile', _⟩ => hus.bracesInside_of_parse hparse' hfile', fun h => ?_⟩
  obtain ⟨file', hparse', hfile'⟩ := hus.exists_parse_defining h name'
  exact ⟨file', hparse', hfile', ScriptProgram.signature?_eq_of_isFunction hfile hfile'⟩

/-- The type that is read of a declared function. -/
theorem exists_isFunction_declaring {type : String}
    (h : (ScriptFile.parse "a.ts" (declaringScript type)).toOption.bind ScriptFile.onlyFunction?
      = some (type, false)) :
    ∃ file, ScriptFile.parse "a.ts" (declaringScript type) = .ok file
      ∧ file.IsFunction type false := by
  obtain ⟨file, hfile, honly⟩ := Option.bind_eq_some_iff.mp h
  exact ⟨file, eq_ok_of_toOption hfile, ScriptFile.isFunction_of_onlyFunction? honly⟩

/-- A union on two lines, with an object type in brackets. -/
theorem exists_parse_defining_union :
    ∃ file', ScriptFile.parse "b.ts" "function f(): Array<\x7b a: string \x7d> |\n  null \x7b\x7d"
        = .ok file'
      ∧ file'.IsFunction "Array<\x7b a: string \x7d> |\n  null" true := by
  obtain ⟨file, hparse, hfile⟩ := exists_isFunction_declaring
    (by decide +kernel : (ScriptFile.parse "a.ts"
      (declaringScript "Array<\x7b a: string \x7d> |\n  null")).toOption.bind
        ScriptFile.onlyFunction? = _)
  have hinside : BracesInside "Array<\x7b a: string \x7d> |\n  null" := by
    have hsome : (tokenize "Array<\x7b a: string \x7d> |\n  null").toOption.map (bracesInside 0)
        = some true := by
      decide +kernel
    obtain ⟨ts, hts, htrue⟩ := Option.map_eq_some_iff.mp hsome
    exact ⟨ts, eq_ok_of_toOption hts, htrue⟩
  obtain ⟨file', hparse', hfile', _⟩ := (exists_parse_defining_iff hparse hfile "b.ts").mpr hinside
  exact ⟨file', hparse', hfile'⟩

/-- **A function may be declared with an object type and not be defined with it.** -/
theorem object_type_declared_only :
    (∃ file, ScriptFile.parse "a.ts" (declaringScript "\x7b a: string \x7d") = .ok file
      ∧ file.IsFunction "\x7b a: string \x7d" false)
    ∧ ∃ error, ScriptFile.parse "a.ts" (definingScript "\x7b a: string \x7d") = .error error := by
  exact ⟨exists_isFunction_declaring (by decide +kernel),
    exists_error_of_toOption (by decide +kernel)⟩

end TypeTest

import TypeTest.Proofs.Operators.Operand
import TypeTest.Proofs.Parsing.CallRanges
import TypeTest.Proofs.Parsing.SameLayout
import TypeTest.Proofs.Printing.RoundTrip

/-!
# Scripts of one statement

A phrase that is read as an expression makes a script with a semicolon behind it. What such a
script is parsed to is said of every text with its tokens in which no line breaks between them:
of the printed one, with single blanks, it is known what it is parsed to, and the others have
the same layout.

A node **shows** a tree if it is the tree but for the places in the text and for what stands
between the tokens of types (`Node.Shows`). Then its calls show those of the tree, one by one
and in their order (`Node.Shows.forall₂_calls`).
-/

namespace TypeTest

open TypeTest.Parser

/-! ## Trees that are shown -/

section Related

variable {N : Node → Node → Prop} {X : String → String → Prop}
  (hN : ∀ n m, N n m → Form.Like N X n.form m.form)

include hN

/-- Nodes below related nodes are related, one by one, if related nodes have forms that are
alike, with parts that are related. -/
theorem Node.forall₂_descendants_of_like {n m : Node} (h : N n m) :
    List.Forall₂ N n.descendants m.descendants := by
  induction n using Node.descendants.induct generalizing m with
  | _ n ih =>
    rw [descendants_eq, descendants_eq]
    refine .cons h (List.rel_flatMap ?_ fun _ _ hcd => hcd)
    have hboth : List.Forall₂ (fun c d => (∀ d, N c d →
        List.Forall₂ N c.descendants d.descendants) ∧ N c d) n.children m.children :=
      (List.forall₂_and_left _ _).mpr ⟨fun c hc d => ih ⟨c, hc⟩, (hN n m h).forall₂_children⟩
    exact hboth.imp fun c d hcd => hcd.1 d hcd.2

/-- Of related nodes both are calls or neither is. -/
theorem Node.isCall_eq_of_like {n m : Node} (h : N n m) : n.shape.isCall = m.shape.isCall := by
  have hform := hN n m h
  unfold shape
  generalize n.form = form at hform
  generalize m.form = form' at hform
  cases hform <;> rfl

theorem Node.forall₂_calls_of_like {n m : Node} (h : N n m) : List.Forall₂ N n.calls m.calls := by
  have hfilter : ∀ ns ms, List.Forall₂ N ns ms →
      List.Forall₂ N (ns.filter (·.shape.isCall)) (ms.filter (·.shape.isCall)) := by
    intro ns ms hns
    induction hns with
    | nil => exact .nil
    | cons hnm _ ih =>
      rw [List.filter_cons, List.filter_cons, isCall_eq_of_like hN hnm]
      split
      · exact .cons hnm ih
      · exact ih
  exact hfilter _ _ (forall₂_descendants_of_like hN h)

end Related

namespace Node

/-- **A node shows a tree**: it is the tree, but for the places in the text and for what stands
between the tokens of types. -/
def Shows (n tree : Node) : Prop := ∃ m, tree.Alike m ∧ m.Relaid n

theorem Relaid.form {n m : Node} (h : n.Relaid m) : Form.Like Relaid SameLayout n.form m.form := by
  cases h with
  | mk h => exact h

theorem Shows.forall₂_calls {n tree : Node} (h : n.Shows tree) :
    List.Forall₂ (fun t m => m.Shows t) tree.calls n.calls := by
  obtain ⟨m, ha, hr⟩ := h
  have hcomp : ∀ ts ms ns, List.Forall₂ Alike ts ms → List.Forall₂ Relaid ms ns →
      List.Forall₂ (fun t n => n.Shows t) ts ns := by
    intro ts ms ns hts
    induction hts generalizing ns with
    | nil =>
      intro hms
      cases hms
      exact .nil
    | cons htm _ ih =>
      intro hms
      cases hms with
      | cons hmn hms => exact .cons ⟨_, htm, hmn⟩ (ih _ hms)
  exact hcomp _ _ _ (forall₂_calls_of_like (fun _ _ => Alike.form) ha)
    (forall₂_calls_of_like (fun _ _ => Relaid.form) hr)

/-- The script of one expression. -/
def script (expression : Node) : Node :=
  .bare (.sourceFile [.bare (.expressionStatement expression)])

theorem calls_bare {form : Form Node} (h : form.shape.isCall = false) :
    (bare form).calls = form.children.flatMap calls := by
  have hcall : (bare form).shape.isCall = false := h
  rw [calls_eq, List.filter_cons, hcall]
  rfl

theorem calls_script (expression : Node) : (script expression).calls = expression.calls := by
  rw [script, calls_bare rfl]
  show [bare _].flatMap calls = _
  rw [List.flatMap_singleton, calls_bare rfl]
  exact List.flatMap_singleton _ _

end Node

/-! ## Statements -/

namespace Parser

variable {c c' : Cursor} {ls : List Lexeme} {p : Phrase}

/-- **A phrase that is read as an expression stands as a script**, up to its semicolon. -/
theorem exists_script_of_readAs
    (h : ReadAs maxNesting p.lexemes (p.nesting ≤ maxNesting) p.tree.Alike)
    (hs : StandAlone p.lexemes) (hfits : p.nesting ≤ maxNesting)
    (hc : c.Faces (p.lexemes ++ [.mark ';'])) :
    ∃ n c', script c = .ok ([n], c') ∧ (Node.bare (.expressionStatement p.tree)).Alike n := by
  obtain ⟨_, c', hstep, ⟨m, range, index, rfl, hm⟩, hc'⟩ :=
    (h.statementStep hs hc false []).1 hfits
  have hlt : c'.remaining < c.remaining := by
    rw [hc'.remaining_eq]
    exact hc.length_lt
  refine ⟨.mk (.expressionStatement m) range index, c', ?_, .mk (.expressionStatement hm) trivial⟩
  unfold script statements
  rw [bind_of_ok _ ((repeatWhile_of_lt hstep hlt).trans
    (repeatWhile_of_none (statementStep_end hc' _)))]
  rfl

/-- A script is refused if its first expression is. -/
theorem script_of_error {l : Lexeme} {fault : SyntaxFault} (hl : l.Opens)
    (hbrace : l.kind ≠ .punct '\x7b') (hfunction : l ≠ .word "function") (hc : c.Faces (l :: ls))
    (herror : (within maxNesting).expression c = .error fault) : script c = .error fault := by
  have hstatement : statement (within maxNesting) c = .error fault := by
    rw [statement_eq hl hbrace hfunction hc, bind_of_error _ herror]
  have hstep : statementStep (within maxNesting) false [] c = .error fault := by
    rw [statementStep_eq hl hc, bind_of_error _ hstatement]
  unfold script statements
  rw [bind_of_error _ (repeatWhile_of_error hstep)]

end Parser

namespace Phrase

variable {p : Phrase} {text : String}

/-- The printed statement: the tokens of a phrase and a semicolon with single blanks between
them. -/
def statementText (p : Phrase) : String := printed (p.lexemes ++ [.mark ';'])

theorem scans_statement (h : ∀ l ∈ p.lexemes, l.Scans) :
    ∀ l ∈ p.lexemes ++ [.mark ';'], l.Scans :=
  List.forall_mem_append.mpr ⟨h, List.forall_mem_singleton.mpr (.mark rfl rfl)⟩

/-- **A statement is parsed to the tree of its phrase**, in every layout on a line. -/
theorem exists_parse_of_readAs
    (h : ReadAs maxNesting p.lexemes (p.nesting ≤ maxNesting) p.tree.Alike)
    (hs : StandAlone p.lexemes) (hfits : p.nesting ≤ maxNesting)
    (hscans : ∀ l ∈ p.lexemes, l.Scans) (htext : SameLayout p.statementText text)
    (name : String) :
    ∃ file, ScriptFile.parse name text = .ok file ∧ file.root.Shows (.script p.tree) := by
  obtain ⟨ts, htokens, hfaces⟩ := Cursor.exists_faces_printed (scans_statement hscans)
  obtain ⟨n, c', hrun, hn⟩ := exists_script_of_readAs h hs hfits hfaces
  have hprinted : parseTree p.statementText
      = .ok (c'.newNode (.sourceFile [n]) ⟨0, byteLength p.statementText.toList⟩) := by
    unfold parseTree
    rw [show tokenize p.statementText = .ok ts from htokens]
    dsimp only
    rw [hrun]
  rcases parseTree_sameLayout htext with ⟨fault, _, herror, _, _⟩ | ⟨root, root', hroot, hroot', hr⟩
  · cases hprinted.symm.trans herror
  · cases hprinted.symm.trans hroot
    exact ⟨_, ScriptFile.parse_of_ok hroot', _, .mk (.sourceFile (.cons hn .nil)) trivial, hr⟩

/-- **A statement is refused** in every layout on a line if its expression is. -/
theorem exists_parse_error (hopens : ∃ l ms, p.lexemes = l :: ms ∧ l.Opens)
    (hs : StandAlone p.lexemes) (hscans : ∀ l ∈ p.lexemes, l.Scans)
    (herror : ∀ c : Cursor, c.Faces (p.lexemes ++ [.mark ';']) →
      ∃ fault, (within maxNesting).expression c = .error fault)
    (htext : SameLayout p.statementText text) (name : String) :
    ∃ error, ScriptFile.parse name text = .error error := by
  obtain ⟨ts, htokens, hfaces⟩ := Cursor.exists_faces_printed (scans_statement hscans)
  obtain ⟨fault, hfault⟩ := herror _ hfaces
  obtain ⟨l, ms, hms, hl⟩ := hopens
  obtain ⟨hbrace, hfunction⟩ := hs l ms hms
  have hprinted : parseTree p.statementText = .error fault := by
    rw [hms] at hfaces
    unfold parseTree
    rw [show tokenize p.statementText = .ok ts from htokens]
    dsimp only
    rw [script_of_error hl hbrace hfunction hfaces hfault]
  rcases parseTree_sameLayout htext with ⟨_, fault', _, herror', _⟩ | ⟨root, _, hroot, _, _⟩
  · exact ⟨_, ScriptFile.parse_of_error herror'⟩
  · cases hprinted.symm.trans hroot

end Phrase

end TypeTest

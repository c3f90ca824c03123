import TypeTest.Proofs.Isolation.AlikeTrees
import TypeTest.Proofs.Printing.Continuing

/-!
# Operands as they are written

What stands between operators: names and literals, parentheses, array and object literals, and
members and calls of all these. A **phrase** is a piece of a script with its lexemes, the tree
that these stand for and its nesting; the operands are the phrases that are built up in a
number of ways (`Phrase.IsOperand`).

Every operand is read as its tree, wherever one may stand (`Phrase.IsOperand.continues`). The
one thing that matters is what comes next. No operand may stand before an arrow, and a
parenthesized one not before a colon, because a parenthesis before a colon is taken for the
parameters of a function, whose type of result the colon introduces.
-/

namespace TypeTest

open TypeTest.Parser

/-- A node without a place in a text. -/
def Node.bare (form : Form Node) : Node := .mk form ⟨0, 0⟩ 0

/-- A node without a place is alike to every node of a form that is alike. -/
theorem Node.alike_bare {form : Form Node} {n : Node} (h : Form.Like Alike Eq form n.form) :
    (bare form).Alike n := by
  cases n
  exact .mk h trivial

/-- The greatest of several numbers of levels. -/
def deepest (levels : List Nat) : Nat := levels.foldr max 0

theorem deepest_le {levels : List Nat} {n : Nat} : deepest levels ≤ n ↔ ∀ m ∈ levels, m ≤ n := by
  induction levels with
  | nil => exact iff_of_true (Nat.zero_le n) fun _ h => absurd h List.not_mem_nil
  | cons m levels ih =>
    rw [List.forall_mem_cons, ← ih]
    exact Nat.max_le

/-! ## Phrases -/

/-- **A piece of a script as it is written**: its lexemes, the tree that they stand for, and how
many expressions are nested in each other. -/
structure Phrase where
  lexemes : List Lexeme
  tree : Node
  nesting : Nat

/-- A member of an object literal: a property with a value, or a name alone. -/
inductive Entry where
  | assignment (key : PropertyKey) (value : Phrase)
  | shorthand (own : Word)

namespace Entry

/-- A printed member. -/
def lexemes : Entry → List Lexeme
  | .assignment key value => key.lexeme :: .mark ':' :: value.lexemes
  | .shorthand own => [own.lexeme]

/-- What a member is read as. -/
def tree : Entry → Node
  | .assignment key value => .bare (.propertyAssignment key.value value.tree)
  | .shorthand _ => .bare .shorthandProperty

/-- How deep the value of a member nests. -/
def nesting : Entry → Nat
  | .assignment _ value => value.nesting
  | .shorthand _ => 0

/-- A member of an object literal does not open with a character of punctuation. -/
theorem exists_lexemes_eq (e : Entry) : ∃ l ls, e.lexemes = l :: ls ∧ ∀ q, l.kind ≠ .punct q := by
  cases e with
  | assignment key value => exact ⟨_, _, rfl, key.kind_ne_punct⟩
  | shorthand own => exact ⟨_, _, rfl, fun _ => TokenKind.noConfusion⟩

theorem balanced (e : Entry)
    (h : ∀ key value, e = .assignment key value → Balanced value.lexemes) : Balanced e.lexemes := by
  cases e with
  | assignment key value =>
    exact key.balanced.cons ((Balanced.mark rfl rfl rfl).cons (h key value rfl))
  | shorthand own => exact .word own

end Entry

/-- What a literal of one lexeme is read as. A template without substitutions is a string. -/
def Lexeme.literal? (l : Lexeme) : Option (Form Node) :=
  match l.kind with
  | .string value => some (.stringLiteral value)
  | .template value substitutions =>
    some (if substitutions then .templateLiteral else .stringLiteral value)
  | .number => some (.numericLiteral l.text)
  | _ => none

/-- A literal opens an expression, and is no bracket. -/
theorem Lexeme.opens_of_literal? {l : Lexeme} {form : Form Node} (h : l.literal? = some form) :
    l.Opens ∧ l.isBracket = false := by
  unfold literal? at h
  unfold Opens isBracket
  split at h <;> rename_i hk <;> first | (rw [hk]; exact ⟨trivial, rfl⟩) | cases h

namespace Phrase

/-- A phrase of one lexeme. -/
def single (l : Lexeme) (form : Form Node) : Phrase := ⟨[l], .bare form, 1⟩

/-- A phrase in parentheses. -/
def parenthesized (inner : Phrase) : Phrase :=
  ⟨inBrackets '(' ')' inner.lexemes, .bare (.parenthesized inner.tree), inner.nesting + 1⟩

/-- An array literal. -/
def array (elements : List Phrase) : Phrase :=
  ⟨inBrackets '[' ']' (commas (elements.map lexemes)), .bare (.arrayLiteral (elements.map tree)),
    deepest (elements.map nesting) + 1⟩

/-- An object literal. -/
def object (entries : List Entry) : Phrase :=
  ⟨inBrackets '\x7b' '\x7d' (commas (entries.map Entry.lexemes)),
    .bare (.objectLiteral (entries.map Entry.tree)), deepest (entries.map Entry.nesting) + 1⟩

/-- A member of what a phrase stands for. -/
def member (base : Phrase) (own : Word) : Phrase :=
  ⟨base.lexemes ++ [.mark '.', own.lexeme], .bare (.propertyAccess base.tree own.text),
    base.nesting⟩

/-- A call, with its type arguments if there are any. -/
def call (callee : Phrase) (types : List TypeArgument) (arguments : List Phrase) : Phrase :=
  ⟨callee.lexemes ++ (typeArgumentLexemes types
      ++ inBrackets '(' ')' (commas (arguments.map lexemes))),
    .bare (.call callee.tree (types.map fun type => .bare (.typeText type.text))
      (arguments.map tree)),
    max callee.nesting (deepest (arguments.map nesting) + 1)⟩

/-- **An operand**: an expression made of names, literals, parentheses, array and object literals,
members and calls. -/
inductive IsOperand : Phrase → Prop where
  | name (own : Name) : IsOperand (.single own.lexeme (.identifier own.text))
  | literal {l : Lexeme} {form : Form Node} : l.Scans → l.literal? = some form →
    IsOperand (.single l form)
  | parenthesized {inner : Phrase} : inner.IsOperand → IsOperand inner.parenthesized
  | array {elements : List Phrase} : (∀ e ∈ elements, e.IsOperand) → IsOperand (.array elements)
  | object {entries : List Entry} :
    (∀ key value, .assignment key value ∈ entries → value.IsOperand) → IsOperand (.object entries)
  | member {base : Phrase} (own : Word) : base.IsOperand → IsOperand (base.member own)
  | call {callee : Phrase} (types : List TypeArgument) {arguments : List Phrase} :
    callee.IsOperand → (∀ e ∈ arguments, e.IsOperand) → IsOperand (callee.call types arguments)

/-- Whether a phrase is an expression in parentheses. -/
def isParenthesized (p : Phrase) : Bool :=
  match p.tree.form with
  | .parenthesized _ => true
  | _ => false

variable {p : Phrase}

/-! ## The lexemes of operands -/

namespace IsOperand

/-- An operand opens like an expression, whatever comes after it. -/
theorem opens_append (h : p.IsOperand) (more : List Lexeme) :
    ∃ l ms, p.lexemes ++ more = l :: ms ∧ l.Opens := by
  have hbracket : ∀ {o c : Char} {ls more : List Lexeme}, o ∈ Parser.openers →
      ∃ l ms, inBrackets o c ls ++ more = l :: ms ∧ l.Opens := fun ho => ⟨_, _, rfl, ho⟩
  induction h generalizing more with
  | name own => exact ⟨_, _, rfl, .inr own.free⟩
  | literal _ hl => exact ⟨_, _, rfl, (Lexeme.opens_of_literal? hl).1⟩
  | parenthesized _ _ => exact hbracket (by decide)
  | array _ _ => exact hbracket (by decide)
  | object _ _ => exact hbracket (by decide)
  | member own _ ih =>
    rw [Phrase.member, List.append_assoc]
    exact ih _
  | call types _ _ ih _ =>
    rw [Phrase.call, List.append_assoc]
    exact ih _

theorem opens (h : p.IsOperand) : ∃ l ms, p.lexemes = l :: ms ∧ l.Opens :=
  List.append_nil p.lexemes ▸ h.opens_append []

theorem ne_nil (h : p.IsOperand) : p.lexemes ≠ [] := by
  obtain ⟨l, ms, hms, _⟩ := h.opens
  exact hms ▸ List.cons_ne_nil l ms

theorem nesting_pos (h : p.IsOperand) : 0 < p.nesting := by
  induction h with
  | member own _ ih => exact ih
  | call types _ _ ih _ => exact Nat.lt_of_lt_of_le ih (Nat.le_max_left _ _)
  | _ => exact Nat.succ_pos _

/-- **The lexemes of an operand are balanced.** -/
theorem balanced (h : p.IsOperand) : Balanced p.lexemes := by
  induction h with
  | name own => exact .word own.toWord
  | literal hscans hl => exact .single hscans (Lexeme.opens_of_literal? hl).2
  | parenthesized _ ih => exact .brackets (by decide) ih
  | array _ ih => exact .brackets (by decide) (.commas (List.forall_mem_map.mpr ih))
  | object _ ih =>
    exact .brackets (by decide) (.commas (List.forall_mem_map.mpr fun e he =>
      e.balanced fun key value hvalue => ih key value (hvalue ▸ he)))
  | member own _ ih => exact ih.append ((Balanced.mark rfl rfl rfl).cons (.word own))
  | call types _ _ ih iharguments =>
    exact ih.append ((balanced_typeArgumentLexemes types).append
      (.brackets (by decide) (.commas (List.forall_mem_map.mpr iharguments))))

end IsOperand

end Phrase

/-- **A lexeme that stands in an operand outside of brackets**: a word, a literal or a point. -/
def Lexeme.Outer (l : Lexeme) : Prop :=
  match l.kind with
  | .identifier => True
  | .string _ => True
  | .template _ _ => True
  | .number => True
  | .punct p => p = '.'
  | _ => False

theorem Level.append {P : Lexeme → Prop} {ls ms : List Lexeme} (h : Level P ls)
    (h' : Level P ms) : Level P (ls ++ ms) := by
  induction h with
  | nil => exact h'
  | plain hl hP _ ih => exact .plain hl hP (ih h')
  | nested hpair hinner _ _ ih =>
    rw [List.cons_append, List.append_assoc, List.cons_append]
    exact .nested hpair hinner (ih h')

/-- Of balanced lexemes in brackets nothing stands outside of brackets. -/
theorem Balanced.level_inBrackets {P : Lexeme → Prop} {o p : Char} {ls : List Lexeme}
    (hpair : (o, p) ∈ bracketPairs) (h : Balanced ls) : Level P (inBrackets o p ls) :=
  .nested hpair (h.bracketed.level.imp fun _ _ => trivial) .nil

namespace Phrase

variable {p : Phrase}

/-- **Outside of brackets an operand consists of words, literals and points.** -/
theorem IsOperand.level (h : p.IsOperand) : Level Lexeme.Outer p.lexemes := by
  have hpoint : Lexeme.Outer (.mark '.') := rfl
  induction h with
  | name own => exact .plain rfl trivial .nil
  | @literal l _ _ hl =>
    refine .plain (Lexeme.opens_of_literal? hl).2 ?_ .nil
    unfold Lexeme.literal? at hl
    unfold Lexeme.Outer
    split at hl <;> rename_i hk <;> first | (rw [hk]; exact trivial) | cases hl
  | parenthesized hinner _ => exact hinner.balanced.level_inBrackets (by decide)
  | array helements _ =>
    exact Balanced.level_inBrackets (by decide)
      (.commas (List.forall_mem_map.mpr fun e he => (helements e he).balanced))
  | object hvalues _ =>
    exact Balanced.level_inBrackets (by decide)
      (.commas (List.forall_mem_map.mpr fun e he =>
        e.balanced fun key value hvalue => (hvalues key value (hvalue ▸ he)).balanced))
  | member own _ ih => exact ih.append (.plain rfl hpoint (.plain rfl trivial .nil))
  | call types hcallee harguments ih _ =>
    refine ih.append (.append ?_ (Balanced.level_inBrackets (by decide)
      (.commas (List.forall_mem_map.mpr fun e he => (harguments e he).balanced))))
    cases types with
    | nil => exact .nil
    | cons type types =>
      exact Balanced.level_inBrackets (by decide)
        (.commas (List.forall_mem_map.mpr fun t _ => t.balanced))

/-! ## Operands are read -/

/-- **What may stand after an operand**: no arrow, and after parentheses no colon. -/
def Before (p : Phrase) (l : Lexeme) : Prop :=
  l.kind ≠ .arrow ∧ (p.isParenthesized = true → l.kind ≠ .punct ':')

/-- What is no expression in parentheses stands before everything but an arrow. -/
theorem before_of_ne_arrow (hp : p.isParenthesized = false) {l : Lexeme} (hl : l.kind ≠ .arrow) :
    p.Before l :=
  ⟨hl, fun h => absurd (h.symm.trans hp) (by decide)⟩

theorem before_mark (p : Phrase) {q : Char} (hq : q ≠ ':') : p.Before (.mark q) :=
  ⟨TokenKind.noConfusion, fun _ => Lexeme.kind_mark_ne hq⟩

/-- A phrase after which parsing goes on is read as an expression. -/
theorem readAs (h : p.IsOperand)
    (hp : Continues p.Before p.lexemes p.nesting p.tree.Alike) (levels : Nat) :
    ReadAs levels p.lexemes (p.nesting ≤ levels) p.tree.Alike := by
  refine hp.readAs h.opens (fun q hq => p.before_mark ?_) h.nesting_pos levels
  rintro rfl
  revert hq
  decide

namespace IsOperand

/-- **Parsing goes on after every operand.** -/
theorem continues (h : p.IsOperand) : Continues p.Before p.lexemes p.nesting p.tree.Alike := by
  have hopens := h.opens
  induction h with
  | name own =>
    refine .of_plainPrimary hopens fun levels l rest c hl hc => ?_
    rw [plainPrimary_name hc, if_neg hl.1]
    exact .of_ok (.mk .identifier trivial) hc.next.store (Nat.le_add_left 1 levels)
  | @literal l form _ hform =>
    refine .of_plainPrimary hopens fun levels m rest c _ hc => ?_
    have hleaf : plainPrimary (within levels) c = leaf form c := by
      have hkind : c.current.kind = l.kind := hc.kind
      have htext : c.current.text = l.text := hc.text
      unfold Lexeme.literal? at hform
      unfold plainPrimary
      rw [current_bind, hkind, htext]
      split at hform <;> rename_i hk <;> first | (rw [hk]; cases hform; rfl) | cases hform
    rw [hleaf]
    exact .of_ok (Node.alike_bare (Node.alike_refl (.bare form)).form) hc.next.store
      (Nat.le_add_left 1 levels)
  | @parenthesized inner hinner ih =>
    refine .of_plainPrimary hopens fun levels l rest c hl hc => ?_
    rw [plainPrimary_paren hinner.balanced (hl.2 rfl) hc, if_neg hl.1]
    refine ((comes_parenthesized (readAs hinner (ih hinner.opens) levels) hc).imp ?_).congr
      Nat.add_le_add_iff_right.symm
    rintro _ ⟨m, range, index, rfl, hm⟩
    exact .mk (.parenthesized hm) trivial
  | @array elements helements ih =>
    refine .of_plainPrimary hopens fun levels l rest c _ hc => ?_
    unfold plainPrimary
    rw [current_bind, @Cursor.Faces.kind _ (.mark '[') _ hc]
    refine ((comes_arrayLiteral (fun e he => readAs (helements e he)
      (ih e he (helements e he).opens) levels) hc).imp ?_).congr ?_
    · rintro _ ⟨ns, range, index, rfl, hns⟩
      exact .mk (.arrayLiteral (List.forall₂_map_left_iff.mpr hns)) trivial
    · show _ ↔ deepest _ + 1 ≤ levels + 1
      rw [Nat.add_le_add_iff_right, deepest_le, List.forall_mem_map]
  | @object entries hvalues ih =>
    refine .of_plainPrimary hopens fun levels l rest c _ hc => ?_
    unfold plainPrimary
    rw [current_bind, @Cursor.Faces.kind _ (.mark '\x7b') _ hc]
    have hentries : ∀ e ∈ entries, ∀ p, p = ',' ∨ p = '\x7d' → ∀ c rest,
        c.Faces (e.lexemes ++ .mark p :: rest) →
        Comes (property (within levels) c) (e.nesting ≤ levels) e.tree.Alike
          (.mark p :: rest) := by
      intro e he p hp c rest hc
      cases e with
      | assignment key value =>
        have hvalue := hvalues key value he
        refine (comes_assignment (readAs hvalue (ih key value he hvalue.opens) levels) hp hc).imp ?_
        rintro _ ⟨m, range, index, rfl, hm⟩
        exact .mk (.propertyAssignment hm) trivial
      | shorthand own =>
        refine ((comes_shorthand hp hc).imp ?_).congr (iff_of_true trivial (Nat.zero_le _))
        rintro _ ⟨range, index, rfl⟩
        exact .mk .shorthandProperty trivial
    refine ((comes_objectLiteral (fun e _ => e.exists_lexemes_eq) hentries hc).imp ?_).congr ?_
    · rintro _ ⟨ns, range, index, rfl, hns⟩
      exact .mk (.objectLiteral (List.forall₂_map_left_iff.mpr hns)) trivial
    · show _ ↔ deepest _ + 1 ≤ levels + 1
      rw [Nat.add_le_add_iff_right, deepest_le, List.forall_mem_map]
  | member own hbase ih =>
    refine (Continues.member (ih hbase.opens) (before_mark _ (by decide)) _).imp ?_
    rintro _ ⟨n, range, index, rfl, hn⟩
    exact .mk (.propertyAccess hn) trivial
  | @call callee types arguments hcallee harguments ih iharguments =>
    refine (Continues.call (ih hcallee.opens) (before_mark _ (by decide))
      (before_mark _ (by decide)) (fun levels e he => readAs (harguments e he)
        (iharguments e he (harguments e he).opens) levels)
      (fun levels => deepest_le.trans List.forall_mem_map) _).imp ?_
    rintro _ ⟨n, ⟨ts, ns, range, index, rfl, hts, hns⟩, hn⟩
    refine .mk (.call hn (List.forall₂_map_left_iff.mpr (hts.imp fun type t ht => ?_))
      (List.forall₂_map_left_iff.mpr hns)) trivial
    refine Node.alike_bare ?_
    rw [ht]
    exact .typeText rfl

end IsOperand

end Phrase

end TypeTest

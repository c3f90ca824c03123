import TypeTest.Proofs.Printing.Expression

/-!
# First lexemes and balanced brackets

What the parser decides by looking ahead it decides by the first lexeme of an expression,
which opens nothing but an expression, and by the bracket that belongs to a parenthesis. So
of a printed expression two things are to be known besides what it is: its first lexeme,
and that its lexemes are **balanced**: they all scan, and every bracket is closed by its
own. Lists, statements and parameters inherit balance from their parts.
-/

namespace TypeTest

/-! ## The first lexeme -/

/-- **A lexeme with which an expression opens**: a name, the word for functions, a literal or
an opening bracket. -/
def Lexeme.Opens (l : Lexeme) : Prop :=
  match l.kind with
  | .identifier => l.text = "function" ∨ l.text ∉ keywords
  | .string _ => True
  | .template _ _ => True
  | .number => True
  | .punct p => p ∈ Parser.openers
  | _ => False

namespace Lexeme.Opens

variable {l : Lexeme}

theorem kind_ne_punct (h : l.Opens) {p : Char} (hp : p ∉ Parser.openers) : l.kind ≠ .punct p := by
  intro hk
  unfold Opens at h
  rw [hk] at h
  exact hp h

theorem kind_ne_ellipsis (h : l.Opens) : l.kind ≠ .ellipsis := by
  intro hk
  unfold Opens at h
  rw [hk] at h
  exact h

theorem kind_ne_end (h : l.Opens) : l.kind ≠ .endOfText := by
  intro hk
  unfold Opens at h
  rw [hk] at h
  exact h

/-- An expression that opens with a word that means something is a function. -/
theorem text_eq (h : l.Opens) (hk : l.kind = .identifier) (hw : l.text ∈ keywords) :
    l = .word "function" := by
  obtain ⟨kind, text⟩ := l
  cases hk
  rcases h with h | h
  · exact congrArg Lexeme.word h
  · exact absurd hw h

end Lexeme.Opens

namespace Expression

/-- An expression is printed from its first lexeme on. -/
theorem exists_lexemes_eq (e : Expression) : ∃ ls, e.lexemes = e.first :: ls := by
  have happend : ∀ {ls ms : List Lexeme} {l : Lexeme}, (∃ ls', ls = l :: ls') →
      ∃ ls', ls ++ ms = l :: ls' := by
    rintro _ ms l ⟨ls', rfl⟩
    exact ⟨ls' ++ ms, rfl⟩
  induction e with
  | member base own ih => exact happend ih
  | call callee types arguments ih _ => exact happend ih
  | arrow head body _ => cases head <;> exact ⟨_, rfl⟩
  | arrowBlock head body _ => cases head <;> exact ⟨_, rfl⟩
  | _ => exact ⟨_, rfl⟩

theorem opens_first (e : Expression) : e.first.Opens := by
  induction e with
  | name own => exact .inr own.free
  | string literal => exact trivial
  | number literal => exact trivial
  | parenthesized inner _ => exact List.mem_cons_self
  | array elements _ => exact List.mem_cons_of_mem _ List.mem_cons_self
  | object properties _ =>
    exact List.mem_cons_of_mem _ (List.mem_cons_of_mem _ List.mem_cons_self)
  | member base own ih => exact ih
  | call callee types arguments ih _ => exact ih
  | function own parameters body _ => exact .inl rfl
  | arrow head body _ =>
    cases head with
    | bare own => exact .inr own.free
    | list parameters => exact List.mem_cons_self
  | arrowBlock head body _ =>
    cases head with
    | bare own => exact .inr own.free
    | list parameters => exact List.mem_cons_self

end Expression

theorem PropertyKey.kind_ne_punct (key : PropertyKey) (p : Char) : key.lexeme.kind ≠ .punct p := by
  cases key <;> exact TokenKind.noConfusion

/-- A property does not open with a character of punctuation. -/
theorem Property.exists_lexemes_eq (p : Property) :
    ∃ l ls, p.lexemes = l :: ls ∧ ∀ q, l.kind ≠ .punct q := by
  cases p with
  | assignment key value => exact ⟨_, _, rfl, key.kind_ne_punct⟩
  | shorthand own => exact ⟨_, _, rfl, fun _ => TokenKind.noConfusion⟩

/-! ## Balance -/

theorem Bracketed.append {stops : List Char} {ls ms : List Lexeme} (h : Bracketed stops ls)
    (h' : Bracketed stops ms) : Bracketed stops (ls ++ ms) := by
  induction h with
  | nil => exact h'
  | plain hl hstops _ ih => exact .plain hl hstops (ih h')
  | nested hpair hinner _ _ ih =>
    rw [List.cons_append, List.append_assoc, List.cons_append]
    exact .nested hpair hinner (ih h')

/-- Where some characters do not stand, no fewer of them do. -/
theorem Bracketed.weaken {stops : List Char} {ls : List Lexeme} (h : Bracketed stops ls) :
    Bracketed [] ls := by
  induction h with
  | nil => exact .nil
  | plain hl _ _ ih => exact .plain hl (fun _ hp => absurd hp List.not_mem_nil) ih
  | nested hpair hinner _ _ ih => exact .nested hpair hinner ih

theorem Lexeme.Scans.mark {p : Char} (hp : isBlank p = false)
    (hs : scanToken p [] = .ok (.punct p, [])) : (Lexeme.mark p).Scans :=
  ⟨p, [], String.toList_singleton p, hp, hs⟩

/-- **Balanced lexemes**: they all scan, and every bracket is closed by its own. -/
structure Balanced (ls : List Lexeme) : Prop where
  scans : ∀ l ∈ ls, l.Scans
  bracketed : Bracketed [] ls

namespace Balanced

variable {ls ms : List Lexeme} {lss : List (List Lexeme)} {l : Lexeme}

theorem nil : Balanced [] := ⟨fun _ h => absurd h List.not_mem_nil, .nil⟩

theorem single (hl : l.Scans) (hb : l.isBracket = false) : Balanced [l] :=
  ⟨List.forall_mem_singleton.mpr hl, .plain hb (fun _ hp => absurd hp List.not_mem_nil) .nil⟩

theorem append (h : Balanced ls) (h' : Balanced ms) : Balanced (ls ++ ms) :=
  ⟨List.forall_mem_append.mpr ⟨h.scans, h'.scans⟩, h.bracketed.append h'.bracketed⟩

theorem cons (h : Balanced [l]) (h' : Balanced ls) : Balanced (l :: ls) := h.append h'

theorem word (w : Word) : Balanced [w.lexeme] := single w.scans rfl

theorem mark {p : Char} (hp : isBlank p = false) (hs : scanToken p [] = .ok (.punct p, []))
    (hb : (Lexeme.mark p).isBracket = false) : Balanced [.mark p] :=
  single (Lexeme.Scans.mark hp hs) hb

theorem arrow : Balanced [.arrow] := single ⟨'=', ['>'], rfl, rfl, rfl⟩ rfl

theorem brackets {o p : Char} (hpair : (o, p) ∈ bracketPairs) (h : Balanced ls) :
    Balanced (inBrackets o p ls) := by
  have hscans : ∀ pair ∈ bracketPairs,
      (Lexeme.mark pair.1).Scans ∧ (Lexeme.mark pair.2).Scans := by
    simp only [bracketPairs, List.forall_mem_cons]
    exact ⟨⟨.mark rfl rfl, .mark rfl rfl⟩, ⟨.mark rfl rfl, .mark rfl rfl⟩,
      ⟨.mark rfl rfl, .mark rfl rfl⟩, ⟨.mark rfl rfl, .mark rfl rfl⟩,
      fun _ h => absurd h List.not_mem_nil⟩
  obtain ⟨ho, hp⟩ := hscans _ hpair
  exact ⟨List.forall_mem_cons.mpr ⟨ho, List.forall_mem_append.mpr
    ⟨h.scans, List.forall_mem_singleton.mpr hp⟩⟩, .nested hpair h.bracketed .nil⟩

theorem commas (h : ∀ ls ∈ lss, Balanced ls) : Balanced (commas lss) := by
  fun_induction TypeTest.commas lss with
  | case1 => exact nil
  | case2 ls => exact h ls (List.mem_singleton_self ls)
  | case3 ls ms more ih =>
    obtain ⟨hls, hmore⟩ := List.forall_mem_cons.mp h
    exact hls.append ((mark rfl rfl rfl).cons (ih hmore))

theorem terminated (h : ∀ ls ∈ lss, Balanced ls) : Balanced (terminated lss) := by
  induction lss with
  | nil => exact nil
  | cons ls more ih =>
    obtain ⟨hls, hmore⟩ := List.forall_mem_cons.mp h
    exact hls.append ((mark rfl rfl rfl).cons (ih hmore))

end Balanced

theorem TypeLexemes.balanced {stops : List Char} (type : TypeLexemes stops) :
    Balanced type.lexemes :=
  ⟨type.scans, type.bracketed.weaken⟩

theorem Parameter.balanced (p : Parameter) : Balanced p.lexemes := by
  obtain ⟨own, type⟩ := p
  cases type with
  | none => exact .word own
  | some type => exact (Balanced.word own).cons ((Balanced.mark rfl rfl rfl).cons type.balanced)

theorem balanced_parameterLexemes (parameters : List Parameter) :
    Balanced (parameterLexemes parameters) :=
  .brackets (by decide) (.commas (List.forall_mem_map.mpr fun p _ => p.balanced))

theorem ArrowHead.balanced (head : ArrowHead) : Balanced head.lexemes := by
  cases head with
  | bare own => exact .word own.toWord
  | list parameters => exact balanced_parameterLexemes parameters

theorem balanced_typeArgumentLexemes (types : List TypeArgument) :
    Balanced (typeArgumentLexemes types) := by
  cases types with
  | nil => exact .nil
  | cons type types =>
    exact .brackets (by decide) (.commas (List.forall_mem_map.mpr fun t _ => t.balanced))

theorem PropertyKey.balanced (key : PropertyKey) : Balanced [key.lexeme] := by
  cases key with
  | word own => exact .word own
  | string literal => exact .single literal.scans rfl
  | number literal => exact .single literal.scans rfl

/-- **A printed expression is balanced.** -/
theorem Expression.balanced (e : Expression) : Balanced e.lexemes := by
  induction e with
  | name own => exact .word own.toWord
  | string literal => exact .single literal.scans rfl
  | number literal => exact .single literal.scans rfl
  | parenthesized inner ih => exact .brackets (by decide) ih
  | array elements ih =>
    rw [lexemes, lexemesOf_eq_map]
    exact .brackets (by decide) (.commas (List.forall_mem_map.mpr ih))
  | object properties ih =>
    rw [lexemes, propertyLexemes_eq_map]
    refine .brackets (by decide) (.commas (List.forall_mem_map.mpr fun p hp => ?_))
    cases p with
    | assignment key value =>
      exact key.balanced.cons ((Balanced.mark rfl rfl rfl).cons (ih key value hp))
    | shorthand own => exact .word own
  | member base own ih => exact ih.append ((Balanced.mark rfl rfl rfl).cons (.word own))
  | call callee types arguments ih iharguments =>
    rw [lexemes, lexemesOf_eq_map]
    exact ih.append ((balanced_typeArgumentLexemes types).append
      (.brackets (by decide) (.commas (List.forall_mem_map.mpr iharguments))))
  | function own parameters body ih =>
    rw [lexemes, lexemesOf_eq_map]
    refine (Balanced.single ⟨'f', "unction".toList, rfl, rfl, rfl⟩ rfl).cons (.append ?_
      ((balanced_parameterLexemes parameters).append
        (.brackets (by decide) (.terminated (List.forall_mem_map.mpr ih)))))
    cases own with
    | none => exact .nil
    | some own => exact .word own
  | arrow head body ih => exact head.balanced.append (Balanced.arrow.cons ih)
  | arrowBlock head body ih =>
    rw [lexemes, lexemesOf_eq_map]
    exact head.balanced.append (Balanced.arrow.cons
      (.brackets (by decide) (.terminated (List.forall_mem_map.mpr ih))))

/-- The search for an arrow passes balanced lexemes. -/
theorem Balanced.passes {ls : List Lexeme} (h : Balanced ls) : Parser.Passes ls :=
  .of_bracketed h.bracketed fun l hl => (h.scans l hl).kind_ne

end TypeTest

import TypeTest.Proofs.Parsing.FollowingTree
import TypeTest.Proofs.Parsing.JoinedTokens
import TypeTest.Proofs.Parsing.PlacedTree
import TypeTest.Proofs.Parsing.TokenRuns
import TypeTest.Script.File

/-!
# Scripts separated by a semicolon

Two scripts with a semicolon between them are one script, and its statements are those of
the one followed by those of the other. This holds if the first script **leaves no bracket
open**, and it needs that: what is read ahead at a `<`, for a list of type arguments, does
not stop at a semicolon, so `f < g` and `h > (1)` become a single call.

The proof follows two pairs of runs. As long as the first script lasts, its own run and that
over both scripts stand side by side; where it ends, the other run has passed, or is about to
pass, the semicolon. From there on the run over the second script alone is followed, whose
tokens are the same but further on.
-/

namespace TypeTest

open TypeTest.Parser

/-! ## The comparisons -/

theorem spelling_congr {ts us : List Token}
    (h : List.Forall₂ (fun t u => t.lexeme = u.lexeme ∧ t.trivia = u.trivia) ts us) :
    spelling ts = spelling us := by
  refine spelling_eq_of_pieces ?_
  induction h with
  | nil => rfl
  | cons htu _ ih =>
    rw [List.map_cons, List.map_cons, ih]
    unfold Token.piece
    rw [htu.1, htu.2]

/-- The range further on by `count`. -/
def TextRange.shift (count : Nat) (r : TextRange) : TextRange := ⟨r.start + count, r.length⟩

namespace Comparison

/-- **A text and one that goes on** with the tokens `more` after a semicolon. -/
def goingOn (more : List Token) : Comparison where
  Offsets _ _ := True
  Trivia := Eq
  Tails _ _ := True
  Indices _ _ := True
  Ranges _ _ := True
  Texts := Eq
  Like := Node.Like (fun _ _ => True) Eq
  more := some more
  ranges _ _ := trivial
  tail _ := trivial
  texts _ _ _ := spelling_congr
  succ _ := trivial
  like hform hrange _ := .mk hform hrange
  free _ _ _ := trivial
  unnumbered _ _ _ := trivial

/-- **The same text further on** by `count`. -/
def further (count : Nat) : Comparison where
  Offsets offset offset' := offset' = offset + count
  Trivia := Eq
  Tails _ _ := True
  Indices _ _ := True
  Ranges r r' := r' = r.shift count
  Texts := Eq
  Like := Node.Like (fun r r' => r' = r.shift count) Eq
  more := none
  ranges hstart hstop := by
    subst hstart hstop
    rw [TextRange.shift, Nat.add_sub_add_right]
  tail _ := trivial
  texts _ _ _ := spelling_congr
  succ _ := trivial
  like hform hrange _ := .mk hform hrange
  free h := absurd rfl h
  unnumbered _ _ _ := trivial

/-- Before its end the text that goes on has the same tokens. -/
theorem left_goingOn {init more : List Token} {e s t : Token}
    (hinit : ∀ t ∈ init, t.isEnd = false) (he : e.isEnd = true) (hs : s.isPunct ';' = true) :
    (goingOn (t :: more)).Left false (init ++ [e]) (init ++ s :: t :: more) := by
  induction init with
  | nil => exact .separated rfl he hs
  | cons u init ih =>
    obtain ⟨hu, hinit⟩ := List.forall_mem_cons.mp hinit
    have hsame : (goingOn (t :: more)).Same u u := ⟨rfl, rfl, trivial, trivial⟩
    exact .cons hu hsame (fun _ => ⟨hsame, rfl, rfl⟩) (ih hinit)

theorem left_shift {init : List Token} {e : Token} (count : Nat)
    (hinit : ∀ t ∈ init, t.isEnd = false) (he : e.isEnd = true) :
    (further count).Left false (init ++ [e]) ((init ++ [e]).map (Token.shift count)) := by
  induction init with
  | nil => exact .ended rfl he he rfl
  | cons t init ih =>
    obtain ⟨ht, hinit⟩ := List.forall_mem_cons.mp hinit
    have hsame : (further count).Same t (t.shift count) := ⟨rfl, rfl, rfl, t.stop_shift count⟩
    exact .cons ht hsame (fun _ => ⟨hsame, rfl, rfl⟩) (ih hinit)

/-- The tokens that stand further on correspond; before the first of them more may be skipped. -/
theorem left_further {us : List Token} (hus : Token.InOrder us) (count : Nat) (trivia : String) :
    (further count).Left true us (Token.behind trivia (us.map (Token.shift count))) := by
  obtain ⟨init, e, rfl, he, hinit⟩ := hus.last
  cases init with
  | nil => exact .ended rfl he he rfl
  | cons t init =>
    obtain ⟨ht, hinit⟩ := List.forall_mem_cons.mp hinit
    exact .cons ht ⟨rfl, rfl, rfl, t.stop_shift count⟩ nofun (left_shift count hinit he)

end Comparison

/-! ## Semicolons between statements -/

namespace Parser

variable {ts : List Token} {inner : Inner} {inBlock : Bool} {found found' : List Node}
  {c c' : Cursor}

/-- What was found before has no part in the search for the next statement. -/
theorem statementStep_append (inner : Inner) (inBlock : Bool) (found earlier : List Node)
    (c : Cursor) :
    statementStep inner inBlock (found ++ earlier) c
      = (statementStep inner inBlock found c).map fun x => (x.1.map (· ++ earlier), x.2) := by
  unfold statementStep
  cases hskip : skipWhile (·.current.isPunct ';') c with
  | error fault =>
    rw [bind_of_error _ hskip, bind_of_error _ hskip]
    rfl
  | ok x =>
    obtain ⟨_, c₁⟩ := x
    rw [bind_of_ok _ hskip, bind_of_ok _ hskip, current_bind, current_bind]
    split
    · split
      · obtain ⟨fault, hf⟩ : ∃ fault, (refuse "'\x7d'" c₁ :
            Except SyntaxFault (Option (List Node) × Cursor)) = .error fault :=
          Comparison.refuse_eq_error _ c₁
        rw [hf]
        rfl
      · rfl
    split
    · rfl
    · cases hn : statement inner c₁ with
      | error fault =>
        rw [bind_of_error _ hn, bind_of_error _ hn]
        rfl
      | ok x =>
        rw [bind_of_ok _ hn, bind_of_ok _ hn]
        rfl

/-- **Statements are found independently** of those found before. -/
theorem repeatWhile_statementStep_append (inner : Inner) (inBlock : Bool)
    (found earlier : List Node) (c : Cursor) :
    repeatWhile (statementStep inner inBlock) (found ++ earlier) c
      = (repeatWhile (statementStep inner inBlock) found c).map fun x => (x.1 ++ earlier, x.2) := by
  fun_induction repeatWhile (statementStep inner inBlock) found c with
  | case1 found c fault hs =>
    rw [repeatWhile_of_error ((statementStep_append _ _ _ _ _).trans (by rw [hs]; rfl))]
    rfl
  | case2 found c c' hs =>
    rw [repeatWhile_of_none ((statementStep_append _ _ _ _ _).trans (by rw [hs]; rfl))]
    rfl
  | case3 found c found' c' hs hlt ih =>
    rw [repeatWhile_of_lt ((statementStep_append _ _ _ _ _).trans (by rw [hs]; rfl)) hlt]
    exact ih
  | case4 found c found' c' hs hlt =>
    rw [repeatWhile_of_not_lt ((statementStep_append _ _ _ _ _).trans (by rw [hs]; rfl)) hlt]
    rfl

/-- A semicolon is skipped before a statement. -/
theorem statementStep_of_semicolon (hs : c.current.isPunct ';' = true)
    (hlt : c.next.remaining < c.remaining) :
    statementStep inner inBlock found c = statementStep inner inBlock found c.next := by
  have hskip : skipWhile (·.current.isPunct ';') c = skipWhile (·.current.isPunct ';') c.next := by
    refine repeatWhile_of_lt ?_ hlt
    show (if c.current.isPunct ';' then _ else _) = _
    rw [if_pos hs]
  unfold statementStep
  show (skipWhile _ c).bind _ = (skipWhile _ c.next).bind _
  rw [hskip]

/-- Where no semicolon stands, no token is skipped. -/
theorem skipWhile_of_notPunct (hs : c.current.isPunct ';' = false) :
    skipWhile (·.current.isPunct ';') c = .ok ((), c) := by
  refine repeatWhile_of_none ?_
  show (if c.current.isPunct ';' then _ else _) = _
  rw [hs]
  rfl

/-- At the end of a script there are no more statements. -/
theorem statementStep_of_isEnd (he : c.current.isEnd = true) :
    statementStep inner false found c = .ok (none, c) := by
  have hs : c.current.isPunct ';' = false := by
    unfold Token.isPunct
    rw [eq_of_beq he]
    rfl
  unfold statementStep
  rw [bind_of_ok _ (skipWhile_of_notPunct hs), current_bind, he]
  rfl

/-- Before the end of a script, where no semicolon stands, a statement does. -/
theorem statementStep_of_statement (hs : c.current.isPunct ';' = false)
    (he : c.current.isEnd = false) :
    statementStep inner false found c
      = (statement inner c).map fun x => (some (x.1 :: found), x.2) := by
  unfold statementStep
  rw [bind_of_ok _ (skipWhile_of_notPunct hs), current_bind, he, if_neg Bool.false_ne_true]
  rfl

section InOrder

variable (hts : Token.InOrder ts)

include hts

/-- A step that finds a statement takes a token. -/
theorem takes_statementStep (hi : inner.Reads ts) (hc : c.On ts)
    (h : statementStep inner inBlock found c = .ok (some found', c')) :
    c'.On ts ∧ c'.remaining < c.remaining := by
  unfold statementStep at h
  obtain ⟨_, c₁, _, s, h⟩ := (Span.refl hc).pass hts (reads_skipWhile hts _) h
  rw [current_bind] at h
  split at h
  · split at h
    · exact absurd h refuse_ne_ok
    · cases h
  split at h
  · cases h
  · obtain ⟨n, c₂, hn, h⟩ := bind_eq_ok.mp h
    cases h
    have s' := reads_statement hts hi s.stop hn
    exact ⟨s'.stop, Nat.lt_of_lt_of_le (s'.remaining_lt hts (List.cons_ne_nil _ _)) s.le⟩

/-- **Semicolons before a statement make no difference.** -/
theorem repeatWhile_statementStep_of_semicolon (hi : inner.Reads ts) (hc : c.On ts)
    (hs : c.current.isPunct ';' = true) :
    repeatWhile (statementStep inner inBlock) found c
      = repeatWhile (statementStep inner inBlock) found c.next := by
  have hlt := hc.remaining_next_lt hts.last (isEnd_of_isPunct hs)
  have hstep : statementStep inner inBlock found c = statementStep inner inBlock found c.next :=
    statementStep_of_semicolon hs hlt
  cases hn : statementStep inner inBlock found c.next with
  | error fault => rw [repeatWhile_of_error hn, repeatWhile_of_error (hstep.trans hn)]
  | ok x =>
    obtain ⟨more, c₁⟩ := x
    cases more with
    | none => rw [repeatWhile_of_none hn, repeatWhile_of_none (hstep.trans hn)]
    | some found' =>
      have hlt₁ := (takes_statementStep hts hi hc.next hn).2
      rw [repeatWhile_of_lt hn hlt₁, repeatWhile_of_lt (hstep.trans hn) (Nat.lt_trans hlt₁ hlt)]

end InOrder

end Parser

/-! ## From one script to the next -/

/-- The cursor that parsing starts with stands on the first token. -/
theorem Cursor.ofTokens_eq {ts : List Token} (h : ts ≠ []) :
    (Cursor.ofTokens ts).current :: (Cursor.ofTokens ts).rest = ts := by
  cases ts with
  | nil => exact absurd rfl h
  | cons t ts => rfl

namespace Comparison

variable {K : Comparison} {inner : Inner} {ts us more : List Token} {t : Token}
  {found found' ns : List Node} {c c' stop : Cursor}

/-- **Where the first script ends, the second one is read**: the run over both comes to the
token after the semicolon, with statements that are alike. -/
theorem exists_resumed (hts : Token.InOrder ts) (hus : Token.InOrder us)
    (hm : K.more = some (t :: more)) (hi : K.FollowsInside inner) (hr : inner.Reads ts)
    (hr' : inner.Reads us) (hc : c.On ts) (hc' : c'.On us) (h : K.Beside true c c')
    (hn : List.Forall₂ K.Like found found')
    (hrun : repeatWhile (statementStep inner false) found c = .ok (ns, stop)) :
    ∃ ms c₁, List.Forall₂ K.Like ns ms ∧ c₁.current :: c₁.rest = t :: more
      ∧ repeatWhile (statementStep inner false) found' c'
        = repeatWhile (statementStep inner false) ms c₁ := by
  -- by induction on the tokens left of the first script
  induction hleft : c.remaining using Nat.strongRecOn generalizing c c' found found' with
  | _ n ih =>
    subst hleft
    cases he : c.current.isEnd with
    | true =>
      rw [repeatWhile_of_none (statementStep_of_isEnd he)] at hrun
      cases hrun
      have hsome : K.more ≠ none := hm ▸ Option.some_ne_none _
      have hs : c'.current.isPunct ';' = true :=
        (h.of_isEnd he).2.elim (fun hnone => absurd hnone.1 hsome) And.right
      exact ⟨found', c'.next, hn, Option.some.inj ((h.more_eq he hsome).symm.trans hm),
        repeatWhile_statementStep_of_semicolon hus hr' hc' hs⟩
    | false =>
      cases hs : c.current.isPunct ';' with
      | true =>
        have hs' : c'.current.isPunct ';' = true := (isPunct_semicolon_eq h he).symm.trans hs
        rw [repeatWhile_statementStep_of_semicolon hts hr hc hs] at hrun
        rw [repeatWhile_statementStep_of_semicolon hus hr' hc' hs']
        exact ih _ (h.next_lt he) hc.next hc'.next (h.next he).weaken hn hrun rfl
      | false =>
        have hs' : c'.current.isPunct ';' = false := (isPunct_semicolon_eq h he).symm.trans hs
        have hstep : statementStep inner false found c = _ := statementStep_of_statement hs he
        have hstep' : statementStep inner false found' c' = _ :=
          statementStep_of_statement hs' ((h.same he).isEnd ▸ he)
        have hfollows := follows_statement hi h
        generalize statement inner c = r, statement inner c' = r' at hstep hstep' hfollows
        cases hfollows with
        | fault _ => cases (repeatWhile_of_error hstep).symm.trans hrun
        | gone _ hf =>
          obtain ⟨fault, rfl⟩ := hf
          cases (repeatWhile_of_error hstep).symm.trans hrun
        | @ok n n' c₁ c₁' hp =>
          obtain ⟨hlike, hp⟩ := hp
          obtain ⟨hc₁, hlt⟩ := takes_statementStep hts hr hc hstep
          obtain ⟨hc₁', hlt'⟩ := takes_statementStep hus hr' hc' hstep'
          rw [repeatWhile_of_lt hstep hlt] at hrun
          rw [repeatWhile_of_lt hstep' hlt']
          cases hp with
          | beside h₁ => exact ih _ hlt hc₁ hc₁' h₁.weaken (.cons hlike hn) hrun rfl
          | past hend hmore =>
            rw [repeatWhile_of_none (statementStep_of_isEnd hend.isEnd)] at hrun
            cases hrun
            exact ⟨n' :: found', c₁', .cons hlike hn, Option.some.inj (hmore.symm.trans hm), rfl⟩

/-- Parsing starts side by side on texts that start so. -/
theorem Left.beside {us' : List Token} (h : K.Left true us us') (htails : K.Tails us us')
    (hindices : K.Indices 0 c'.nextIndex) (hclosed : K.more ≠ none → Token.Closed us)
    (hc : c'.current :: c'.rest = us') : K.Beside true (.ofTokens us) c' := by
  subst hc
  cases us with
  | nil => cases h
  | cons u us => exact ⟨nofun, h, htails, hindices, hclosed⟩

end Comparison

namespace ScriptFile

variable {name text a b : String} {file fa fb : ScriptFile} {ts : List Token} {ns : List Node}
  {c stop : Cursor}

/-- A script is what the search for statements finds, in their order. -/
theorem script_eq_ok : script c = .ok (ns, stop)
    ↔ repeatWhile (statementStep (within maxNesting) false) [] c = .ok (ns.reverse, stop) := by
  unfold script Parser.statements
  rw [bind_eq_ok]
  constructor
  · rintro ⟨found, c₁, hfound, hr⟩
    cases hr
    rw [hfound, List.reverse_reverse]
  · intro h
    refine ⟨ns.reverse, stop, h, ?_⟩
    rw [List.reverse_reverse]
    rfl

/-- The statements of a script are those read off its tokens. -/
theorem exists_script_of_parse (h : parse name text = .ok file) :
    ∃ ts c, tokenize text = .ok ts ∧ script (.ofTokens ts) = .ok (file.statements, c) := by
  cases hroot : parseTree text with
  | error fault => cases (parse_of_error hroot).symm.trans h
  | ok root =>
    cases (parse_of_ok hroot).symm.trans h
    unfold parseTree at hroot
    split at hroot
    · cases hroot
    · rename_i ts hts
      split at hroot
      · cases hroot
      · rename_i statements c hs
        cases hroot
        exact ⟨ts, c, hts, hs⟩

/-- What is read off the tokens of a text is a script. -/
theorem exists_parse_of_script (ht : tokenize text = .ok ts)
    (hs : script (.ofTokens ts) = .ok (ns, c)) (name : String) :
    ∃ file, parse name text = .ok file ∧ file.statements = ns := by
  have hroot : parseTree text = .ok (c.newNode (.sourceFile ns) ⟨0, byteLength text.toList⟩) := by
    unfold parseTree
    rw [ht]
    dsimp only
    rw [hs]
  exact ⟨_, parse_of_ok hroot, rfl⟩

/-- **A text that leaves no bracket open**, whether angle brackets count or not. -/
def LeavesNoneOpen (text : String) : Prop := ∃ ts, tokenize text = .ok ts ∧ Token.Closed ts

instance (text : String) : Decidable (LeavesNoneOpen text) :=
  match h : tokenize text with
  | .ok ts =>
    decidable_of_iff (Token.Closed ts)
      ⟨fun hc => ⟨ts, h, hc⟩, fun ⟨_, ht, hc⟩ => Except.ok.inj (h.symm.trans ht) ▸ hc⟩
  | .error _ => .isFalse fun ⟨_, ht, _⟩ => (nomatch h.symm.trans ht)

/-- **The statements of two scripts, one after the other**, are those of a third one: with the
same forms, names, values and types, and those of the second script further on by `count`. -/
def IsSequence (count : Nat) (fa fb file : ScriptFile) : Prop :=
  ∃ ns ms, file.statements = ns ++ ms
    ∧ List.Forall₂ (Node.Like (fun _ _ => True) Eq) fa.statements ns
    ∧ List.Forall₂ (Node.Like (fun r s => s = r.shift count) Eq) fb.statements ms

theorem IsSequence.length_eq {count : Nat} (h : IsSequence count fa fb file) :
    file.statements.length = fa.statements.length + fb.statements.length := by
  obtain ⟨ns, ms, hstatements, hns, hms⟩ := h
  rw [hstatements, List.length_append, hns.length_eq, hms.length_eq]

/-- **Scripts separated by a semicolon are one script**, if the first one leaves no bracket
open: its statements are those of the two, one after the other. -/
theorem exists_parse_separated (ha : parse name a = .ok fa) (hb : parse name b = .ok fb)
    (hclosed : LeavesNoneOpen a) :
    ∃ file, parse name (separated a b) = .ok file
      ∧ IsSequence (separatedStart a) fa fb file := by
  obtain ⟨ts, stop, hts, hscript⟩ := exists_script_of_parse ha
  obtain ⟨us, stop', hus, hscript'⟩ := exists_script_of_parse hb
  obtain ⟨ts', hts', hclosed⟩ := hclosed
  cases hts'.symm.trans hts
  have hin := inOrder_tokenize hts
  obtain ⟨init, e, s, rfl, he, hs, hjoined⟩ := exists_tokenize_separated hts hus
  have hinit : ∀ t ∈ init, t.isEnd = false := by
    obtain ⟨init', e', hlast, _, hinit⟩ := hin.last
    rwa [(List.append_inj' hlast rfl).1]
  have hfurther := Comparison.left_further (inOrder_tokenize hus) (separatedStart a) "\n"
  obtain ⟨_, _, t, more, _, hmore⟩ := hfurther.exists_cons
  rw [hmore] at hfurther hjoined
  have hin' := inOrder_tokenize hjoined
  have hne : ∀ {u : Token} {us : List Token}, init ++ u :: us ≠ [] := fun h =>
    List.cons_ne_nil _ _ (List.append_eq_nil_iff.mp h).2
  -- the runs up to the end of the first script
  have hgoing := (@Comparison.left_goingOn init more e s t hinit he hs).weaken.beside
    trivial trivial (fun _ => hclosed) (Cursor.ofTokens_eq hne)
  obtain ⟨found, c₁, hfound, hc₁, hresumed⟩ := Comparison.exists_resumed hin hin' rfl
    (Comparison.followsInside_within _) (reads_within hin _) (reads_within hin' _)
    (Cursor.on_ofTokens hne) (Cursor.on_ofTokens hne) hgoing .nil (script_eq_ok.mp hscript)
  -- the runs over the second script
  have hsecond := Comparison.follows_script rfl
    (hfurther.beside trivial trivial (absurd rfl) hc₁)
  rw [hscript'] at hsecond
  generalize hrun : script c₁ = r at hsecond
  cases hsecond with
  | gone hm => exact absurd rfl hm
  | @ok _ ms _ stop₁ hms =>
    have hfinal : script (.ofTokens (init ++ s :: t :: more))
        = .ok (found.reverse ++ ms, stop₁) := by
      rw [script_eq_ok, hresumed, ← List.nil_append found, repeatWhile_statementStep_append,
        script_eq_ok.mp hrun, List.nil_append, List.reverse_append, List.reverse_reverse]
      rfl
    obtain ⟨file, hfile, hstatements⟩ := exists_parse_of_script hjoined hfinal name
    refine ⟨file, hfile, found.reverse, ms, hstatements, ?_, hms.1⟩
    have := List.rel_reverse hfound
    rwa [List.reverse_reverse] at this

/-- A text whose brackets close each other, and one with a list of type arguments after it. -/
theorem exists_parse_separated_typeAlias :
    ∃ fa fb, parse "a.ts" "type T = [A<B>]" = .ok fa
      ∧ parse "a.ts" "f<T>((x) => x)" = .ok fb ∧ LeavesNoneOpen "type T = [A<B>]"
      ∧ ∃ file, parse "a.ts" (separated "type T = [A<B>]" "f<T>((x) => x)") = .ok file
        ∧ IsSequence (separatedStart "type T = [A<B>]") fa fb file := by
  have ha : (parse "a.ts" "type T = [A<B>]").toOption.isSome = true := by decide +kernel
  have hb : (parse "a.ts" "f<T>((x) => x)").toOption.isSome = true := by decide +kernel
  have hclosed : LeavesNoneOpen "type T = [A<B>]" := by decide +kernel
  obtain ⟨fa, ha⟩ := Option.isSome_iff_exists.mp ha
  obtain ⟨fb, hb⟩ := Option.isSome_iff_exists.mp hb
  have hjoined := exists_parse_separated (eq_ok_of_toOption ha) (eq_ok_of_toOption hb) hclosed
  exact ⟨fa, fb, eq_ok_of_toOption ha, eq_ok_of_toOption hb, hclosed, hjoined⟩

/-- **A list of type arguments goes on over a semicolon**: two scripts of one statement each make
a script of one statement, not of two. -/
theorem not_isSequence_typeArguments :
    ∃ fa fb, parse "a.ts" "f < g" = .ok fa ∧ parse "a.ts" "h > (1)" = .ok fb
      ∧ ¬ ∃ file, parse "a.ts" (separated "f < g" "h > (1)") = .ok file
        ∧ IsSequence (separatedStart "f < g") fa fb file := by
  have hlength : ∀ text : String,
      (parse "a.ts" text).toOption.map (·.statements.length) = some 1 →
      ∃ file, parse "a.ts" text = .ok file ∧ file.statements.length = 1 := by
    intro text h
    obtain ⟨file, hfile, hlength⟩ := Option.map_eq_some_iff.mp h
    exact ⟨file, eq_ok_of_toOption hfile, hlength⟩
  obtain ⟨fa, ha, hna⟩ := hlength "f < g" (by decide +kernel)
  obtain ⟨fb, hb, hnb⟩ := hlength "h > (1)" (by decide +kernel)
  obtain ⟨file, hfile, hn⟩ := hlength (separated "f < g" "h > (1)") (by decide +kernel)
  refine ⟨fa, fb, ha, hb, ?_⟩
  rintro ⟨file', hfile', h⟩
  cases hfile.symm.trans hfile'
  have hsum := h.length_eq
  rw [hn, hna, hnb] at hsum
  exact absurd hsum (by decide)

end ScriptFile

end TypeTest

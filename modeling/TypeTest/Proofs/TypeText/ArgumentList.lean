import TypeTest.Proofs.Received.Nesting
import TypeTest.Text.NameChar

/-!
# What a type has arguments for

`arguments` reads a text without knowing what kind of type it is. It looks for the first angle
bracket that stands in no other bracket, takes what follows for a list of arguments, and wants
that list to end the text. So a text has arguments exactly if it is a **head** in which no list
begins, followed by one **list** that is closed at its end (`arguments_eq_iff`).

The list is looked at closely, the head is not. An instance of a generic has a name for its head,
and the arguments of its list. But a union such as `A | B<C>` has a head as well, and the
arguments of its last member.
-/

namespace TypeTest.TypeText

namespace Nesting

variable {n m : Nesting} {b b' c last : Char} {q q' : Quoting} {d d' : Nat}
  {cs head list rest tail : List Char} {done found : List String} {ms : List (Char × Bool)}

/-! ## Lists -/

/-- Of the character before, it only matters whether it begins an arrow. -/
theorem read_of_ne (hb : b ≠ '=') (hb' : b' ≠ '=') (q : Quoting) (d : Nat) (c : Char) :
    read ⟨q, b, d⟩ c = read ⟨q, b', d⟩ c := by
  have hdepth : depthAfter b d c = depthAfter b' d c := by
    simp [depthAfter, hb, hb']
  unfold read
  dsimp only
  rw [hdepth]

theorem exists_readAll_of_ne (hb : b ≠ '=') (hb' : b' ≠ '=')
    (h : readAll ⟨q, b, d⟩ cs = some ⟨q', last, d'⟩) :
    ∃ last', readAll ⟨q, b', d⟩ cs = some ⟨q', last', d'⟩ ∧ (last ≠ '=' → last' ≠ '=') := by
  cases cs with
  | nil =>
    cases h
    exact ⟨b', rfl, fun _ => hb'⟩
  | cons c cs =>
    rw [readAll_cons, read_of_ne hb hb'] at h
    exact ⟨last, h, id⟩

/-- **What stands between the brackets of a list, and the arguments in it**: each argument is
read up to a comma or to the closing bracket that stands in no bracket of its own. -/
inductive Listed : List Char → List String → Prop where
  | last {cs : List Char} {last : Char} :
    readAll ⟨.outside, '<', 1⟩ cs = some ⟨.outside, last, 1⟩ → last ≠ '=' →
    Listed cs [String.ofList (trim cs)]
  | more {cs rest : List Char} {last : Char} {found : List String} :
    readAll ⟨.outside, '<', 1⟩ cs = some ⟨.outside, last, 1⟩ → Listed rest found →
    Listed (cs ++ ',' :: rest) (String.ofList (trim cs) :: found)

/-- Whether only blanks follow does not depend on quotes. -/
theorem all_isBlank_markFrom (q : Quoting) (cs : List Char) :
    ((markFrom q cs).all fun m => isBlank m.1) = cs.all isBlank := by
  have hall := List.all_map (l := markFrom q cs) (f := Prod.fst) (p := isBlank)
  rw [map_fst_markFrom] at hall
  exact hall.symm

/-- A comma in no bracket but that of the list ends an argument. -/
theorem argumentsFrom_comma (b : Char) (kept : List Char) (done : List String)
    (cs : List Char) :
    argumentsFrom ⟨1, b, some kept, done⟩ (markFrom .outside (',' :: cs))
      = argumentsFrom ⟨1, ',', some [], String.ofList (trim kept.reverse) :: done⟩
          (markFrom .outside cs) := rfl

/-- **The bracket that closes a list ends the reading**: if more than blanks follow, there is
no instance. -/
theorem argumentsFrom_closing (hb : b ≠ '=') (kept : List Char) (done : List String)
    (cs : List Char) :
    argumentsFrom ⟨1, b, some kept, done⟩ (markFrom .outside ('>' :: cs))
      = if cs.all isBlank then (String.ofList (trim kept.reverse) :: done).reverse else [] := by
  rw [← all_isBlank_markFrom .outside cs]
  show argumentsFrom _ (('>', false) :: markFrom .outside cs) = _
  simp [argumentsFrom, ArgumentScan.finished, hb]

/-- **The arguments of a list are found**, if only blanks follow it. -/
theorem argumentsFrom_of_listed (h : Listed list found) (hb : b ≠ '=')
    (htail : tail.all isBlank = true) (done : List String) :
    argumentsFrom ⟨1, b, some [], done⟩ (markFrom .outside (list ++ '>' :: tail))
      = done.reverse ++ found := by
  induction h generalizing b done with
  | last hread hlast =>
    obtain ⟨last', hread, hlast'⟩ := exists_readAll_of_ne (by decide) hb hread
    rw [argumentsFrom_of_readAll hread, argumentsFrom_closing (hlast' hlast), htail, if_pos rfl,
      List.append_nil, List.reverse_reverse, List.reverse_cons]
  | @more cs rest last found hread _ ih =>
    obtain ⟨last', hread, hlast'⟩ := exists_readAll_of_ne (by decide) hb hread
    rw [List.append_assoc, argumentsFrom_of_readAll hread, List.cons_append,
      argumentsFrom_comma, ih (by decide), List.append_nil, List.reverse_reverse,
      List.reverse_cons, List.append_assoc]
    rfl

/-- **Only a list has arguments**, and only blanks follow it. -/
theorem exists_listed {b : Char} {cs : List Char} (hb : b ≠ '=') (done : List String)
    (h : argumentsFrom ⟨1, b, some [], done⟩ (markFrom .outside cs) ≠ []) :
    ∃ list tail found, cs = list ++ '>' :: tail ∧ tail.all isBlank = true
      ∧ Listed list found := by
  cases hread : readAll ⟨.outside, b, 1⟩ cs with
  | some m =>
    -- the text ends within the list
    have hend := argumentsFrom_of_readAll hread [] done []
    rw [List.append_nil] at hend
    exact absurd hend h
  | none =>
    obtain ⟨before, c, after, k, rfl, hbefore, hc⟩ := exists_of_readAll_eq_none hread
    obtain ⟨quoting, last, depth⟩ := k
    obtain ⟨rfl, hquote, rfl, hc⟩ := of_read_eq_none hc
    rw [argumentsFrom_of_readAll hbefore] at h
    have hpart : ∃ last', readAll ⟨.outside, '<', 1⟩ before = some ⟨.outside, last', 1⟩
        ∧ (last ≠ '=' → last' ≠ '=') := exists_readAll_of_ne hb (by decide) hbefore
    obtain ⟨last', hpart, hlast⟩ := hpart
    rcases hc with rfl | ⟨rfl, hne⟩
    · rw [argumentsFrom_comma] at h
      have hshort : after.length < (before ++ ',' :: after).length := by
        rw [List.length_append, List.length_cons]
        omega
      obtain ⟨list, tail, found, rfl, htail, hlist⟩ := exists_listed (by decide) _ h
      refine ⟨before ++ ',' :: list, tail, _, ?_, htail, .more hpart hlist⟩
      rw [List.append_assoc, List.cons_append]
    · rw [argumentsFrom_closing hne] at h
      split at h
      · rename_i htail
        exact ⟨before, after, _, rfl, htail, .last hpart (hlast hne)⟩
      · exact absurd rfl h
termination_by cs.length

/-! ## Heads -/

/-- **Where the reader is after a character in front of a list**. Here a comma is nothing
special, and the reader comes to an end where a list begins, or where an angle bracket closes a
bracket that began no list. -/
def readHead (n : Nesting) (c : Char) : Option Nesting :=
  if n.quoting = .outside ∧ c = '<' ∧ n.depth = 0 then none
  else if n.quoting = .outside ∧ c = ',' then some ⟨.outside, c, n.depth⟩
  else n.read c

/-- A character of a head is passed. -/
theorem argumentsFrom_of_readHead (h : n.readHead c = some m) (ms : List (Char × Bool)) :
    argumentsFrom ⟨n.depth, n.before, none, []⟩ ((c, n.quoting.covers c) :: ms)
      = argumentsFrom ⟨m.depth, m.before, none, []⟩ ms := by
  unfold readHead at h
  split at h
  · cases h
  rename_i hfirst
  split at h
  · rename_i hcomma
    cases h
    obtain ⟨quoting, before, depth⟩ := n
    obtain ⟨rfl, rfl⟩ := hcomma
    show argumentsFrom ⟨depth, before, none, []⟩ ((',', false) :: ms) = _
    rw [argumentsFrom, Option.isSome_none, Bool.and_false]
    rfl
  · exact argumentsFrom_of_read h (fun hq hc hd => absurd ⟨hq, hc, hd⟩ hfirst) [] ms

/-- Where a head ends there is a list, or no arguments at all. -/
theorem of_readHead_eq_none (h : n.readHead c = none) :
    n.quoting = .outside ∧ c = '<' ∧ n.depth = 0
      ∨ ∀ ms, argumentsFrom ⟨n.depth, n.before, none, []⟩ ((c, n.quoting.covers c) :: ms) = [] := by
  unfold readHead at h
  split at h
  · rename_i hfirst
    exact .inl hfirst
  split at h
  · cases h
  rename_i hcomma
  obtain ⟨quoting, before, depth⟩ := n
  obtain ⟨rfl, _, rfl, hc⟩ := of_read_eq_none h
  rcases hc with rfl | ⟨rfl, hne⟩
  · exact absurd ⟨rfl, rfl⟩ hcomma
  · refine .inr fun ms => ?_
    show argumentsFrom ⟨1, before, none, []⟩ (('>', false) :: ms) = []
    simp [argumentsFrom, ArgumentScan.finished, hne]

theorem quoting_of_readHead (h : n.readHead c = some m) : m.quoting = n.quoting.next c := by
  unfold readHead at h
  split at h
  · cases h
  split at h
  · rename_i hcomma
    cases h
    rw [hcomma.1, hcomma.2]
    rfl
  · exact quoting_of_read h

/-- **A head is passed** up to the bracket that begins a list. -/
theorem argumentsFrom_of_foldlM_readHead (h : head.foldlM readHead n = some m)
    (more : List Char) :
    argumentsFrom ⟨n.depth, n.before, none, []⟩ (markFrom n.quoting (head ++ more))
      = argumentsFrom ⟨m.depth, m.before, none, []⟩ (markFrom m.quoting more) := by
  induction head generalizing n with
  | nil =>
    cases h
    rfl
  | cons c cs ih =>
    obtain ⟨k, hk, h⟩ := Option.bind_eq_some_iff.mp h
    rw [List.cons_append, markFrom, argumentsFrom_of_readHead hk, ← quoting_of_readHead hk, ih h]

/-- **Only behind a head there are arguments.** -/
theorem exists_head
    (h : argumentsFrom ⟨n.depth, n.before, none, []⟩ (markFrom n.quoting cs) ≠ []) :
    ∃ head rest last, cs = head ++ '<' :: rest
      ∧ head.foldlM readHead n = some ⟨.outside, last, 0⟩ := by
  induction cs generalizing n with
  | nil => exact absurd rfl h
  | cons c cs ih =>
    rw [markFrom] at h
    cases hk : n.readHead c with
    | none =>
      rcases of_readHead_eq_none hk with ⟨hquoting, rfl, hdepth⟩ | hnone
      · refine ⟨[], cs, n.before, rfl, ?_⟩
        rw [← hquoting, ← hdepth]
        rfl
      · exact absurd (hnone _) h
    | some k =>
      rw [argumentsFrom_of_readHead hk, ← quoting_of_readHead hk] at h
      obtain ⟨head, rest, last, rfl, hhead⟩ := ih h
      refine ⟨c :: head, rest, last, rfl, ?_⟩
      rw [List.foldlM_cons, hk]
      exact hhead

end Nesting

open Nesting

variable {type : String} {found : List String} {cs head list : List Char}

/-- **A text in which no list begins**: quotes and brackets that it opens it closes, and an angle
bracket opens none but within others. -/
def OpensNoList (head : List Char) : Prop :=
  ∃ last, head.foldlM readHead ⟨.outside, ' ', 0⟩ = some ⟨.outside, last, 0⟩

/-- The arguments behind a head are those of the list. -/
theorem argumentsFrom_of_opensNoList (h : OpensNoList head) (rest : List Char) :
    argumentsFrom .start (markQuoted (head ++ '<' :: rest))
      = argumentsFrom ⟨1, '<', some [], []⟩ (markFrom .outside rest) := by
  obtain ⟨last, h⟩ := h
  have hhead := argumentsFrom_of_foldlM_readHead h ('<' :: rest)
  exact hhead

/-- Only the blanks in front of an instance are cut off. -/
theorem trim_instance (head list : String) :
    trim (head ++ "<" ++ list ++ ">").toList
      = trimStart head.toList ++ '<' :: (list.toList ++ ['>']) := by
  have hstart : trimStart (head ++ "<" ++ list ++ ">").toList
      = (trimStart head.toList ++ '<' :: list.toList) ++ ['>'] := by
    have hchars : (head ++ "<" ++ list ++ ">").toList
        = head.toList ++ '<' :: (list.toList ++ ['>']) := by
      simp
    rw [hchars, trimStart, dropWhile_append_cons (by decide), List.append_assoc,
      List.cons_append]
    rfl
  rw [trim, hstart, trimEnd_append_cons (by decide), List.append_assoc, List.cons_append]
  rfl

/-- Only blanks at the end of a trimmed text are none at all. -/
theorem eq_nil_of_trim_eq_append {before tail : List Char} (h : trim cs = before ++ tail)
    (htail : tail.all isBlank = true) : tail = [] := by
  refine Classical.byContradiction fun hne => ?_
  have hlast : tail.getLast hne ∈ (trim cs).getLast? := by
    rw [h, List.getLast?_append, List.getLast?_eq_some_getLast hne]
    rfl
  have hblank := List.all_eq_true.mp htail _ (List.getLast_mem hne)
  rw [isBlank_getLast?_trim cs _ hlast] at hblank
  cases hblank

/-- **Behind a head, the arguments are those of the list that ends the type.** -/
theorem arguments_of_listed (htext : trim type.toList = head ++ '<' :: (list ++ ['>']))
    (hhead : OpensNoList head) (hlist : Listed list found) : arguments type = found := by
  rw [arguments, htext, argumentsFrom_of_opensNoList hhead,
    argumentsFrom_of_listed hlist (by decide) rfl]
  rfl

/-- **Behind a head, only a list that ends the type has arguments.** -/
theorem exists_listed_of_head {rest : List Char} (htext : trim type.toList = head ++ '<' :: rest)
    (hhead : OpensNoList head) (hne : arguments type ≠ []) :
    ∃ list, rest = list ++ ['>'] ∧ Listed list (arguments type) := by
  have hread : arguments type = argumentsFrom ⟨1, '<', some [], []⟩ (markFrom .outside rest) := by
    rw [arguments, htext, argumentsFrom_of_opensNoList hhead]
  rw [hread] at hne ⊢
  obtain ⟨list, tail, found, rfl, htail, hlist⟩ := exists_listed (by decide) [] hne
  have hclosed : trim type.toList = (head ++ '<' :: (list ++ ['>'])) ++ tail := by
    rw [htext, List.append_assoc, List.cons_append, List.append_assoc, List.singleton_append]
  obtain rfl := eq_nil_of_trim_eq_append hclosed htail
  refine ⟨list, rfl, ?_⟩
  rw [argumentsFrom_of_listed hlist (by decide) rfl]
  exact hlist

/-- **A type has arguments for a list that ends it**, and no other way. -/
theorem arguments_eq_iff (hne : found ≠ []) :
    arguments type = found ↔
      ∃ head list, trim type.toList = head ++ '<' :: (list ++ ['>']) ∧ OpensNoList head
        ∧ Listed list found := by
  constructor
  · rintro rfl
    obtain ⟨head, rest, last, htext, hhead⟩ := @exists_head ⟨.outside, ' ', 0⟩ _ hne
    obtain ⟨list, rfl, hlist⟩ := exists_listed_of_head htext ⟨last, hhead⟩ hne
    exact ⟨head, list, htext, ⟨last, hhead⟩, hlist⟩
  · rintro ⟨head, list, htext, hhead, hlist⟩
    exact arguments_of_listed htext hhead hlist

/-! ## Heads without marks -/

/-- **No list begins in a text without quotes, brackets and commas.** -/
theorem opensNoList_of_notMem (h : ∀ c ∈ head, c ∉ marks) : OpensNoList head := by
  suffices hrun : ∀ b, ∃ last, head.foldlM readHead ⟨.outside, b, 0⟩
      = some ⟨.outside, last, 0⟩ from hrun ' '
  induction head with
  | nil => exact fun b => ⟨b, rfl⟩
  | cons c cs ih =>
    intro b
    obtain ⟨hc, hcs⟩ := List.forall_mem_cons.mp h
    have hangle : c ≠ '<' := fun he => hc (he ▸ by decide)
    have hcomma : c ≠ ',' := fun he => hc (he ▸ by decide)
    have hread : readHead ⟨.outside, b, 0⟩ c = some ⟨.outside, c, 0⟩ := by
      rw [readHead, if_neg fun hand => hangle hand.2.1, if_neg fun hand => hcomma hand.2,
        read_of_notMem hc]
    obtain ⟨last, hlast⟩ := ih hcs c
    refine ⟨last, ?_⟩
    rw [List.foldlM_cons, hread]
    exact hlast

/-- The blanks in front of a head that are cut off are part of it. -/
theorem opensNoList_trimStart (h : ∀ c ∈ head, c ∉ marks) : OpensNoList (trimStart head) :=
  opensNoList_of_notMem fun c hc => h c ((List.dropWhile_suffix isBlank).subset hc)

/-- **An instance has the argument that was written for its first one exactly if that is read
through.** -/
theorem getElem?_arguments_instance {generic argument : String}
    (hgeneric : ∀ c ∈ generic.toList, c ∉ marks)
    (htrim : trim argument.toList = argument.toList) :
    (arguments (generic ++ "<" ++ argument ++ ">"))[0]? = some argument ↔ ReadThrough argument := by
  have htext := trim_instance generic argument
  have hhead := opensNoList_trimStart hgeneric
  constructor
  · intro hfound
    have hne : arguments (generic ++ "<" ++ argument ++ ">") ≠ [] := by
      intro hnil
      rw [hnil] at hfound
      cases hfound
    obtain ⟨list, hlist, hlisted⟩ := exists_listed_of_head htext hhead hne
    obtain rfl := List.append_cancel_right hlist
    generalize arguments (generic ++ "<" ++ argument ++ ">") = found at hlisted hfound
    generalize hcs : argument.toList = cs at hlisted
    cases hlisted with
    | last hread hlast => exact ⟨_, hcs ▸ hread, hlast⟩
    | @more before rest last found hread _ =>
      -- the part up to a comma is shorter than what was written
      have hshort := congrArg String.toList (Option.some.inj hfound)
      have hlength := length_trim_le before
      rw [String.toList_ofList, hcs] at hshort
      rw [hshort, List.length_append, List.length_cons] at hlength
      omega
  · rintro ⟨last, hread, hlast⟩
    rw [arguments_of_listed htext hhead (.last hread hlast), htrim, String.ofList_toList]
    rfl

/-! ## Names as heads -/

/-- **A name, or several with dots between them.** -/
inductive DottedName : List Char → Prop where
  | name {c : Char} {cs : List Char} : isNameStart c = true →
    (∀ x ∈ cs, isNamePart x = true) → DottedName (c :: cs)
  | dot {c : Char} {cs rest : List Char} : isNameStart c = true →
    (∀ x ∈ cs, isNamePart x = true) → DottedName rest →
    DottedName (c :: cs ++ '.' :: rest)

namespace DottedName

theorem isNamePart_or_dot (h : DottedName head) :
    ∀ c ∈ head, isNamePart c = true ∨ c = '.' := by
  have hword : ∀ {c : Char} {cs : List Char}, isNameStart c = true →
      (∀ x ∈ cs, isNamePart x = true) → ∀ x ∈ c :: cs, isNamePart x = true ∨ x = '.' := by
    intro c cs hc hcs
    exact List.forall_mem_cons.mpr
      ⟨.inl (isNamePart_of_isNameStart c hc), fun x hx => .inl (hcs x hx)⟩
  induction h with
  | name hc hcs => exact hword hc hcs
  | dot hc hcs _ ih =>
    exact List.forall_mem_append.mpr ⟨hword hc hcs, List.forall_mem_cons.mpr ⟨.inr rfl, ih⟩⟩

/-- No list begins in a name. -/
theorem opensNoList (h : DottedName head) : OpensNoList head := by
  have hnames : marks.any isNamePart = false := by decide +kernel
  refine opensNoList_of_notMem fun c hc hmark => ?_
  rcases h.isNamePart_or_dot c hc with hname | rfl
  · exact List.any_eq_false.mp hnames c hmark hname
  · exact absurd hmark (by decide)

end DottedName

/-- **A text that is a head of some kind, directly followed by one list that ends it.** -/
def EndsInList (IsHead : List Char → Prop) (cs : List Char) : Prop :=
  ∃ head list, cs = head ++ '<' :: (list ++ ['>']) ∧ IsHead head ∧ ∃ found, Listed list found

/-- **A type has arguments exactly if one list ends it**, whatever stands before the list, so
long as no list begins there. An instance of a generic is such a type. -/
theorem arguments_ne_nil_iff (type : String) :
    (arguments type ≠ [] ↔ EndsInList OpensNoList (trim type.toList))
      ∧ (EndsInList DottedName (trim type.toList) → arguments type ≠ []) := by
  have hiff : arguments type ≠ [] ↔ EndsInList OpensNoList (trim type.toList) := by
    constructor
    · intro hne
      obtain ⟨head, list, htext, hhead, hlist⟩ := (arguments_eq_iff hne).mp rfl
      exact ⟨head, list, htext, hhead, _, hlist⟩
    · rintro ⟨head, list, htext, hhead, found, hlist⟩
      have hne : found ≠ [] := by
        rintro rfl
        cases hlist
      rwa [(arguments_eq_iff hne).mpr ⟨head, list, htext, hhead, hlist⟩]
  refine ⟨hiff, fun ⟨head, list, htext, hhead, hlist⟩ => ?_⟩
  exact hiff.mpr ⟨head, list, htext, hhead.opensNoList, hlist⟩

/-- **A union has the arguments of its last member**, though it is no instance of a generic. -/
theorem arguments_union :
    arguments "A | B<C>" = ["C"] ∧ ¬ EndsInList DottedName (trim "A | B<C>".toList) := by
  refine ⟨by decide +kernel, ?_⟩
  rintro ⟨head, list, htext, hhead, _⟩
  have htrim : trim "A | B<C>".toList = ['A', ' ', '|', ' ', 'B', '<', 'C', '>'] := by decide
  rw [htrim] at htext
  have hblank : ' ' ∈ head := by
    match head, htext with
    | [], h => cases h
    | [_], h => cases h
    | _ :: c :: more, h =>
      have hc := (List.cons.inj (List.cons.inj h).2).1
      exact hc ▸ List.mem_cons_of_mem _ List.mem_cons_self
  rcases hhead.isNamePart_or_dot ' ' hblank with hname | hdot
  · exact absurd hname (by decide +kernel)
  · cases hdot

end TypeTest.TypeText

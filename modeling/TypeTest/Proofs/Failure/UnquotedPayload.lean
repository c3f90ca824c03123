import TypeTest.Proofs.Failure.Decoding
import TypeTest.Proofs.TypeText.ArgumentList

/-!
# Payloads without quotes

A failing type can say its message as a type: `RTT_FAIL<Message<A>>`. Two readers look for the
end of such a payload. `arguments` counts brackets of all kinds, leaves out what is quoted and
knows arrows; `decode` counts angle brackets and nothing else, in quotes as well. They agree
exactly on the payloads whose angle brackets **match** as characters (`decode_argument_iff`). The
`>` of an arrow has no match, so `decode` ends the payload `(a: T) => U` in the middle of it.
-/

namespace TypeTest.Sentinel

variable {cs inner core blanks : List Char} {c : Char} {depth : Nat}

/-! ## Up to the closing bracket -/

/-- **A text that closes `depth` angle brackets around it**, and no more on the way. -/
structure ClosesAngles (depth : Nat) (cs : List Char) : Prop where
  count_le : ∀ before, before <+: cs → before.count '>' ≤ before.count '<' + depth
  count_eq : cs.count '>' = cs.count '<' + depth

/-- **A text whose angle brackets match**: none of them closes what was not opened, and none is
left open. -/
def AnglesMatch (cs : List Char) : Prop := ClosesAngles 0 cs

theorem closesAngles_nil_iff : ClosesAngles depth [] ↔ depth = 0 := by
  constructor
  · intro h
    have hcount := h.count_eq
    simpa using hcount.symm
  · rintro rfl
    refine ⟨fun before h => ?_, rfl⟩
    rw [List.prefix_nil.mp h]
    exact Nat.le_refl 0

/-- The first character counts like any other. -/
theorem closesAngles_cons :
    ClosesAngles depth (c :: cs) ↔
      [c].count '>' ≤ [c].count '<' + depth
        ∧ ClosesAngles (depth + [c].count '<' - [c].count '>') cs := by
  have hcons : ∀ x ds, (c :: ds).count x = ds.count x + [c].count x := by
    intro x ds
    rw [List.count_cons, List.count_cons, List.count_nil, Nat.zero_add]
  constructor
  · intro h
    have hfirst := h.count_le [c] (List.prefix_append [c] cs)
    refine ⟨hfirst, fun before hb => ?_, ?_⟩
    · have hle := h.count_le (c :: before) (List.cons_prefix_cons.mpr ⟨rfl, hb⟩)
      rw [hcons _ before, hcons _ before] at hle
      omega
    · have heq := h.count_eq
      rw [hcons _ cs, hcons _ cs] at heq
      omega
  · rintro ⟨hfirst, h⟩
    refine ⟨fun before hb => ?_, ?_⟩
    · rcases List.prefix_cons_iff.mp hb with rfl | ⟨tail, rfl, htail⟩
      · exact Nat.zero_le _
      · have hle := h.count_le tail htail
        rw [hcons _ tail, hcons _ tail]
        omega
    · have heq := h.count_eq
      rw [hcons _ cs, hcons _ cs]
      omega

/-- A bracket that opens is one more to close. -/
theorem closesAngles_open : ClosesAngles depth ('<' :: cs) ↔ ClosesAngles (depth + 1) cs := by
  simp [closesAngles_cons]

/-- A bracket that closes is one less to close. -/
theorem closesAngles_close :
    ClosesAngles depth ('>' :: cs) ↔ 0 < depth ∧ ClosesAngles (depth - 1) cs := by
  simp [closesAngles_cons, Nat.succ_le_iff]

/-- Other characters do not count. -/
theorem closesAngles_other (hopen : c ≠ '<') (hclose : c ≠ '>') :
    ClosesAngles depth (c :: cs) ↔ ClosesAngles depth cs := by
  simp [closesAngles_cons, hopen, hclose]

/-- What is read in front of the closing bracket, from what is read behind its first character. -/
theorem map_untilClosed_eq_some_iff {d : Nat} (hclose : c = '>' → depth ≠ 0)
    (hstep : ∀ tail, ClosesAngles depth (c :: tail) ↔ ClosesAngles d tail)
    (hrest : ∀ tail, untilClosed d cs = some tail ↔
      ∃ rest, cs = tail ++ '>' :: rest ∧ ClosesAngles d tail) :
    (untilClosed d cs).map (c :: ·) = some inner ↔
      ∃ rest, c :: cs = inner ++ '>' :: rest ∧ ClosesAngles depth inner := by
  constructor
  · intro h
    obtain ⟨tail, htail, rfl⟩ := Option.map_eq_some_iff.mp h
    obtain ⟨rest, rfl, hcloses⟩ := (hrest tail).mp htail
    exact ⟨rest, rfl, (hstep tail).mpr hcloses⟩
  · rintro ⟨rest, heq, hcloses⟩
    cases inner with
    | nil => exact absurd (closesAngles_nil_iff.mp hcloses) (hclose (List.cons.inj heq).1)
    | cons x tail =>
      obtain ⟨rfl, rfl⟩ := List.cons.inj heq
      rw [(hrest tail).mpr ⟨rest, rfl, (hstep tail).mp hcloses⟩]
      rfl

/-- **The text up to the closing bracket** is what closes all other brackets before it. -/
theorem untilClosed_eq_some_iff :
    untilClosed depth cs = some inner ↔
      ∃ rest, cs = inner ++ '>' :: rest ∧ ClosesAngles depth inner := by
  fun_induction untilClosed depth cs generalizing inner with
  | case1 depth => simp
  | case2 depth cs ih =>
    have hne : '<' ≠ '>' := by decide
    exact map_untilClosed_eq_some_iff (fun hc => absurd hc hne) (fun _ => closesAngles_open)
      (fun _ => ih)
  | case3 cs =>
    constructor
    · intro h
      cases h
      exact ⟨cs, rfl, closesAngles_nil_iff.mpr rfl⟩
    · rintro ⟨rest, heq, hcloses⟩
      cases inner with
      | nil => rfl
      | cons c tail =>
        obtain ⟨rfl, _⟩ := List.cons.inj heq
        exact absurd (closesAngles_close.mp hcloses).1 (Nat.lt_irrefl 0)
  | case4 depth cs ih =>
    refine map_untilClosed_eq_some_iff (fun _ => Nat.succ_ne_zero depth) (fun _ => ?_) (fun _ => ih)
    simp [closesAngles_close]
  | case5 depth c cs hopen hclose hclose' ih =>
    have hne : c ≠ '>' := by
      intro hc
      cases depth with
      | zero => exact hclose rfl hc
      | succ depth => exact hclose' depth rfl hc
    exact map_untilClosed_eq_some_iff (fun hc => absurd hc hne)
      (fun _ => closesAngles_other hopen hne) (fun _ => ih)

theorem closesAngles_append {ds : List Char} (h : ∀ c ∈ ds, c ≠ '<' ∧ c ≠ '>') :
    ClosesAngles depth (cs ++ ds) ↔ ClosesAngles depth cs := by
  induction cs generalizing depth with
  | nil =>
    induction ds with
    | nil => rfl
    | cons d ds ih =>
      obtain ⟨⟨hopen, hclose⟩, hds⟩ := List.forall_mem_cons.mp h
      rw [List.nil_append, closesAngles_other hopen hclose]
      exact ih hds
  | cons c cs ih => rw [List.cons_append, closesAngles_cons, closesAngles_cons, ih]

/-- Blanks at the end do not count. -/
theorem anglesMatch_trimEnd_iff : AnglesMatch (trimEnd cs) ↔ AnglesMatch cs := by
  obtain ⟨blanks, hblanks, hcs⟩ := exists_trimEnd_append cs
  have hangles : ∀ c ∈ blanks, c ≠ '<' ∧ c ≠ '>' := by
    intro c hc
    constructor
    · rintro rfl
      exact absurd (hblanks _ hc) (by decide)
    · rintro rfl
      exact absurd (hblanks _ hc) (by decide)
  have happend : ClosesAngles 0 (trimEnd cs ++ blanks) ↔ ClosesAngles 0 (trimEnd cs) :=
    closesAngles_append hangles
  rw [hcs] at happend
  exact happend.symm

/-! ## The payload of a failing type -/

/-- A payload that does not begin with a quote goes up to the closing bracket. -/
theorem payloadMessage_of_unquoted (h : ∀ c ∈ cs.head?, c ≠ '"' ∧ c ≠ '\'') :
    payloadMessage cs = match untilClosed 0 cs with
      | some inner => trimEnd inner
      | none => cs := by
  unfold payloadMessage
  split
  · exact absurd rfl (h '"' rfl).1
  · exact absurd rfl (h '\'' rfl).2
  · rfl

/-- **A payload is read up to its own closing bracket exactly if its angle brackets match.** -/
theorem payloadMessage_eq_trimEnd_iff (hquote : ∀ c ∈ core.head?, c ≠ '"' ∧ c ≠ '\'')
    (hblanks : ∀ c ∈ blanks, isBlank c = true) :
    payloadMessage (core ++ '>' :: blanks) = trimEnd core ↔ AnglesMatch core := by
  have hhead : ∀ c ∈ (core ++ '>' :: blanks).head?, c ≠ '"' ∧ c ≠ '\'' := by
    cases core with
    | nil =>
      intro c hc
      cases hc
      decide
    | cons c cs => exact hquote
  rw [payloadMessage_of_unquoted hhead]
  constructor
  · intro h
    split at h
    · rename_i inner hinner
      obtain ⟨rest, heq, hcloses⟩ := untilClosed_eq_some_iff.mp hinner
      rcases List.append_eq_append_iff.mp heq with ⟨more, rfl, hmore⟩ | ⟨more, rfl, hmore⟩
      · cases more with
        | nil =>
          rw [List.append_nil] at hcloses
          exact hcloses
        | cons c more =>
          -- there is no other closing bracket among the blanks
          have hmem : '>' ∈ blanks := by
            rw [(List.cons.inj hmore).2]
            exact List.mem_append_right more List.mem_cons_self
          exact absurd (hblanks _ hmem) (by decide)
      · cases more with
        | nil =>
          rw [List.append_nil]
          exact hcloses
        | cons c more =>
          -- the payload was cut short
          obtain ⟨rfl, _⟩ := List.cons.inj hmore
          rw [trimEnd_append_cons (by decide)] at h
          have hlength := congrArg List.length h
          have hle := length_trimEnd_le inner
          rw [List.length_append, List.length_cons] at hlength
          omega
    · -- the payload goes on behind its bracket
      have hlength := congrArg List.length h
      have hle := length_trimEnd_le core
      rw [List.length_append, List.length_cons] at hlength
      omega
  · intro h
    have hclosed : untilClosed 0 (core ++ '>' :: blanks) = some core :=
      untilClosed_eq_some_iff.mpr ⟨blanks, rfl, h⟩
    rw [hclosed]

/-- What stands behind the sentinel of a failing type is decoded. -/
theorem decode_failing {description : String} {rest : List Char}
    (h : description.toList = token ++ '<' :: rest) :
    ∃ shown, decode description
      = some ⟨String.ofList (payloadMessage (trimStart rest)), shown⟩ := by
  have hnone : ¬ token <:+: [] := by decide
  have hfirst : afterFirst token description.toList = some ('<' :: rest) := by
    rw [h]
    exact unbordered_token.afterFirst_append hnone
  rw [decode, hfirst]
  exact ⟨_, rfl⟩

/-- **The two readers agree on a payload without quotes exactly if its angle brackets match.** -/
theorem decode_argument_iff {description argument : String}
    (hstart : token ++ ['<'] <+: description.toList)
    (hargument : TypeText.arguments description = [argument])
    (hquote : ∀ c ∈ argument.toList.head?, c ≠ '"' ∧ c ≠ '\'') :
    (∃ shown, decode description = some ⟨argument, shown⟩) ↔ AnglesMatch argument.toList := by
  obtain ⟨rest, hrest⟩ := hstart
  have hchars : description.toList = token ++ '<' :: rest := by
    rw [← hrest, List.append_assoc, List.singleton_append]
  have htext : trim description.toList = token ++ '<' :: trimEnd rest := by
    have hangle : isBlank '<' = false := by decide
    rw [hchars]
    show trimEnd (token ++ '<' :: rest) = _
    exact trimEnd_append_cons hangle
  have hmarks : token.all (· ∉ TypeText.Nesting.marks) = true := by decide
  have hhead : TypeText.OpensNoList token :=
    TypeText.opensNoList_of_notMem fun c hc => of_decide_eq_true (List.all_eq_true.mp hmarks c hc)
  have hne : TypeText.arguments description ≠ [] := by
    rw [hargument]
    exact List.cons_ne_nil _ _
  -- both readers have the list, up to the last bracket, in front of them
  obtain ⟨list, hlist, hlisted⟩ := TypeText.exists_listed_of_head htext hhead hne
  have htrim : argument.toList = trim list := by
    generalize TypeText.arguments description = found at hargument hlisted
    cases hlisted with
    | last => rw [← (List.cons.inj hargument).1, String.toList_ofList]
    | more _ hmore =>
      rw [(List.cons.inj hargument).2] at hmore
      cases hmore
  obtain ⟨blanks, hblanks, hsplit⟩ := exists_trimEnd_append rest
  have hpayload : trimStart rest = trimStart list ++ '>' :: blanks := by
    rw [← hsplit, hlist, List.append_assoc, List.singleton_append]
    exact dropWhile_append_cons (by decide)
  obtain ⟨shown, hdecode⟩ := decode_failing hchars
  rw [htrim, head?_trim] at hquote
  rw [htrim, trim, anglesMatch_trimEnd_iff, ← payloadMessage_eq_trimEnd_iff hquote hblanks,
    ← hpayload, ← trim, ← htrim, hdecode]
  constructor
  · rintro ⟨shown', h⟩
    have hmessage := congrArg Payload.message (Option.some.inj h)
    exact String.toList_ofList.symm.trans (congrArg String.toList hmessage)
  · intro h
    rw [h, String.ofList_toList]
    exact ⟨shown, rfl⟩

/-- A message that is an instance of a generic is decoded whole. -/
theorem decode_argument_iff_generic :
    token ++ ['<'] <+: "RTT_FAIL<Message<\x60a\x60>>".toList
      ∧ TypeText.arguments "RTT_FAIL<Message<\x60a\x60>>" = ["Message<\x60a\x60>"]
      ∧ AnglesMatch "Message<\x60a\x60>".toList
      ∧ ∃ shown, decode "RTT_FAIL<Message<\x60a\x60>>" = some ⟨"Message<\x60a\x60>", shown⟩ := by
  have hstart : token ++ ['<'] <+: "RTT_FAIL<Message<\x60a\x60>>".toList := by decide
  have hargument : TypeText.arguments "RTT_FAIL<Message<\x60a\x60>>" = ["Message<\x60a\x60>"] := by
    decide +kernel
  have hquote : ∀ c ∈ "Message<\x60a\x60>".toList.head?, c ≠ '"' ∧ c ≠ '\'' := by
    intro c hc
    cases hc
    decide
  have hdecode : ∃ shown,
      decode "RTT_FAIL<Message<\x60a\x60>>" = some ⟨"Message<\x60a\x60>", shown⟩ :=
    ⟨some "a", by decide +kernel⟩
  exact ⟨hstart, hargument, (decode_argument_iff hstart hargument hquote).mp hdecode, hdecode⟩

/-- **The payload of an arrow is cut short** at the arrow. -/
theorem decode_arrow :
    TypeText.arguments "RTT_FAIL<(a: T) => U>" = ["(a: T) => U"]
      ∧ decode "RTT_FAIL<(a: T) => U>" = some ⟨"(a: T) =", none⟩ := by
  decide +kernel

end TypeTest.Sentinel

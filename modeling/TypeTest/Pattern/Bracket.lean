import TypeTest.Pattern.Escape

/-!
# Classes in brackets

A class in brackets lists characters, ranges, escapes, named classes and further
classes in brackets. Two such lists may be joined by `&&` (what both accept), `--`
(what only the first accepts) or `~~` (what exactly one accepts), from left to
right. A closing bracket before anything else in the list stands for itself, and
so does a hyphen at the start of the list or at its end.

The reader keeps the classes it is inside of as a stack, innermost first.
-/

namespace TypeTest

/-- The classes that may be named inside brackets. -/
def namedClass? (name : List Char) : Option CharSet :=
  match String.ofList name with
  | "alnum" => some (.or (.span '0' '9') (.or (.span 'A' 'Z') (.span 'a' 'z')))
  | "alpha" => some (.or (.span 'A' 'Z') (.span 'a' 'z'))
  | "ascii" => some (.span '\x00' '\x7F')
  | "blank" => some (.ofChars ['\t', ' '])
  | "cntrl" => some (.or (.span '\x00' '\x1F') (.one '\x7F'))
  | "digit" => some (.span '0' '9')
  | "graph" => some (.span '!' '~')
  | "lower" => some (.span 'a' 'z')
  | "print" => some (.span ' ' '~')
  | "punct" => some (.or (.or (.span '!' '/') (.span ':' '@'))
      (.or (.span '[' '\x60') (.span '\x7b' '~')))
  | "space" => some (.or (.span '\t' '\r') (.one ' '))
  | "upper" => some (.span 'A' 'Z')
  | "word" => some (.or (.or (.span '0' '9') (.one '_')) (.or (.span 'A' 'Z') (.span 'a' 'z')))
  | "xdigit" => some (.or (.span '0' '9') (.or (.span 'A' 'F') (.span 'a' 'f')))
  | _ => none

/-- **A part of a class**: its characters, and how many brackets, lists of several
items and joins are nested in it at most. -/
structure ClassPart where
  /-- The characters. -/
  set : CharSet
  /-- How deep the part is nested. -/
  height : Nat := 0
  deriving DecidableEq, Repr

/-- A list of items, as one part. -/
def ClassPart.ofItems : List ClassPart → ClassPart
  | [] => ⟨.none, 0⟩
  | [p] => p
  | p :: q :: ps =>
    let rest := ofItems (q :: ps)
    ⟨.or p.set rest.set, max (p.height + 1) (if ps.isEmpty then rest.height + 1 else rest.height)⟩

/-- How two lists of a class are joined. -/
inductive ClassJoin where
  | both | onlyFirst | exactlyOne
  deriving DecidableEq, Repr

/-- The characters of two lists, joined. -/
def ClassJoin.apply : ClassJoin → CharSet → CharSet → CharSet
  | .both, s, t => .and s t
  | .onlyFirst, s, t => .and s (.not t)
  | .exactlyOne, s, t => .xor s t

/-- Two lists, joined to one part. -/
def ClassJoin.join (sign : ClassJoin) (p q : ClassPart) : ClassPart :=
  ⟨sign.apply p.set q.set, max p.height q.height + 1⟩

/-- The sign between two lists. -/
def ClassJoin.ofChar? : Char → Option ClassJoin
  | '&' => some .both
  | '-' => some .onlyFirst
  | '~' => some .exactlyOne
  | _ => none

/-- **A class whose closing bracket has not been read.** -/
structure OpenClass where
  /-- Whether it began with `^`. -/
  negated : Bool
  /-- The lists before the current one, and how it is to be joined to them. -/
  before : Option (ClassPart × ClassJoin)
  /-- The items of the current list, the last one first. -/
  items : List ClassPart
  deriving DecidableEq, Repr

namespace OpenClass

/-- One more item in the current list. -/
def add (level : OpenClass) (p : ClassPart) : OpenClass :=
  { level with items := p :: level.items }

/-- The lists read so far, as one. -/
def joined (level : OpenClass) : ClassPart :=
  let list := ClassPart.ofItems level.items.reverse
  match level.before with
  | none => list
  | some (p, sign) => sign.join p list

/-- A new list after a sign. -/
def join (level : OpenClass) (sign : ClassJoin) : OpenClass :=
  { level with before := some (level.joined, sign), items := [] }

/-- The class, at its closing bracket. -/
def close (level : OpenClass) : ClassPart :=
  let inside := level.joined
  ⟨if level.negated then .not inside.set else inside.set, inside.height + 1⟩

/-- The text after the `^` of a class, if there is one. -/
def afterCaret (text : List Char) : List Char :=
  if text.head? = some '^' then text.drop 1 else text

/-- What stands for itself at the start of a list: hyphens, or else one closing
bracket. -/
def leading (text : List Char) : List Char :=
  if text.head? = some ']' then [']'] else text.takeWhile (· == '-')

/-- A class after its opening bracket. -/
def start (text : List Char) : OpenClass :=
  ⟨text.head? = some '^', none, (leading (afterCaret text)).map fun c => ⟨.one c, 0⟩⟩

/-- The text after what `start` has read. -/
def afterStart (text : List Char) : List Char :=
  (afterCaret text).drop (leading (afterCaret text)).length

theorem length_afterCaret_le (text : List Char) : (afterCaret text).length ≤ text.length := by
  unfold afterCaret
  split
  · rw [List.length_drop]; omega
  · exact Nat.le_refl _

theorem length_afterStart_le (text : List Char) : (afterStart text).length ≤ text.length := by
  have := length_afterCaret_le text
  simp only [afterStart, List.length_drop]
  omega

/-- A character or an escape in a list. -/
def readItem? : (text : List Char) → Option (Taken Escape text)
  | [] => none
  | '\\' :: r => (Escape.read? r).map (·.widen (length_le_succ r))
  | c :: r => some ⟨.char c, r, length_lt_succ r⟩

/-- What a single item adds to a list. An anchor accepts no character. -/
def itemSet? : Escape → Option CharSet
  | .char c => some (.one c)
  | .set s => some s
  | .anchor _ => none

/-- What the characters from one item to another are. -/
def itemSpan? : Escape → Escape → Option CharSet
  | .char first, .char last => if first ≤ last then some (.span first last) else none
  | _, _ => none

/-- **An item of a list, or a range of two.** A hyphen makes a range unless a
closing bracket or another hyphen follows. -/
def readRange? (text : List Char) : Option (Taken CharSet text) := do
  let first ← readItem? text
  match h : first.rest with
  | '-' :: r =>
    if r.head? = some ']' ∨ r.head? = some '-' then
      (itemSet? first.value).map fun s => first.map fun _ => s
    else do
      let last ← readItem? r
      let s ← itemSpan? first.value last.value
      some ⟨s, last.rest, by
        have := first.rest_lt
        have := last.rest_lt
        simp only [h, List.length_cons] at *
        omega⟩
  | _ => (itemSet? first.value).map fun s => first.map fun _ => s

/-- A named class after an opening bracket: its name between colons, with a `^`
before it for the other characters, and the closing bracket. -/
def readNamed? : (text : List Char) → Option (Taken CharSet text)
  | ':' :: r =>
    let name := (afterCaret r).takeWhile (· != ':')
    match h : (afterCaret r).drop name.length with
    | ':' :: ']' :: rest => do
      let s ← namedClass? name
      some ⟨if r.head? = some '^' then .not s else s, rest, by
        have := length_afterCaret_le r
        have := congrArg List.length h
        simp only [List.length_drop, List.length_cons] at this ⊢
        omega⟩
    | _ => none
  | _ => none

/-- **The rest of a class**, inside of others: up to the closing bracket of the
outermost. -/
def read? (outer : List OpenClass) (level : OpenClass) (text : List Char) :
    Option (Taken ClassPart text) :=
  match text with
  | [] => none
  | '[' :: r =>
    match readNamed? r with
    | some named =>
      have := named.rest_lt
      (read? outer (level.add ⟨named.value, 0⟩) named.rest).map
        (·.widen (by simp only [List.length_cons]; omega))
    | none =>
      have := length_afterStart_le r
      (read? (level :: outer) (start r) (afterStart r)).map
        (·.widen (by simp only [List.length_cons]; omega))
  | ']' :: r =>
    match outer with
    | [] => some ⟨level.close, r, length_lt_succ r⟩
    | up :: out => (read? out (up.add level.close) r).map (·.widen (length_le_succ r))
  | c :: r =>
    match (if r.head? = some c then ClassJoin.ofChar? c else none) with
    | some sign =>
      (read? outer (level.join sign) (r.drop 1)).map
        (·.widen (by simp only [List.length_drop, List.length_cons]; omega))
    | none =>
      match readRange? (c :: r) with
      | none => none
      | some item =>
        have := item.rest_lt
        (read? outer (level.add ⟨item.value, 0⟩) item.rest).map
          (·.widen (by simp only [List.length_cons] at *; omega))
  termination_by text.length
  decreasing_by all_goals simp_all only [List.length_cons, List.length_drop] <;> omega

end OpenClass

/-- **A class after its opening bracket.** -/
def readClass? (text : List Char) : Option (Taken ClassPart text) :=
  (OpenClass.read? [] (OpenClass.start text) (OpenClass.afterStart text)).map
    (·.widen (OpenClass.length_afterStart_le text))

end TypeTest

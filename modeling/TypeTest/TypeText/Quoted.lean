/-!
# Quoted regions of a type text

A type is kept as its text, and a text can hold string literals in which names and
brackets mean nothing. A quoted region goes from a quote of any of three kinds to
the next equal quote that no backslash escapes, or to the end of the text.
`markQuoted` tells for every character whether it belongs to one, quotes
included; whatever reads a type text reads it through these marks.
-/

namespace TypeTest.TypeText

/-- The characters that quote. -/
def isQuote (c : Char) : Bool := c == '"' || c == '\'' || c == '\x60'

/-- Where a reader of a text is with respect to quotes. -/
inductive Quoting where
  | outside
  /-- In a region opened by `quote`; `escaped` is set after a backslash. -/
  | inside (quote : Char) (escaped : Bool)
  deriving DecidableEq, Repr

/-- Where the reader is after the character `c`. -/
def Quoting.next : Quoting → Char → Quoting
  | .outside, c => if isQuote c then .inside c false else .outside
  | .inside quote true, _ => .inside quote false
  | .inside quote false, c =>
    if c == '\\' then .inside quote true
    else if c == quote then .outside
    else .inside quote false

/-- Whether the character `c`, read at `q`, belongs to a quoted region. -/
def Quoting.covers : Quoting → Char → Bool
  | .outside, c => isQuote c
  | .inside _ _, _ => true

/-- `markQuoted` from a place that is not the start of the text. -/
def markFrom (q : Quoting) : List Char → List (Char × Bool)
  | [] => []
  | c :: cs => (c, q.covers c) :: markFrom (q.next c) cs

/-- **The characters of a text**, each with whether it is quoted. -/
def markQuoted (cs : List Char) : List (Char × Bool) := markFrom .outside cs

@[simp] theorem map_fst_markFrom (q : Quoting) (cs : List Char) :
    (markFrom q cs).map Prod.fst = cs := by
  induction cs generalizing q with
  | nil => rfl
  | cons c cs ih => simp [markFrom, ih]

@[simp] theorem map_fst_markQuoted (cs : List Char) : (markQuoted cs).map Prod.fst = cs :=
  map_fst_markFrom _ _

end TypeTest.TypeText

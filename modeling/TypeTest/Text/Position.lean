import TypeTest.Total

/-!
# Places in a text

A place in a text is measured in two ways. Ranges count **bytes** of the UTF-8
encoding, so that they can be handed to a tool that holds the encoded text;
positions shown to a reader count **lines and characters**, both from zero.

`LineColumn.ofOffset` turns the first into the second by counting in the text
before the offset. `LineIndex` answers the same question from the offsets at
which lines start, by binary search. Both read an offset past the end as the end,
and an offset inside a character as the start of that character: `takeBytes`,
which cuts a text before the first character that does not fit, is the whole of
that rule.
-/

namespace TypeTest

/-! ## Bytes -/

/-- **The number of bytes** of a text in UTF-8. -/
def byteLength (cs : List Char) : Nat := total (cs.map Char.utf8Size)

@[simp] theorem byteLength_nil : byteLength [] = 0 := rfl

@[simp] theorem byteLength_cons (c : Char) (cs : List Char) :
    byteLength (c :: cs) = c.utf8Size + byteLength cs := by simp [byteLength]

@[simp] theorem byteLength_append (as bs : List Char) :
    byteLength (as ++ bs) = byteLength as + byteLength bs := by simp [byteLength]

theorem byteLength_pos (cs : List Char) (h : cs ≠ []) : 0 < byteLength cs := by
  cases cs with
  | nil => exact absurd rfl h
  | cons c cs => simpa using Nat.lt_of_lt_of_le c.utf8Size_pos (Nat.le_add_right _ _)

/-- The longest beginning of a text that takes at most `n` bytes. -/
def takeBytes : Nat → List Char → List Char
  | _, [] => []
  | n, c :: cs => if c.utf8Size ≤ n then c :: takeBytes (n - c.utf8Size) cs else []

/-- What `takeBytes` leaves of a text. -/
def dropBytes : Nat → List Char → List Char
  | _, [] => []
  | n, c :: cs => if c.utf8Size ≤ n then dropBytes (n - c.utf8Size) cs else c :: cs

@[simp] theorem takeBytes_append_dropBytes (n : Nat) (cs : List Char) :
    takeBytes n cs ++ dropBytes n cs = cs := by
  induction cs generalizing n with
  | nil => rfl
  | cons c cs ih => by_cases h : c.utf8Size ≤ n <;> simp [takeBytes, dropBytes, h, ih]

/-- A cut on a boundary between characters is exact. -/
@[simp] theorem takeBytes_byteLength_append (as bs : List Char) :
    takeBytes (byteLength as) (as ++ bs) = as := by
  induction as with
  | nil =>
    cases bs with
    | nil => rfl
    | cons c bs => simp [takeBytes, Nat.ne_of_gt c.utf8Size_pos]
  | cons c as ih => simp [takeBytes, ih]

/-- What a cut on a boundary leaves. -/
@[simp] theorem dropBytes_byteLength_append (as bs : List Char) :
    dropBytes (byteLength as) (as ++ bs) = bs := by
  have h := takeBytes_append_dropBytes (byteLength as) (as ++ bs)
  rw [takeBytes_byteLength_append] at h
  exact List.append_cancel_left h

/-- **A range of a text** in bytes. -/
structure TextRange where
  /-- Offset of the first byte. -/
  start : Nat
  /-- Number of bytes covered. -/
  length : Nat
  deriving DecidableEq, Repr, Inhabited

/-- Offset just after the last byte. -/
def TextRange.stop (r : TextRange) : Nat := r.start + r.length

/-! ## Lines and columns -/

/-- **A line and a column**, both counted from zero, the column in characters. -/
structure LineColumn where
  line : Nat
  column : Nat
  deriving DecidableEq, Repr, Inhabited

/-- Readers count lines and columns from one. -/
def LineColumn.display (p : LineColumn) : String := s!"{p.line + 1}:{p.column + 1}"

/-- The position reached after reading a text from its start. -/
def LineColumn.after (before : List Char) : LineColumn :=
  { line := before.count '\n',
    column := (before.reverse.takeWhile (· != '\n')).length }

/-- **The position of a byte offset** in a text. -/
def LineColumn.ofOffset (text : List Char) (offset : Nat) : LineColumn :=
  .after (takeBytes offset text)

/-- The range of a node together with the line and column of its start. -/
structure Location where
  start : Nat
  length : Nat
  line : Nat
  column : Nat
  deriving DecidableEq, Repr, Inhabited

namespace Location

/-- The range of a location. -/
def range (l : Location) : TextRange := ⟨l.start, l.length⟩

/-- The line and the column of a location. -/
def lineColumn (l : Location) : LineColumn := ⟨l.line, l.column⟩

end Location

/-! ## Positions from an index of lines -/

/-- The offsets of the line starts in a text that itself starts at `offset`; the
start of its own first line is left out. -/
def lineStartsFrom (offset : Nat) : List Char → List Nat
  | [] => []
  | c :: cs =>
    let next := offset + c.utf8Size
    if c == '\n' then next :: lineStartsFrom next cs else lineStartsFrom next cs

/-- **Binary search** in an ascending array, among the indices from `low` on that
are less than `high`: the index at which `x` stands, or as an error the one at which
it would have to be put in. -/
def binarySearch (xs : Array Nat) (x low high : Nat) (bound : high ≤ xs.size) :
    Except Nat Nat :=
  if h : low < high then
    let middle := low + (high - low) / 2
    have : middle < xs.size := by omega
    if xs[middle] = x then .ok middle
    else if xs[middle] < x then binarySearch xs x (middle + 1) high bound
    else binarySearch xs x low middle (by omega)
  else .error low
termination_by high - low

/-- **An index of a text**: the offsets at which its lines start, ascending. -/
structure LineIndex where
  starts : Array Nat
  deriving DecidableEq, Repr

namespace LineIndex

/-- The index of a text. -/
def ofText (text : List Char) : LineIndex := ⟨(0 :: lineStartsFrom 0 text).toArray⟩

/-- The number of the line that an offset is in: the offset is its start, or would be
put in right after its start. -/
def lineAt (index : LineIndex) (offset : Nat) : Nat :=
  match binarySearch index.starts offset 0 index.starts.size (Nat.le_refl _) with
  | .ok line => line
  | .error next => next - 1

/-- The position of an offset: the line it is in, and the characters from the start
of this line on. -/
def lineColumn (index : LineIndex) (text : List Char) (offset : Nat) : LineColumn :=
  let place := byteLength (takeBytes offset text)
  let line := index.lineAt place
  let start := index.starts.getD line 0
  { line, column := (takeBytes (place - start) (dropBytes start text)).length }

end LineIndex

end TypeTest

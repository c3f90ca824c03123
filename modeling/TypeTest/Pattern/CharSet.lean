import TypeTest.Text.Blank
import TypeTest.Text.Numeral
import TypeTest.Text.RangeSet
import TypeTest.Text.Word

/-!
# Sets of characters

The characters that one place of a pattern accepts. A set is kept as it was
built, so that making it blind to case changes its leaves alone: the
complement of a set is taken of what the set accepts in any case, and not the
other way round. Its ranges are worked out where the size of a pattern is asked for.
-/

namespace TypeTest

/-- **A set of characters.** -/
inductive CharSet where
  /-- No character. -/
  | none
  /-- One character. -/
  | one (c : Char)
  /-- The characters from the first to the last, both included. -/
  | span (first last : Char)
  /-- The decimal digits of all scripts. -/
  | decimal
  /-- White space. -/
  | blank
  /-- Word characters. -/
  | word
  /-- The characters that are the same as one of the set up to case. -/
  | upToCase (s : CharSet)
  /-- The characters outside the set. -/
  | not (s : CharSet)
  /-- The characters of either set. -/
  | or (s t : CharSet)
  /-- The characters of both sets. -/
  | and (s t : CharSet)
  deriving DecidableEq, Repr

namespace CharSet

/-- **Whether a character belongs to the set.** -/
def has : CharSet → Char → Bool
  | .none, _ => false
  | .one d, c => c == d
  | .span first last, c => first ≤ c && c ≤ last
  | .decimal, c => isDecimal c
  | .blank, c => isBlank c
  | .word, c => isWordChar c
  | .upToCase s, c => (sameUpToCase c).any s.has
  | .not s, c => !s.has c
  | .or s t, c => s.has c || t.has c
  | .and s t, c => s.has c && t.has c

/-- The set, blind to case. The classes of digits, blanks and word characters
already hold a character in every case or in none. -/
def anyCase : CharSet → CharSet
  | .one c => .upToCase (.one c)
  | .span first last => .upToCase (.span first last)
  | .not s => .not s.anyCase
  | .or s t => .or s.anyCase t.anyCase
  | .and s t => .and s.anyCase t.anyCase
  | s => s

/-- **The set as a class in normal form.** -/
def ranges : CharSet → CharRanges
  | .none => []
  | .one c => [(c.toNat, c.toNat)]
  | .span first last => CharRanges.span first last
  | .decimal => ('0'.toNat, '9'.toNat) :: decimalRanges
  | .blank => ('\t'.toNat, '\r'.toNat) :: (' '.toNat, ' '.toNat) :: blankRanges
  | .word =>
    ('0'.toNat, '9'.toNat) :: ('A'.toNat, 'Z'.toNat) :: ('_'.toNat, '_'.toNat)
      :: ('a'.toNat, 'z'.toNat) :: wordRanges
  | .upToCase s => s.ranges.upToCase
  | .not s => s.ranges.complement
  | .or s t => s.ranges.union t.ranges
  | .and s t => s.ranges.inter t.ranges

/-- The characters of exactly one of two sets. -/
def xor (s t : CharSet) : CharSet := .or (.and s (.not t)) (.and t (.not s))

/-- Every character but a line feed. -/
def notLineFeed : CharSet := .not (.one '\n')

/-- Every character. -/
def all : CharSet := .not .none

/-- The characters of a text. -/
def ofChars (cs : List Char) : CharSet := cs.foldr (fun c s => .or (.one c) s) .none

end CharSet

end TypeTest

import TypeTest.Total

/-!
# Trees of words

A choice between words is laid out as a tree that shares what words begin with. The
words come in an order that the tree has to keep: after a word that ends somewhere,
longer words no longer share with those before it. So the words that pass a place
fall into **runs**, parted by the words that end there.

Only the number of bytes that the tree takes is worked out. A word is a list of
bytes, in the order in which they are read.
-/

namespace TypeTest

namespace WordTree

/-- What a state takes that leads on with so many bytes: one byte fits the state
itself, and several are listed beside it. -/
def stepBytes : Nat → Nat
  | 0 => 0
  | 1 => 32
  | n => 32 + 8 * n

/-- The runs of the words that pass a place, in order. Words that end there at the very
beginning count once. -/
def runs (words : List (List UInt8)) : List (List (List UInt8)) :=
  let words := if words.head? = some [] then [] :: words.dropWhile List.isEmpty else words
  words.foldr (fun w parts =>
    match w, parts with
    | [], parts => [] :: parts
    | w, part :: parts => (w :: part) :: parts
    | w, [] => [[w]]) [[]]

/-- What follows each first byte in a run. -/
def below (run : List (List UInt8)) : List (List (List UInt8)) :=
  (run.filterMap List.head?).eraseDups.map fun b =>
    run.filterMap fun w => if w.head? = some b then some w.tail else none

/-- The bytes that a place and all places below it take, to a depth. A place where
nothing follows takes none, for it is the common end. -/
def placeBytes : (depth : Nat) → List (List UInt8) → Nat
  | 0, _ => 0
  | depth + 1, words =>
    let parts := runs words
    let steps := parts.map fun run =>
      stepBytes (below run).length
        + total ((below run).map fun ws => if ws.all List.isEmpty then 0 else placeBytes depth ws)
    32 + 4 * ((parts.filter (!·.isEmpty)).length + (parts.length - 1)) + total steps

/-- **The bytes of the tree of some words**, with its common end. -/
def bytes (words : List (List UInt8)) : Nat :=
  32 + placeBytes ((words.map List.length).foldr max 0) words

end WordTree

end TypeTest

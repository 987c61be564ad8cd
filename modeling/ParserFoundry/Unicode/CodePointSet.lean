/-!
# Sets of Code Points

A set of Unicode scalar values is kept as a list of closed ranges of code points, sorted and with
a gap between neighbours. The module holds the set operations and the reader for the compact text
in which the tables of this library are written.
-/

namespace ParserFoundry

/-- A set of code points as sorted, separated, closed ranges. -/
structure CodePointSet where
  ranges : List (Nat × Nat) := []
deriving DecidableEq, Repr, Inhabited

namespace CodePointSet

/-- The largest code point. -/
def last : Nat := 0x10FFFF

def contains (set : CodePointSet) (code : Nat) : Bool :=
  set.ranges.any fun range => range.1 ≤ code && code ≤ range.2

/-- Join ranges that touch or overlap, beginning with `current`; the ranges are sorted by their
first members. -/
def coalesceFrom (current : Nat × Nat) : List (Nat × Nat) → List (Nat × Nat)
  | [] => [current]
  | next :: rest =>
    if next.1 ≤ current.2 + 1 then coalesceFrom (current.1, max current.2 next.2) rest
    else current :: coalesceFrom next rest

/-- Join the ranges of a list sorted by first members. -/
def coalesce : List (Nat × Nat) → List (Nat × Nat)
  | [] => []
  | range :: rest => coalesceFrom range rest

/-- Insert a range before the first one that does not start earlier. -/
def insertRange (range : Nat × Nat) : List (Nat × Nat) → List (Nat × Nat)
  | [] => [range]
  | next :: rest =>
    if range.1 ≤ next.1 then range :: next :: rest else next :: insertRange range rest

/-- The set that consists of the given ranges, which need not be sorted. -/
def ofRanges (ranges : List (Nat × Nat)) : CodePointSet :=
  ⟨coalesce (ranges.foldr insertRange [])⟩

def singleton (code : Nat) : CodePointSet :=
  ⟨[(code, code)]⟩

def isEmpty (set : CodePointSet) : Bool :=
  set.ranges.isEmpty

/-- How many code points are in the set. -/
def size (set : CodePointSet) : Nat :=
  set.ranges.foldl (fun count range => count + (range.2 + 1 - range.1)) 0

/-- Whether every member is below 128. -/
def isAscii (set : CodePointSet) : Bool :=
  set.ranges.all fun range => range.2 < 128

/-! ## Set operations -/

/-- Merge two sorted lists of ranges; `steps` bounds the sum of their lengths. -/
def mergeRanges : Nat → List (Nat × Nat) → List (Nat × Nat) → List (Nat × Nat)
  | 0, first, second => first ++ second
  | _, [], second => second
  | _, first, [] => first
  | steps + 1, x :: xs, y :: ys =>
    if x.1 ≤ y.1 then x :: mergeRanges steps xs (y :: ys) else y :: mergeRanges steps (x :: xs) ys

def union (first second : CodePointSet) : CodePointSet :=
  ⟨coalesce (mergeRanges (first.ranges.length + second.ranges.length) first.ranges second.ranges)⟩

/-- The union of several sets. -/
def unionAll (sets : List CodePointSet) : CodePointSet :=
  sets.foldl union {}

/-- The ranges between `next` and `limit` that the sorted `ranges` leave free. -/
def gaps (next limit : Nat) : List (Nat × Nat) → List (Nat × Nat)
  | [] => if next ≤ limit then [(next, limit)] else []
  | (a, b) :: rest =>
    if next < a then (next, a - 1) :: gaps (b + 1) limit rest
    else gaps (max next (b + 1)) limit rest

/-- The surrogate code points, which are no scalar values. -/
def surrogates : CodePointSet :=
  ⟨[(0xD800, 0xDFFF)]⟩

/-- The scalar values that are not in the set. -/
def complement (set : CodePointSet) : CodePointSet :=
  ⟨gaps 0 last (set.union surrogates).ranges⟩

def inter (first second : CodePointSet) : CodePointSet :=
  (first.complement.union second.complement).complement

def diff (first second : CodePointSet) : CodePointSet :=
  first.inter second.complement

def symmDiff (first second : CodePointSet) : CodePointSet :=
  (first.diff second).union (second.diff first)

/-- All scalar values. -/
def all : CodePointSet :=
  complement {}

/-- All members, in increasing order. -/
def toList (set : CodePointSet) : List Nat :=
  set.ranges.flatMap fun range => List.range' range.1 (range.2 + 1 - range.1)

/-! ## The text of a table -/

/-- The value of a hexadecimal digit in upper case. -/
def hexDigit (c : Char) : Nat :=
  if c.isDigit then c.toNat - 48 else c.toNat - 55

def hexNumber (digits : List Char) : Nat :=
  digits.foldl (fun value c => value * 16 + hexDigit c) 0

/-- The ranges of one entry: `41` is a code point, `41-5A` a range, and `100-12E/2` every second
code point of a range. -/
def entryRanges (entry : List Char) : List (Nat × Nat) :=
  let (first, rest) := entry.span (· != '-')
  let (final, step) := (rest.drop 1).span (· != '/')
  let low := hexNumber first
  if final.isEmpty then [(low, low)]
  else
    let high := hexNumber final
    if step.isEmpty then [(low, high)]
    else (List.range ((high - low) / 2 + 1)).map fun i => (low + 2 * i, low + 2 * i)

/-- Cut a text at its blanks. -/
def entries (current : List Char) : List Char → List (List Char)
  | [] => if current.isEmpty then [] else [current.reverse]
  | c :: rest =>
    if c = ' ' then
      if current.isEmpty then entries [] rest else current.reverse :: entries [] rest
    else entries (c :: current) rest

/-- Read the lines of a table, whose entries are in increasing order and separated by blanks. -/
def ofText (lines : List String) : CodePointSet :=
  ⟨coalesce (lines.flatMap fun line => (entries [] line.toList).flatMap entryRanges)⟩

end CodePointSet

end ParserFoundry

import ParserFoundry.Unicode.CodePointSet
/-!
# Regular Expressions

The core form of a pattern: sets of characters, places, sequence, choice and repetition, with all
flags resolved. Choice and repetition are ordered, since the first way to match is the one that
counts.
-/

namespace ParserFoundry.Pattern

/-- What a place in the input has to look like. -/
inductive Look where
  | start
  | stop
  | startLine
  | endLine
  | startLineCrlf
  | endLineCrlf
  | wordBoundary (unicode : Bool)
  | notWordBoundary (unicode : Bool)
  | wordStart (unicode : Bool)
  | wordEnd (unicode : Bool)
  | wordStartHalf (unicode : Bool)
  | wordEndHalf (unicode : Bool)
deriving DecidableEq, Repr

inductive Regex where
  | empty
  | chars (set : CodePointSet)
  | look (look : Look)
  | capture (sub : Regex)
  | loop (sub : Regex) (min : Nat) (max? : Option Nat) (greedy : Bool)
  | concat (parts : List Regex)
  | choice (branches : List Regex)
deriving Repr, Inhabited

namespace Regex

/-! ## Emptiness -/

mutual

/-- Whether some match takes no character. -/
def nullable : Regex → Bool
  | empty => true
  | chars _ => false
  | look _ => true
  | capture sub => sub.nullable
  | loop sub min _ _ => min == 0 || sub.nullable
  | concat parts => allNullable parts
  | choice branches => anyNullable branches

def allNullable : List Regex → Bool
  | [] => true
  | part :: rest => part.nullable && allNullable rest

def anyNullable : List Regex → Bool
  | [] => false
  | branch :: rest => branch.nullable || anyNullable rest

end

mutual

/-- Whether every match takes no character, as far as the form shows: an empty set of characters
does not count. -/
def matchesOnlyEmpty : Regex → Bool
  | empty => true
  | chars _ => false
  | look _ => true
  | capture sub => sub.matchesOnlyEmpty
  | loop sub _ max? _ => sub.matchesOnlyEmpty && max?.isSome || max? == some 0
  | concat parts => allMatchOnlyEmpty parts
  | choice branches => allMatchOnlyEmpty branches

def allMatchOnlyEmpty : List Regex → Bool
  | [] => true
  | part :: rest => part.matchesOnlyEmpty && allMatchOnlyEmpty rest

end

/-- A repetition in its simplest form: what takes no character is repeated at most once. -/
def repeated (sub : Regex) (min : Nat) (max? : Option Nat) (greedy : Bool) : Regex :=
  let (min, max?) :=
    if sub.matchesOnlyEmpty then (Nat.min min 1, some ((max?.map (Nat.min · 1)).getD 1))
    else (min, max?)
  if min = 0 ∧ max? = some 0 then empty
  else if min = 1 ∧ max? = some 1 then sub
  else .loop sub min max? greedy

/-! ## The size of an automaton

A pattern is refused when its automaton over bytes, read backwards, would be too large. A state
takes 32 bytes, a byte range in a state with several of them 8, and a branch 4. -/

/-- The largest code point whose encoding takes the given number of bytes. -/
def lastOfLength : Nat → Nat
  | 1 => 0x7F
  | 2 => 0x7FF
  | 3 => 0xFFFF
  | _ => CodePointSet.last

/-- The bytes of a code point in UTF-8. -/
def utf8Bytes (code : Nat) : List Nat :=
  if code ≤ 0x7F then [code]
  else if code ≤ 0x7FF then [0xC0 + code / 64, 0x80 + code % 64]
  else if code ≤ 0xFFFF then [0xE0 + code / 4096, 0x80 + code / 64 % 64, 0x80 + code % 64]
  else [0xF0 + code / 262144, 0x80 + code / 4096 % 64, 0x80 + code / 64 % 64, 0x80 + code % 64]

/-- Split a range of code points into ranges whose encodings are all combinations of one range
per byte. Such a range is given by its first and last encoding. -/
def byteRanges : Nat → Nat → Nat → List (List (Nat × Nat))
  | 0, _, _ => []
  | steps + 1, low, high =>
    match [1, 2, 3].find? fun n => low ≤ lastOfLength n && lastOfLength n < high with
    | some n => byteRanges steps low (lastOfLength n) ++ byteRanges steps (lastOfLength n + 1) high
    | none =>
      if high ≤ 0x7F then [[(low, high)]]
      else
        let cut? := [64, 4096, 262144].findSome? fun block =>
          if low / block != high / block then
            if low % block != 0 then some (low / block * block + block)
            else if high % block != block - 1 then some (high / block * block)
            else none
          else none
        match cut? with
        | some cut => byteRanges steps low (cut - 1) ++ byteRanges steps cut high
        | none => [(utf8Bytes low).zip (utf8Bytes high)]

/-- How many of the ranges of `current` are not shared with `previous` from the front. -/
def unshared (previous current : List (Nat × Nat)) : Nat :=
  current.length - go previous current
where
  go : List (Nat × Nat) → List (Nat × Nat) → Nat
    | x :: xs, y :: ys => if x = y then go xs ys + 1 else 0
    | _, _ => 0

/-- The states that byte sequences take when those with a common start share it. -/
def sharedStates (previous : List (Nat × Nat)) : List (List (Nat × Nat)) → Nat
  | [] => 0
  | current :: rest => unshared previous current + sharedStates current rest

/-- The size of the automaton of a set of characters. -/
def setFootprint (set : CodePointSet) : Nat :=
  match set.ranges with
  | [] => 32
  | [(low, high)] =>
    if high < 128 then 32
    else if low = high then 32 * (utf8Bytes low).length
    else unicodeFootprint [(low, high)]
  | ranges =>
    if set.isAscii then 32 + 8 * ranges.length else unicodeFootprint ranges
where
  unicodeFootprint (ranges : List (Nat × Nat)) : Nat :=
    let sequences := ranges.flatMap fun range => byteRanges 64 range.1 range.2
    64 + 4 * sequences.length + 32 * sharedStates [] sequences

mutual

/-- The size of the automaton of an expression. -/
def footprint : Regex → Nat
  | empty => 32
  | chars set => setFootprint set
  | look _ => 32
  | capture sub => 64 + sub.footprint
  | loop sub min max? _ =>
    let one := sub.footprint
    match max? with
    | none =>
      if min = 0 then (if sub.nullable then 112 + one else 36 + one)
      else min * one + 40
    | some max =>
      if min = 0 ∧ max = 1 then 72 + one
      else if min = max then (if min = 0 then 32 else min * one)
      else 32 + (if min = 0 then 32 else min * one) + (max - min) * (one + 40)
  | concat parts => sumFootprint parts
  | choice branches => 64 + 4 * branches.length + sumFootprint branches

def sumFootprint : List Regex → Nat
  | [] => 0
  | part :: rest => part.footprint + sumFootprint rest

end

/-- The size that an automaton may have. -/
def sizeLimit : Nat := 10485760

end Regex

end ParserFoundry.Pattern

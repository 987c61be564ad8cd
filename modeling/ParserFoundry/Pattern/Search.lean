import ParserFoundry.Pattern.Program
import ParserFoundry.Pattern.Lowering
/-!
# Searching

A program is run over the input with all its threads in step, in order of preference. The first
place at which it matches counts, and there the way that it prefers. A match is given by the
characters before it and the characters in it.
-/

namespace ParserFoundry.Pattern

/-! ## Places -/

/-- What stands on the two sides of a place in the input. -/
structure Place where
  before? : Option Char
  after? : Option Char
deriving DecidableEq, Repr

/-- Whether there is a word character on a side. -/
def isWordSide (unicode : Bool) (side? : Option Char) : Bool :=
  side?.any fun c =>
    (if unicode && c.toNat ≥ 128 then wordChars else asciiShortClass .word).contains c.toNat

/-- Whether a place looks as required. A carriage return and a line feed belong together. -/
def Look.holds (look : Look) (place : Place) : Bool :=
  let before := place.before?
  let after := place.after?
  match look with
  | start => before.isNone
  | stop => after.isNone
  | startLine => before.isNone || before == some '\n'
  | endLine => after.isNone || after == some '\n'
  | startLineCrlf =>
    before.isNone || before == some '\n' || (before == some '\r' && after != some '\n')
  | endLineCrlf =>
    after.isNone || after == some '\r' || (after == some '\n' && before != some '\r')
  | wordBoundary unicode => isWordSide unicode before != isWordSide unicode after
  | notWordBoundary unicode => isWordSide unicode before == isWordSide unicode after
  | wordStart unicode => !isWordSide unicode before && isWordSide unicode after
  | wordEnd unicode => isWordSide unicode before && !isWordSide unicode after
  | wordStartHalf unicode => !isWordSide unicode before
  | wordEndHalf unicode => !isWordSide unicode after

/-! ## Threads -/

/-- A way to match under way: where it started, and the instruction that it has come to, which
takes a character or accepts. -/
structure Thread where
  start : Nat
  label : Nat
deriving DecidableEq, Repr

/-- The threads at one place, the preferred one first. `visited` lists the labels reached so far:
the first thread that reaches a label is the one that counts. -/
structure Threads where
  reversed : List Thread := []
  visited : List Nat := []
deriving Repr

namespace Program

/-- A bound on the steps that following all empty instructions can take. -/
def reach (program : Program) : Nat :=
  program.code.foldl
    (fun total instruction =>
      total + match instruction with
        | .split labels => labels.length + 1
        | _ => 2)
    1

/-- Follow the labels of `pending`, the first one first, until each has come to an instruction
that takes a character or accepts. -/
def follow (program : Program) (place : Place) (start : Nat) :
    Nat → List Nat → Threads → Threads
  | 0, _, threads => threads
  | _, [], threads => threads
  | steps + 1, label :: pending, threads =>
    if threads.visited.contains label then program.follow place start steps pending threads
    else
      let visited := label :: threads.visited
      let threads := { threads with visited := visited }
      match program.code[label]? with
      -- Labels of a choice go in front of what is pending, which keeps the order of preference.
      | some (.split labels) => program.follow place start steps (labels ++ pending) threads
      | some (.look look next) =>
        if look.holds place then program.follow place start steps (next :: pending) threads
        else program.follow place start steps pending threads
      | some _ =>
        program.follow place start steps pending
          { threads with reversed := ⟨start, label⟩ :: threads.reversed }
      | none => program.follow place start steps pending threads

/-- Let the threads take the character `c`. A thread that accepts is a match that ends here, and
cuts off the threads after it. -/
def advance (program : Program) (reach : Nat) (place : Place) (c? : Option Char) (position : Nat) :
    List Thread → Threads → Threads × Option (Nat × Nat)
  | [], ahead => (ahead, none)
  | thread :: rest, ahead =>
    match program.code[thread.label]? with
    | some .accept => (ahead, some (thread.start, position))
    | some (.chars set next) =>
      if c?.any fun c => set.contains c.toNat then
        program.advance reach place c? position rest
          (program.follow place thread.start reach [next] ahead)
      else program.advance reach place c? position rest ahead
    | _ => program.advance reach place c? position rest ahead

/-- Start a thread at a place if nothing has matched yet. -/
def seed (program : Program) (reach : Nat) (best? : Option (Nat × Nat)) (place : Place)
    (position : Nat) (threads : Threads) : Threads :=
  if best?.isSome then threads else program.follow place position reach [program.entry] threads

/-- Run the threads over the rest of the input. As long as there is no match, a new thread of
least preference starts at every place. -/
def run (program : Program) (reach : Nat) (best? : Option (Nat × Nat)) (position : Nat)
    (before? : Option Char) (threads : Threads) : List Char → Option (Nat × Nat)
  | [] =>
    let threads := program.seed reach best? ⟨before?, none⟩ position threads
    let (_, found?) := program.advance reach ⟨none, none⟩ none position threads.reversed.reverse {}
    found? <|> best?
  | c :: rest =>
    -- Threads that started earlier stand in front, so the leftmost match is preferred.
    let threads := program.seed reach best? ⟨before?, some c⟩ position threads
    let (ahead, found?) := program.advance reach ⟨some c, rest.head?⟩ (some c) position
      threads.reversed.reverse {}
    let best? := found? <|> best?
    -- With a match at hand, only threads preferred to it are still under way.
    if best?.isSome && ahead.reversed.isEmpty then best?
    else program.run reach best? (position + 1) (some c) ahead rest

/-- The first match in the input: the characters before it and after its last one, counted. -/
def find? (program : Program) (input : List Char) : Option (Nat × Nat) :=
  program.run program.reach none 0 none {} input

end Program

/-- The program of a pattern. -/
def Program.ofPattern (pattern : String) : Except BuildError Program := do
  return .ofRegex (← Regex.ofPattern pattern)

end ParserFoundry.Pattern

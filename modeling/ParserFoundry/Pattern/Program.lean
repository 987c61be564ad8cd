import ParserFoundry.Pattern.Regex
/-!
# Matching Programs

A regular expression as a list of instructions. The instructions of a choice are tried in order,
so the program keeps which way to match comes first.
-/

namespace ParserFoundry.Pattern

/-- One instruction; labels are positions in the program. -/
inductive Instruction where
  /-- Take a character of the set. -/
  | chars (set : CodePointSet) (next : Nat)
  /-- Go on only if the place looks as required. -/
  | look (look : Look) (next : Nat)
  /-- Go on at any of the labels, the first one first. -/
  | split (labels : List Nat)
  | accept
deriving Repr, Inhabited

/-- A program and the label at which it starts. -/
structure Program where
  code : Array Instruction
  entry : Nat
deriving Repr, Inhabited

namespace Program

/-- Append an instruction and return its label. -/
def emit (code : Array Instruction) (instruction : Instruction) : Nat × Array Instruction :=
  (code.size, code.push instruction)

/-- The labels of going through a loop and of leaving it, the preferred one first. -/
def prefer (greedy : Bool) (through out : Nat) : List Nat :=
  if greedy then [through, out] else [out, through]

/-- Compile `copies` copies of what `compile` compiles, one before the other. -/
def emitCopies (compile : Nat → Array Instruction → Nat × Array Instruction) :
    Nat → Nat → Array Instruction → Nat × Array Instruction
  | 0, next, code => (next, code)
  | copies + 1, next, code =>
    let (label, code) := compile next code
    emitCopies compile copies label code

/-- Compile `copies` nested copies, each of which may be left out with all those inside it. -/
def emitOptional (greedy : Bool) (compile : Nat → Array Instruction → Nat × Array Instruction)
    (out : Nat) : Nat → Nat → Array Instruction → Nat × Array Instruction
  | 0, next, code => (next, code)
  | copies + 1, next, code =>
    let (label, code) := compile next code
    let (label, code) := emit code (.split (prefer greedy label out))
    emitOptional greedy compile out copies label code

/-- Compile a loop of one or more rounds; the loop comes back to a choice behind the body. -/
def emitPlus (greedy : Bool) (compile : Nat → Array Instruction → Nat × Array Instruction)
    (next : Nat) (code : Array Instruction) : Nat × Array Instruction :=
  let (choice, code) := emit code (.split [])
  let (body, code) := compile choice code
  (body, code.setIfInBounds choice (.split (prefer greedy body next)))

/-- Compile a loop of any number of rounds, whose body takes at least one character. -/
def emitStar (greedy : Bool) (compile : Nat → Array Instruction → Nat × Array Instruction)
    (next : Nat) (code : Array Instruction) : Nat × Array Instruction :=
  let (choice, code) := emit code (.split [])
  let (body, code) := compile choice code
  (choice, code.setIfInBounds choice (.split (prefer greedy body next)))

mutual

/-- Append the instructions of an expression that go on at `next`, and return where they start.
A loop whose body may match nothing is compiled as an optional loop of one or more rounds, which
keeps the order of preference. -/
def compile : Regex → Nat → Array Instruction → Nat × Array Instruction
  | .empty, next, code => (next, code)
  | .chars set, next, code => emit code (.chars set next)
  | .look look, next, code => emit code (.look look next)
  | .capture sub, next, code => compile sub next code
  | .loop sub min none greedy, next, code =>
    if min = 0 then
      if sub.nullable then
        let (body, code) := emitPlus greedy (compile sub) next code
        emit code (.split (prefer greedy body next))
      else emitStar greedy (compile sub) next code
    else
      -- Copies before the loop itself, which takes care of the last round that is required.
      let (body, code) := emitPlus greedy (compile sub) next code
      emitCopies (compile sub) (min - 1) body code
  | .loop sub min (some max) greedy, next, code =>
    let (label, code) := emitOptional greedy (compile sub) next (max - min) next code
    emitCopies (compile sub) min label code
  | .concat parts, next, code => compileConcat parts next code
  | .choice branches, next, code =>
    let (labels, code) := compileChoice branches next code
    emit code (.split labels)

def compileConcat : List Regex → Nat → Array Instruction → Nat × Array Instruction
  | [], next, code => (next, code)
  | part :: rest, next, code =>
    -- The code grows from the end: what follows a part is compiled before it.
    let (label, code) := compileConcat rest next code
    compile part label code

def compileChoice : List Regex → Nat → Array Instruction → List Nat × Array Instruction
  | [], _, code => ([], code)
  | branch :: rest, next, code =>
    let (label, code) := compile branch next code
    let (labels, code) := compileChoice rest next code
    (label :: labels, code)

end

/-- The program of a regular expression. -/
def ofRegex (regex : Regex) : Program :=
  let (entry, code) := compile regex 0 #[.accept]
  ⟨code, entry⟩

end Program

end ParserFoundry.Pattern

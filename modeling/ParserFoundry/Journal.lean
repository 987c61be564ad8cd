/-!
# Journals

The messages that a run leaves for its observer, in order, each with its weight.
-/

namespace ParserFoundry

/-- How much a message weighs. -/
inductive Level where
  | error
  | warn
  | info
  | debug
  | trace
deriving DecidableEq, Repr

namespace Level

/-- The levels from the weightiest on. -/
def rank : Level → Nat
  | error => 0
  | warn => 1
  | info => 2
  | debug => 3
  | trace => 4

def label : Level → String
  | error => "ERROR"
  | warn => "WARN"
  | info => "INFO"
  | debug => "DEBUG"
  | trace => "TRACE"

end Level

/-- One message. -/
structure Note where
  level : Level
  text : String
deriving DecidableEq, Repr

namespace Note

/-- The line of a message. -/
def line (note : Note) : String :=
  note.level.label ++ " " ++ note.text

/-- The messages that weigh at least as much as `level`. -/
def atLeast (level : Level) (notes : List Note) : List Note :=
  notes.filter fun note => note.level.rank ≤ level.rank

end Note

/-- A computation that leaves notes and may fail; its notes stay when it fails. -/
abbrev Journaled (ε α : Type) : Type :=
  ExceptT ε (StateM (List Note)) α

namespace Journaled

variable {ε α : Type}

/-- Leave a note. -/
def note (level : Level) (text : String) : Journaled ε Unit :=
  modify fun notes => notes ++ [⟨level, text⟩]

/-- Leave several notes. -/
def notes (more : List Note) : Journaled ε Unit :=
  modify fun notes => notes ++ more

/-- A computation without notes, whose errors are put in other words. -/
def ofExcept {η : Type} (wrap : η → ε) : Except η α → Journaled ε α
  | .ok value => return value
  | .error cause => throw (wrap cause)

/-- The result and the notes. -/
def result (computation : Journaled ε α) : Except ε α × List Note :=
  (computation.run).run []

end Journaled

end ParserFoundry

import ParserFoundry.Json.Model
import ParserFoundry.Table.ParseTable
/-!
# Parse Tables as JSON

The exchange form of parse tables: the cells of each grid in one list, and the marks of occupied
cells as words of 64 bits, the first cell in the lowest bit.
-/

namespace ParserFoundry

open Json (asCount? asString? asList? asOption? asPair? asTriple? fields? variant? hasNoContent
  plainVariant fullVariant record)

/-! ## Actions and conflicts -/

namespace Action

def toJson : Action → Json
  | shift target terminal => fullVariant "Shift" (.array [target.toJson, terminal.toJson])
  | reduce production length nonterminal =>
    fullVariant "Reduce" (.array [production.toJson, .ofNat length, nonterminal.toJson])
  | accept => plainVariant "Accept"
  | error => plainVariant "Error"

def ofJson? (json : Json) : Option Action := do
  match ← variant? json with
  | ("Shift", some content) =>
    let (target, terminal) ← asPair? StateId.ofJson? TerminalId.ofJson? content
    return shift target terminal
  | ("Reduce", some content) =>
    let (production, length, nonterminal) ←
      asTriple? ProductionId.ofJson? asCount? NonterminalId.ofJson? content
    return reduce production length nonterminal
  | ("Accept", content?) => if hasNoContent content? then some accept else none
  | ("Error", content?) => if hasNoContent content? then some error else none
  | _ => none

end Action

namespace Conflicts

def toJson (conflicts : Conflicts) : Json :=
  record [
    ("shift_reduce", .ofList (fun (terminal, production, state) =>
      .array [terminal.toJson, production.toJson, state.toJson]) conflicts.shiftReduce),
    ("reduce_reduce", .ofList (fun (first, second, state) =>
      .array [first.toJson, second.toJson, state.toJson]) conflicts.reduceReduce),
    ("other", .ofList (fun (terminal, state) =>
      .array [terminal.toJson, state.toJson]) conflicts.other)]

def ofJson? (json : Json) : Option Conflicts := do
  let [some shiftReduce, some reduceReduce, some other] ←
    fields? ["shift_reduce", "reduce_reduce", "other"] json | none
  return ⟨
    ← asList? (asTriple? TerminalId.ofJson? ProductionId.ofJson? StateId.ofJson?) shiftReduce,
    ← asList? (asTriple? ProductionId.ofJson? ProductionId.ofJson? StateId.ofJson?) reduceReduce,
    ← asList? (asPair? TerminalId.ofJson? StateId.ofJson?) other⟩

end Conflicts

/-! ## Marks as words -/

namespace Bits

/-- The number whose binary digits are the marks, the first one lowest. -/
def toNat : List Bool → Nat
  | [] => 0
  | bit :: rest => (if bit then 1 else 0) + 2 * toNat rest

/-- The lowest `count` binary digits of a number, the lowest one first. -/
def ofNat : Nat → Nat → List Bool
  | 0, _ => []
  | count + 1, value => (value % 2 == 1) :: ofNat count (value / 2)

/-- Cut the marks into words of 64; `count` is the number of words. -/
def toWords : Nat → List Bool → List Nat
  | 0, _ => []
  | count + 1, bits => toNat (bits.take 64) :: toWords count (bits.drop 64)

def toJson (bits : List Bool) : Json :=
  record [("len", .ofNat bits.length),
    ("vec", .ofList Json.ofNat (toWords ((bits.length + 63) / 64) bits))]

def ofJson? (json : Json) : Option (List Bool) := do
  let [some length, some words] ← fields? ["len", "vec"] json | none
  let length ← asCount? length
  let words ← asList? asCount? words
  return (words.flatMap (ofNat 64)).take length

end Bits

/-! ## Tables -/

namespace ParseTable

def toJson (table : ParseTable) : Json :=
  record [
    ("actions", .ofList Action.toJson table.actions.cells),
    ("state_actions", Bits.toJson table.occupied.cells),
    ("gotos", .ofList (.ofOption StateId.toJson) table.gotos.cells),
    ("state_symbols", .ofList (.ofOption Json.ofString) table.stateSymbols),
    ("states_len", .ofNat table.stateCount),
    ("terms_len", .ofNat table.actions.width),
    ("nonterms_len", .ofNat table.gotos.width),
    ("max_actions", .ofNat table.maxActions),
    ("conflicts", .ofOption Conflicts.toJson table.conflicts?)]

/-- The table that a value holds; the number of states has to be that of their symbols. -/
def ofJson? (json : Json) : Option ParseTable := do
  let [some actions, some occupied, some gotos, some symbols, some states, some terminals,
      some nonterminals, some maxActions, conflicts?] ←
    fields? ["actions", "state_actions", "gotos", "state_symbols", "states_len", "terms_len",
      "nonterms_len", "max_actions", "conflicts"] json | none
  let symbols ← asList? (asOption? asString?) symbols
  if (← asCount? states) ≠ symbols.length then none
  let terminals ← asCount? terminals
  return {
    actions := ⟨terminals, ← asList? Action.ofJson? actions⟩
    occupied := ⟨terminals, ← Bits.ofJson? occupied⟩
    gotos := ⟨← asCount? nonterminals, ← asList? (asOption? StateId.ofJson?) gotos⟩
    stateSymbols := symbols
    maxActions := ← asCount? maxActions
    conflicts? := ← Json.optionalField? Conflicts.ofJson? conflicts? }

end ParseTable

end ParserFoundry

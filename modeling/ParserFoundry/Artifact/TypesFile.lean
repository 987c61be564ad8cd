import ParserFoundry.Artifact.Blueprint
/-!
# The Types File

The generated file with the kinds of terminals, nonterminals and productions, each numbered by its
position, and with the values of symbols.
-/

namespace ParserFoundry.Artifact

open Code

/-- An enumeration of kinds with their numbers, and the way back from a number to its kind. -/
def kindItems (name : String) (kinds : List String) : List Item :=
  let back : List Arm := kinds.mapIdx fun i kind =>
    .mk (.number i) [] (.apply ["Ok"] [.names [name, kind]])
  [.enumeration ["Clone", "Copy", "Debug", "Eq", "Hash", "PartialEq"] name
      (kinds.mapIdx fun i kind => ⟨kind, .number i⟩),
    .implementation [] (some (.of "TryFrom" (.named "usize"))) (.named name) []
      [.type "Error" (.named "usize"),
        .function {
          name := "try_from"
          parameters := [.typed "value" (.named "usize")]
          result? := some (.applied "Result" [.type (.named "Self"), .type (.named "usize")])
          value? := some
            (.cases (.name "value")
              (back ++ [.mk .any [] (.apply ["Err"] [.name "value"])])) }]]

/-- The value of a terminal. -/
def terminalVariant (blueprint : Blueprint) (handler : ShiftHandler) : Variant where
  name := blueprint.terminalKind handler.terminal
  content := if handler.payload then .value (.named "String") else .nothing

/-- The values of symbols. -/
def valueItems (blueprint : Blueprint) : List Item :=
  let enumeration (name : String) (variants : List Variant) : Item :=
    .enumeration ["Debug"] name variants
  [enumeration "Symbol"
      [⟨"Terminal", .value (.named "Terminal")⟩, ⟨"NonTerminal", .value (.named "NonTerminal")⟩],
    enumeration "Terminal" (blueprint.handlers.shifts.map (terminalVariant blueprint)),
    enumeration "NonTerminal" (blueprint.names.nonterminalKinds.map fun kind =>
      ⟨kind, .value (.ofPath (blueprint.actions.child kind))⟩)]

/-! ## The file -/

def typesFile (blueprint : Blueprint) : List Item :=
  kindItems "TermKind" blueprint.names.terminalKinds ++
    kindItems "NonTermKind" blueprint.names.nonterminalKinds ++
    kindItems "ProdKind" blueprint.names.productionKinds ++ valueItems blueprint

end ParserFoundry.Artifact

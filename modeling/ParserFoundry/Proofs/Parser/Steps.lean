import ParserFoundry.Parser.Run
import ParserFoundry.Proofs.Parser.Reading
/-!
# Steps and Runs

A move that leads on is a shift or a reduction; here is what each of them finds and what it leaves
behind, as a relation, so that an invariant is shown once for each kind of move. The moves that end
a run are another one. A run makes the moves that its events tell, and what its moves preserve holds
at its end.

Main results:
- `Parser.step_next`, `Parser.step_done`: a move that leads on is a `Step`, and one that does not is
  an `Ending`.
- `Parser.run_of_preserved`: what steps preserve holds along runs.
- `Parser.parse_reaches`: a run ends where the parser comes to by its steps.
- `Parser.ActsAs.parse_eq`: what a run looks up decides its end.
-/

namespace ParserFoundry

/-! ## Events -/

/-- A token that has been shifted: its terminal, the byte at which it starts, and its text. -/
structure Token where
  terminal : TerminalId
  start : Nat
  lexeme : List Char
deriving Repr

/-- What a move does: it shifts a token and enters a state, or it reduces a production. -/
inductive ParseEvent where
  | shifted (target : StateId) (token : Token)
  | reduced (production : ProductionId)
deriving Repr

def ParseEvent.token? : ParseEvent → Option Token
  | shifted _ token => some token
  | reduced _ => none

@[simp]
theorem filterMap_token?_shifted (events : List ParseEvent) (target : StateId) (token : Token) :
    (events ++ [ParseEvent.shifted target token]).filterMap ParseEvent.token? =
      events.filterMap ParseEvent.token? ++ [token] := by
  rw [List.filterMap_append]
  rfl

@[simp]
theorem filterMap_token?_reduced (events : List ParseEvent) (production : ProductionId) :
    (events ++ [ParseEvent.reduced production]).filterMap ParseEvent.token? =
      events.filterMap ParseEvent.token? := by
  rw [List.filterMap_append]
  exact List.append_nil _

namespace Parser

/-- What the move that the table says does. -/
def event? (parser : Parser) (configuration : Configuration) : Option ParseEvent :=
  match configuration.states with
  | [] => none
  | state :: _ =>
    let ahead := configuration.lookahead
    match parser.table.action? state ahead.terminal with
    | some (.shift target _) =>
      (splitBytes? ahead.length ahead.rest).map fun (lexeme, _) =>
        .shifted target ⟨ahead.terminal, ahead.start, lexeme⟩
    | some (.reduce production ..) => some (.reduced production)
    | _ => none

/-- What the moves of a run do. -/
def events (parser : Parser) : Nat → ParseStep → List ParseEvent
  | _, .done _ => []
  | 0, .next _ => []
  | moves + 1, .next configuration =>
    (parser.event? configuration).toList ++ parser.events moves (parser.step configuration)

/-- The tokens that are shifted while the input is parsed. -/
def tokens (parser : Parser) (moves : Nat) (input : String) : List Token :=
  (parser.events moves (parser.begin_ input.toList)).filterMap ParseEvent.token?

/-! ## Steps -/

end Parser

/-- The values that a reduction hands to its production's action. -/
def ReduceHandler.arguments (handler : ReduceHandler) (values : List ParseTree) : List ParseTree :=
  ((handler.children.zip values).filter fun child => child.1.isArgument).map Prod.snd

/-- An action gets as many arguments as its handler says. -/
theorem ReduceHandler.length_arguments {handler : ReduceHandler} {values : List ParseTree}
    (h : values.length = handler.arity) :
    (handler.arguments values).length = handler.argumentCount := by
  have hchildren : (handler.children.zip values).map Prod.fst = handler.children :=
    List.map_fst_zip (Nat.le_of_eq h.symm)
  calc (handler.arguments values).length
      = (handler.children.zip values).countP (ChildShape.isArgument ∘ Prod.fst) := by
        rw [arguments, List.length_map, ← List.countP_eq_length_filter]
        rfl
    _ = ((handler.children.zip values).map Prod.fst).countP ChildShape.isArgument := by
        rw [List.countP_map]
    _ = handler.argumentCount := by rw [hchildren, argumentCount]

namespace Parser

/-- The moves that lead on: what they need and what they do. -/
inductive Step (parser : Parser) (before : Configuration) : ParseEvent → Configuration → Prop where
  | shift {state below target terminal lexeme rest handler ahead} :
      before.states = state :: below →
      parser.table.action? state before.lookahead.terminal = some (.shift target terminal) →
      splitBytes? before.lookahead.length before.lookahead.rest = some (lexeme, rest) →
      parser.handlers.shift? terminal = some handler →
      parser.lookahead? target (before.lookahead.start + before.lookahead.length) rest =
        some ahead →
      Step parser before
        (.shifted target ⟨before.lookahead.terminal, before.lookahead.start, lexeme⟩)
        ⟨target :: before.states,
          .token terminal (if handler.payload then some (String.ofList lexeme) else none) ::
            before.values,
          before.lookahead.start + before.lookahead.length, ahead⟩
  | reduce {state below production length nonterminal source deeper target handler} :
      before.states = state :: below →
      parser.table.action? state before.lookahead.terminal =
        some (.reduce production length nonterminal) →
      before.states.drop length = source :: deeper →
      parser.table.goto? source nonterminal = some (some target) →
      parser.handlers.reduce? production = some handler →
      handler.arity = length →
      length ≤ before.values.length →
      (∀ child ∈ handler.children.zip (before.values.take length).reverse,
        child.1.admits child.2 = true) →
      Step parser before (.reduced production)
        { before with
          states := target :: source :: deeper
          values := .node handler.nonterminal production
            (handler.arguments (before.values.take length).reverse) ::
              before.values.drop length }

variable {parser : Parser} {before after : Configuration} {event : ParseEvent}

theorem Step.event?_eq (h : parser.Step before event after) :
    parser.event? before = some event := by
  cases h with
  | shift hstates haction hsplit => simp [event?, hstates, haction, hsplit]
  | reduce hstates haction => simp [event?, hstates, haction]

theorem reduceStates_eq_ok_iff {states : List StateId} {length : Nat} {nonterminal : NonterminalId}
    {result : List StateId} :
    parser.reduceStates states length nonterminal = .ok result ↔
      ∃ source deeper target, states.drop length = source :: deeper ∧
        parser.table.goto? source nonterminal = some (some target) ∧
        result = target :: source :: deeper := by
  constructor
  · intro h
    simp only [reduceStates] at h
    split at h
    · cases h
    · split at h
      · cases h
      · rename_i source deeper hdrop
        split at h
        · cases h
        · cases h
        · rename_i target hgoto
          cases h
          exact ⟨source, deeper, target, hdrop, hgoto, rfl⟩
  · rintro ⟨source, deeper, target, hdrop, hgoto, rfl⟩
    -- a stack that is too short would leave nothing
    have hlength : ¬ states.length < length := fun hlt => by
      simp [List.drop_eq_nil_of_le hlt.le] at hdrop
    simp only [reduceStates, if_neg hlength, hdrop, hgoto]

theorem reduceValues_eq_ok_iff {values result : List ParseTree} {production : ProductionId}
    {length : Nat} :
    parser.reduceValues values production length = .ok result ↔
      ∃ handler, parser.handlers.reduce? production = some handler ∧ handler.arity = length ∧
        length ≤ values.length ∧
        (∀ child ∈ handler.children.zip (values.take length).reverse,
          child.1.admits child.2 = true) ∧
        result = .node handler.nonterminal production
          (handler.arguments (values.take length).reverse) :: values.drop length := by
  constructor
  · intro h
    -- the checks in their order: handler, number of values, enough values, shapes
    simp only [reduceValues] at h
    split at h
    · cases h
    · rename_i handler hhandler
      split at h
      · cases h
      · rename_i harity
        split at h
        · cases h
        · rename_i hlength
          split at h
          · rename_i hshapes
            cases h
            exact ⟨handler, hhandler, not_not.mp harity, not_lt.mp hlength,
              List.all_eq_true.mp hshapes, rfl⟩
          · cases h
  · rintro ⟨handler, hhandler, harity, hlength, hshapes, rfl⟩
    simp only [reduceValues, hhandler]
    rw [if_neg (not_not.mpr harity), if_neg (not_lt.mpr hlength),
      if_pos (List.all_eq_true.mpr hshapes)]
    rfl

theorem readToken_eq_next_iff {states : List StateId} {values : List ParseTree} {state : StateId}
    {position : Nat} {rest : List Char} :
    parser.readToken states values state position rest = .next after ↔
      ∃ ahead, parser.lookahead? state position rest = some ahead ∧
        after = ⟨states, values, position, ahead⟩ := by
  simp only [readToken]
  cases parser.lookahead? state position rest with
  | none => simp
  | some ahead => simp [eq_comm]

/-- A move that leads on is a shift or a reduction. -/
theorem step_next (h : parser.step before = .next after) :
    ∃ event, parser.Step before event after := by
  cases hstates : before.states with
  | nil => simp [step, hstates] at h
  | cons state below =>
    simp only [step, hstates] at h
    cases haction : parser.table.action? state before.lookahead.terminal with
    | none => simp [haction] at h
    | some action =>
      simp only [haction] at h
      cases action with
      | accept => cases h
      | error => cases h
      | shift target terminal =>
        simp only [shift] at h
        split at h
        · cases h
        · cases h
        · -- the token is cut off, its handler found, and the next token read
          rename_i lexeme rest handler hsplit hhandler
          obtain ⟨ahead, hahead, rfl⟩ := readToken_eq_next_iff.mp h
          exact ⟨_, .shift hstates haction hsplit hhandler hahead⟩
      | reduce production length nonterminal =>
        simp only [reduce] at h
        -- both stacks have to be reduced for the move to lead on
        cases hreduce : parser.reduceStates before.states length nonterminal with
        | error fault => simp [hreduce] at h
        | ok states =>
          cases hvalues : parser.reduceValues before.values production length with
          | error fault => simp [hreduce, hvalues] at h
          | ok values =>
            simp only [hreduce, hvalues] at h
            cases h
            obtain ⟨source, deeper, target, hdrop, hgoto, rfl⟩ :=
              reduceStates_eq_ok_iff.mp hreduce
            obtain ⟨handler, hhandler, harity, hlength, hshapes, rfl⟩ :=
              reduceValues_eq_ok_iff.mp hvalues
            exact ⟨_, .reduce hstates haction hdrop hgoto hhandler harity hlength hshapes⟩

/-- The moves that do not lead on: what they find and how they end the run. -/
inductive Ending (parser : Parser) (before : Configuration) : ParseOutcome → Prop where
  | accept {state below tree} :
      before.states = state :: below →
      parser.table.action? state before.lookahead.terminal = some .accept →
      before.values = [tree] →
      Ending parser before (.accepted tree)
  /-- There is no action on the lookahead. -/
  | error {state below} :
      before.states = state :: below →
      parser.table.action? state before.lookahead.terminal = some .error →
      Ending parser before (.rejected before.lookahead.start)
  /-- The lookahead is shifted, and no token is found behind it. -/
  | shift {state below target terminal lexeme rest} :
      before.states = state :: below →
      parser.table.action? state before.lookahead.terminal = some (.shift target terminal) →
      splitBytes? before.lookahead.length before.lookahead.rest = some (lexeme, rest) →
      parser.lookahead? target (before.lookahead.start + before.lookahead.length) rest = none →
      Ending parser before (.rejected (before.lookahead.start + before.lookahead.length))
  | fail (fault : ParseFault) : Ending parser before (.failed fault)

theorem step_done {outcome : ParseOutcome} (h : parser.step before = .done outcome) :
    parser.Ending before outcome := by
  cases hstates : before.states with
  | nil =>
    simp only [step, hstates] at h
    cases h
    exact .fail _
  | cons state below =>
    simp only [step, hstates] at h
    cases haction : parser.table.action? state before.lookahead.terminal with
    | none =>
      simp only [haction] at h
      cases h
      exact .fail _
    | some action =>
      simp only [haction] at h
      -- only `accept`, `error` and a shift without a token behind it end a run without a fault
      cases action with
      | error =>
        cases h
        exact .error hstates haction
      | shift target terminal =>
        simp only [shift] at h
        split at h
        · cases h
          exact .fail _
        · cases h
          exact .fail _
        · -- the token is cut off and its handler found, so what ends the run is to read on
          rename_i lexeme rest handler hsplit hhandler
          simp only [readToken] at h
          split at h
          · rename_i hnone
            cases h
            exact .shift hstates haction hsplit hnone
          · cases h
      | reduce production length nonterminal =>
        -- a reduction leads on or fails: it never ends a run by itself
        simp only [reduce] at h
        split at h
        · cases h
          exact .fail _
        · split at h
          · cases h
            exact .fail _
          · cases h
      | accept =>
        -- a value is accepted only as the last one on the stack
        simp only [accept] at h
        split at h
        · rename_i value hvalues
          cases h
          exact .accept hstates haction hvalues
        · cases h
          exact .fail _

/-! ## Runs -/

/-- What steps preserve, told by the events so far, holds when a run ends: of the configuration
whose move ends it, or of the one at which the moves run out. -/
theorem run_of_preserved {I : List ParseEvent → Configuration → Prop}
    (hstep : ∀ events before event after, I events before → parser.Step before event after →
      I (events ++ [event]) after)
    (moves : Nat) {events : List ParseEvent} (hbefore : I events before) :
    ∃ made last, I (events ++ made) last ∧
      (parser.run moves (.next before) = .unfinished ∧
          parser.events moves (.next before) = made ∨
        parser.step last = .done (parser.run moves (.next before)) ∧
          parser.events moves (.next before) = made ++ (parser.event? last).toList) := by
  -- on the moves; the events that have been made travel along in the invariant
  induction moves generalizing before events with
  | zero => exact ⟨[], before, by simpa using hbefore, .inl ⟨rfl, rfl⟩⟩
  | succ moves ih =>
    cases hnext : parser.step before with
    | done outcome =>
      refine ⟨[], before, by simpa using hbefore, .inr ⟨?_, ?_⟩⟩
      · simp [run, hnext]
      · simp [Parser.events, hnext]
    | next after =>
      obtain ⟨event, hevent⟩ := step_next hnext
      obtain ⟨made, last, hlast, hend⟩ := ih (hstep events before event after hbefore hevent)
      have hrun : parser.run (moves + 1) (.next before) = parser.run moves (.next after) := by
        simp [run, hnext]
      have hevents : parser.events (moves + 1) (.next before) =
          event :: parser.events moves (.next after) := by
        simp [Parser.events, hnext, hevent.event?_eq]
      refine ⟨event :: made, last, by simpa using hlast, ?_⟩
      rw [hrun, hevents]
      rcases hend with ⟨hmoves, hmade⟩ | ⟨hdone, hmade⟩
      · exact .inl ⟨hmoves, by rw [hmade]⟩
      · exact .inr ⟨hdone, by rw [hmade, List.cons_append]⟩

/-- The configurations that the parser comes to on an input, with what its moves have done on the
way. -/
inductive Reaches (parser : Parser) (input : List Char) :
    List ParseEvent → Configuration → Prop where
  | start {ahead : Lookahead} :
      parser.lookahead? ⟨0⟩ 0 input = some ahead →
      Reaches parser input [] ⟨[⟨0⟩], [], 0, ahead⟩
  | step {events : List ParseEvent} {before after : Configuration} {event : ParseEvent} :
      Reaches parser input events before →
      parser.Step before event after →
      Reaches parser input (events ++ [event]) after

/-- What holds at the start of an input and is preserved by steps holds wherever the parser comes
to. -/
theorem Reaches.preserved {I : List ParseEvent → Configuration → Prop} {input : List Char}
    {events : List ParseEvent} {configuration : Configuration}
    (hbegin : ∀ ahead, parser.lookahead? ⟨0⟩ 0 input = some ahead → I [] ⟨[⟨0⟩], [], 0, ahead⟩)
    (hstep : ∀ events before event after, I events before → parser.Step before event after →
      I (events ++ [event]) after)
    (h : parser.Reaches input events configuration) : I events configuration := by
  induction h with
  | start hahead => exact hbegin _ hahead
  | step _ hnext ih => exact hstep _ _ _ _ ih hnext

/-- If no token is found at the start of an input, nothing is done and the error is there. -/
theorem parse_of_lookahead?_eq_none {input : String}
    (hnone : parser.lookahead? ⟨0⟩ 0 input.toList = none) (moves : Nat) :
    parser.parse moves input = .rejected 0 ∧
      parser.events moves (parser.begin_ input.toList) = [] := by
  have hstart : parser.begin_ input.toList = .done (.rejected 0) := by
    simp [begin_, readToken, hnone]
  exact ⟨by simp [parse, hstart, run], by simp [hstart, Parser.events]⟩

/-- How the parsing of an input ends: no token is found at its start, or the moves run out, or a
configuration that is reached makes the last move. -/
theorem parse_reaches (parser : Parser) (moves : Nat) (input : String) :
    parser.lookahead? ⟨0⟩ 0 input.toList = none ∧ parser.parse moves input = .rejected 0 ∧
        parser.events moves (parser.begin_ input.toList) = [] ∨
      ∃ made last, parser.Reaches input.toList made last ∧
        (parser.parse moves input = .unfinished ∧
            parser.events moves (parser.begin_ input.toList) = made ∨
          parser.step last = .done (parser.parse moves input) ∧
            parser.events moves (parser.begin_ input.toList) =
              made ++ (parser.event? last).toList) := by
  cases hahead : parser.lookahead? ⟨0⟩ 0 input.toList with
  | none => exact .inl ⟨rfl, parse_of_lookahead?_eq_none hahead moves⟩
  | some ahead =>
    have hstart : parser.begin_ input.toList = .next ⟨[⟨0⟩], [], 0, ahead⟩ :=
      readToken_eq_next_iff.mpr ⟨ahead, hahead, rfl⟩
    obtain ⟨made, last, hlast, hend⟩ :=
      run_of_preserved (I := parser.Reaches input.toList)
        (fun _ _ _ _ hreaches hnext => .step hreaches hnext) moves (.start hahead)
    rw [parse, hstart]
    exact .inr ⟨made, last, hlast, hend⟩

variable {I : List ParseEvent → Configuration → Prop} {input : String}

/-- What holds at the start of an input and is preserved by steps holds of the configuration that
makes the last move. -/
theorem parse_of_preserved
    (hbegin : ∀ ahead, parser.lookahead? ⟨0⟩ 0 input.toList = some ahead →
      I [] ⟨[⟨0⟩], [], 0, ahead⟩)
    (hstep : ∀ events before event after, I events before → parser.Step before event after →
      I (events ++ [event]) after)
    (moves : Nat) :
    parser.parse moves input = .rejected 0 ∧
        parser.events moves (parser.begin_ input.toList) = [] ∨
      ∃ made last, I made last ∧
        (parser.parse moves input = .unfinished ∧
            parser.events moves (parser.begin_ input.toList) = made ∨
          parser.step last = .done (parser.parse moves input) ∧
            parser.events moves (parser.begin_ input.toList) =
              made ++ (parser.event? last).toList) := by
  rcases parser.parse_reaches moves input with ⟨-, hrejected⟩ | ⟨made, last, hreaches, hend⟩
  · exact .inl hrejected
  · exact .inr ⟨made, last, hreaches.preserved hbegin hstep, hend⟩

/-- What holds at the start of an input and is preserved by steps holds where the input is
accepted, after the events of the whole run. -/
theorem accepted_of_preserved {moves : Nat} {tree : ParseTree}
    (hbegin : ∀ ahead, parser.lookahead? ⟨0⟩ 0 input.toList = some ahead →
      I [] ⟨[⟨0⟩], [], 0, ahead⟩)
    (hstep : ∀ events before event after, I events before → parser.Step before event after →
      I (events ++ [event]) after)
    (h : parser.parse moves input = .accepted tree) :
    ∃ last state below, I (parser.events moves (parser.begin_ input.toList)) last ∧
      last.states = state :: below ∧
      parser.table.action? state last.lookahead.terminal = some .accept ∧
      last.values = [tree] := by
  have hparse := parse_of_preserved hbegin hstep moves
  rw [h] at hparse
  rcases hparse with ⟨hrejected, -⟩ | ⟨made, last, hlast, ⟨hunfinished, -⟩ | ⟨hdone, hmade⟩⟩
  · cases hrejected
  · cases hunfinished
  · cases step_done hdone with
    | @accept state below _ hstates haction hvalues =>
      have hnone : parser.event? last = none := by simp [event?, hstates, haction]
      refine ⟨last, state, below, ?_, hstates, haction, hvalues⟩
      rw [hmade, hnone]
      simpa using hlast

/-! ## Parsers that act alike -/

/-- Two parsers have the same matchers and handlers, and tables with the same answers to what is
looked up during a run. -/
structure ActsAs (first second : Parser) : Prop where
  matchers_eq : first.matchers = second.matchers
  handlers_eq : first.handlers = second.handlers
  action?_eq : ∀ s terminal, first.table.action? s terminal = second.table.action? s terminal
  goto?_eq : ∀ s nonterminal, first.table.goto? s nonterminal = second.table.goto? s nonterminal
  expected_eq : ∀ s, first.table.expected s = second.table.expected s

namespace ActsAs

variable {first second : Parser} (same : first.ActsAs second)

include same

theorem recognizeFirst?_eq (input : List Char) (terminals : List TerminalId) :
    first.recognizeFirst? input terminals = second.recognizeFirst? input terminals := by
  induction terminals with
  | nil => rfl
  | cons terminal rest ih => simp only [recognizeFirst?, same.matchers_eq, ih]

theorem readToken_eq (states : List StateId) (values : List ParseTree) (s : StateId)
    (position : Nat) (rest : List Char) :
    first.readToken states values s position rest =
      second.readToken states values s position rest := by
  simp only [readToken, lookahead?, same.expected_eq, same.recognizeFirst?_eq]

/-- Parsers that act alike make the same move. -/
theorem step_eq (configuration : Configuration) :
    first.step configuration = second.step configuration := by
  simp only [step, shift, reduce, reduceStates, reduceValues, same.action?_eq, same.goto?_eq,
    same.handlers_eq, same.readToken_eq]

theorem run_eq (moves : Nat) (start : ParseStep) :
    first.run moves start = second.run moves start := by
  -- on the moves that are left, for every configuration that they may start from
  induction moves generalizing start with
  | zero => cases start <;> rfl
  | succ moves ih =>
    cases start with
    | done outcome => rfl
    | next configuration => simp only [run, same.step_eq, ih]

/-- Parsers that act alike come to the same end on every input. -/
theorem parse_eq (moves : Nat) (input : String) :
    first.parse moves input = second.parse moves input := by
  -- both begin with the same token, and run alike from there
  rw [parse, parse, begin_, begin_, same.readToken_eq, same.run_eq]

end ActsAs

end Parser

end ParserFoundry

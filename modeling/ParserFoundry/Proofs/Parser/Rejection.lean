import ParserFoundry.Proofs.Parser.Conservation
import ParserFoundry.Proofs.Parser.ExpectedTerminals
/-!
# Rejected Inputs

A parser rejects an input in two ways, and they tell two places. Behind a token it may recognize no
terminal on which the state that it has entered has an action: then the error is where the token
ends, and the blanks behind it do not count. Or it recognizes one and reduces on it, and comes to a
state without an action on it: then the error is where the recognized token starts. The lookahead is
always read in the state that the last shift has entered, so an error without a reduction in between
is of the first kind.

Main results:
- `Parser.MadeFrom.lookahead?_findsFirst`: which terminal is the lookahead.
- `Parser.Ahead`: the invariant of the runs.
- `Parser.rejected_exactly`: why and where an input is rejected.
-/

namespace ParserFoundry

/-! ## The last shift -/

/-- The state that a shift enters. -/
def ParseEvent.target? : ParseEvent → Option StateId
  | shifted target _ => some target
  | reduced _ => none

/-- The state that the last shift has entered, or else the start. -/
def entered (events : List ParseEvent) : StateId :=
  ((events.filterMap ParseEvent.target?).getLast?).getD ⟨0⟩

/-- The byte at which the last shifted token ends, or else the input starts. -/
def shiftedTo (events : List ParseEvent) : Nat :=
  ((events.filterMap ParseEvent.token?).getLast?.map Token.stop).getD 0

/-- There has been a reduction since the last shift. -/
def ReducedLast (events : List ParseEvent) : Prop :=
  ∃ production, events.getLast? = some (.reduced production)

@[simp]
theorem entered_shifted (events : List ParseEvent) (target : StateId) (token : Token) :
    entered (events ++ [.shifted target token]) = target := by
  simp [entered, ParseEvent.target?]

@[simp]
theorem entered_reduced (events : List ParseEvent) (production : ProductionId) :
    entered (events ++ [.reduced production]) = entered events := by
  simp [entered, ParseEvent.target?]

/-- The last token ends where the text ends that the tokens make up. -/
theorem Spans.byteLength_eq {events : List ParseEvent} {text : List Char}
    (h : Spans (events.filterMap ParseEvent.token?) text) : byteLength text = shiftedTo events := by
  unfold shiftedTo
  generalize events.filterMap ParseEvent.token? = tokens at h
  cases h with
  | nil => rfl
  | snoc _ _ hstart => simp [Token.stop, hstart, Nat.add_assoc]

namespace Parser

variable {parser : Parser} {symbols : SymbolTable} {automaton : Automaton}
variable {errorOnConflicts : Bool} {s : StateId} {position : Nat} {input : List Char}

/-! ## Terminals that are found -/

/-- A terminal on which the state has an action, and which is recognized in the text. -/
structure Finds (parser : Parser) (symbols : SymbolTable) (s : StateId) (text : List Char)
    (terminal : TerminalId) : Prop where
  numbered : symbols.Numbers (.terminal terminal)
  has_action : ∃ action, parser.table.action? s terminal = some action ∧ action ≠ .error
  recognized : ∃ lexeme, parser.Recognizes terminal text lexeme

/-- The first of them in the order of declaration. -/
structure FindsFirst (parser : Parser) (symbols : SymbolTable) (s : StateId) (text : List Char)
    (terminal : TerminalId) : Prop extends Finds parser symbols s text terminal where
  none_earlier : ∀ earlier : TerminalId, earlier.index < terminal.index →
    ¬ parser.Finds symbols s text earlier

namespace MadeFrom

theorem expects (hsymbols : symbols.WellFormed)
    (made : parser.MadeFrom symbols automaton errorOnConflicts) (hstate : automaton.HasState s) :
    parser.table.Expects symbols s := by
  obtain ⟨hencodable, htable, -⟩ := (ParseTable.encode_eq_ok_iff hsymbols).mp made.table_eq
  obtain ⟨state, hstate⟩ := hstate
  rw [htable]
  apply ParseTable.expects_tableOf hsymbols hencodable
  rw [ParseTable.stateCount_tableOf]
  exact (List.getElem?_eq_some_iff.mp hstate).1

/-- The terminals that are tried are those on which the state has an action. -/
theorem finds_iff (hsymbols : symbols.WellFormed)
    (made : parser.MadeFrom symbols automaton errorOnConflicts) (hstate : automaton.HasState s)
    {terminal : TerminalId} :
    parser.Finds symbols s input terminal ↔ terminal ∈ parser.table.stateActions s ∧
      ∃ lexeme, parser.Recognizes terminal input lexeme := by
  rw [(made.expects hsymbols hstate).mem_stateActions_iff]
  constructor
  · intro found
    exact ⟨⟨found.numbered, found.has_action⟩, found.recognized⟩
  · rintro ⟨⟨hnumbered, haction⟩, hrecognized⟩
    exact ⟨hnumbered, haction, hrecognized⟩

/-- The lookahead is the first terminal in what is tried, behind the blanks. -/
theorem lookahead?_eq_map (hsymbols : symbols.WellFormed)
    (made : parser.MadeFrom symbols automaton errorOnConflicts) (hstate : automaton.HasState s) :
    parser.lookahead? s position input =
      (parser.recognizeFirst? (input.dropWhile isBlank) (parser.table.stateActions s)).map
        fun (terminal, lexeme) =>
          ⟨terminal, position + byteLength (input.takeWhile isBlank), byteLength lexeme,
            input.dropWhile isBlank⟩ := by
  obtain ⟨padding, hexpected⟩ := (made.expects hsymbols hstate).expected_eq
  have hmarked : (parser.table.expected s).filterMap id = parser.table.stateActions s := by
    rw [hexpected, ParseTable.filterMap_padded]
  simp only [lookahead?, hmarked]
  cases parser.recognizeFirst? (input.dropWhile isBlank) (parser.table.stateActions s) <;> rfl

/-- No token is read exactly if no terminal is found. -/
theorem lookahead?_eq_none_iff (hsymbols : symbols.WellFormed)
    (made : parser.MadeFrom symbols automaton errorOnConflicts) (hstate : automaton.HasState s) :
    parser.lookahead? s position input = none ↔
      ∀ terminal, ¬ parser.Finds symbols s (input.dropWhile isBlank) terminal := by
  rw [made.lookahead?_eq_map hsymbols hstate, Option.map_eq_none_iff, recognizeFirst?_eq_none_iff]
  -- terminal by terminal: what is tried and recognized is what is found
  apply forall_congr'
  intro terminal
  rw [made.finds_iff hsymbols hstate]
  simp

/-- The token that is read is of the first terminal that is found. -/
theorem lookahead?_findsFirst (hsymbols : symbols.WellFormed)
    (made : parser.MadeFrom symbols automaton errorOnConflicts) (hstate : automaton.HasState s)
    {ahead : Lookahead} (hahead : parser.lookahead? s position input = some ahead) :
    parser.FindsFirst symbols s (input.dropWhile isBlank) ahead.terminal := by
  rw [made.lookahead?_eq_map hsymbols hstate, Option.map_eq_some_iff] at hahead
  obtain ⟨⟨terminal, lexeme⟩, hfirst, rfl⟩ := hahead
  obtain ⟨hmem, hrecognizes⟩ := recognizeFirst?_eq_some hfirst
  have hincreasing := (made.expects hsymbols hstate).increasing
  refine ⟨(made.finds_iff hsymbols hstate).mpr ⟨hmem, lexeme, hrecognizes⟩, ?_⟩
  -- what is found and declared earlier would have been tried earlier
  intro earlier hlt found
  obtain ⟨htried, other, hother⟩ := (made.finds_iff hsymbols hstate).mp found
  exact not_recognizes_of_lt hincreasing hfirst htried hlt other hother

end MadeFrom

/-! ## The invariant -/

/-- After `events`, the shifted tokens make up the input in front of `rest`, and the lookahead is
what is read there in the state that the last shift has entered. Unless there has been a reduction
since, that state is still on top. -/
structure Ahead (parser : Parser) (symbols : SymbolTable) (automaton : Automaton)
    (input : List Char) (events : List ParseEvent) (configuration : Configuration) : Prop where
  sound : Sound symbols automaton configuration
  entered_exists : automaton.HasState (entered events)
  on_top : (∃ below, configuration.states = entered events :: below) ∨ ReducedLast events
  read : ∃ consumed rest, input = consumed ++ rest ∧
    Spans (events.filterMap ParseEvent.token?) consumed ∧
    parser.lookahead? (entered events) (byteLength consumed) rest = some configuration.lookahead

variable {events : List ParseEvent} {before after : Configuration} {event : ParseEvent}

theorem ahead_begin (hsymbols : symbols.WellFormed)
    (made : parser.MadeFrom symbols automaton errorOnConflicts) {ahead : Lookahead}
    (hahead : parser.lookahead? ⟨0⟩ 0 input = some ahead) :
    parser.Ahead symbols automaton input [] ⟨[⟨0⟩], [], 0, ahead⟩ where
  sound := sound_begin hsymbols made hahead
  entered_exists := made.hasState_start hsymbols
  on_top := .inl ⟨[], rfl⟩
  read := ⟨[], input, rfl, .nil, hahead⟩

/-- A shift reads on in the state that it enters, and a reduction keeps the lookahead. -/
theorem Ahead.step (hsymbols : symbols.WellFormed)
    (made : parser.MadeFrom symbols automaton errorOnConflicts)
    (invariant : parser.Ahead symbols automaton input events before)
    (h : parser.Step before event after) :
    parser.Ahead symbols automaton input (events ++ [event]) after := by
  have hsound := (invariant.sound.grammarStep hsymbols made h).sound hsymbols made invariant.sound
  obtain ⟨consumed, rest, hinput, hspans, hahead⟩ := invariant.read
  cases h with
  | @shift state below target terminal lexeme behind handler ahead hstates haction hsplit hhandler
      hnext =>
    -- the token is consumed with the blanks in front of it, and reading goes on behind it
    obtain ⟨hrest, hlength⟩ := splitBytes?_eq_some_iff.mp hsplit
    obtain ⟨hconsumed, hstop, hspans⟩ :=
      (lookahead?_eq_some hahead).2.spans_concat hspans hrest hlength
    constructor
    case sound => exact hsound
    case entered_exists =>
      rw [entered_shifted]
      exact hsound.states_exist target (List.mem_cons_self ..)
    case on_top => exact .inl ⟨before.states, by simp⟩
    case read =>
      refine ⟨_, behind, hinput.trans hconsumed, ?_, ?_⟩
      · rw [filterMap_token?_shifted]
        exact hspans
      · rw [entered_shifted, ← hstop]
        exact hnext
  | @reduce state below production length nonterminal source deeper target handler =>
    -- nothing is read, so that only the top of the stack is another one
    constructor
    case sound => exact hsound
    case entered_exists =>
      rw [entered_reduced]
      exact invariant.entered_exists
    case on_top => exact .inr ⟨production, by simp⟩
    case read =>
      refine ⟨consumed, rest, hinput, ?_, ?_⟩
      · rw [filterMap_token?_reduced]
        exact hspans
      · rw [entered_reduced]
        exact hahead

/-- The invariant holds wherever the parser comes to. -/
theorem Reaches.ahead (hsymbols : symbols.WellFormed)
    (made : parser.MadeFrom symbols automaton errorOnConflicts)
    (h : parser.Reaches input events before) :
    parser.Ahead symbols automaton input events before :=
  h.preserved (fun _ hahead => ahead_begin hsymbols made hahead)
    (fun _ _ _ _ invariant hnext => invariant.step hsymbols made hnext)

/-! ## Where inputs are rejected -/

/-- Why an input is rejected after `events`, and at which byte; `rest` is what stands behind the
last shifted token. -/
inductive Rejects (parser : Parser) (symbols : SymbolTable) (input : List Char)
    (events : List ParseEvent) (rest : List Char) : Nat → Prop where
  /-- No terminal is found in the state that the last shift has entered. The error is where the last
  shifted token ends. -/
  | unrecognized :
      (∀ terminal, ¬ parser.Finds symbols (entered events) (rest.dropWhile isBlank) terminal) →
      Rejects parser symbols input events rest (shiftedTo events)
  /-- The first terminal that is found there is the lookahead. There has been a reduction since, and
  the state that is now on top has no action on the lookahead. The error is where the lookahead
  starts, behind the blanks. -/
  | unexpected {last : Configuration} {state : StateId} {below : List StateId} :
      parser.Reaches input events last →
      last.states = state :: below →
      parser.FindsFirst symbols (entered events) (rest.dropWhile isBlank)
        last.lookahead.terminal →
      ReducedLast events →
      parser.table.action? state last.lookahead.terminal = some .error →
      last.lookahead.start = shiftedTo events + byteLength (rest.takeWhile isBlank) →
      Rejects parser symbols input events rest last.lookahead.start

/-- An error stands behind what is consumed, and not behind the end of the input. -/
theorem Rejects.le {consumed rest : List Char} (hinput : input = consumed ++ rest)
    (hconsumed : byteLength consumed = shiftedTo events)
    (h : parser.Rejects symbols input events rest position) : position ≤ byteLength input := by
  have hlength : byteLength input = shiftedTo events + byteLength rest := by
    rw [hinput, byteLength_append, hconsumed]
  cases h with
  | unrecognized hnone => omega
  | unexpected _ _ _ _ _ hstart =>
    -- the blanks in front of the lookahead are part of what is left
    have hrest : byteLength rest =
        byteLength (rest.takeWhile isBlank) + byteLength (rest.dropWhile isBlank) := by
      rw [← byteLength_append, List.takeWhile_append_dropWhile]
    omega

/-- A move that rejects the input finds no action on the lookahead, which takes a reduction first,
or no token behind the one that it shifts. -/
theorem Reaches.rejects (hsymbols : symbols.WellFormed)
    (made : parser.MadeFrom symbols automaton errorOnConflicts)
    (hreaches : parser.Reaches input events before)
    (hdone : parser.step before = .done (.rejected position)) :
    ∃ consumed rest, input = consumed ++ rest ∧
      Spans ((events ++ (parser.event? before).toList).filterMap ParseEvent.token?) consumed ∧
      parser.Rejects symbols input (events ++ (parser.event? before).toList) rest position := by
  have invariant := hreaches.ahead hsymbols made
  obtain ⟨consumed, rest, hinput, hspans, hahead⟩ := invariant.read
  cases step_done hdone with
  | @error state below hstates haction =>
    have hnone : parser.event? before = none := by simp [event?, hstates, haction]
    have hfinds := made.lookahead?_findsFirst hsymbols invariant.entered_exists hahead
    -- the state in which the lookahead was found has an action on it, so it is not on top any more,
    -- and only a reduction can have changed that
    have hreduced : ReducedLast events := by
      rcases invariant.on_top with ⟨_, htop⟩ | hreduced
      · obtain ⟨action, hfound, hne⟩ := hfinds.has_action
        rw [htop] at hstates
        cases hstates
        cases hfound.symm.trans haction
        exact absurd rfl hne
      · exact hreduced
    have hstart := (lookahead?_eq_some hahead).2.start_eq
    rw [hspans.byteLength_eq] at hstart
    rw [hnone]
    simp only [Option.toList_none, List.append_nil]
    exact ⟨consumed, rest, hinput, hspans,
      .unexpected hreaches hstates hfinds hreduced haction hstart⟩
  | @shift state below target terminal lexeme behind hstates haction hsplit hnext =>
    have hevent : parser.event? before = some (.shifted target
        ⟨before.lookahead.terminal, before.lookahead.start, lexeme⟩) := by
      simp [event?, hstates, haction, hsplit]
    have hstate := invariant.sound.states_exist state (by simp [hstates])
    have htarget :=
      (made.shift_cell hsymbols hstate invariant.sound.lookahead_numbered haction).2
    obtain ⟨hrest, hlength⟩ := splitBytes?_eq_some_iff.mp hsplit
    obtain ⟨hconsumed, hstop, hspans⟩ :=
      (lookahead?_eq_some hahead).2.spans_concat hspans hrest hlength
    rw [← filterMap_token?_shifted _ target] at hspans
    -- the run tells the shift, though it ends there: the error is where the shifted token ends
    rw [hevent, Option.toList_some]
    refine ⟨_, behind, hinput.trans hconsumed, hspans, ?_⟩
    rw [hstop, hspans.byteLength_eq]
    apply Rejects.unrecognized
    rw [entered_shifted]
    exact (made.lookahead?_eq_none_iff hsymbols htarget).mp hnext

/-- **Why and where an input is rejected.** What is consumed are the shifted tokens with blanks in
front of them. Behind it the parser has found no terminal on which the state entered by the last
shift has an action, and tells the end of the last token; or the first such terminal is the
lookahead, there has been a reduction since the last shift, the state on top has no action on the
lookahead, and the parser tells where it starts. Either place is in the input. -/
theorem rejected_exactly {grammar : Grammar}
    (hsymbols : SymbolTable.ofGrammar grammar = .ok symbols)
    (made : parser.MadeFrom symbols automaton errorOnConflicts) {moves : Nat} {input : String}
    {position : Nat} (hrejected : parser.parse moves input = .rejected position) :
    position ≤ byteLength input.toList ∧
    ∃ consumed rest, input.toList = consumed ++ rest ∧
      Spans (parser.tokens moves input) consumed ∧
      byteLength consumed = shiftedTo (parser.events moves (parser.begin_ input.toList)) ∧
      parser.Rejects symbols input.toList (parser.events moves (parser.begin_ input.toList)) rest
        position := by
  have hwellFormed := SymbolTable.wellFormed_of_ofGrammar hsymbols
  obtain ⟨consumed, rest, hinput, hspans, hrejects⟩ : ∃ consumed rest,
      input.toList = consumed ++ rest ∧ Spans (parser.tokens moves input) consumed ∧
      parser.Rejects symbols input.toList (parser.events moves (parser.begin_ input.toList)) rest
        position := by
    have hend := parser.parse_reaches moves input
    rw [hrejected] at hend
    rcases hend with ⟨hnone, hzero, hevents⟩ |
      ⟨before, last, hreaches, ⟨hmoves, -⟩ | ⟨hdone, hevents⟩⟩
    · -- nothing is found at the start, and nothing is consumed
      cases hzero
      rw [tokens, hevents]
      exact ⟨[], input.toList, rfl, .nil, .unrecognized
        ((made.lookahead?_eq_none_iff hwellFormed (made.hasState_start hwellFormed)).mp hnone)⟩
    · cases hmoves
    · rw [tokens, hevents]
      exact hreaches.rejects hwellFormed made hdone
  exact ⟨hrejects.le hinput hspans.byteLength_eq, consumed, rest, hinput, hspans,
    hspans.byteLength_eq, hrejects⟩

end Parser

namespace Statements

/-- The automaton of statements without the move that accepts. -/
def unending : Automaton where
  states := automaton.states.modify 1 fun state =>
    { state with actions := [("Num", [.shift ⟨2⟩])] }

def unendingParser : Parser :=
  { parser with table := ParseTable.tableOf symbols unending }

theorem unendingParser_madeFrom : unendingParser.MadeFrom symbols unending false where
  table_eq := rfl
  exists_compiler := parser_madeFrom.exists_compiler
  handlers_eq := rfl

end Statements

/-- A second number in place of the semicolon is not recognized, and the error is where the first
one ends. Where no list of statements is accepted, the end of the input is recognized behind the
semicolon and reduced on, and the error is there, behind a blank. -/
theorem Parser.rejected_exactly_statements :
    SymbolTable.ofGrammar Statements.grammar = .ok Statements.symbols ∧
    (Statements.parser.MadeFrom Statements.symbols Statements.automaton false ∧
      Statements.parser.parse 2 "12 3" = .rejected 2 ∧
      ∃ rest, Statements.parser.Rejects Statements.symbols "12 3".toList
        (Statements.parser.events 2 (Statements.parser.begin_ "12 3".toList)) rest 2) ∧
    Statements.unendingParser.MadeFrom Statements.symbols Statements.unending false ∧
    Statements.unendingParser.parse 6 "12 ; " = .rejected 5 ∧
    ∃ rest, Statements.unendingParser.Rejects Statements.symbols "12 ; ".toList
      (Statements.unendingParser.events 6 (Statements.unendingParser.begin_ "12 ; ".toList))
      rest 5 := by
  have hunrecognized : Statements.parser.parse 2 "12 3" = .rejected 2 := by cbv
  have hunexpected : Statements.unendingParser.parse 6 "12 ; " = .rejected 5 := by cbv
  obtain ⟨-, -, rest, -, -, -, hrejects⟩ :=
    rejected_exactly Statements.ofGrammar_grammar Statements.parser_madeFrom hunrecognized
  obtain ⟨-, -, rest', -, -, -, hrejects'⟩ :=
    rejected_exactly Statements.ofGrammar_grammar Statements.unendingParser_madeFrom hunexpected
  exact ⟨rfl, ⟨Statements.parser_madeFrom, hunrecognized, rest, hrejects⟩,
    Statements.unendingParser_madeFrom, hunexpected, rest', hrejects'⟩

end ParserFoundry

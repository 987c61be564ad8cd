import ParserFoundry.Proofs.Parser.Safety
/-!
# Leading Blanks

Blanks in front of an input change nothing but places. Recognizers see what is left of the input,
never where it stands, and a place is only ever moved on by lengths; so once the first token has
been found behind the blanks, the runs with and without them go through the same configurations, but
for an offset. Nothing is asked of the parser: whatever its table, the two runs shift and reduce
alike, and end alike.

Main results:
- `Parser.lookahead?_displace`: a token that is read further on stands further on.
- `Parser.step_displaced`: further on, the same move is made.
- `Parser.run_displaced`, `Parser.events_displaced`: runs that start apart stay as far apart.
- `Parser.parse_blanks`: an input with leading blanks is parsed like the input.
-/

namespace ParserFoundry

/-! ## The same further on -/

def Lookahead.displace (offset : Nat) (ahead : Lookahead) : Lookahead :=
  { ahead with start := ahead.start + offset }

def Token.displace (offset : Nat) (token : Token) : Token :=
  { token with start := token.start + offset }

/-- A shift goes to the same state and consumes the same text further on; a reduction stays as it
is. -/
def ParseEvent.displace (offset : Nat) : ParseEvent → ParseEvent
  | shifted target token => shifted target (token.displace offset)
  | reduced production => reduced production

/-- A place is told further on; trees and faults tell no place. -/
def ParseOutcome.displace (offset : Nat) : ParseOutcome → ParseOutcome
  | rejected position => rejected (position + offset)
  | outcome => outcome

namespace ParseOutcome

variable {offset : Nat} {outcome : ParseOutcome}

@[simp]
theorem displace_eq_accepted_iff {tree : ParseTree} :
    outcome.displace offset = accepted tree ↔ outcome = accepted tree := by
  cases outcome <;> simp [displace]

@[simp]
theorem displace_eq_failed_iff {fault : ParseFault} :
    outcome.displace offset = failed fault ↔ outcome = failed fault := by
  cases outcome <;> simp [displace]

@[simp]
theorem displace_eq_unfinished_iff :
    outcome.displace offset = unfinished ↔ outcome = unfinished := by
  cases outcome <;> simp [displace]

@[simp]
theorem displace_eq_rejected_iff {place : Nat} :
    outcome.displace offset = rejected place ↔
      ∃ position, outcome = rejected position ∧ place = position + offset := by
  cases outcome <;> simp [displace, eq_comm]

end ParseOutcome

/-- The second configuration is the first one further on. Where the last token has ended is left
open, since no move asks for it: at the start it is zero in both. -/
structure Configuration.Displaced (offset : Nat) (first second : Configuration) : Prop where
  states_eq : second.states = first.states
  values_eq : second.values = first.values
  lookahead_eq : second.lookahead = first.lookahead.displace offset

/-- What the second move leads to is what the first one leads to, further on. -/
inductive ParseStep.Displaced (offset : Nat) : ParseStep → ParseStep → Prop where
  | next {first second : Configuration} :
      first.Displaced offset second → Displaced offset (.next first) (.next second)
  | done (outcome : ParseOutcome) :
      Displaced offset (.done outcome) (.done (outcome.displace offset))

namespace Parser

variable {parser : Parser}

/-! ## Reading -/

/-- A token that is read further on stands further on. -/
theorem lookahead?_displace (state : StateId) (position offset : Nat) (rest : List Char) :
    parser.lookahead? state (position + offset) rest =
      (parser.lookahead? state position rest).map (.displace offset) := by
  simp only [lookahead?]
  cases parser.recognizeFirst? (rest.dropWhile isBlank)
    ((parser.table.expected state).filterMap id) with
  | none => rfl
  | some found => simp [Lookahead.displace, Nat.add_right_comm]

/-- Blanks are skipped wherever they stand, so the first token stands as much further on as they are
long. -/
theorem lookahead?_blanks {blanks : List Char} (hblanks : ∀ c ∈ blanks, isBlank c = true)
    (state : StateId) (position : Nat) (rest : List Char) :
    parser.lookahead? state position (blanks ++ rest) =
      (parser.lookahead? state position rest).map (.displace (byteLength blanks)) := by
  -- the blanks are only counted, and what is recognized stands behind all of them
  rw [← lookahead?_displace]
  simp only [lookahead?, List.takeWhile_append_of_pos hblanks, List.dropWhile_append_of_pos hblanks,
    byteLength_append, Nat.add_assoc]

/-! ## Moves -/

variable {offset : Nat} {first second : Configuration}

/-- The next token, if any, is read further on. -/
theorem readToken_displaced (states : List StateId) (values : List ParseTree) (state : StateId)
    (position : Nat) (rest : List Char) :
    (parser.readToken states values state position rest).Displaced offset
      (parser.readToken states values state (position + offset) rest) := by
  -- what is recognized does not depend on the place, only where it starts does
  simp only [readToken, lookahead?_displace]
  cases parser.lookahead? state position rest with
  | none => exact .done (.rejected position)
  | some ahead => exact .next ⟨rfl, rfl, rfl⟩

theorem shift_displaced (h : first.Displaced offset second) (target : StateId)
    (terminal : TerminalId) :
    (parser.shift first target terminal).Displaced offset
      (parser.shift second target terminal) := by
  simp only [shift, h.states_eq, h.values_eq, h.lookahead_eq, Lookahead.displace]
  split
  · exact .done (.failed .cutCharacter)
  · exact .done (.failed .missingEntry)
  · -- the token ends further on, and the next one is read from there
    rw [Nat.add_right_comm]
    exact readToken_displaced ..

theorem reduce_displaced (h : first.Displaced offset second) (production : ProductionId)
    (length : Nat) (nonterminal : NonterminalId) :
    (parser.reduce first production length nonterminal).Displaced offset
      (parser.reduce second production length nonterminal) := by
  -- both stacks are the same, so they are reduced alike, and the lookahead stays where it is
  simp only [reduce, h.states_eq, h.values_eq]
  cases parser.reduceStates first.states length nonterminal with
  | error fault => exact .done (.failed fault)
  | ok states =>
    cases parser.reduceValues first.values production length with
    | error fault => exact .done (.failed fault)
    | ok values => exact .next ⟨rfl, rfl, h.lookahead_eq⟩

/-- The trees that are accepted do not tell where they have been read. -/
theorem accept_displaced (h : first.Displaced offset second) :
    accept second = (accept first).displace offset := by
  simp only [accept, h.values_eq]
  split <;> rfl

/-- Further on, the same move is made. -/
theorem step_displaced (h : first.Displaced offset second) :
    (parser.step first).Displaced offset (parser.step second) := by
  have hterminal : second.lookahead.terminal = first.lookahead.terminal := by
    rw [h.lookahead_eq]
    rfl
  have hstart : second.lookahead.start = first.lookahead.start + offset := by
    rw [h.lookahead_eq]
    rfl
  simp only [step, h.states_eq, hterminal, hstart, accept_displaced h]
  -- the branches of the move are chosen by the state and the terminal, which are the same
  split
  · exact .done (.failed .stackUnderflow)
  · split
    · exact .done (.failed .missingEntry)
    · exact shift_displaced h ..
    · exact reduce_displaced h ..
    · exact .done (accept first)
    · exact .done (.rejected first.lookahead.start)

theorem event?_displaced (h : first.Displaced offset second) :
    parser.event? second = (parser.event? first).map (.displace offset) := by
  simp only [event?, h.states_eq, h.lookahead_eq, Lookahead.displace]
  split
  · rfl
  · split
    · rw [Option.map_map]
      rfl
    · rfl
    · rfl

/-! ## Runs -/

variable {start start' : ParseStep}

theorem run_displaced (moves : Nat) (h : start.Displaced offset start') :
    parser.run moves start' = (parser.run moves start).displace offset := by
  -- on the moves that are left, for all configurations that they may start from
  induction moves generalizing start start' with
  | zero => cases h <;> rfl
  | succ moves ih =>
    cases h with
    | next h => exact ih (step_displaced h)
    | done outcome => rfl

theorem events_displaced (moves : Nat) (h : start.Displaced offset start') :
    parser.events moves start' = (parser.events moves start).map (.displace offset) := by
  -- as for the run itself; the events are told move by move
  induction moves generalizing start start' with
  | zero => cases h <;> rfl
  | succ moves ih =>
    cases h with
    | next h =>
      -- both runs tell their first move and go on from configurations that are as far apart
      rw [Parser.events, Parser.events, ih (step_displaced h), event?_displaced h, List.map_append]
      cases parser.event? _ <;> rfl
    | done outcome => rfl

/-! ## Inputs with leading blanks -/

/-- The second input is parsed like the first one, `offset` bytes further on. -/
structure ParsesAlike (parser : Parser) (offset : Nat) (first second : String) : Prop where
  /-- The same shifts and reductions are made. -/
  events_eq : ∀ moves, parser.events moves (parser.begin_ second.toList) =
    (parser.events moves (parser.begin_ first.toList)).map (.displace offset)
  accepted_iff : ∀ moves tree, parser.parse moves second = .accepted tree ↔
    parser.parse moves first = .accepted tree
  failed_iff : ∀ moves fault, parser.parse moves second = .failed fault ↔
    parser.parse moves first = .failed fault
  /-- A run that stops for one input stops for the other, after as many moves. -/
  unfinished_iff : ∀ moves, parser.parse moves second = .unfinished ↔
    parser.parse moves first = .unfinished
  /-- If not even the first token is found, the error is at the start of either input. -/
  rejected_first : parser.lookahead? ⟨0⟩ 0 first.toList = none →
    ∀ moves, parser.parse moves first = .rejected 0 ∧ parser.parse moves second = .rejected 0
  /-- Other errors are further on. -/
  rejected_iff : parser.lookahead? ⟨0⟩ 0 first.toList ≠ none →
    ∀ moves place, parser.parse moves second = .rejected place ↔
      ∃ position, parser.parse moves first = .rejected position ∧ place = position + offset

/-- If a token is found, it is found behind the blanks. -/
theorem begin_blanks {blanks : List Char} (hblanks : ∀ c ∈ blanks, isBlank c = true)
    {input : List Char} {ahead : Lookahead} (hahead : parser.lookahead? ⟨0⟩ 0 input = some ahead) :
    (parser.begin_ input).Displaced (byteLength blanks) (parser.begin_ (blanks ++ input)) := by
  simp only [begin_, readToken, lookahead?_blanks hblanks, hahead]
  exact .next ⟨rfl, rfl, rfl⟩

/-- **Leading blanks do not change a parse.** Whatever the parser is made of, an input with blanks
in front of it is parsed like the input: with the same shifts and reductions, to the same tree, the
same fault or without an end, and with errors further on by the length of the blanks. Only if no
token is found at all, the error is at the start of both. -/
theorem parse_blanks (parser : Parser) {blanks : String}
    (hblanks : ∀ c ∈ blanks.toList, isBlank c = true) (input : String) :
    parser.ParsesAlike (byteLength blanks.toList) input (blanks ++ input) := by
  have hskip : parser.lookahead? ⟨0⟩ 0 (blanks ++ input).toList =
      (parser.lookahead? ⟨0⟩ 0 input.toList).map (.displace (byteLength blanks.toList)) := by
    rw [String.toList_append, lookahead?_blanks hblanks]
  cases hahead : parser.lookahead? ⟨0⟩ 0 input.toList with
  | none =>
    -- nothing is found in either input, and neither run makes a move
    rw [hahead] at hskip
    have hfirst := parse_of_lookahead?_eq_none hahead
    have hsecond := parse_of_lookahead?_eq_none hskip
    constructor
    case events_eq =>
      intro moves
      rw [(hfirst moves).2, (hsecond moves).2]
      rfl
    case accepted_iff => simp [hfirst, hsecond]
    case failed_iff => simp [hfirst, hsecond]
    case unfinished_iff => simp [hfirst, hsecond]
    case rejected_first => exact fun _ moves => ⟨(hfirst moves).1, (hsecond moves).1⟩
    case rejected_iff => exact fun hfound => absurd hahead hfound
  | some ahead =>
    -- from the first token on, the runs go through the same configurations further on
    have hbegin := begin_blanks hblanks hahead
    rw [← String.toList_append] at hbegin
    have hparse : ∀ moves, parser.parse moves (blanks ++ input) =
        (parser.parse moves input).displace (byteLength blanks.toList) := fun moves =>
      run_displaced moves hbegin
    constructor
    case events_eq => exact fun moves => events_displaced moves hbegin
    case accepted_iff => simp [hparse]
    case failed_iff => simp [hparse]
    case unfinished_iff => simp [hparse]
    case rejected_first =>
      intro hnone
      rw [hahead] at hnone
      cases hnone
    case rejected_iff => simp [hparse]

/-- The error behind a semicolon is further on by the four bytes of two blanks. -/
theorem parse_blanks_semicolons :
    (∀ c ∈ "\u2003 ".toList, isBlank c = true) ∧
    Semicolons.parser.ParsesAlike 4 "; x" ("\u2003 " ++ "; x") ∧
    Semicolons.parser.parse 2 "; x" = .rejected 1 ∧
    Semicolons.parser.parse 2 ("\u2003 " ++ "; x") = .rejected 5 := by
  have hblanks : ∀ c ∈ "\u2003 ".toList, isBlank c = true := List.all_eq_true.mp rfl
  have halike : Semicolons.parser.ParsesAlike 4 "; x" ("\u2003 " ++ "; x") :=
    parse_blanks Semicolons.parser hblanks "; x"
  have hrejected : Semicolons.parser.parse 2 "; x" = .rejected 1 := rfl
  have hfound : Semicolons.parser.lookahead? ⟨0⟩ 0 "; x".toList ≠ none := nofun
  exact ⟨hblanks, halike, hrejected, (halike.rejected_iff hfound 2 5).mpr ⟨1, hrejected, rfl⟩⟩

end Parser

end ParserFoundry

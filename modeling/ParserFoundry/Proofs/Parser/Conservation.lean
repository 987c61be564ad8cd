import Mathlib
import ParserFoundry.Proofs.Parser.Soundness
/-!
# Conservation of Tokens

What a parser accepts it tells in full: the tree that it gives is a tree of the grammar, its leaves
are the shifted tokens in the order of the input, and the tokens are slices of the input with only
blanks between them. Nothing is asked of the automaton but that it can be encoded, so all of this
comes from the way in which the two stacks are kept.

Main results:
- `Spans.slice`, `Spans.pairwise`: tokens that make up a text are slices of it and do not overlap.
- `Parser.Conserved`: the invariant of the runs.
- `Parser.accepted_conserves`: the tree of an accepted input.
-/

namespace ParserFoundry

/-! ## Tokens of a text -/

/-- The leaf that a shifted token makes. -/
def Token.leaf (symbols : SymbolTable) (token : Token) : Leaf :=
  ⟨token.terminal,
    if symbols.hasPayload token.terminal then some (String.ofList token.lexeme) else none⟩

/-- The byte at which a token ends. -/
def Token.stop (token : Token) : Nat :=
  token.start + byteLength token.lexeme

/-- The token's text is what stands in the input from its start to its end. -/
def Token.SliceOf (token : Token) (input : List Char) : Prop :=
  ∃ front back, input = front ++ token.lexeme ++ back ∧ byteLength front = token.start

/-- The tokens, each with blanks in front of it, make up the text. -/
inductive Spans : List Token → List Char → Prop where
  | nil : Spans [] []
  | snoc {tokens : List Token} {token : Token} {text gap : List Char} :
      Spans tokens text →
      (∀ c ∈ gap, isBlank c = true) →
      token.start = byteLength (text ++ gap) →
      Spans (tokens ++ [token]) (text ++ gap ++ token.lexeme)

namespace Spans

variable {tokens : List Token} {token : Token} {text : List Char}

/-- Tokens that make up the front of an input are slices of the input. -/
theorem slice (h : Spans tokens text) (rest : List Char) (hmem : token ∈ tokens) :
    token.SliceOf (text ++ rest) := by
  -- the tokens are added at the end, so each one is the last one or stands in what was there before
  induction h generalizing rest with
  | nil => cases hmem
  | @snoc tokens last text gap _ hgap hstart ih =>
    rcases List.mem_append.mp hmem with hearlier | hlast
    · -- what the last token adds is behind the earlier one
      rw [List.append_assoc, List.append_assoc]
      exact ih _ hearlier
    · obtain rfl := List.mem_singleton.mp hlast
      exact ⟨text ++ gap, rest, rfl, hstart.symm⟩

theorem stop_le (h : Spans tokens text) (hmem : token ∈ tokens) :
    token.stop ≤ byteLength text := by
  induction h with
  | nil => cases hmem
  | @snoc tokens last text gap _ hgap hstart ih =>
    rcases List.mem_append.mp hmem with hearlier | hlast
    · have hstop := ih hearlier
      simp only [byteLength_append]
      omega
    · obtain rfl := List.mem_singleton.mp hlast
      rw [byteLength_append, Token.stop, hstart]

/-- Tokens that make up a text stand in it one after the other. -/
theorem pairwise (h : Spans tokens text) :
    tokens.Pairwise fun earlier later => earlier.stop ≤ later.start := by
  induction h with
  | nil => exact .nil
  | @snoc tokens last text gap hspans hgap hstart ih =>
    refine List.pairwise_append.mpr ⟨ih, List.pairwise_singleton _ _, ?_⟩
    intro earlier hearlier later hlater
    obtain rfl := List.mem_singleton.mp hlater
    -- earlier tokens end within the text that the last one stands behind
    have hstop := hspans.stop_le hearlier
    rw [hstart, byteLength_append]
    omega

end Spans

namespace Parser

/-! ## The invariant -/

/-- After `events`, the values on the stack stand for the tokens that have been shifted, and these
make up the input in front of the lookahead. -/
structure Conserved (parser : Parser) (symbols : SymbolTable) (automaton : Automaton)
    (input : List Char) (events : List ParseEvent) (configuration : Configuration) : Prop where
  sound : Sound symbols automaton configuration
  leaves_eq : configuration.values.reverse.flatMap (ParseTree.leaves symbols) =
    (events.filterMap ParseEvent.token?).map (Token.leaf symbols)
  read : ∃ consumed gap ahead, input = consumed ++ ahead ∧
    Spans (events.filterMap ParseEvent.token?) consumed ∧
    parser.StandsAt configuration.lookahead (byteLength consumed) ahead gap

variable {parser : Parser} {symbols : SymbolTable} {automaton : Automaton}
variable {errorOnConflicts : Bool} {input : List Char} {events : List ParseEvent}
variable {before after : Configuration} {event : ParseEvent}

theorem leaves_tokenValue (symbols : SymbolTable) (token : Token) :
    (token.value symbols).leaves symbols = [token.leaf symbols] := rfl

theorem conserved_begin (hsymbols : symbols.WellFormed)
    (made : parser.MadeFrom symbols automaton errorOnConflicts) {ahead : Lookahead}
    (hahead : parser.lookahead? ⟨0⟩ 0 input = some ahead) :
    parser.Conserved symbols automaton input [] ⟨[⟨0⟩], [], 0, ahead⟩ where
  sound := sound_begin hsymbols made hahead
  leaves_eq := rfl
  read := ⟨[], _, input, rfl, .nil, (lookahead?_eq_some hahead).2⟩

/-- A token that is cut off where the lookahead stands extends the text that the tokens before it
make up, and ends where that text ends. -/
theorem StandsAt.spans_concat {ahead : Lookahead} {tokens : List Token}
    {consumed gap rest lexeme behind : List Char}
    (hstands : parser.StandsAt ahead (byteLength consumed) rest gap)
    (hspans : Spans tokens consumed) (hrest : ahead.rest = lexeme ++ behind)
    (hlength : byteLength lexeme = ahead.length) :
    consumed ++ rest = consumed ++ gap ++ lexeme ++ behind ∧
    ahead.start + ahead.length = byteLength (consumed ++ gap ++ lexeme) ∧
    Spans (tokens ++ [⟨ahead.terminal, ahead.start, lexeme⟩]) (consumed ++ gap ++ lexeme) := by
  refine ⟨?_, ?_, ?_⟩
  · rw [hstands.input_eq, hrest]
    simp
  · simp only [hstands.start_eq, ← hlength, byteLength_append]
  · exact hspans.snoc hstands.gap_blank (by rw [hstands.start_eq, byteLength_append])

/-- A shift moves the lookahead behind the shifted tokens, and a reduction changes no leaf. -/
theorem Conserved.step (hsymbols : symbols.WellFormed)
    (made : parser.MadeFrom symbols automaton errorOnConflicts)
    (conserved : parser.Conserved symbols automaton input events before)
    (h : parser.Step before event after) :
    parser.Conserved symbols automaton input (events ++ [event]) after := by
  have hgrammar := conserved.sound.grammarStep hsymbols made h
  have hsound := hgrammar.sound hsymbols made conserved.sound
  obtain ⟨consumed, gap, ahead, hinput, hspans, hstands⟩ := conserved.read
  cases hgrammar with
  | @shift state below target next lexeme rest hstates haction hrest hlength hnext =>
    constructor
    case sound => exact hsound
    -- the token that is shifted becomes the last leaf
    case leaves_eq =>
      simp only [List.reverse_cons, List.flatMap_append, conserved.leaves_eq, List.flatMap_cons,
        List.flatMap_nil, List.append_nil, leaves_tokenValue, filterMap_token?_shifted,
        List.map_append]
      rfl
    case read =>
      -- the blanks and the token have been read; the rest of the input is ahead
      obtain ⟨hsplit, hstop, hspans⟩ := hstands.spans_concat hspans hrest hlength
      refine ⟨consumed ++ gap ++ lexeme, rest.takeWhile isBlank, rest, ?_, ?_, ?_⟩
      · rw [hinput, hsplit]
      · rw [filterMap_token?_shifted]
        exact hspans
      · rw [← hstop]
        exact (lookahead?_eq_some hnext).2
  | @reduce state below production source deeper target entry popped kept hstates haction hentry
      hvalues hrhs hdrop hgoto =>
    have hpopped : ∀ value ∈ popped, value.WellFormed symbols := fun value hvalue =>
      conserved.sound.values_wellFormed value (by simp [hvalues, hvalue])
    constructor
    case sound => exact hsound
    case leaves_eq =>
      -- the leaves of the reduced tree are those of the values that it replaces
      have hleaves := conserved.leaves_eq
      rw [hvalues, List.reverse_append, List.reverse_reverse, List.flatMap_append] at hleaves
      rw [filterMap_token?_reduced, ← hleaves, List.reverse_cons, List.flatMap_append,
        List.flatMap_singleton, ParseTree.leaves_reduced hpopped hentry hrhs]
    case read =>
      -- nothing is read
      rw [filterMap_token?_reduced]
      exact ⟨consumed, gap, ahead, hinput, hspans, hstands⟩

/-! ## Accepted inputs -/

/-- **An accepted input is conserved.** Whatever automaton the parser was made for, the tree that it
accepts is a tree of the grammar: each node belongs to the nonterminal of its production, and its
children are values of the argument symbols of the production, in order. The leaves of the tree are
the shifted tokens, each with the text that it consumed, if it carries a text. The tokens are slices
of the input, stand in it one after the other, and together with blanks they make up all of it up to
the terminal on which it was accepted. -/
theorem accepted_conserves {grammar : Grammar}
    (hsymbols : SymbolTable.ofGrammar grammar = .ok symbols)
    (made : parser.MadeFrom symbols automaton errorOnConflicts) {moves : Nat} {input : String}
    {tree : ParseTree} (haccepted : parser.parse moves input = .accepted tree) :
    tree.WellFormed symbols ∧
    tree.leaves symbols = (parser.tokens moves input).map (Token.leaf symbols) ∧
    (∀ token ∈ parser.tokens moves input, token.SliceOf input.toList) ∧
    (parser.tokens moves input).Pairwise (fun earlier later => earlier.stop ≤ later.start) ∧
    ∃ consumed gap rest, input.toList = consumed ++ gap ++ rest ∧
      Spans (parser.tokens moves input) consumed ∧
      (∀ c ∈ gap, isBlank c = true) ∧ (∀ c ∈ rest.head?, isBlank c = false) ∧
      ∃ state terminal lexeme, parser.table.action? state terminal = some .accept ∧
        parser.Recognizes terminal rest lexeme := by
  have hwellFormed := SymbolTable.wellFormed_of_ofGrammar hsymbols
  obtain ⟨last, state, below, conserved, hstates, haction, hvalues⟩ :=
    accepted_of_preserved (I := parser.Conserved symbols automaton input.toList)
      (fun ahead hahead => conserved_begin hwellFormed made hahead)
      (fun events before event after conserved h => conserved.step hwellFormed made h) haccepted
  have hleaves := conserved.leaves_eq
  rw [hvalues, List.reverse_singleton, List.flatMap_singleton] at hleaves
  obtain ⟨consumed, gap, ahead, hinput, hspans, hstands⟩ := conserved.read
  -- the accepted tree is the only value, so all tokens are leaves of it
  refine ⟨conserved.sound.values_wellFormed tree (by simp [hvalues]), hleaves, ?_,
    hspans.pairwise, consumed, gap, last.lookahead.rest, ?_, hspans, hstands.gap_blank,
    hstands.rest_not_blank, ?_⟩
  · intro token htoken
    rw [hinput]
    exact hspans.slice ahead htoken
  · rw [hinput, hstands.input_eq, List.append_assoc]
  · obtain ⟨lexeme, hrecognizes, -⟩ := hstands.recognized
    exact ⟨state, last.lookahead.terminal, lexeme, haction, hrecognizes⟩

end Parser

namespace Statements

def parser : Parser where
  table := ParseTable.tableOf symbols automaton
  matchers := (Matcher.ofSymbols symbols).toOption.getD []
  handlers := .ofSymbols symbols

theorem ofSymbols_matchers : Matcher.ofSymbols symbols = .ok parser.matchers := by
  have hok : (Matcher.ofSymbols symbols).isOk = true := by cbv
  cases hmatchers : Matcher.ofSymbols symbols with
  | error cause => simp [hmatchers, Except.isOk, Except.toBool] at hok
  | ok matchers => simp [parser, hmatchers, Except.toOption]

theorem parser_madeFrom : parser.MadeFrom symbols automaton false where
  table_eq := rfl
  exists_compiler := ⟨_, ofSymbols_matchers⟩
  handlers_eq := rfl

end Statements

/-- Two statements with blanks in front of, between and inside them are accepted, and conserved. -/
theorem Parser.accepted_conserves_statements :
    SymbolTable.ofGrammar Statements.grammar = .ok Statements.symbols ∧
    Statements.parser.MadeFrom Statements.symbols Statements.automaton false ∧
    ∃ tree, Statements.parser.parse 11 " 12 ;\n3;" = .accepted tree ∧
      tree.WellFormed Statements.symbols ∧
      tree.leaves Statements.symbols =
        (Statements.parser.tokens 11 " 12 ;\n3;").map (Token.leaf Statements.symbols) := by
  have haccepted : Statements.parser.parse 11 " 12 ;\n3;" = .accepted
      (.node ⟨0⟩ ⟨0⟩ [
        .node ⟨0⟩ ⟨0⟩ [.node ⟨0⟩ ⟨1⟩ [], .node ⟨1⟩ ⟨2⟩ [.token ⟨2⟩ (some "12")]],
        .node ⟨1⟩ ⟨2⟩ [.token ⟨2⟩ (some "3")]]) := by
    cbv
  have hconserved :=
    accepted_conserves Statements.ofGrammar_grammar Statements.parser_madeFrom haccepted
  exact ⟨rfl, Statements.parser_madeFrom, _, haccepted, hconserved.1, hconserved.2.1⟩

end ParserFoundry

import Mathlib.Data.List.TakeWhile
import ParserFoundry.Parser.Lexing
/-!
# Reading Tokens

What a lookahead says about the input that it was read from: the blanks in front of it, the place
where it starts, and that one of the expected terminals is recognized there.

Main results:
- `splitBytes?_eq_some_iff`: a text is cut after so many bytes where a part of that length ends.
- `Parser.lookahead?_eq_some`: what stands at a lookahead.
-/

namespace ParserFoundry

/-! ## Bytes -/

@[simp]
theorem byteLength_append (first second : List Char) :
    byteLength (first ++ second) = byteLength first + byteLength second := by
  induction first with
  | nil => simp [byteLength]
  | cons c rest ih => simp [byteLength, ih, Nat.add_assoc]

/-- A text is cut after so many bytes exactly where a part of that length ends. -/
theorem splitBytes?_eq_some_iff {bytes : Nat} {text first rest : List Char} :
    splitBytes? bytes text = some (first, rest) ↔ text = first ++ rest ∧ byteLength first = bytes := by
  -- the cut goes through the text; no character takes zero bytes, so there is one place for it
  induction text generalizing bytes first rest with
  | nil =>
    cases bytes with
    | zero =>
      cases first with
      | nil => simp [splitBytes?, byteLength, eq_comm]
      | cons c tail => simp [splitBytes?]
    | succ bytes =>
      simp only [splitBytes?, reduceCtorEq, false_iff, not_and]
      intro htext
      obtain ⟨rfl, -⟩ := List.append_eq_nil_iff.mp htext.symm
      simp [byteLength]
  | cons c text ih =>
    have hpos : 0 < c.utf8Size := c.utf8Size_pos
    cases bytes with
    | zero =>
      cases first with
      | nil => simp [splitBytes?, byteLength, eq_comm]
      | cons d tail =>
        simp only [splitBytes?, Option.some.injEq, Prod.mk.injEq, byteLength]
        -- behind a first character the length would not be zero
        constructor
        · rintro ⟨h, -⟩
          cases h
        · rintro ⟨-, hbytes⟩
          have := d.utf8Size_pos
          omega
    | succ bytes =>
      cases first with
      | nil =>
        simp only [splitBytes?, byteLength]
        split <;> simp
      | cons d tail =>
        by_cases hsize : c.utf8Size ≤ bytes + 1
        · simp only [splitBytes?, hsize, ↓reduceIte, Option.map_eq_some_iff, Prod.exists, ih,
            Prod.mk.injEq, List.cons.injEq, byteLength, List.cons_append]
          constructor
          · rintro ⟨_, _, ⟨rfl, hbytes⟩, ⟨rfl, rfl⟩, rfl⟩
            exact ⟨⟨rfl, rfl⟩, by omega⟩
          · rintro ⟨⟨rfl, rfl⟩, hbytes⟩
            exact ⟨tail, rest, ⟨rfl, by omega⟩, ⟨rfl, rfl⟩, rfl⟩
        · -- the cut would go through the character
          simp only [splitBytes?, hsize, ↓reduceIte, reduceCtorEq, List.cons_append,
            List.cons.injEq, byteLength, false_iff, not_and, and_imp]
          rintro rfl -
          omega

/-! ## Lookaheads -/

namespace Parser

variable {parser : Parser} {state : StateId} {position : Nat} {input : List Char}

/-- The terminal's recognizer finds `lexeme` in the text. -/
def Recognizes (parser : Parser) (terminal : TerminalId) (text lexeme : List Char) : Prop :=
  ∃ matcher, parser.matchers[terminal.index]? = some matcher ∧
    matcher.recognize? text = some lexeme

theorem recognizeFirst?_eq_some {terminals : List TerminalId} {terminal : TerminalId}
    {lexeme : List Char} (h : parser.recognizeFirst? input terminals = some (terminal, lexeme)) :
    terminal ∈ terminals ∧ parser.Recognizes terminal input lexeme := by
  induction terminals with
  | nil => cases h
  | cons first rest ih =>
    simp only [recognizeFirst?] at h
    split at h
    · -- the first terminal is recognized
      rename_i found hfound
      cases h
      obtain ⟨matcher, hmatcher, hrecognize⟩ := Option.bind_eq_some_iff.mp hfound
      exact ⟨List.mem_cons_self .., matcher, hmatcher, hrecognize⟩
    · obtain ⟨hmem, hrecognizes⟩ := ih h
      exact ⟨List.mem_cons_of_mem _ hmem, hrecognizes⟩

theorem not_recognizes_of_bind_eq_none {terminal : TerminalId}
    (h : (parser.matchers[terminal.index]?.bind fun matcher => matcher.recognize? input) = none)
    (lexeme : List Char) : ¬ parser.Recognizes terminal input lexeme := by
  intro hrecognizes
  rw [Option.bind_eq_some_iff.mpr hrecognizes] at h
  cases h

theorem recognizeFirst?_eq_none_iff {terminals : List TerminalId} :
    parser.recognizeFirst? input terminals = none ↔
      ∀ terminal ∈ terminals, ∀ lexeme, ¬ parser.Recognizes terminal input lexeme := by
  induction terminals with
  | nil => simp [recognizeFirst?]
  | cons first rest ih =>
    rw [List.forall_mem_cons, ← ih, recognizeFirst?]
    cases hfound : parser.matchers[first.index]?.bind fun matcher => matcher.recognize? input with
    | some lexeme =>
      simp only [reduceCtorEq, false_iff, not_and]
      intro hnone
      exact absurd (Option.bind_eq_some_iff.mp hfound) (hnone lexeme)
    | none =>
      -- the first terminal is passed over, since it is not recognized
      simp [not_recognizes_of_bind_eq_none hfound]

/-- Of terminals that are numbered in order, the one that is found has the least number. -/
theorem not_recognizes_of_lt {terminals : List TerminalId}
    (hincreasing : terminals.Pairwise fun first second => first.index < second.index)
    {terminal earlier : TerminalId} {lexeme : List Char}
    (h : parser.recognizeFirst? input terminals = some (terminal, lexeme))
    (hmem : earlier ∈ terminals) (hlt : earlier.index < terminal.index) (found : List Char) :
    ¬ parser.Recognizes earlier input found := by
  induction hincreasing with
  | nil => cases h
  | @cons first rest hfirst _ ih =>
    simp only [recognizeFirst?] at h
    split at h
    · -- the first terminal is recognized, and none has a smaller number
      cases h
      rcases List.mem_cons.mp hmem with rfl | hrest
      · exact absurd hlt (Nat.lt_irrefl _)
      · exact absurd (hfirst earlier hrest) (Nat.lt_asymm hlt)
    · rename_i hnone
      rcases List.mem_cons.mp hmem with rfl | hrest
      · exact not_recognizes_of_bind_eq_none hnone found
      · exact ih h hrest

/-- What stands at a lookahead: blanks, and then a text without a blank in front, in which an expected
terminal is recognized. -/
structure StandsAt (parser : Parser) (ahead : Lookahead) (position : Nat) (input gap : List Char) :
    Prop where
  input_eq : input = gap ++ ahead.rest
  gap_blank : ∀ c ∈ gap, isBlank c = true
  rest_not_blank : ∀ c ∈ ahead.rest.head?, isBlank c = false
  start_eq : ahead.start = position + byteLength gap
  recognized : ∃ lexeme, parser.Recognizes ahead.terminal ahead.rest lexeme ∧
    ahead.length = byteLength lexeme

theorem lookahead?_eq_some {ahead : Lookahead}
    (h : parser.lookahead? state position input = some ahead) :
    some ahead.terminal ∈ parser.table.expected state ∧
      parser.StandsAt ahead position input (input.takeWhile isBlank) := by
  simp only [lookahead?, Option.bind_eq_bind, Option.bind_eq_some_iff, Prod.exists,
    Option.pure_def, Option.some.injEq] at h
  obtain ⟨terminal, lexeme, hfirst, rfl⟩ := h
  obtain ⟨hmem, hrecognizes⟩ := recognizeFirst?_eq_some hfirst
  refine ⟨by simpa using hmem, ?_⟩
  constructor
  case input_eq => exact List.takeWhile_append_dropWhile.symm
  case gap_blank => exact fun c hc => List.mem_takeWhile_imp hc
  case rest_not_blank =>
    -- what is left behind the blanks does not start with one, or is empty
    intro c hc
    have hhead := List.head?_dropWhile_not isBlank input
    dsimp only at hc
    rw [Option.mem_def] at hc
    rw [hc] at hhead
    exact hhead
  case start_eq => rfl
  case recognized => exact ⟨lexeme, hrecognizes, rfl⟩

end Parser

end ParserFoundry

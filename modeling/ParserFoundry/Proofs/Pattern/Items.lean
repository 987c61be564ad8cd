import ParserFoundry.Proofs.Pattern.Alongside
/-!
# Items in Front of a Parenthesis

What stands for itself in a pattern is read alike on its own and in front of a parenthesis: counts
of repetitions, escapes, and single characters. Two readings of one item differ in their stretches
and in the sets of characters that they ask for, but not in the character that a literal stands for,
nor in what can be repeated or can end a range.

Main results:
- `Progress.readRange_follows`: the counts of a repetition.
- `readPrimitive_follows`: single items.
- `Primitive.Alike.toExpr`, `Primitive.Alike.toRangeEnd`: what is made of items that are read alike.
-/

namespace ParserFoundry.Pattern.Reader

open Scan

/-- What is read alongside is alike, and reading goes on alongside. -/
def Both {α β : Type} (alike : α → β → Prop) (left : Nat) (found : α × Scan) (other : β × Scan) :
    Prop :=
  alike found.1 other.1 ∧ found.2.Alongside left other.2

variable {left : Nat} {alone grouped : Scan}

/-! ## Counts -/

/-- A number in decimal digits, with the blanks around it. -/
theorem readDecimal_follows (h : alone.Alongside left grouped) :
    Follows (Both Eq left) (readDecimal alone) (readDecimal grouped) := by
  -- blanks, digits and blanks: three stretches, each without the parenthesis
  obtain ⟨digits, after, after', halone, hgrouped, hafter⟩ :=
    h.skipBlanks.take Char.isDigit (by decide)
  obtain ⟨blanks, rest, rest', hrest, hrest', hboth⟩ :=
    hafter.take Scan.isBlank (by decide)
  simp only [readDecimal, halone, hgrouped, hrest, hrest']
  apply Follows.guard id
  intro _
  apply Follows.guard id
  intro _
  exact .of_ok ⟨rfl, hboth⟩

/-- A count is a number; only the text of its fault depends on where it stands. -/
theorem readCount_follows (h : alone.Alongside left grouped) :
    Follows (Both Eq left) (readCount alone) (readCount grouped) := by
  intro found hfound
  have hdecimal : readDecimal alone = .ok found := by
    -- the text around a count only says which fault a number that is missing is
    unfold readCount at hfound
    split at hfound
    · cases hfound
    · exact hfound
  obtain ⟨other, hother, hboth⟩ := readDecimal_follows h found hdecimal
  exact ⟨other, by simp [readCount, hother], hboth⟩

/-- Without a first count, no range is read. -/
theorem Progress.readRange_of_error {start : Position} {scan : Scan} {fault : Fault}
    (h : readCount scan = .error fault) (range : (Nat × Option Nat) × Scan) :
    readRange start scan ≠ .ok range := by
  -- without a count every branch of the range is a fault
  intro hrange
  simp only [readRange, h, throw_eq_error, error_bind, pure_eq_ok] at hrange
  split_ifs at hrange

/-- The counts in braces are the same, as the closing brace stands in front of the parenthesis. -/
theorem Progress.readRange_follows {start start' : Position} (h : alone.Alongside left grouped) :
    Follows (Both Eq left) (readRange start alone) (readRange start' grouped) := by
  cases hcount : readCount alone with
  | error fault =>
    intro range hrange
    exact absurd hrange (readRange_of_error hcount range)
  | ok count =>
    obtain ⟨low, after⟩ := count
    obtain ⟨⟨_, after'⟩, hcount', rfl, hafter⟩ := readCount_follows h _ hcount
    simp only [readRange, hcount, hcount', throw_eq_error, error_bind, pure_eq_ok, ok_bind]
    apply h.unlessAtEnd
    apply hafter.unlessAtEnd
    -- behind the last count, the brace comes next in both texts or in none
    have hclose {after after' : Scan} (hafter : after.Alongside left after')
        (found : Nat × Option Nat) (cause cause' : Fault) :
        Follows (Both Eq left)
          (if (after.char? != some '\x7d') = true then Except.error cause else .ok (found, after))
          (if (after'.char? != some '\x7d') = true then Except.error cause'
            else .ok (found, after')) := by
      rw [hafter.char?_bne (by decide)]
      apply Follows.guard id
      intro _
      exact .of_ok ⟨rfl, hafter⟩
    -- a comma makes a second count possible, or leaves the upper one open
    apply Follows.ite (hafter.char?_eq_some_iff (by decide)).symm
    · intro _
      have hnext := hafter.next
      apply hnext.unlessAtEnd
      apply Follows.ite (hnext.char?_eq_some_iff (by decide)).symm
      · intro _
        exact .of_ok ⟨rfl, hnext⟩
      · intro _
        refine (readCount_follows hnext).bind ?_
        rintro ⟨high, rest⟩ ⟨_, rest'⟩ ⟨rfl, hrest⟩
        exact hclose hrest _ _ _
    · intro _
      exact hclose hafter _ _ _

/-! ## Escapes -/

/-- A character in front of what is read. -/
theorem follows_cons {first second : Except Fault (List Char × Scan)}
    (h : Follows (Both Eq left) first second) (c : Char) :
    Follows (Both Eq left)
      (match first with
        | .ok (taken, after) => .ok (c :: taken, after)
        | .error fault => .error fault)
      (match second with
        | .ok (taken, after) => .ok (c :: taken, after)
        | .error fault => .error fault) := by
  -- a fault behind the character stays a fault
  cases first with
  | error fault => exact .of_error _ _
  | ok found =>
    obtain ⟨⟨taken, after⟩, rfl, heq, hafter⟩ := h found rfl
    exact .of_ok ⟨congrArg (c :: ·) heq, hafter⟩

/-- As many hexadecimal digits as the escape asks for, none of which is a parenthesis. -/
theorem readHexDigits_follows {first : Bool} {count : Nat} (h : alone.Alongside left grouped) :
    Follows (Both Eq left) (readHexDigits first count alone)
      (readHexDigits first count grouped) := by
  -- digit by digit; the first one stands where the reader is, the others one further on
  induction count generalizing first alone grouped with
  | zero => exact .of_ok ⟨rfl, h⟩
  | succ count ih =>
    -- the digits after the first one start behind it
    have hstart : (if first then alone else alone.next).Alongside left
        (if first then grouped else grouped.next) := by
      cases first with
      | false => exact h.next
      | true => exact h
    simp only [readHexDigits]
    cases hc : (if first then alone else alone.next).char? with
    | none => exact .of_error _ _
    | some c =>
      simp only [hstart.char?_eq hc]
      split
      · exact follows_cons (ih hstart) c
      · exact .of_error _ _

/-- The same characters, if perhaps in other places. -/
def SameChar (first second : Literal) : Prop :=
  first.char = second.char

/-- The digits alone decide which character they name. -/
theorem hexChar_follows (digits : List Char) (span span' : Span) :
    Follows Eq (hexChar digits span) (hexChar digits span') := by
  -- the digits end with the count or with the closing brace
  unfold hexChar
  dsimp only
  split
  · exact .of_ok rfl
  · exact .of_error _ _

/-- An escape in hexadecimal digits, in braces or with a fixed number of them. -/
theorem readHex_follows {start start' : Position} (h : alone.Alongside left grouped) :
    Follows (Both SameChar left) (readHex start alone) (readHex start' grouped) := by
  have hnext := h.next
  simp only [readHex, throw_eq_error, error_bind, pure_eq_ok]
  cases hc : alone.next.char? with
  | none => exact .of_error _ _
  | some c =>
    -- the letter is there in both texts, so it asks for the same number of digits
    cases hletter : alone.char? with
    | none =>
      rw [char?_next_eq_none hletter] at hc
      cases hc
    | some letter =>
      simp only [hnext.char?_eq hc, h.char?_eq hletter]
      split
      · rename_i heq
        cases heq
      · -- digits in braces
        obtain ⟨digits, after, after', htaken, htaken', hafter⟩ :=
          hnext.next.take isHexDigit (by decide)
        simp only [htaken, htaken']
        cases hclose : after.char? with
        | none => exact .of_error _ _
        | some d =>
          simp only [hafter.char?_eq hclose]
          split
          · rename_i heq
            cases heq
          · apply Follows.guard id
            intro _
            apply (hexChar_follows _ _ _).bind
            rintro value _ rfl
            exact .of_ok ⟨rfl, hafter.next⟩
          · exact .of_error _ _
      · apply (readHexDigits_follows hnext).bind
        rintro ⟨digits, after⟩ ⟨_, after'⟩ ⟨rfl, hafter⟩
        apply (hexChar_follows _ _ _).bind
        rintro value _ rfl
        exact .of_ok ⟨rfl, hafter.next⟩

/-- A property by a letter or by a name in braces. -/
theorem readProperty_follows (h : alone.Alongside left grouped) :
    Follows (Both (fun _ _ => True) left) (readProperty alone) (readProperty grouped) := by
  have hnext := h.next
  have hnext' := hnext.next
  simp only [readProperty, throw_eq_error, error_bind, pure_eq_ok]
  cases hc : alone.next.char? with
  | none => exact .of_error _ _
  | some c =>
    simp only [hnext.char?_eq hc]
    -- behind the letter: nothing, a name in braces, a second backslash, or a letter alone
    split
    · rename_i heq
      cases heq
    · -- a name that is closed ends before the parenthesis
      cases htaken : alone.next.next.take (· != '\x7d') with
      | mk name after =>
        by_cases hend : after.atEnd = true
        · simp only [hend, if_true]
          exact .of_error _ _
        · obtain ⟨after', htaken', hafter⟩ := hnext'.take_of_not_atEnd htaken (.inr hend)
          simp only [htaken', hend, hafter.atEnd_eq_false hend]
          exact .of_ok ⟨trivial, hafter.bump⟩
    · exact .of_error _ _
    · exact .of_ok ⟨trivial, hnext'⟩

/-! ## Single items -/

/-- Items that differ in their stretches only, or in the sets of characters that they ask for. -/
inductive Primitive.Alike : Primitive → Primitive → Prop where
  | literal {first second : Literal} :
      SameChar first second → Alike (.literal first) (.literal second)
  | dot (span span' : Span) : Alike (.dot span) (.dot span')
  | assertion (span span' : Span) (kind kind' : Assertion) :
      Alike (.assertion span kind) (.assertion span' kind')
  | property (span span' : Span) (query query' : PropertyQuery) (negated negated' : Bool) :
      Alike (.property span query negated) (.property span' query' negated')
  | short (span span' : Span) (kind kind' : ShortClass) (negated negated' : Bool) :
      Alike (.short span kind negated) (.short span' kind' negated')

/-- The name of a kind of boundary, which is followed by a brace or is not one. -/
theorem readBoundaryName_follows {start start' : Position} (h : alone.Alongside left grouped) :
    Follows (Both Eq left) (readBoundaryName start alone) (readBoundaryName start' grouped) := by
  have hnext := h.next
  simp only [readBoundaryName, throw_eq_error, error_bind, pure_eq_ok]
  cases hc : alone.next.char? with
  | none => exact .of_error _ _
  | some c =>
    simp only [hnext.char?_eq hc]
    -- a word boundary alone, or the name of a kind behind its brace
    apply Follows.ite Iff.rfl
    · intro _
      exact .of_ok ⟨rfl, h⟩
    · intro _
      obtain ⟨name, after, after', htaken, htaken', hafter⟩ :=
        hnext.take isBoundaryNameChar (by decide)
      simp only [htaken, htaken', hafter.char?_bne (c := '\x7d') (by decide)]
      apply Follows.guard id
      intro _
      split
      · exact .of_ok ⟨rfl, hafter.bump⟩
      · exact .of_error _ _

/-- Everything that a backslash starts is read alike. -/
theorem readEscape_follows (h : alone.Alongside (left + 1) grouped) :
    Follows (Both Primitive.Alike left) (readEscape alone) (readEscape grouped) := by
  have hbump := h.bump_succ
  have hbump' := hbump.bump
  simp only [readEscape, throw_eq_error, error_bind, pure_eq_ok]
  cases hc : alone.bump.char? with
  | none => exact .of_error _ _
  | some c =>
    -- the letter behind the backslash is the same, and so is what it stands for
    simp only [hbump.char?_eq hc]
    apply Follows.guard id
    -- digits cannot be referred to; then hexadecimal escapes, properties, and single letters
    intro _
    apply Follows.ite Iff.rfl
    · intro _
      apply (readHex_follows hbump).bind
      rintro ⟨lit, after⟩ ⟨lit', after'⟩ ⟨hsame, hafter⟩
      exact .of_ok ⟨.literal hsame, hafter⟩
    intro _
    apply Follows.ite Iff.rfl
    · intro _
      apply (readProperty_follows hbump).bind
      rintro ⟨query, after⟩ ⟨query', after'⟩ ⟨-, hafter⟩
      exact .of_ok ⟨.property _ _ _ _ _ _, hafter⟩
    intro _
    cases hshort : shortEscape? c with
    | some kind => exact .of_ok ⟨.short _ _ _ _ _ _, hbump'⟩
    | none =>
      apply Follows.ite Iff.rfl
      · intro _
        exact .of_ok ⟨.literal rfl, hbump'⟩
      intro _
      cases hcontrol : controlEscape? c with
      | some control => exact .of_ok ⟨.literal rfl, hbump'⟩
      | none =>
        cases hassertion : assertionEscape? c with
        | some kind => exact .of_ok ⟨.assertion _ _ _ _, hbump'⟩
        | none =>
          apply Follows.ite Iff.rfl
          · intro _
            simp only [hbump'.char?_bne (c := '\x7b') (by decide)]
            apply Follows.ite Iff.rfl
            · intro _
              exact .of_ok ⟨.assertion _ _ _ _, hbump'⟩
            intro _
            apply (readBoundaryName_follows hbump').bind
            rintro ⟨kind?, after⟩ ⟨_, after'⟩ ⟨rfl, hafter⟩
            cases kind? with
            | some kind => exact .of_ok ⟨.assertion _ _ _ _, hafter⟩
            | none => exact .of_ok ⟨.assertion _ _ _ _, hafter⟩
          · intro _
            exact .of_error _ _

/-- A single item is an escape, one of the signs with a meaning, or the character itself. -/
theorem readPrimitive_follows (h : alone.Alongside (left + 1) grouped) (c : Char) :
    Follows (Both Primitive.Alike left) (readPrimitive c alone) (readPrimitive c grouped) := by
  -- escapes, the dot, the two marks of a line, and everything else
  simp only [readPrimitive]
  apply Follows.ite Iff.rfl
  · intro _
    exact readEscape_follows h
  intro _
  apply Follows.ite Iff.rfl
  · intro _
    exact .of_ok ⟨.dot _ _, h.bump_succ⟩
  intro _
  apply Follows.ite Iff.rfl
  · intro _
    exact .of_ok ⟨.assertion _ _ _ _, h.bump_succ⟩
  intro _
  apply Follows.ite Iff.rfl
  · intro _
    exact .of_ok ⟨.assertion _ _ _ _, h.bump_succ⟩
  · intro _
    exact .of_ok ⟨.literal rfl, h.bump_succ⟩

/-- Both can be repeated, or neither can. -/
def SameUse (first second : Expr) : Prop :=
  first.isDirective = second.isDirective

namespace Primitive

variable {first second : Primitive}

/-- What can be repeated does not hang on stretches or on sets of characters. -/
theorem Alike.toExpr (h : first.Alike second) : SameUse first.toExpr second.toExpr := by
  -- item by item: neither the stretch nor the set of characters is asked for
  cases h with
  | literal => rfl
  | dot => rfl
  | assertion => rfl
  | property => rfl
  | short => rfl

/-- The same items can stand in a class. -/
theorem Alike.toClassItem (h : first.Alike second) :
    Follows (fun _ _ => True) first.toClassItem second.toClassItem := by
  cases h with
  | literal => exact .of_ok trivial
  | dot => exact .of_error _ _
  | assertion => exact .of_error _ _
  | property => exact .of_ok trivial
  | short => exact .of_ok trivial

/-- Only literals end a range, and they are the same characters in both readings. -/
theorem Alike.toRangeEnd (h : first.Alike second) :
    Follows SameChar first.toRangeEnd second.toRangeEnd := by
  -- a class or an assertion ends no range in either reading
  cases h with
  | literal hsame => exact .of_ok hsame
  | dot => exact .of_error _ _
  | assertion => exact .of_error _ _
  | property => exact .of_error _ _
  | short => exact .of_error _ _

end Primitive

end ParserFoundry.Pattern.Reader

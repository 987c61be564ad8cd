import ParserFoundry.Proofs.Pattern.Items
/-!
# Classes in Front of a Parenthesis

A class in brackets ends with its own bracket, so what stands in front of a parenthesis is read as
it is read alone: the opening, items and ranges, operators, and classes within the class. The frames
of the classes that are open are of the same kinds in both readings.

Main results:
- `readClassOpen_follows`, `readClassItem_follows`: the parts of a class.
- `readClassLoop_follows`: the rest of a class, over the frames that are open.
- `readClass_follows`: whole classes.
-/

namespace ParserFoundry.Pattern.Reader

open Scan

variable {left : Nat} {alone grouped : Scan}

/-! ## Named classes -/

/-- What stands in front of a colon is the same in both texts, or there is no colon in either. -/
theorem advance_takeWhile (h : alone.Alongside left grouped) :
    alone.rest.takeWhile (· != ':') = grouped.rest.takeWhile (· != ':') ∨
      (alone.advance (alone.rest.takeWhile (· != ':')).length).rest = [] ∧
        (grouped.advance (grouped.rest.takeWhile (· != ':')).length).rest = [] := by
  rw [rest_advance, rest_advance, List.drop_eq_nil_iff, List.drop_eq_nil_iff]
  rcases h.rest with hrest | ⟨halone, hgrouped⟩
  -- a name that goes up to the end of the text meets the parenthesis, and neither text has a colon
  · rw [hrest, List.takeWhile_append]
    split
    · rename_i hall
      exact .inr ⟨Nat.le_of_eq hall.symm, by simp⟩
    · exact .inl rfl
  · exact .inl (by rw [halone, hgrouped])

/-- At the end of a text, nothing closes a named class. -/
theorem accept?_of_rest_eq_nil {scan : Scan} (h : scan.rest = []) : scan.accept? ":]" = none := by
  simp [Scan.accept?, h]

/-- A named class from its name on. -/
def namedClass? (start : Position) (negated : Bool) (inner : Scan) : Option (ClassExpr × Scan) := do
  if inner.atEnd then none
  let name := inner.rest.takeWhile (· != ':')
  let after ← (inner.advance name.length).accept? ":]"
  let ranges ← asciiClass? name
  return (.ascii (after.since start) ranges negated, after)

/-- A named class starts with its bracket and colon, and perhaps with the mark of a negation. -/
theorem readAsciiClass?_eq (scan : Scan) :
    readAsciiClass? scan = (scan.accept? "[:").bind fun opened =>
      match opened.accept? "^" with
      | some inner => namedClass? scan.position true inner
      | none => namedClass? scan.position false opened := by
  unfold readAsciiClass?
  cases scan.accept? "[:" with
  | none => rfl
  | some opened =>
    simp only [Option.bind_some, bind]
    cases opened.accept? "^" with
    | none => rfl
    | some inner => rfl

/-- Nothing is read in either text, or a class is read in both. -/
def SameClass (left : Nat) (found? other? : Option (ClassExpr × Scan)) : Prop :=
  found? = none ∧ other? = none ∨ ∃ class_ class_' after after',
    found? = some (class_, after) ∧ other? = some (class_', after') ∧ after.Alongside left after'

/-- From its name on, a named class is there in both texts or in neither. -/
theorem namedClass?_same {start start' : Position} {negated : Bool}
    (h : alone.Alongside left grouped) :
    SameClass left (namedClass? start negated alone) (namedClass? start' negated grouped) := by
  rcases advance_takeWhile h with hname | ⟨hnil, hnil'⟩
  · -- the same name, and the same marks behind it
    have hend : (alone.advance (alone.rest.takeWhile (· != ':')).length).Alongside left
        (grouped.advance (alone.rest.takeWhile (· != ':')).length) :=
      (h.mono (Nat.le_add_right _ _)).advance
    simp only [namedClass?, ← hname]
    -- the marks that close the class, which the parenthesis is none of
    rcases hend.accept? (n := 0) ":]" (by decide) (Nat.zero_le _) with
      ⟨hnone, hnone'⟩ | ⟨after, after', hsome, hsome', hafter⟩
    · left
      simp [hnone, hnone']
    · have hinside : ¬ alone.atEnd = true := by
        intro hnil
        rw [atEnd, List.isEmpty_iff] at hnil
        rw [accept?_of_rest_eq_nil (by rw [rest_advance, hnil, List.drop_nil])] at hsome
        cases hsome
      simp only [hsome, hsome', hinside, h.atEnd_eq_false hinside]
      cases asciiClass? (alone.rest.takeWhile (· != ':')) with
      | none => exact .inl ⟨rfl, rfl⟩
      | some ranges => exact .inr ⟨_, _, after, after', rfl, rfl, hafter⟩
  · left
    simp [namedClass?, accept?_of_rest_eq_nil hnil, accept?_of_rest_eq_nil hnil']

/-- Named classes are recognized alike: their marks hold no parenthesis. -/
theorem readAsciiClass?_same (h : alone.Alongside (left + 1) grouped) :
    SameClass left (readAsciiClass? alone) (readAsciiClass? grouped) := by
  rw [readAsciiClass?_eq, readAsciiClass?_eq]
  -- no marks in front in either text, or the same ones
  rcases h.accept? "[:" (by decide) (by decide) with
    ⟨halone, hgrouped⟩ | ⟨opened, opened', halone, hgrouped, hopened⟩
  · rw [halone, hgrouped]
    exact .inl ⟨rfl, rfl⟩
  · rw [halone, hgrouped, Option.bind_some, Option.bind_some]
    rcases hopened.accept? (n := 0) "^" (by decide) (Nat.zero_le _) with
      ⟨hnone, hnone'⟩ | ⟨inner, inner', hsome, hsome', hinner⟩
    · rw [hnone, hnone']
      exact namedClass?_same hopened
    · rw [hsome, hsome']
      exact namedClass?_same hinner

/-! ## Openings and items -/

/-- Both are still without items, or both have some. -/
def Items.Alike (first second : Items) : Prop :=
  first.reversed.isEmpty = second.reversed.isEmpty

/-- No class has items when it is opened. -/
theorem Items.alike_nil (span span' : Span) : Items.Alike ⟨span, []⟩ ⟨span', []⟩ :=
  rfl

/-- Behind an item, a class is no longer empty. -/
theorem Items.alike_push (first second : Items) (item item' : ClassExpr) :
    (first.push item).Alike (second.push item') :=
  rfl

/-- Without a hyphen in front, none is read. -/
theorem readLeadingHyphens_of_char?_ne {start : Position} {items : Items} {scan : Scan}
    (h : scan.char? ≠ some '-') (steps : Nat) :
    readLeadingHyphens start items steps scan = .ok (items, scan) := by
  cases steps with
  | zero => rfl
  | succ steps => rw [readLeadingHyphens, if_neg h]

/-- The hyphens at the front of a class stand for themselves, in both texts equally many. -/
theorem readLeadingHyphens_follows {start start' : Position} {items items' : Items}
    {steps steps' : Nat} (h : alone.Alongside left grouped) (hitems : items.Alike items')
    (hsteps : alone.rest.length ≤ steps) (hsteps' : grouped.rest.length ≤ steps') :
    Follows (Both Items.Alike left) (readLeadingHyphens start items steps alone)
      (readLeadingHyphens start' items' steps' grouped) := by
  -- a hyphen is a character of the text, so the steps suffice for both
  induction steps generalizing steps' items items' alone grouped with
  | zero =>
    have hnil : alone.rest = [] := List.length_eq_zero_iff.mp (Nat.le_zero.mp hsteps)
    have hne : alone.char? ≠ some '-' := by simp [char?, hnil]
    rw [readLeadingHyphens_of_char?_ne hne,
      readLeadingHyphens_of_char?_ne (h.char?_ne (by decide) hne)]
    exact .of_ok ⟨hitems, h⟩
  | succ steps ih =>
    by_cases hhyphen : alone.char? = some '-'
    · have hhyphen' := h.char?_eq hhyphen
      cases steps' with
      | zero =>
        have hnil : grouped.rest = [] := List.length_eq_zero_iff.mp (Nat.le_zero.mp hsteps')
        simp [char?, hnil] at hhyphen'
      | succ steps' =>
        have hnext := h.next
        rw [readLeadingHyphens, readLeadingHyphens, if_pos hhyphen, if_pos hhyphen']
        dsimp only
        apply hnext.unlessAtEnd
        exact ih hnext (Items.alike_push _ _ _ _)
          (Nat.le_trans (length_next_le _) (Nat.sub_le_of_le_add hsteps))
          (Nat.le_trans (length_next_le _) (Nat.sub_le_of_le_add hsteps'))
    · rw [readLeadingHyphens_of_char?_ne hhyphen,
        readLeadingHyphens_of_char?_ne (h.char?_ne (by decide) hhyphen)]
      exact .of_ok ⟨hitems, h⟩

/-- The opening of a class: its bracket, a negation, hyphens, and a bracket that stands for itself.
-/
theorem readClassOpen_follows (h : alone.Alongside (left + 1) grouped) :
    Follows (Both (fun found other => found.2.2.Alike other.2.2) left) (readClassOpen alone)
      (readClassOpen grouped) := by
  have hnext := h.next_succ
  simp only [readClassOpen, throw_eq_error, error_bind, pure_eq_ok]
  apply hnext.unlessAtEnd
  -- the mark of a negation is passed in both texts
  have hnegated : (grouped.next.char? == some '^') = (alone.next.char? == some '^') :=
    hnext.char?_beq (by decide)
  have hinner : Scan.Alongside left
      (if (alone.next.char? == some '^') = true then alone.next.next else alone.next)
      (if (alone.next.char? == some '^') = true then grouped.next.next else grouped.next) := by
    split
    · exact hnext.next
    · exact hnext
  simp only [hnegated]
  apply hinner.unlessAtEnd
  apply (readLeadingHyphens_follows hinner (Items.alike_nil _ _) (Nat.le_refl _)
    (Nat.le_refl _)).bind
  -- a bracket stands for itself where no item has been read, which both readings agree on
  rintro ⟨items, after⟩ ⟨items', after'⟩ ⟨hitems, hafter⟩
  have hbracket : (items'.reversed.isEmpty && after'.char? == some ']') =
      (items.reversed.isEmpty && after.char? == some ']') := by
    rw [hafter.char?_beq (by decide), hitems]
  simp only [hbracket]
  apply Follows.ite Iff.rfl
  · intro _
    have hlast := hafter.next
    apply hlast.unlessAtEnd
    exact .of_ok ⟨Items.alike_push _ _ _ _, hlast⟩
  · intro _
    exact .of_ok ⟨hitems, hafter⟩

/-- A single character of a class, or an escape. -/
theorem readClassPrimitive_follows (h : alone.Alongside (left + 1) grouped) :
    Follows (Both Primitive.Alike left) (readClassPrimitive alone)
      (readClassPrimitive grouped) := by
  unfold readClassPrimitive
  cases hc : alone.char? with
  -- the same character comes next; only a backslash asks for more
  | none => exact .of_error _ _
  | some c =>
    rw [h.char?_eq hc]
    split
    · exact readEscape_follows h
    · exact .of_ok ⟨.literal rfl, h.bump_succ⟩
    · rename_i heq
      cases heq

/-- An item of a class: a single one, or a range when a hyphen follows it. -/
theorem readClassItem_follows {frames frames' : List ClassFrame}
    (h : alone.Alongside (left + 1) grouped) :
    Follows (Both (fun _ _ => True) left) (readClassItem frames alone)
      (readClassItem frames' grouped) := by
  simp only [readClassItem, throw_eq_error, error_bind, pure_eq_ok]
  apply (readClassPrimitive_follows h).bind
  rintro ⟨first, after⟩ ⟨first', after'⟩ ⟨hfirst, hafter⟩
  have hskip := hafter.skip
  apply hskip.unlessAtEnd
  -- a hyphen makes a range in both texts or in none
  have hhyphen : (after'.skip.char? != some '-' || after'.skip.peekPastBlanks? == some ']' ||
      after'.skip.peekPastBlanks? == some '-') = (after.skip.char? != some '-' ||
      after.skip.peekPastBlanks? == some ']' || after.skip.peekPastBlanks? == some '-') := by
    rw [hskip.char?_bne (by decide), hskip.peekPastBlanks?_beq (by decide) (by decide) (by decide),
      hskip.peekPastBlanks?_beq (by decide) (by decide) (by decide)]
  simp only [hhyphen]
  apply Follows.ite Iff.rfl
  · intro _
    apply hfirst.toClassItem.bind
    intro item item' _
    -- an item alone, where no hyphen follows
    exact .of_ok ⟨trivial, hskip⟩
  · intro _
    have hnext := hskip.next
    apply hnext.unlessAtEnd
    apply (readClassPrimitive_follows (hnext.mono (Nat.le_succ left))).bind
    rintro ⟨last, rest⟩ ⟨last', rest'⟩ ⟨hlast, hrest⟩
    -- the ends of a range are the same characters, so it is in order in both readings or in none
    apply hfirst.toRangeEnd.bind
    intro low low' hlow
    apply hlast.toRangeEnd.bind
    intro high high' hhigh
    apply Follows.ite (by rw [hlow, hhigh])
    · intro _
      exact .of_ok ⟨trivial, hrest⟩
    · intro _
      exact .of_error _ _

/-! ## Open classes -/

/-- Frames of one kind. -/
inductive ClassFrame.Alike : ClassFrame → ClassFrame → Prop where
  | bracket (outer outer' : Items) (span span' : Span) (negated negated' : Bool) :
      Alike (.bracket outer span negated) (.bracket outer' span' negated')
  | operand (op op' : ClassOp) (before before' : ClassExpr) :
      Alike (.operand op before) (.operand op' before')

/-- An operator that is waiting for its operand goes with its frame, in both readings. -/
theorem closeOperation_alike {frames frames' : List ClassFrame}
    (h : List.Forall₂ ClassFrame.Alike frames frames') (right right' : ClassExpr) :
    List.Forall₂ ClassFrame.Alike (closeOperation right frames).2
      (closeOperation right' frames').2 := by
  cases h with
  | nil => exact .nil
  -- the innermost frame is a class or an operator with its left operand
  | cons hframe hframes =>
    cases hframe with
    | bracket => exact .cons (.bracket _ _ _ _ _ _) hframes
    | operand => exact hframes

/-- No operator comes next in either text, or the same one does. -/
theorem readClassOp?_same (h : alone.Alongside (left + 1) grouped) :
    readClassOp? alone = none ∧ readClassOp? grouped = none ∨
      ∃ op after after', readClassOp? alone = some (op, after) ∧
        readClassOp? grouped = some (op, after') ∧ after.Alongside left after' := by
  unfold readClassOp?
  -- the three operators in the order they are looked for
  rcases h.accept? "&&" (by decide) (by decide) with
    ⟨hnone, hnone'⟩ | ⟨after, after', hsome, hsome', hafter⟩
  · rw [hnone, hnone']
    rcases h.accept? "--" (by decide) (by decide) with
      ⟨hnone, hnone'⟩ | ⟨after, after', hsome, hsome', hafter⟩
    · rw [hnone, hnone']
      rcases h.accept? "~~" (by decide) (by decide) with
        ⟨hnone, hnone'⟩ | ⟨after, after', hsome, hsome', hafter⟩
      · rw [hnone, hnone']
        exact .inl ⟨rfl, rfl⟩
      · rw [hsome, hsome']
        exact .inr ⟨_, after, after', rfl, rfl, hafter⟩
    · rw [hsome, hsome']
      exact .inr ⟨_, after, after', rfl, rfl, hafter⟩
  · rw [hsome, hsome']
    exact .inr ⟨_, after, after', rfl, rfl, hafter⟩

/-- The rest of a class is read alike, since its own bracket ends it before the parenthesis comes.
-/
theorem readClassLoop_follows {frames frames' : List ClassFrame} {items items' : Items}
    {steps steps' : Nat} (h : alone.Alongside left grouped)
    (hframes : List.Forall₂ ClassFrame.Alike frames frames') (hsteps : steps ≤ steps') :
    Follows (Both SameUse left) (readClassLoop steps frames items alone)
      (readClassLoop steps' frames' items' grouped) := by
  -- along the steps of the text alone, of which the other text has as many or more
  induction steps generalizing steps' frames frames' items items' alone grouped with
  | zero => exact .of_error _ _
  | succ steps ih =>
    cases steps' with
    | zero => exact absurd hsteps (Nat.not_succ_le_zero steps)
    | succ steps' =>
      have hsteps := Nat.le_of_succ_le_succ hsteps
      have hskip := h.skip
      have hmore := hskip.mono (Nat.le_succ left)
      simp only [readClassLoop, throw_eq_error, pure_eq_ok]
      cases hc : alone.skip.char? with
      | none => exact .of_error _ _
      | some c =>
        rw [hskip.char?_eq hc]
        -- what comes next: a class, a bracket, or an item in front of which an operator may stand
        split
        · rename_i heq
          cases heq
        · -- a class within the class
          rcases readAsciiClass?_same hmore with
            ⟨hnone, hnone'⟩ | ⟨class_, class_', after, after', hsome, hsome', hafter⟩
          · rw [hnone, hnone']
            apply (readClassOpen_follows hmore).bind
            rintro ⟨⟨span, negated, inner⟩, after⟩ ⟨⟨span', negated', inner'⟩, after'⟩ ⟨-, hafter⟩
            exact ih hafter (.cons (.bracket _ _ _ _ _ _) hframes) hsteps
          · rw [hsome, hsome']
            exact ih hafter hframes hsteps
        · -- a bracket closes the innermost class
          have hbump := hmore.bump_succ
          have hclosed := closeOperation_alike hframes items.toClass items'.toClass
          generalize closeOperation items.toClass frames = closed at hclosed ⊢
          generalize closeOperation items'.toClass frames' = closed' at hclosed ⊢
          obtain ⟨whole, rest⟩ := closed
          obtain ⟨whole', rest'⟩ := closed'
          cases hclosed with
          | nil => exact .of_error _ _
          -- below a closed bracket there is the class around it, or the end of the whole class
          | cons hframe hrest =>
            cases hframe with
            | bracket =>
              cases hrest with
              | nil => exact .of_ok ⟨rfl, hbump⟩
              | cons hframe hrest => exact ih hbump (.cons hframe hrest) hsteps
            | operand => exact .of_error _ _
        · rcases readClassOp?_same hmore with
            ⟨hnone, hnone'⟩ | ⟨op, after, after', hsome, hsome', hafter⟩
          · rw [hnone, hnone']
            apply (readClassItem_follows hmore).bind
            rintro ⟨item, after⟩ ⟨item', after'⟩ ⟨-, hafter⟩
            exact ih hafter hframes hsteps
          · rw [hsome, hsome']
            exact ih hafter (.cons (.operand _ _ _ _) (closeOperation_alike hframes _ _)) hsteps

/-- A whole class is the loop behind its opening. -/
theorem readClass_follows (h : alone.Alongside (left + 1) grouped) :
    Follows (Both SameUse left) (readClass alone) (readClass grouped) := by
  simp only [readClass]
  apply (readClassOpen_follows h).bind
  rintro ⟨⟨span, negated, inner⟩, after⟩ ⟨⟨span', negated', inner'⟩, after'⟩ ⟨-, hafter⟩
  exact readClassLoop_follows hafter (.cons (.bracket _ _ _ _ _ _) .nil)
    h.length_le_length

end ParserFoundry.Pattern.Reader

import ParserFoundry.Pattern.Reader
import ParserFoundry.Proofs.Checked
/-!
# Scans in Front of a Parenthesis

A text is scanned on its own and with a closing parenthesis behind it, in step. Until the text alone
is at its end, both scans see the same characters. Where it ends, the parenthesis comes next, unless
a comment at the end of the text takes it in.

Main results:
- `Scan.Alongside`: the two scans in step, with a bound on what is left.
- `Scan.Alongside.char?_eq`: what comes next in the text alone comes next in both.
- `Scan.Alongside.accept?`, `Scan.Alongside.take`: tokens and stretches without a parenthesis.
-/

namespace ParserFoundry.Pattern.Scan

/-! ## What is left of a text -/

@[simp]
theorem verbose_bump (scan : Scan) : scan.bump.verbose = scan.verbose := by
  unfold bump
  split <;> rfl

@[simp]
theorem names_bump (scan : Scan) : scan.bump.names = scan.names := by
  unfold bump
  split <;> rfl

@[simp]
theorem verbose_skip (scan : Scan) : scan.skip.verbose = scan.verbose := by
  unfold skip
  split <;> rfl

@[simp]
theorem names_skip (scan : Scan) : scan.skip.names = scan.names := by
  unfold skip
  split <;> rfl

/-- Passing characters drops them from what is left, and stays at the end once it is there. -/
theorem rest_advance (scan : Scan) (n : Nat) : (scan.advance n).rest = scan.rest.drop n := by
  -- one step at a time: at the end a step stays where it is, and there is nothing to drop
  induction n generalizing scan with
  | zero => rfl
  | succ n ih =>
    rw [advance, ih]
    unfold bump
    split
    · rename_i h
      simp [h]
    · rename_i h
      simp [h]

theorem length_bump (scan : Scan) : scan.bump.rest.length = scan.rest.length - 1 := by
  unfold bump
  split
  · rename_i h
    simp [h]
  · rename_i h
    simp [h]

/-- Blanks and comments are taken from what is left; nothing is put back. -/
theorem length_skipFrom_le (inComment : Bool) (position : Position) (text : List Char) :
    (skipFrom inComment position text).1.length ≤ text.length := by
  -- along the text, for every place and both states: a character is skipped or the skipping stops
  induction text generalizing inComment position with
  | nil => simp [skipFrom]
  | cons c text ih =>
    rw [skipFrom]
    split_ifs
    · exact Nat.le_succ_of_le (ih _ _)
    · exact Nat.le_succ_of_le (ih _ _)
    · exact Nat.le_succ_of_le (ih _ _)
    · exact Nat.le_refl _

theorem length_skip_le (scan : Scan) : scan.skip.rest.length ≤ scan.rest.length := by
  unfold skip
  split
  · exact length_skipFrom_le _ _ _
  · exact Nat.le_refl _

theorem length_next_le (scan : Scan) : scan.next.rest.length ≤ scan.rest.length - 1 := by
  rw [← length_bump]
  exact length_skip_le _

/-- Where nothing comes next, nothing comes next one character further on. -/
theorem char?_next_eq_none {scan : Scan} (h : scan.char? = none) : scan.next.char? = none := by
  have hnil : scan.rest = [] := List.head?_eq_none_iff.mp h
  have hle := length_next_le scan
  rw [hnil] at hle
  exact List.head?_eq_none_iff.mpr (List.length_eq_zero_iff.mp (Nat.le_zero.mp hle))

/-- Blanks and comments are skipped alike; a comment may take the parenthesis in. -/
theorem skipFrom_append (inComment : Bool) (position position' : Position) (text : List Char) :
    (skipFrom inComment position' (text ++ [')'])).1 =
        (skipFrom inComment position text).1 ++ [')'] ∨
      (skipFrom inComment position text).1 = [] ∧
        (skipFrom inComment position' (text ++ [')'])).1 = [] := by
  -- in step along the text; only at its end does it matter whether a comment is open there
  induction text generalizing inComment position position' with
  | nil =>
    have hblank : isBlank ')' = false := by decide
    cases inComment with
    | false => simp [skipFrom, hblank]
    | true => simp [skipFrom]
  | cons c text ih =>
    rw [List.cons_append, skipFrom, skipFrom]
    split_ifs
    · exact ih _ _ _
    · exact ih _ _ _
    · exact ih _ _ _
    · exact .inl rfl

/-! ## Two scans in step -/

/-- The same place in a text and in the text with a closing parenthesis behind it; the text has at
most `left` characters left. Both may have come to their ends. -/
structure Alongside (left : Nat) (alone grouped : Scan) : Prop where
  rest : grouped.rest = alone.rest ++ [')'] ∨ alone.rest = [] ∧ grouped.rest = []
  verbose : grouped.verbose = alone.verbose
  names : grouped.names.map Prod.fst = alone.names.map Prod.fst
  length_le : alone.rest.length ≤ left

namespace Alongside

variable {left : Nat} {alone grouped : Scan}

/-- A bound may be given away: only the length is bounded by it. -/
theorem mono {left' : Nat} (h : Alongside left alone grouped) (hle : left ≤ left') :
    Alongside left' alone grouped :=
  { h with length_le := Nat.le_trans h.length_le hle }

/-- What the text alone has left stands in the other one, with the parenthesis behind. -/
theorem rest_eq_cons (h : Alongside left alone grouped) {c : Char} {text : List Char}
    (htext : alone.rest = c :: text) : grouped.rest = c :: (text ++ [')']) := by
  -- the text alone has something left, so it is not past its end
  rcases h.rest with hrest | ⟨hnil, -⟩
  · rw [hrest, htext, List.cons_append]
  · rw [htext] at hnil
    cases hnil

theorem length_le_length (h : Alongside left alone grouped) :
    alone.rest.length ≤ grouped.rest.length := by
  rcases h.rest with hrest | ⟨halone, hgrouped⟩
  · simp [hrest]
  · simp [halone, hgrouped]

/-- At the end of the text, only the parenthesis is passed. -/
theorem bump_succ (h : Alongside (left + 1) alone grouped) :
    Alongside left alone.bump grouped.bump where
  rest := by
    -- at its end, only the other text has something left to pass
    cases htext : alone.rest with
    | nil =>
      refine .inr ⟨by simp [Scan.bump, htext], ?_⟩
      rcases h.rest with hrest | ⟨-, hrest⟩
      · simp [Scan.bump, hrest, htext]
      · simp [Scan.bump, hrest]
    | cons c text =>
      have hgrouped := h.rest_eq_cons htext
      exact .inl (by simp [Scan.bump, htext, hgrouped])
  verbose := by simpa using h.verbose
  names := by simpa using h.names
  length_le := by
    rw [length_bump]
    exact Nat.sub_le_of_le_add h.length_le

/-- Both scans leave the same blanks and comments out: their modes agree. -/
theorem skip (h : Alongside left alone grouped) : Alongside left alone.skip grouped.skip where
  rest := by
    unfold Scan.skip
    rw [h.verbose]
    split
    · rcases h.rest with hrest | ⟨halone, hgrouped⟩
      · simp only [hrest]
        exact skipFrom_append _ _ _ _
      · simp [halone, hgrouped, skipFrom]
    · exact h.rest
  verbose := by simpa using h.verbose
  names := by simpa using h.names
  length_le := Nat.le_trans (length_skip_le _) h.length_le

/-- The next character uses up one of the bound, as the blanks behind it only shorten the rest. -/
theorem next_succ (h : Alongside (left + 1) alone grouped) :
    Alongside left alone.next grouped.next :=
  h.bump_succ.skip

theorem bump (h : Alongside left alone grouped) : Alongside left alone.bump grouped.bump :=
  (h.mono (Nat.le_succ left)).bump_succ

theorem next (h : Alongside left alone grouped) : Alongside left alone.next grouped.next :=
  h.bump.skip

/-- As many characters as the bound has to give are passed in step. -/
theorem advance {n : Nat} (h : Alongside (left + n) alone grouped) :
    Alongside left (alone.advance n) (grouped.advance n) := by
  -- the bound falls by one with each character passed
  induction n generalizing alone grouped with
  | zero => exact h
  | succ n ih => exact ih h.bump_succ

/-- What comes next in the text alone comes next in the other as well; the converse fails for the
parenthesis only. -/
theorem char?_eq (h : Alongside left alone grouped) {c : Char} (hc : alone.char? = some c) :
    grouped.char? = some c := by
  rcases h.rest with hrest | ⟨hnil, -⟩
  · rw [char?, hrest, List.head?_append, show alone.rest.head? = some c from hc]
    rfl
  · simp [char?, hnil] at hc

/-- Any other character than the parenthesis comes next in both texts or in none. -/
theorem char?_eq_some_iff (h : Alongside left alone grouped) {c : Char} (hc : c ≠ ')') :
    grouped.char? = some c ↔ alone.char? = some c := by
  refine ⟨fun hgrouped => ?_, h.char?_eq⟩
  rcases h.rest with hrest | ⟨-, hnil⟩
  · cases halone : alone.rest with
    | nil =>
      rw [char?, hrest, halone] at hgrouped
      exact absurd (Option.some.inj hgrouped).symm hc
    | cons d text =>
      rw [char?, hrest, halone] at hgrouped
      rw [char?, halone]
      exact hgrouped
  · simp [char?, hnil] at hgrouped

theorem char?_ne (h : Alongside left alone grouped) {c : Char} (hc : c ≠ ')')
    (hne : alone.char? ≠ some c) : grouped.char? ≠ some c :=
  mt (h.char?_eq_some_iff hc).mp hne

theorem char?_beq (h : Alongside left alone grouped) {c : Char} (hc : c ≠ ')') :
    (grouped.char? == some c) = (alone.char? == some c) := by
  rw [Bool.eq_iff_iff, beq_iff_eq, beq_iff_eq, h.char?_eq_some_iff hc]

theorem char?_bne (h : Alongside left alone grouped) {c : Char} (hc : c ≠ ')') :
    (grouped.char? != some c) = (alone.char? != some c) := by
  rw [bne, bne, h.char?_beq hc]

/-- The text with the parenthesis behind it does not end before the text alone. -/
theorem atEnd_eq_false (h : Alongside left alone grouped) (halone : ¬ alone.atEnd = true) :
    ¬ grouped.atEnd = true := by
  simp only [atEnd, List.isEmpty_iff] at halone ⊢
  rcases h.rest with hrest | ⟨hnil, -⟩
  · simp [hrest]
  · exact absurd hnil halone

/-- An end that is a fault where it comes too early. -/
theorem unlessAtEnd {ε η α β : Type} {related : α → β → Prop} {cause : ε} {cause' : η}
    {first : Except ε α} {second : Except η β} (h : Alongside left alone grouped)
    (hinside : Follows related first second) :
    Follows related (if alone.atEnd = true then .error cause else first)
      (if grouped.atEnd = true then .error cause' else second) := by
  by_cases hend : alone.atEnd = true
  · rw [if_pos hend]
    exact .of_error _ _
  · rw [if_neg hend, if_neg (h.atEnd_eq_false hend)]
    exact hinside

/-- A token without a parenthesis is passed in both texts or in none. -/
theorem accept? {n : Nat} (h : Alongside (left + n) alone grouped) (token : String)
    (htoken : ')' ∉ token.toList) (hn : n ≤ token.length) :
    alone.accept? token = none ∧ grouped.accept? token = none ∨
      ∃ after after', alone.accept? token = some after ∧ grouped.accept? token = some after' ∧
        Alongside left after after' := by
  -- a token is a prefix of both texts or of neither
  have hiff : token.toList.isPrefixOf grouped.rest = token.toList.isPrefixOf alone.rest := by
    rw [Bool.eq_iff_iff, List.isPrefixOf_iff_prefix, List.isPrefixOf_iff_prefix]
    rcases h.rest with hrest | ⟨halone, hgrouped⟩
    · -- a token that takes in the last character would have the parenthesis in it
      rw [hrest, List.prefix_concat_iff, or_iff_right]
      intro heq
      exact htoken (heq ▸ List.mem_append_right _ (List.mem_singleton_self _))
    · rw [halone, hgrouped]
  unfold Scan.accept?
  rw [hiff]
  split
  · exact .inr ⟨_, _, rfl, rfl, (h.mono (Nat.add_le_add_left hn left)).advance⟩
  · exact .inl ⟨rfl, rfl⟩

/-- Where the text alone is at its end, characters of a class without the parenthesis are over. -/
theorem takeAtMost_of_rest_eq_nil {wanted : Char → Bool} (h : Alongside left alone grouped)
    (hnil : alone.rest = []) (hstop : wanted ')' = false) (steps : Nat) :
    takeAtMost wanted steps grouped = ([], grouped) := by
  cases steps with
  | zero => rfl
  | succ steps =>
    rcases h.rest with hrest | ⟨-, hrest⟩
    · simp [takeAtMost, hrest, hnil, hstop]
    · simp [takeAtMost, hrest]

/-- The same characters are passed in both texts, unless the parenthesis is one of them and all the
text has been passed. -/
theorem takeAtMost {wanted : Char → Bool} {steps steps' : Nat} (h : Alongside left alone grouped)
    (hsteps : alone.rest.length ≤ steps) (hsteps' : grouped.rest.length ≤ steps')
    (hstop : wanted ')' = false ∨ ¬ (Scan.takeAtMost wanted steps alone).2.atEnd = true) :
    (Scan.takeAtMost wanted steps' grouped).1 = (Scan.takeAtMost wanted steps alone).1 ∧
      Alongside left (Scan.takeAtMost wanted steps alone).2
        (Scan.takeAtMost wanted steps' grouped).2 := by
  -- along the text alone; where it ends, the parenthesis is not wanted, or the end is excluded
  induction steps generalizing left steps' alone grouped with
  | zero =>
    have hnil : alone.rest = [] := List.length_eq_zero_iff.mp (Nat.le_zero.mp hsteps)
    have hwanted : wanted ')' = false := by
      refine hstop.resolve_right fun hend => ?_
      simp [Scan.takeAtMost, atEnd, hnil] at hend
    rw [h.takeAtMost_of_rest_eq_nil hnil hwanted]
    exact ⟨rfl, h⟩
  | succ steps ih =>
    cases htext : alone.rest with
    | nil =>
      have hwanted : wanted ')' = false := by
        refine hstop.resolve_right fun hend => ?_
        simp [Scan.takeAtMost, atEnd, htext] at hend
      rw [h.takeAtMost_of_rest_eq_nil htext hwanted]
      simp only [Scan.takeAtMost, htext, true_and]
      exact h
    | cons c text =>
      have hgrouped := h.rest_eq_cons htext
      cases steps' with
      | zero => simp [hgrouped] at hsteps'
      | succ steps' =>
        simp only [Scan.takeAtMost, htext, hgrouped] at hstop ⊢
        by_cases hc : wanted c = true
        · simp only [hc, if_true] at hstop ⊢
          have hle : alone.next.rest.length ≤ steps :=
            Nat.le_trans (length_next_le _) (Nat.sub_le_of_le_add hsteps)
          have hle' : grouped.next.rest.length ≤ steps' :=
            Nat.le_trans (length_next_le _) (Nat.sub_le_of_le_add hsteps')
          obtain ⟨htaken, hafter⟩ := ih h.next hle hle' hstop
          exact ⟨by rw [htaken], hafter⟩
        · rw [if_neg hc, if_neg hc]
          exact ⟨rfl, h⟩

/-- A stretch of the text alone is the same stretch of the other, if the parenthesis could not have
joined it: it is not wanted, or something stands in front of it. -/
theorem take_of_not_atEnd {wanted : Char → Bool} (h : Alongside left alone grouped)
    {taken : List Char} {after : Scan} (halone : alone.take wanted = (taken, after))
    (hstop : wanted ')' = false ∨ ¬ after.atEnd = true) :
    ∃ after', grouped.take wanted = (taken, after') ∧ Alongside left after after' := by
  -- the steps of a take are the characters left, enough in either scan
  have hboth := h.takeAtMost (Nat.le_refl _) (Nat.le_refl _) <| by
    rw [← Scan.take, halone]
    exact hstop
  rw [← Scan.take, ← Scan.take, halone] at hboth
  exact ⟨(grouped.take wanted).2, Prod.ext hboth.1 rfl, hboth.2⟩

/-- Stretches of a class without the parenthesis need no look at the end. -/
theorem take (h : Alongside left alone grouped) (wanted : Char → Bool)
    (hwanted : wanted ')' = false) :
    ∃ taken after after', alone.take wanted = (taken, after) ∧
      grouped.take wanted = (taken, after') ∧ Alongside left after after' := by
  obtain ⟨after', hgrouped, hafter⟩ := h.take_of_not_atEnd rfl (.inl hwanted)
  exact ⟨_, _, after', rfl, hgrouped, hafter⟩

/-- Blanks are not parentheses, so the run of blanks in front is as long in both. -/
theorem skipBlanks (h : Alongside left alone grouped) :
    Alongside left alone.skipBlanks grouped.skipBlanks := by
  have hblank : isBlank ')' = false := by decide
  -- the blanks in front are counted before they are passed, once in each text
  have hcount : (grouped.rest.takeWhile isBlank).length =
      (alone.rest.takeWhile isBlank).length := by
    rcases h.rest with hrest | ⟨halone, hgrouped⟩
    · rw [hrest, List.takeWhile_append]
      split
      · rename_i hall
        simp [hblank, hall]
      · rfl
    · rw [halone, hgrouped]
  unfold Scan.skipBlanks
  rw [hcount]
  exact (h.mono (Nat.le_add_right _ _)).advance

/-- Behind the blanks stands the same character, or the parenthesis where the text has none. -/
theorem peekPastBlanks?_go_append (seenHash : Bool) (text : List Char) :
    peekPastBlanks?.go seenHash (text ++ [')']) =
      (peekPastBlanks?.go seenHash text <|> some ')') := by
  induction text generalizing seenHash with
  | nil =>
    have hblank : isBlank ')' = false := by decide
    simp [peekPastBlanks?.go, hblank]
  | cons c text ih =>
    rw [List.cons_append, peekPastBlanks?.go, peekPastBlanks?.go]
    split_ifs
    · exact ih _
    · exact ih _
    · rfl

/-- The character behind the next one, or behind the blanks there, can be looked for in either
text. -/
theorem peekPastBlanks?_beq (h : Alongside left alone grouped) {c : Char} (hc : c ≠ ')')
    (hblank : isBlank c = false) (hhash : c ≠ '#') :
    (grouped.peekPastBlanks? == some c) = (alone.peekPastBlanks? == some c) := by
  -- behind the next character the two texts differ by the parenthesis, or not at all
  have htail : grouped.rest.tail = alone.rest.tail ++ [')'] ∨
      grouped.rest.tail = alone.rest.tail := by
    rcases h.rest with hrest | ⟨halone, hgrouped⟩
    · cases htext : alone.rest with
      | nil => exact .inr (by rw [hrest, htext]; rfl)
      | cons d text => exact .inl (by rw [hrest, htext]; rfl)
    · exact .inr (by rw [halone, hgrouped])
  unfold peekPastBlanks? peek?
  rw [h.verbose]
  rcases htail with htail | htail
  · rw [htail]
    generalize alone.rest.tail = text
    have hparen : (some ')' == some c) = false := by simpa using fun heq => hc heq.symm
    have hhead : ((text ++ [')']).head? == some c) = (text.head? == some c) := by
      cases text with
      | nil => simpa using fun heq => hc heq.symm
      | cons d text => rfl
    split
    · simp only [peekPastBlanks?_go_append]
      cases hgo : peekPastBlanks?.go false text with
      | some d => rfl
      | none =>
        -- the text has only blanks and the mark of a comment left
        change (some ')' == some c) = (text.head? == some c)
        rw [hparen]
        cases text with
        | nil => rfl
        | cons d text =>
          have hne : d ≠ c := by
            rintro rfl
            simp [peekPastBlanks?.go, hblank, hhash] at hgo
          simpa using hne
    · exact hhead
  · rw [htail]

end Alongside

end ParserFoundry.Pattern.Scan

import ParserFoundry.Proofs.Pattern.Items
/-!
# Groups in Front of a Parenthesis

The opening of a group ends with its bracket, or with the colon or parenthesis behind its flags, so
a parenthesis behind the text does not change how it is read. The same flags are set, which decides
on verbose mode, and the same names of captures have been seen.

Main results:
- `readFlags_follows`: flags, and what closes their list.
- `readCaptureName_follows`: the names of captures.
- `readGroupStart_follows`: whole openings.
-/

namespace ParserFoundry.Pattern.Reader

open Scan

variable {left : Nat} {alone grouped : Scan}

/-! ## Flags -/

/-- The same flags, if perhaps in other places. -/
def SameFlags (items items' : List (FlagItem × Span)) : Prop :=
  items.map Prod.fst = items'.map Prod.fst

/-- A flag is set by the items alone, not by where they stand. -/
theorem flagState_eq {items items' : List (FlagItem × Span)} (h : SameFlags items items')
    (flag : Flag) : flagState items flag = flagState items' flag := by
  have hgo (negated : Bool) :
      flagState.go flag negated items = flagState.go flag negated items' := by
    -- along the list; a negation turns round what the items behind it set
    induction items generalizing items' negated with
    | nil =>
      obtain rfl : items' = [] := List.map_eq_nil_iff.mp h.symm
      rfl
    | cons item rest ih =>
      obtain ⟨kind, span⟩ := item
      cases items' with
      | nil => cases h
      | cons item' rest' =>
        obtain ⟨kind', span'⟩ := item'
        obtain ⟨rfl, hrest⟩ := List.cons.inj h
        cases kind with
        | negation => exact ih hrest true
        | flag other =>
          simp only [flagState.go, ih hrest]
  exact hgo false

/-- The same flag behind two lists of the same flags. -/
theorem SameFlags.concat {items items' : List (FlagItem × Span)} (h : SameFlags items items')
    (item : FlagItem) (span span' : Span) :
    SameFlags (items ++ [(item, span)]) (items' ++ [(item, span')]) := by
  unfold SameFlags at h ⊢
  rw [List.map_append, List.map_append, h]
  rfl

/-- A flag that has not been set in one list has not been set in the other one. -/
theorem find?_flags_eq_none {items items' : List (FlagItem × Span)} (h : SameFlags items items')
    {item : FlagItem} (hnone : (items.find? fun entry => entry.1 = item) = none) :
    (items'.find? fun entry => entry.1 = item) = none := by
  -- the search sees the items alone, so it finds the same entry or none
  have hmap (items : List (FlagItem × Span)) :
      (items.find? fun entry => entry.1 = item).map Prod.fst =
        (items.map Prod.fst).find? fun kind => kind = item := by
    rw [List.find?_map]
    rfl
  have hnone' := hmap items'
  rw [← h, ← hmap items, hnone] at hnone'
  exact Option.map_eq_none_iff.mp hnone'

/-- An item that has been set before is a fault, and else reading goes on. -/
theorem unlessSet_follows {α β : Type} {related : α → β → Prop}
    {items items' : List (FlagItem × Span)} (h : SameFlags items items') (item : FlagItem)
    {span span' : Span} {first : Except Fault α} {second : Except Fault β}
    (hnext : Follows related first second) :
    Follows related
      (match items.find? fun entry => entry.1 = item with
        | some (.negation, earlier) => .error ⟨span, .flagRepeatedNegation earlier⟩
        | some (.flag _, earlier) => .error ⟨span, .flagDuplicate earlier⟩
        | none => first)
      (match items'.find? fun entry => entry.1 = item with
        | some (.negation, earlier) => .error ⟨span', .flagRepeatedNegation earlier⟩
        | some (.flag _, earlier) => .error ⟨span', .flagDuplicate earlier⟩
        | none => second) := by
  cases hfind : items.find? fun entry => entry.1 = item with
  | none =>
    rw [find?_flags_eq_none h hfind]
    exact hnext
  | some entry =>
    obtain ⟨kind, earlier⟩ := entry
    cases kind with
    | negation => exact .of_error _ _
    | flag other => exact .of_error _ _

/-- What closes a list of flags is part of the text. -/
theorem readFlags_follows {items items' : List (FlagItem × Span)} {steps steps' : Nat}
    (h : alone.Alongside left grouped) (hitems : SameFlags items items') (hsteps : steps ≤ steps') :
    Follows (fun found other => Both SameFlags left found other ∧ other.2.char? = found.2.char?)
      (readFlags items steps alone) (readFlags items' steps' grouped) := by
  -- on the steps of the text alone, of which the other text has as many or more
  induction steps generalizing steps' items items' alone grouped with
  | zero => exact .of_error _ _
  | succ steps ih =>
    cases steps' with
    | zero => exact absurd hsteps (Nat.not_succ_le_zero steps)
    | succ steps' =>
      have hsteps := Nat.le_of_succ_le_succ hsteps
      simp only [readFlags, throw_eq_error, error_bind, pure_eq_ok, ok_bind]
      cases hc : alone.char? with
      | none => exact .of_error _ _
      | some c =>
        rw [h.char?_eq hc]
        apply Follows.ite Iff.rfl
        · intro _
          -- the same item is the last one, so a negation dangles in both texts or in none
          have hlast : items.getLast?.map Prod.fst = items'.getLast?.map Prod.fst := by
            rw [← List.getLast?_map, ← List.getLast?_map, hitems]
          split
          · exact .of_error _ _
          · rename_i hkind
            split
            · rename_i span heq
              rw [heq] at hlast
              obtain ⟨⟨_, span⟩, hspan, rfl⟩ := Option.map_eq_some_iff.mp hlast
              exact absurd hspan (hkind span)
            · exact .of_ok ⟨⟨hitems, h⟩, (h.char?_eq hc).trans hc.symm⟩
        intro _
        split
        · exact unlessSet_follows hitems .negation (ih h.bump (hitems.concat _ _ _) hsteps)
        · exact unlessSet_follows hitems (.flag _) (ih h.bump (hitems.concat _ _ _) hsteps)
        · exact .of_error _ _

/-! ## Names of captures -/

/-- The characters of a name are no parentheses, so the name ends before it. -/
theorem readNameChars_follows {first : Bool} {steps steps' : Nat}
    (h : alone.Alongside left grouped) (hsteps : alone.rest.length < steps) (hle : steps ≤ steps') :
    Follows (Both Eq left) (readNameChars first steps alone)
      (readNameChars first steps' grouped) := by
  -- character by character, up to the bracket that ends the name
  induction steps generalizing first steps' alone grouped with
  | zero => exact absurd hsteps (Nat.not_lt_zero _)
  | succ steps ih =>
    cases steps' with
    | zero => exact absurd hle (Nat.not_succ_le_zero steps)
    | succ steps' =>
      have hle := Nat.le_of_succ_le_succ hle
      have hbump := h.bump
      simp only [readNameChars]
      cases hc : alone.char? with
      | none => exact .of_error _ _
      | some c =>
        rw [h.char?_eq hc]
        apply Follows.ite Iff.rfl
        · intro _
          exact .of_ok ⟨rfl, h⟩
        intro _
        apply Follows.ite Iff.rfl
        · intro _
          -- a name is never longer than the text, so the steps do not run out
          have hlt : alone.bump.rest.length < steps := by
            have hcons : alone.rest ≠ [] := by
              intro hnil
              simp [char?, hnil] at hc
            have hpos := List.length_pos_of_ne_nil hcons
            rw [length_bump]
            omega
          exact follows_cons (ih hbump hlt hle) c
        · intro _
          exact .of_error _ _

/-- The name of a capture is read alike, and has been seen in both readings or in neither. -/
theorem readCaptureName_follows (h : alone.Alongside left grouped) :
    Follows (Both (fun _ _ => True) left) (readCaptureName alone) (readCaptureName grouped) := by
  -- the name itself first, then what is made of it
  simp only [readCaptureName, throw_eq_error, error_bind, pure_eq_ok]
  apply (readNameChars_follows h (Nat.lt_succ_self _)
    (Nat.succ_le_succ h.length_le_length)).bind
  rintro ⟨name, after⟩ ⟨_, after'⟩ ⟨rfl, hafter⟩
  apply Follows.guard id
  intro _
  -- a name that has been seen in one text has been seen in the other one
  have hseen (names : List (String × Span)) :
      (names.find? fun entry => entry.1 == String.ofList name) = none ↔
        String.ofList name ∉ names.map Prod.fst := by
    rw [List.find?_eq_none, List.mem_map]
    simp only [beq_iff_eq]
    constructor
    · rintro hnone ⟨entry, hmem, heq⟩
      exact hnone entry hmem heq
    · intro hnone entry hmem heq
      exact hnone ⟨entry, hmem, heq⟩
  dsimp only
  cases hfind : after.names.find? fun entry => entry.1 == String.ofList name with
  | some entry => exact .of_error _ _
  | none =>
    have hfind' : (after'.names.find? fun entry => entry.1 == String.ofList name) = none := by
      rw [hseen, hafter.names, ← hseen]
      exact hfind
    have hbump := hafter.bump
    rw [hfind']
    refine .of_ok ⟨trivial, hbump.rest, hbump.verbose, ?_, hbump.length_le⟩
    simp [hafter.names]

/-! ## Openings -/

/-- Groups of one kind, or lists of flags. -/
inductive GroupStart.Alike : GroupStart → GroupStart → Prop where
  | group (captures captures' : Bool) {items items' : List (FlagItem × Span)} :
      SameFlags items items' → Alike (.group captures items) (.group captures' items')
  | flags (span span' : Span) {items items' : List (FlagItem × Span)} :
      SameFlags items items' → Alike (.flags span items) (.flags span' items')

/-- Where the text alone does not look around, neither does the other one. -/
theorem lookAround_follows (h : alone.Alongside left grouped) {start start' : Position}
    {tokens : List String} (htokens : ∀ token ∈ tokens, ')' ∉ token.toList) :
    Follows (fun _ _ => True)
      (forIn tokens PUnit.unit fun token _ =>
        match alone.accept? token with
        | some after => .error ⟨after.since start, .unsupportedLookAround⟩
        | _ => .ok (.yield PUnit.unit) : Except Fault PUnit)
      (forIn tokens PUnit.unit fun token _ =>
        match grouped.accept? token with
        | some after => .error ⟨after.since start', .unsupportedLookAround⟩
        | _ => .ok (.yield PUnit.unit) : Except Fault PUnit) := by
  induction tokens with
  | nil => exact .of_ok trivial
  | cons token tokens ih =>
    obtain ⟨htoken, hrest⟩ := List.forall_mem_cons.mp htokens
    -- no token of a look around is there in either text, or the text alone is refused
    rw [List.forIn_cons, List.forIn_cons]
    rcases h.accept? (n := 0) token htoken (Nat.zero_le _) with
      ⟨hnone, hnone'⟩ | ⟨after, after', hsome, hsome', -⟩
    · rw [hnone, hnone']
      exact ih hrest
    · rw [hsome]
      exact .of_error _ _

/-- What opens a group is read alike: a look around, a name, flags, or nothing. -/
theorem readGroupStart_follows (h : alone.Alongside (left + 1) grouped) :
    Follows (Both GroupStart.Alike left) (readGroupStart alone) (readGroupStart grouped) := by
  have hnext := h.next_succ
  simp only [readGroupStart, throw_eq_error, error_bind, pure_eq_ok]
  refine (lookAround_follows hnext (by decide)).bind ?_
  rintro _ _ -
  -- what comes next decides between a name, flags and a plain group
  rcases hnext.accept? (n := 0) "?P<" (by decide) (Nat.zero_le _) with
    ⟨hnone, hnone'⟩ | ⟨after, after', hsome, hsome', hafter⟩
  · rw [hnone, hnone']
    rcases hnext.accept? (n := 0) "?<" (by decide) (Nat.zero_le _) with
      ⟨hnone, hnone'⟩ | ⟨after, after', hsome, hsome', hafter⟩
    · rw [hnone, hnone']
      rcases hnext.accept? (n := 0) "?" (by decide) (Nat.zero_le _) with
        ⟨hnone, hnone'⟩ | ⟨after, after', hsome, hsome', hafter⟩
      · rw [hnone, hnone']
        exact .of_ok ⟨.group _ _ rfl, hnext⟩
      · rw [hsome, hsome']
        apply hafter.unlessAtEnd
        refine (readFlags_follows hafter rfl
          (Nat.succ_le_succ hafter.length_le_length)).bind ?_
        rintro ⟨items, rest⟩ ⟨items', rest'⟩ ⟨⟨hitems, hrest⟩, hchar⟩
        have hbump := hrest.bump
        have hempty : items'.isEmpty = items.isEmpty := by
          rw [← List.isEmpty_map (f := Prod.fst), ← hitems, List.isEmpty_map]
        simp only [hchar, hempty]
        apply Follows.ite Iff.rfl
        · intro _
          apply Follows.guard id
          intro _
          exact .of_ok ⟨.flags _ _ hitems, hbump⟩
        · intro _
          exact .of_ok ⟨.group _ _ hitems, hbump⟩
    · rw [hsome, hsome']
      apply (readCaptureName_follows hafter).bind
      rintro ⟨⟨⟩, rest⟩ ⟨⟨⟩, rest'⟩ ⟨-, hrest⟩
      exact .of_ok ⟨.group _ _ rfl, hrest⟩
  · rw [hsome, hsome']
    apply (readCaptureName_follows hafter).bind
    rintro ⟨⟨⟩, rest⟩ ⟨⟨⟩, rest'⟩ ⟨-, hrest⟩
    exact .of_ok ⟨.group _ _ rfl, hrest⟩

end ParserFoundry.Pattern.Reader

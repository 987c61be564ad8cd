import ParserFoundry.Json.Reader
/-!
# Reading What Was Printed

Every value whose numbers are counts and whose texts are well formed is read back from its compact
text, whatever may follow it inside a larger text.

Main results:
- `characters?_elementsOf`, `elements?_quoted`: texts with their escapes.
- `unsigned?_toDigits`: counts.
- `value?_print`: values in front of what may follow them.
- `read?_print`: whole texts.
-/

namespace ParserFoundry.Json

namespace Reader

/-! ## Texts -/

/-- The characters that are escaped by a letter or mark of their own, with that letter or mark. -/
def shortEscapes : List (Char × Char) :=
  [('"', '"'), ('\\', '\\'), ('\x08', 'b'), ('\x0C', 'f'), ('\n', 'n'), ('\r', 'r'), ('\t', 't')]

/-- What is read of one character of a printed text. -/
def elementOf (c : Char) : Element :=
  if c.toNat < 32 ∧ c ∉ shortEscapes.map Prod.fst then .unit c.toNat else .char c

/-- Read one element, and then the others. -/
def consElement (element : Element) (found : List Element × List Char) :
    List Element × List Char :=
  (element :: found.1, found.2)

/-- An escape by a letter or mark of its own is one character. -/
theorem elements?_shortEscape {e c : Char} (h : shortEscape? e = some c) (rest : List Char) :
    elements? ('\\' :: e :: rest) = (elements? rest).map (consElement (.char c)) := by
  -- the letter `u` starts a code, so it is none of those letters
  have hne : e ≠ 'u' := by
    intro heq
    rw [heq] at h
    cases h
  rw [elements?, h]
  · cases elements? rest <;> rfl
  · simp [hne]

/-- The digits of a control character's escape are those of its code. -/
theorem fourDigits?_controlEscape : ∀ code < 32,
    fourDigits? '0' '0' (hexDigits.getD (code / 16) '0') (hexDigits.getD (code % 16) '0') =
      some code := by
  decide

/-- An escape by a code is one code unit. -/
theorem elements?_controlEscape {c : Char} (h : c.toNat < 32) (rest : List Char) :
    elements? (controlEscape c ++ rest) = (elements? rest).map (consElement (.unit c.toNat)) := by
  rw [controlEscape, List.cons_append, List.cons_append, List.cons_append, List.cons_append,
    List.cons_append, List.cons_append, List.nil_append, elements?,
    fourDigits?_controlEscape c.toNat h]
  cases elements? rest <;> rfl

/-- A character that needs no escape stands for itself. -/
theorem elements?_cons {c : Char} (hquote : c ≠ '"') (hslash : c ≠ '\\') (h : ¬ c.toNat < 32)
    (rest : List Char) :
    elements? (c :: rest) = (elements? rest).map (consElement (.char c)) := by
  rw [elements?]
  · simp only [h, beq_eq_false_iff_ne.mpr hslash]
    cases elements? rest <;> rfl
  · exact hquote
  · simp [hslash]
  · simp [hslash]

/-- The letters and marks are read as the characters that they were written for. -/
theorem escape_of_mem : ∀ entry ∈ shortEscapes,
    escape entry.1 = ['\\', entry.2] ∧ shortEscape? entry.2 = some entry.1 := by
  decide

/-- Other characters are written as they are, unless they are control characters. -/
theorem escape_of_not_mem {c : Char} (h : c ∉ shortEscapes.map Prod.fst) :
    c ≠ '"' ∧ c ≠ '\\' ∧ escape c = if c.toNat < 32 then controlEscape c else [c] := by
  simp only [shortEscapes, List.map_cons, List.map_nil, List.mem_cons, List.not_mem_nil, or_false,
    not_or] at h
  simp [escape, h]

/-- A character is read back as one element, however it is escaped. -/
theorem elements?_escape (c : Char) (rest : List Char) :
    elements? (escape c ++ rest) = (elements? rest).map (consElement (elementOf c)) := by
  unfold elementOf
  -- a letter of its own, the code of a control character, or no escape at all
  by_cases hshort : c ∈ shortEscapes.map Prod.fst
  · obtain ⟨entry, hentry, rfl⟩ := List.mem_map.mp hshort
    obtain ⟨hescape, hread⟩ := escape_of_mem entry hentry
    rw [if_neg fun h => h.2 hshort, hescape]
    exact elements?_shortEscape hread rest
  · obtain ⟨hquote, hslash, hescape⟩ := escape_of_not_mem hshort
    rw [hescape]
    by_cases hcontrol : c.toNat < 32
    · rw [if_pos hcontrol, if_pos ⟨hcontrol, hshort⟩]
      exact elements?_controlEscape hcontrol rest
    · rw [if_neg hcontrol, if_neg fun h => hcontrol h.1]
      exact elements?_cons hquote hslash hcontrol rest

/-- A printed text is read up to its closing quote. -/
theorem elements?_quoted (text rest : List Char) :
    elements? (text.flatMap escape ++ '"' :: rest) = some (text.map elementOf, rest) := by
  induction text with
  | nil => simp [elements?]
  | cons c text ih =>
    rw [List.flatMap_cons, List.append_assoc, elements?_escape, ih]
    rfl

/-- A code unit that is no half of a pair is a character. -/
theorem characters?_unit {code : Nat} (h : code < 0xD800) (rest : List Element) :
    characters? (.unit code :: rest) = (characters? rest).map (Char.ofNat code :: ·) := by
  have hhigh : ¬ (0xD800 ≤ code ∧ code ≤ 0xDBFF) := by omega
  have hlow : ¬ (0xDC00 ≤ code ∧ code ≤ 0xDFFF) := by omega
  have hhalf : ¬ (0xD800 ≤ code ∧ code ≤ 0xDFFF) := by omega
  -- only another code unit could make a pair
  cases rest with
  | nil => simp only [characters?, if_neg hhalf]
  | cons next rest =>
    cases next with
    | char c => simp only [characters?, if_neg hhalf]
    | unit low => rw [characters?, if_neg hhigh, if_neg hlow]

/-- An element that was read of a character gives it back. -/
theorem characters?_elementOf (c : Char) (rest : List Element) :
    characters? (elementOf c :: rest) = (characters? rest).map (c :: ·) := by
  unfold elementOf
  -- the code of a control character is far below the halves of pairs
  split
  case isTrue h =>
    rw [characters?_unit (by omega), Char.ofNat_toNat]
  case isFalse => rw [characters?]

/-- The elements of a printed text are its characters. -/
theorem characters?_elementsOf (text : List Char) :
    characters? (text.map elementOf) = some text := by
  induction text with
  | nil => rfl
  | cons c text ih => rw [List.map_cons, characters?_elementOf, ih, Option.map_some]

/-! ## Counts -/

/-- Nothing but what stands behind a value: a comma, a closing bracket or brace, or the end. -/
def Ends (rest : List Char) : Prop :=
  ∀ c ∈ rest.head?, c = ',' ∨ c = ']' ∨ c = '\x7d'

theorem ends_nil : Ends [] := nofun

/-- A comma, or a closing bracket or brace, ends what stands in front of it. -/
theorem ends_cons {c : Char} (hc : c = ',' ∨ c = ']' ∨ c = '\x7d') (rest : List Char) :
    Ends (c :: rest) := by
  intro d hd
  obtain rfl : c = d := Option.some.inj hd
  exact hc

theorem eq_zero_of_digitChar : ∀ digit < 10, digit.digitChar = '0' → digit = 0 := by
  decide

/-- The first digit of a number is no zero, unless it is zero. -/
theorem eq_zero_of_toDigits {value : Nat} {digits : List Char}
    (h : Nat.toDigits 10 value = '0' :: digits) : value = 0 := by
  induction value using Nat.strongRecOn generalizing digits with
  | ind value ih =>
    rw [Nat.toDigits_eq_if (by decide)] at h
    split at h
    case isTrue hlt => exact eq_zero_of_digitChar value hlt (List.cons.inj h).1
    case isFalse hle =>
      -- the first digit is that of the quotient, which is not zero
      obtain ⟨first, others, hquotient⟩ :=
        List.exists_cons_of_ne_nil (Nat.toDigits_ne_nil : Nat.toDigits 10 (value / 10) ≠ [])
      rw [hquotient, List.cons_append] at h
      rw [(List.cons.inj h).1] at hquotient
      have hzero := ih (value / 10) (Nat.div_lt_self (by omega) (by decide)) hquotient
      omega

theorem isDigit_of_mem_toDigits {value : Nat} {c : Char} (hc : c ∈ Nat.toDigits 10 value) :
    c.isDigit = true :=
  Nat.isDigit_of_mem_toDigits (by decide) (by decide) hc

theorem ne_of_isDigit {marks : List Char} (hmarks : marks.any Char.isDigit = false) {c : Char}
    (hc : c.isDigit = true) : ∀ mark ∈ marks, c ≠ mark := by
  intro mark hmem heq
  rw [heq] at hc
  exact List.any_eq_false.mp hmarks mark hmem hc

/-- What stands behind a number is no part of it. -/
theorem Ends.not_digit {rest : List Char} (h : Ends rest) :
    ∀ c ∈ rest.head?, c.isDigit = false := by
  intro c hc
  rcases h c hc with rfl | rfl | rfl <;> decide

/-- The digits of a number are read up to whatever ends it. -/
theorem digits?_toDigits {rest : List Char} (h : Ends rest) (value : Nat) :
    digits? (Nat.toDigits 10 value ++ rest) = some (Nat.toDigits 10 value, rest) := by
  have hall : ∀ c ∈ Nat.toDigits 10 value, c.isDigit = true := fun c hc =>
    isDigit_of_mem_toDigits hc
  -- the digits of the number are taken, and no more
  have htake : rest.takeWhile Char.isDigit = [] := by
    cases rest with
    | nil => rfl
    | cons c rest => exact List.takeWhile_cons_of_neg (by simp [h.not_digit c rfl])
  have hdrop : rest.dropWhile Char.isDigit = rest := by
    cases rest with
    | nil => rfl
    | cons c rest => exact List.dropWhile_cons_of_neg (by simp [h.not_digit c rfl])
  have hne : Nat.toDigits 10 value ≠ [] := Nat.toDigits_ne_nil
  simp [digits?, List.takeWhile_append_of_pos hall, List.dropWhile_append_of_pos hall, htake, hdrop,
    hne]

/-- No leading zero is in the way, since only zero starts with one. -/
theorem whole?_toDigits {rest : List Char} (h : Ends rest) (value : Nat) :
    whole? (Nat.toDigits 10 value ++ rest) = some (Nat.toDigits 10 value, rest) := by
  unfold whole?
  rw [digits?_toDigits h value]
  split
  case h_1 hfound => exact hfound.symm
  case h_2 others _ halone hfound =>
    -- a zero that comes first is the only digit
    obtain ⟨hdigits, -⟩ := Prod.mk.inj (Option.some.inj hfound)
    rw [eq_zero_of_toDigits hdigits, Nat.toDigits_zero] at hdigits
    exact (halone (List.cons.inj hdigits).2.symm).elim
  case h_3 => rfl

/-- A printed number has neither a fraction nor an exponent. -/
theorem unsigned?_toDigits {rest : List Char} (h : Ends rest) (value : Nat) :
    unsigned? (Nat.toDigits 10 value ++ rest) = some (Nat.toDigits 10 value, rest) := by
  -- what ends a number starts neither a fraction nor an exponent
  have hfraction : fraction? rest = some ([], rest) := by
    -- whatever ends a number is a comma, a bracket, a brace or nothing
    cases rest with
    | nil => rfl
    | cons c rest => rcases h c rfl with rfl | rfl | rfl <;> rfl
  have hexponent : exponent? rest = some ([], rest) := by
    cases rest with
    | nil => rfl
    | cons c rest => rcases h c rfl with rfl | rfl | rfl <;> rfl
  simp [unsigned?, whole?_toDigits h, hfraction, hexponent]

/-! ## Values -/

end Reader

/-- Members whose names are well formed. -/
def named (members : List (List Char × Json)) : List (Option (List Char) × Json) :=
  members.map fun (name, value) => (some name, value)

/-- Numbers are counts, and texts are well formed. -/
inductive Canonical : Json → Prop
  | null : Canonical null
  | bool (value : Bool) : Canonical (bool value)
  | number (value : Nat) : Canonical (.ofNat value)
  | text (value : List Char) : Canonical (text (some value))
  | array {items : List Json} : (∀ item ∈ items, Canonical item) → Canonical (array items)
  | object {members : List (List Char × Json)} : (∀ entry ∈ members, Canonical entry.2) →
      Canonical (object (named members))

namespace Reader

/-- A printed value starts with no blank, and with no closing bracket. -/
theorem exists_head_print {json : Json} (h : Canonical json) :
    ∃ c tail, json.print = c :: tail ∧ isBlank c = false ∧ c ≠ ']' := by
  cases h with
  | null => exact ⟨_, _, rfl, by decide⟩
  | bool value => cases value <;> exact ⟨_, _, rfl, by decide⟩
  | number value =>
    obtain ⟨c, tail, hdigits⟩ :=
      List.exists_cons_of_ne_nil (Nat.toDigits_ne_nil : Nat.toDigits 10 value ≠ [])
    have hdigit : c.isDigit = true := isDigit_of_mem_toDigits (hdigits ▸ List.mem_cons_self)
    have hmark : ∀ mark ∈ [' ', '\n', '\t', '\r', ']'], c ≠ mark :=
      ne_of_isDigit rfl hdigit
    refine ⟨c, tail, by rw [ofNat, print, hdigits], ?_, hmark ']' (by decide)⟩
    simp only [isBlank, Bool.or_eq_false_iff, beq_eq_false_iff_ne]
    simp [hmark]
  | text value => exact ⟨_, _, by rw [print, quoted]; rfl, by decide⟩
  | array hitems => exact ⟨_, _, by rw [print]; rfl, by decide⟩
  | object hmembers => exact ⟨_, _, by rw [print]; rfl, by decide⟩

/-- There are no blanks to be skipped in front of a printed value. -/
theorem skip_print {json : Json} (h : Canonical json) (rest : List Char) :
    skip (json.print ++ rest) = json.print ++ rest := by
  obtain ⟨c, tail, hprint, hblank, -⟩ := exists_head_print h
  rw [hprint, List.cons_append, skip, List.dropWhile_cons_of_neg (by simp [hblank])]

/-- A value is read back in front of whatever may follow it, if the nesting may be as deep as its
text is long. -/
def ReadsBack (json : Json) : Prop :=
  ∀ depth rest, Ends rest → json.print.length ≤ depth →
    value? depth (json.print ++ rest) = some (json, rest)

/-- With a digit in front, a number is read. -/
theorem value?_digit {c : Char} (hc : c.isDigit = true) (depth : Nat) (rest : List Char) :
    value? (depth + 1) (c :: rest) =
      (unsigned? (c :: rest)).map fun (digits, rest) => (number digits, rest) := by
  have hmark : ∀ mark ∈ ['"', '[', '\x7b', '-', 'n', 't', 'f'], c ≠ mark :=
    ne_of_isDigit rfl hc
  rw [value?]
  all_goals simp [hmark]

/-- Numbers are read back. -/
theorem readsBack_number (value : Nat) : ReadsBack (.ofNat value) := by
  intro depth rest hrest hdepth
  obtain ⟨c, tail, hdigits⟩ :=
    List.exists_cons_of_ne_nil (Nat.toDigits_ne_nil : Nat.toDigits 10 value ≠ [])
  have hdigit : c.isDigit = true := isDigit_of_mem_toDigits (hdigits ▸ List.mem_cons_self)
  rw [ofNat, print] at hdepth ⊢
  -- a number has a digit, so there is a step for it
  obtain ⟨steps, rfl⟩ : ∃ steps, depth = steps + 1 := by
    rw [hdigits, List.length_cons] at hdepth
    exact ⟨depth - 1, by omega⟩
  have hread := unsigned?_toDigits hrest value
  rw [hdigits, List.cons_append] at hread ⊢
  rw [value?_digit hdigit, hread]
  rfl

/-- Texts are read back, with all of their escapes. -/
theorem readsBack_text (value : List Char) : ReadsBack (text (some value)) := by
  intro depth rest _ hdepth
  -- the opening quote takes one step
  obtain ⟨steps, rfl⟩ : ∃ steps, depth = steps + 1 := by
    rw [print, quoted, List.cons_append, List.length_cons] at hdepth
    exact ⟨depth - 1, by omega⟩
  have hread := elements?_quoted value rest
  rw [print, quoted, Option.getD_some, List.append_assoc, List.cons_append, List.cons_append,
    List.nil_append, value?, hread]
  simp [characters?_elementsOf]

/-! ### Arrays -/

/-- Behind every item but the last one there is a comma. -/
theorem printItems_cons (item : Json) (rest : List Json) :
    printItems (item :: rest) =
      item.print ++ if rest = [] then [] else ',' :: printItems rest := by
  cases rest with
  | nil => simp [printItems]
  | cons next rest => simp [printItems]

/-- An item in front of the closing bracket is the last one. -/
theorem items?_last {steps : Nat} {input rest : List Char} {item : Json}
    (h : value? steps input = some (item, ']' :: rest)) :
    items? (steps + 1) input = some ([item], rest) := by
  rw [items?, h]
  rfl

/-- An item in front of a comma is followed by others. -/
theorem items?_comma {steps : Nat} {input rest : List Char} {item : Json}
    (h : value? steps input = some (item, ',' :: rest)) :
    items? (steps + 1) input =
      (items? steps (skip rest)).map fun (others, rest) => (item :: others, rest) := by
  have hskip : skip (',' :: rest) = ',' :: rest := rfl
  rw [items?, h]
  -- no blank stands in front of the comma
  simp only [Option.bind_eq_bind, Option.bind_some, hskip]
  cases items? steps (skip rest) <;> rfl

theorem skip_printItems {items : List Json} (hne : items ≠ [])
    (hcanonical : ∀ item ∈ items, Canonical item) (rest : List Char) :
    skip (printItems items ++ rest) = printItems items ++ rest := by
  obtain ⟨item, others, rfl⟩ := List.exists_cons_of_ne_nil hne
  rw [printItems_cons, List.append_assoc]
  exact skip_print (hcanonical item List.mem_cons_self) _

/-- Items are read back up to the bracket that closes them. -/
theorem items?_printItems {items : List Json} (hne : items ≠ [])
    (hcanonical : ∀ item ∈ items, Canonical item) (hitems : ∀ item ∈ items, ReadsBack item)
    {steps : Nat} (hsteps : (printItems items).length < steps) (rest : List Char) :
    items? steps (printItems items ++ ']' :: rest) = some (items, rest) := by
  -- an item takes one step, and at least one character
  induction items generalizing steps with
  | nil => exact absurd rfl hne
  | cons item others ih =>
    obtain ⟨hitem, hothers⟩ := List.forall_mem_cons.mp hitems
    obtain ⟨-, hcanonical⟩ := List.forall_mem_cons.mp hcanonical
    obtain ⟨steps, rfl⟩ : ∃ more, steps = more + 1 := ⟨steps - 1, by omega⟩
    rw [printItems_cons] at hsteps ⊢
    rw [List.length_append] at hsteps
    by_cases hlast : others = []
    · rw [if_pos hlast, List.append_nil, hlast]
      exact items?_last (hitem steps _ (ends_cons (by decide) rest) (by omega))
    · -- the comma takes one more step, and stands for one more character
      rw [if_neg hlast] at hsteps ⊢
      rw [List.length_cons] at hsteps
      rw [List.append_assoc, List.cons_append,
        items?_comma (hitem steps _ (ends_cons (by decide) _) (by omega)),
        skip_printItems hlast hcanonical, ih hlast hcanonical hothers (by omega)]
      rfl

theorem value?_open_bracket {depth : Nat} {input : List Char} (hskip : skip input = input)
    (hne : input.head? ≠ some ']') :
    value? (depth + 1) ('[' :: input) =
      (items? depth input).map fun (items, rest) => (array items, rest) := by
  rw [value?, hskip]
  split
  case h_1 => exact absurd rfl hne
  case h_2 => rfl

/-- An array is read back if its items are. -/
theorem readsBack_array {items : List Json} (hcanonical : ∀ item ∈ items, Canonical item)
    (hitems : ∀ item ∈ items, ReadsBack item) : ReadsBack (array items) := by
  intro depth rest _ hdepth
  rw [print, List.cons_append, List.length_cons, List.length_append, List.length_singleton] at hdepth
  -- the opening bracket takes one step
  obtain ⟨steps, rfl⟩ : ∃ steps, depth = steps + 1 := ⟨depth - 1, by omega⟩
  rw [print, List.cons_append, List.cons_append, List.append_assoc, List.singleton_append]
  by_cases hne : items = []
  · rw [hne]
    rfl
  · -- an item in front keeps the array from being taken for an empty one
    have hhead : (printItems items ++ ']' :: rest).head? ≠ some ']' := by
      obtain ⟨item, others, rfl⟩ := List.exists_cons_of_ne_nil hne
      obtain ⟨c, tail, hprint, -, hc⟩ := exists_head_print (hcanonical item List.mem_cons_self)
      rw [printItems_cons, hprint]
      simpa using hc
    rw [value?_open_bracket (skip_printItems hne hcanonical _) hhead,
      items?_printItems hne hcanonical hitems (by omega)]
    rfl

/-! ### Objects -/

/-- Behind every member but the last one there is a comma. -/
theorem printMembers_cons (name : List Char) (value : Json) (rest : List (List Char × Json)) :
    printMembers (named ((name, value) :: rest)) =
      quoted name ++ ':' :: value.print ++
        if rest = [] then [] else ',' :: printMembers (named rest) := by
  cases rest with
  | nil => simp [named, printMembers]
  | cons next rest => simp [named, printMembers]

/-- A member in front of the brace that closes the object. -/
theorem members?_last {steps : Nat} (name : List Char) {input rest : List Char} {value : Json}
    (hskip : skip input = input) (h : value? steps input = some (value, '\x7d' :: rest)) :
    members? (steps + 1) (quoted name ++ ':' :: input) = some ([(some name, value)], rest) := by
  have hname := elements?_quoted name (':' :: input)
  -- there are no blanks in a compact text
  have hcolon : skip (':' :: input) = ':' :: input := rfl
  have hbrace : skip ('\x7d' :: rest) = '\x7d' :: rest := rfl
  simp only [quoted, List.cons_append, List.append_assoc, List.nil_append, members?, hname,
    Option.bind_eq_bind, Option.bind_some, hcolon, hskip, h, hbrace, characters?_elementsOf]
  rfl

/-- A member in front of a comma is followed by others. -/
theorem members?_comma {steps : Nat} (name : List Char) {input rest : List Char} {value : Json}
    (hskip : skip input = input) (h : value? steps input = some (value, ',' :: rest)) :
    members? (steps + 1) (quoted name ++ ':' :: input) =
      (members? steps (skip rest)).map fun (others, rest) =>
        ((some name, value) :: others, rest) := by
  -- the name is read up to its own closing quote
  have hname := elements?_quoted name (':' :: input)
  have hcolon : skip (':' :: input) = ':' :: input := rfl
  have hcomma : skip (',' :: rest) = ',' :: rest := rfl
  simp only [quoted, List.cons_append, List.append_assoc, List.nil_append, members?, hname,
    Option.bind_eq_bind, Option.bind_some, hcolon, hskip, h, hcomma, characters?_elementsOf]
  cases members? steps (skip rest) <;> rfl

theorem skip_printMembers {members : List (List Char × Json)} (hne : members ≠ [])
    (rest : List Char) :
    skip (printMembers (named members) ++ rest) = printMembers (named members) ++ rest := by
  obtain ⟨member, others, rfl⟩ := List.exists_cons_of_ne_nil hne
  rw [printMembers_cons, quoted]
  rfl

/-- Members are read back up to the brace that closes them. -/
theorem members?_printMembers {members : List (List Char × Json)} (hne : members ≠ [])
    (hcanonical : ∀ entry ∈ members, Canonical entry.2)
    (hmembers : ∀ entry ∈ members, ReadsBack entry.2) {steps : Nat}
    (hsteps : (printMembers (named members)).length < steps) (rest : List Char) :
    members? steps (printMembers (named members) ++ '\x7d' :: rest) =
      some (named members, rest) := by
  -- a member takes one step, and at least four characters
  induction members generalizing steps with
  | nil => exact absurd rfl hne
  | cons entry others ih =>
    obtain ⟨name, value⟩ := entry
    have hvalue : ReadsBack value := hmembers _ List.mem_cons_self
    have hothers := (List.forall_mem_cons.mp hmembers).2
    obtain ⟨hfirst, hcanonical⟩ := List.forall_mem_cons.mp hcanonical
    obtain ⟨steps, rfl⟩ : ∃ more, steps = more + 1 := ⟨steps - 1, by omega⟩
    rw [printMembers_cons] at hsteps ⊢
    simp only [List.length_append, List.length_cons] at hsteps
    have hskip := skip_print hfirst
    -- behind the last member comes the brace, and behind any other one a comma
    by_cases hlast : others = []
    · rw [if_pos hlast, List.append_nil, List.append_assoc, List.cons_append, hlast]
      exact members?_last name (hskip _)
        (hvalue steps _ (ends_cons (by decide) rest) (by omega))
    · rw [if_neg hlast] at hsteps ⊢
      rw [List.length_cons] at hsteps
      rw [List.append_assoc, List.append_assoc, List.cons_append, List.cons_append,
        members?_comma name (hskip _) (hvalue steps _ (ends_cons (by decide) _) (by omega)),
        skip_printMembers hlast, ih hlast hcanonical hothers (by omega)]
      rfl

theorem value?_open_brace {depth : Nat} {input : List Char} (hskip : skip input = input)
    (hne : input.head? ≠ some '\x7d') :
    value? (depth + 1) ('\x7b' :: input) =
      (members? depth input).map fun (members, rest) => (object members, rest) := by
  rw [value?, hskip]
  split
  case h_1 => exact absurd rfl hne
  case h_2 => rfl

/-- An object is read back if the values of its members are. -/
theorem readsBack_object {members : List (List Char × Json)}
    (hcanonical : ∀ entry ∈ members, Canonical entry.2)
    (hmembers : ∀ entry ∈ members, ReadsBack entry.2) : ReadsBack (object (named members)) := by
  intro depth rest _ hdepth
  rw [print, List.cons_append, List.length_cons, List.length_append, List.length_singleton] at hdepth
  obtain ⟨steps, rfl⟩ : ∃ steps, depth = steps + 1 := ⟨depth - 1, by omega⟩
  rw [print, List.cons_append, List.cons_append, List.append_assoc, List.singleton_append]
  by_cases hne : members = []
  · rw [hne]
    rfl
  · -- the quote of the first name keeps the object from being taken for an empty one
    have hhead : (printMembers (named members) ++ '\x7d' :: rest).head? ≠ some '\x7d' := by
      obtain ⟨entry, others, rfl⟩ := List.exists_cons_of_ne_nil hne
      rw [printMembers_cons, quoted]
      simp
    rw [value?_open_brace (skip_printMembers hne _) hhead,
      members?_printMembers hne hcanonical hmembers (by omega)]
    rfl

/-! ### All values -/

/-- A value that is a word of its own is read back. -/
theorem readsBack_word {word : List Char} {value : Json} (hprint : value.print = word)
    (hread : ∀ steps rest, value? (steps + 1) (word ++ rest) = some (value, rest))
    (hne : word ≠ []) : ReadsBack value := by
  intro depth rest _ hdepth
  rw [hprint] at hdepth ⊢
  -- a word has a character, so there is a step for it
  have hpositive := List.length_pos_iff.mpr hne
  obtain ⟨steps, rfl⟩ : ∃ steps, depth = steps + 1 := ⟨depth - 1, by omega⟩
  exact hread steps rest

/-- Every value is read back in front of whatever may follow it. -/
theorem value?_print {json : Json} (h : Canonical json) : ReadsBack json := by
  -- the parts of a canonical value are canonical, so they are read back where they stand
  induction h with
  | null => exact readsBack_word rfl (fun _ _ => rfl) (by decide)
  | bool value =>
    cases value with
    | false => exact readsBack_word rfl (fun _ _ => rfl) (by decide)
    | true => exact readsBack_word rfl (fun _ _ => rfl) (by decide)
  | number value => exact readsBack_number value
  | text value => exact readsBack_text value
  | array hitems ih => exact readsBack_array hitems ih
  | object hmembers ih => exact readsBack_object hmembers ih

end Reader

open Reader

/-- The value that was printed is read from the whole of its text. -/
theorem read?_print {json : Json} (h : Canonical json) : read? json.print = some json := by
  have hskip := skip_print h []
  have hread := value?_print h (json.print.length + 1) [] ends_nil (Nat.le_succ _)
  rw [List.append_nil] at hskip hread
  rw [read?, hskip, hread]
  rfl

end ParserFoundry.Json

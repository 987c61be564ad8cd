import Mathlib.Data.List.Forall2
import ParserFoundry.Code.Literal
import ParserFoundry.Code.Reading
import ParserFoundry.Proofs.Layout.Spelling
/-!
# What Readers Find

The readers of generated code, one by one: what each of them finds at the front of a text that
spells it.

Main results:
- `textFrom?_escapeAll`: a text is read back from its escapes, whatever characters it has.
- `number?_toString`, `name?_append`: numbers and names are read back up to the next mark.
- `separated?_listed`: the items of a list are read back from all of its spellings.
-/

namespace ParserFoundry.Code.Reading

open Layout (Blank Spelled Listed isSpace)

variable {blanks rest text : List Char}

/-! ## Blanks and tokens -/

/-- Blanks in front are skipped, however many there are. -/
theorem skip_append (hblank : Blank blanks) (rest : List Char) :
    skip (blanks ++ rest) = skip rest :=
  List.dropWhile_append_of_pos hblank

/-- In front of ink nothing is skipped. -/
theorem skip_cons {c : Char} (hc : isSpace c = false) (rest : List Char) :
    skip (c :: rest) = c :: rest := by
  simp [skip, hc]

theorem skip_blank (hblank : Blank blanks) : skip blanks = [] := by
  simpa [skip] using skip_append hblank []

/-- A token may have blanks in front of it. -/
theorem expect?_blank (hblank : Blank blanks) (token : String) (rest : List Char) :
    expect? token (blanks ++ rest) = expect? token rest := by
  simp only [expect?, skip_append hblank]

/-- A token that starts with ink is passed. -/
theorem expect?_append (token : String)
    (htoken : (token.toList.head?.any fun c => !isSpace c) = true) (rest : List Char) :
    expect? token (token.toList ++ rest) = some rest := by
  obtain ⟨c, hc, hink⟩ := (Option.any_eq_true ..).mp htoken
  obtain ⟨tail, htail⟩ := List.head?_eq_some_iff.mp hc
  -- the token starts with ink, so no blank is skipped before it
  have hskip : skip (token.toList ++ rest) = token.toList ++ rest := by
    rw [htail, List.cons_append, skip_cons (by simpa using hink)]
  simp [expect?, hskip]

/-- A token does not come next where the ink starts with another character. -/
theorem expect?_eq_none {token : String} {c : Char} (hc : isSpace c = false)
    (htoken : token.toList.head?.any (· != c) = true) : expect? token (c :: rest) = none := by
  obtain ⟨d, hd, hne⟩ := (Option.any_eq_true ..).mp htoken
  obtain ⟨tail, htail⟩ := List.head?_eq_some_iff.mp hd
  have : d ≠ c := by simpa using hne
  simp [expect?, skip_cons hc, htail, this]

/-- Whether two words have different characters in some place, so that no text starts with both. -/
def disagree (first second : String) : Bool :=
  (first.toList.zip second.toList).any fun pair => pair.1 != pair.2

/-- A token does not come next where other words do. -/
theorem expect?_eq_none_of_disagree {token start : String}
    (hstart : (start.toList.head?.any fun c => !isSpace c) = true)
    (hdisagree : disagree token start = true) (rest : List Char) :
    expect? token (start.toList ++ rest) = none := by
  obtain ⟨c, hc, hink⟩ := (Option.any_eq_true ..).mp hstart
  obtain ⟨tail, htail⟩ := List.head?_eq_some_iff.mp hc
  have hskip : skip (start.toList ++ rest) = start.toList ++ rest := by
    rw [htail, List.cons_append, skip_cons (by simpa using hink)]
  have hnot : ¬ token.toList.isPrefixOf (start.toList ++ rest) := by
    -- a common start would have the same characters in the place where the two differ
    intro hprefix
    obtain ⟨pair, hpair, hne⟩ := List.any_eq_true.mp hdisagree
    obtain ⟨i, hi, rfl⟩ := List.getElem_of_mem hpair
    rw [List.length_zip] at hi
    have hsame := (List.isPrefixOf_iff_prefix.mp hprefix).getElem (by omega : i < token.toList.length)
    rw [List.getElem_append_left (by omega)] at hsame
    simp [List.getElem_zip, hsame] at hne
  simp [expect?, hskip, hnot]

/-! ## Names and numbers -/

/-- What may follow a name or a number. -/
def NotWord (rest : List Char) : Prop :=
  ∀ c ∈ rest.head?, isWordChar c = false

/-- A character of a word is ink. -/
theorem isSpace_of_isWordChar {c : Char} (hc : isWordChar c = true) : isSpace c = false := by
  simp only [isWordChar, Bool.not_or, Bool.and_eq_true, Bool.not_eq_true'] at hc
  exact hc.1

/-- A mark ends the word in front of it. -/
theorem notWord_cons {c : Char} (hc : isWordChar c = false) (rest : List Char) :
    NotWord (c :: rest) := by
  rintro _ ⟨⟩
  exact hc

/-- A word is read up to the first character that is none of it. -/
theorem word?_append {found : List Char} (hfound : found ≠ []) (hword : ∀ c ∈ found, isWordChar c)
    (hrest : NotWord rest) : word? (found ++ rest) = some (found, rest) := by
  have hskip : skip (found ++ rest) = found ++ rest := by
    -- a word is not empty and is ink, so nothing is skipped before it
    obtain ⟨c, tail, rfl⟩ := List.exists_cons_of_ne_nil hfound
    exact skip_cons (isSpace_of_isWordChar (hword c (List.mem_cons_self ..))) _
  have htake : rest.takeWhile isWordChar = [] := by
    cases rest with
    | nil => rfl
    | cons c tail => simp [hrest c rfl]
  have hdrop : rest.dropWhile isWordChar = rest := by
    cases rest with
    | nil => rfl
    | cons c tail => simp [hrest c rfl]
  simp [word?, hskip, List.takeWhile_append_of_pos hword, List.dropWhile_append_of_pos hword, htake,
    hdrop, hfound]

/-- A plain name is a word that starts with no digit. -/
theorem isPlainName_spec {name : String} (h : isPlainName name = true) :
    ∃ c tail, name.toList = c :: tail ∧ c.isDigit = false ∧ ∀ d ∈ name.toList, isWordChar d := by
  simp only [isPlainName, Bool.and_eq_true, Option.any_eq_true, List.all_eq_true] at h
  obtain ⟨⟨c, hc, hdigit⟩, hword⟩ := h
  obtain ⟨tail, htail⟩ := List.head?_eq_some_iff.mp hc
  exact ⟨c, tail, htail, by simpa using hdigit, hword⟩

/-- A name is read up to the next mark. -/
theorem name?_append {name : String} (hname : isPlainName name = true) (hrest : NotWord rest) :
    name? (name.toList ++ rest) = some (name, rest) := by
  obtain ⟨c, tail, htail, -, hword⟩ := isPlainName_spec hname
  have hne : name.toList ≠ [] := by simp [htail]
  simp [name?, word?_append hne hword hrest]

/-- Blanks in front of a name are skipped. -/
theorem name?_blank (hblank : Blank blanks) (rest : List Char) :
    name? (blanks ++ rest) = name? rest := by
  simp only [name?, word?, skip_append hblank]

/-- A name is no number. -/
theorem number?_name {name : String} (hname : isPlainName name = true) (hrest : NotWord rest) :
    number? (name.toList ++ rest) = none := by
  obtain ⟨c, tail, htail, hdigit, hword⟩ := isPlainName_spec hname
  have hne : name.toList ≠ [] := by simp [htail]
  have hall : name.toList.all Char.isDigit = false := by simp [htail, hdigit]
  simp only [number?, word?_append hne hword hrest, Option.bind_eq_bind, Option.bind_some, hall]
  rfl

/-- Only blanks and marks end a word, so a class of characters can be checked against a list. -/
theorem isWordChar_eq_false_iff {c : Char} :
    isWordChar c = false ↔ c ∈ ' ' :: '\n' :: delimiters := by
  -- blanks are the space and the line feed, and the marks are listed
  simp only [isWordChar, isSpace, Bool.not_eq_false', Bool.or_eq_true, beq_iff_eq,
    List.contains_iff_mem, List.mem_cons, or_assoc]

/-- No member of a list is in a class that the list is checked against. -/
theorem eq_false_of_all {within : Char → Bool} {marks : List Char}
    (hmarks : (marks.all fun mark => !within mark) = true) {c : Char} (hc : c ∈ marks) :
    within c = false := by
  simpa using List.all_eq_true.mp hmarks c hc

/-- A class of characters without blanks and marks is made of word characters. -/
theorem isWordChar_of {within : Char → Bool} {c : Char}
    (hmarks : ((' ' :: '\n' :: delimiters).all fun mark => !within mark) = true)
    (hc : within c = true) : isWordChar c = true := by
  cases hword : isWordChar c with
  | true => rfl
  | false =>
    have hmark := eq_false_of_all hmarks (isWordChar_eq_false_iff.mp hword)
    rw [hc] at hmark
    cases hmark

/-- Numbers are words. -/
theorem isWordChar_of_isDigit {c : Char} (hc : c.isDigit = true) : isWordChar c = true :=
  isWordChar_of (by decide) hc

/-- Blanks in front of a number are skipped. -/
theorem number?_blank (hblank : Blank blanks) (rest : List Char) :
    number? (blanks ++ rest) = number? rest := by
  simp only [number?, word?, skip_append hblank]

/-- A number starts with a digit. -/
theorem exists_digit (value : Nat) :
    ∃ c tail, (toString value).toList = c :: tail ∧ c.isDigit = true := by
  have hne : Nat.toDigits 10 value ≠ [] := Nat.toDigits_ne_nil
  obtain ⟨c, tail, htail⟩ := List.exists_cons_of_ne_nil hne
  refine ⟨c, tail, ?_, ?_⟩
  · rw [Nat.toString_eq_ofList_toDigits, String.toList_ofList, htail]
  · exact Nat.isDigit_of_mem_toDigits (by decide) (by decide) (htail ▸ List.mem_cons_self ..)

/-- A number is read back from its decimal digits, up to the next mark. -/
theorem number?_toString (value : Nat) (hrest : NotWord rest) :
    number? ((toString value).toList ++ rest) = some (value, rest) := by
  -- the digits are a word, and are all digits, so they are the number's own
  have hdigits : ∀ c ∈ Nat.toDigits 10 value, c.isDigit = true := fun c hc =>
    Nat.isDigit_of_mem_toDigits (by decide) (by decide) hc
  have hword : ∀ c ∈ Nat.toDigits 10 value, isWordChar c := fun c hc =>
    isWordChar_of_isDigit (hdigits c hc)
  have hall : (Nat.toDigits 10 value).all Char.isDigit = true := List.all_eq_true.mpr hdigits
  rw [Nat.toString_eq_ofList_toDigits, String.toList_ofList]
  simp only [number?, word?_append Nat.toDigits_ne_nil hword hrest, Option.bind_eq_bind,
    Option.bind_some, hall, if_true, Nat.ofDigitChars_ten_toDigits]
  rfl

/-! ## Texts -/

/-- The sixteen digits are read back. -/
theorem hexDigit?_digitChar : ∀ digit < 16, hexDigit? digit.digitChar = some digit := by
  decide

/-- None of them closes the escape. -/
theorem digitChar_ne_brace : ∀ digit < 16, digit.digitChar ≠ '\x7d' := by
  decide

/-- A digit in an escape by number. -/
theorem textFrom?_digitChar {digit : Nat} (hdigit : digit < 16) (code : Nat) (rest : List Char) :
    textFrom? (some code) (digit.digitChar :: rest) = textFrom? (some (code * 16 + digit)) rest := by
  rw [textFrom?]
  · rw [hexDigit?_digitChar digit hdigit, Option.bind_some]
  · exact digitChar_ne_brace digit hdigit

/-- The digits of a number in an escape are read back. -/
theorem textFrom?_hexadecimal (value : Nat) (rest : List Char) :
    textFrom? (some 0) (hexadecimal value ++ rest) = textFrom? (some value) rest := by
  -- on the number: its last digit is written behind those of the quotient
  induction value using Nat.strongRecOn generalizing rest with
  | ind value ih =>
    rw [hexadecimal, Nat.toDigits_eq_if (by decide)]
    split
    case isTrue hlt =>
      rw [List.singleton_append, textFrom?_digitChar hlt, Nat.zero_mul, Nat.zero_add]
    case isFalse hle =>
      -- all digits but the last one are those of the quotient
      have hquotient : value / 16 < value := Nat.div_lt_self (by omega) (by decide)
      have hlast : value % 16 < 16 := Nat.mod_lt _ (by decide)
      rw [List.append_assoc, ← hexadecimal, ih _ hquotient, List.singleton_append,
        textFrom?_digitChar hlast, Nat.div_add_mod']

/-- A character that needs no escape. -/
theorem textFrom?_cons {c : Char} (hquote : c ≠ '"') (hslash : c ≠ '\\') (rest : List Char) :
    textFrom? none (c :: rest) =
      (textFrom? none rest).map fun (found, rest) => (c :: found, rest) := by
  rw [textFrom?]
  all_goals simp_all

/-- An escape of one character. -/
theorem textFrom?_backslash {c escaped : Char}
    (hlookup : [('0', '\x00'), ('t', '\t'), ('r', '\r'), ('n', '\n'), ('"', '"'),
      ('\\', '\\')].lookup c = some escaped) (rest : List Char) :
    textFrom? none ('\\' :: c :: rest) =
      (textFrom? none rest).map fun (found, rest) => (escaped :: found, rest) := by
  rw [textFrom?]
  · rw [hlookup]
    rfl
  · rintro tail rfl
    simp [List.lookup_cons] at hlookup
  · rintro tail rfl
    simp [List.lookup_cons] at hlookup

/-- A character within quotes is read back. -/
theorem textFrom?_escape (c : Char) (rest : List Char) :
    textFrom? none (escape c ++ rest) =
      (textFrom? none rest).map fun (found, rest) => (c :: found, rest) := by
  rw [escape]
  -- six escapes of one character or none, and the escape by number for all else
  split
  case isTrue h => subst h; exact textFrom?_backslash rfl rest
  split
  case isTrue h => subst h; exact textFrom?_backslash rfl rest
  split
  case isTrue h => subst h; exact textFrom?_backslash rfl rest
  split
  case isTrue h => subst h; exact textFrom?_backslash rfl rest
  split
  case isTrue h => subst h; exact textFrom?_backslash rfl rest
  split
  case isTrue => exact textFrom?_cons ‹_› ‹_› rest
  case isFalse =>
    have hnumber : textFrom? (some c.toNat) ('\x7d' :: rest) =
        (textFrom? none rest).map fun (found, rest) => (c :: found, rest) := by
      rw [textFrom?, Char.ofNat_toNat]
    rw [← hnumber, ← textFrom?_hexadecimal]
    simp [textFrom?]

/-- A text within quotes is read back. -/
theorem textFrom?_escapeAll (chars rest : List Char) :
    textFrom? none (escapeAll chars ++ '"' :: rest) = some (chars, rest) := by
  -- along the text; a null is escaped by what follows it, lest a digit join it
  induction chars with
  | nil => rfl
  | cons c others ih =>
    rw [escapeAll, List.append_assoc]
    split
    case isTrue hnull =>
      subst hnull
      split
      · simp [textFrom?, ih]
      · rw [List.cons_append, List.cons_append, List.nil_append, textFrom?_backslash rfl, ih,
          Option.map_some]
    case isFalse hnull => rw [textFrom?_escape, ih, Option.map_some]

/-! ## Where data starts and ends -/

/-- The marks that may come behind data. -/
def closers : List Char :=
  [',', ';', ')', ']', '\x7d']

/-- Text that ends the data in front of it: a mark comes next, behind blanks. -/
def Ends (rest : List Char) : Prop :=
  ∃ blanks mark tail, rest = blanks ++ mark :: tail ∧ Blank blanks ∧ mark ∈ closers

/-- Text that starts with ink, but with no such mark and no brace. -/
def Starts (text : List Char) : Prop :=
  ∃ c tail, text = c :: tail ∧ isSpace c = false ∧ c ∉ '\x7b' :: closers

/-- In front of all text that ends it, and behind all blanks, `read?` finds `value` in `text`. -/
structure Reads {α : Type} (read? : Reader α) (value : α) (text : List Char) : Prop where
  starts : Starts text
  found : ∀ blanks rest, Blank blanks → Ends rest →
    read? (blanks ++ (text ++ rest)) = some (value, rest)

/-- Marks behind data are ink. -/
theorem isSpace_of_mem_closers {mark : Char} (hmark : mark ∈ closers) : isSpace mark = false :=
  eq_false_of_all (by decide) hmark

/-- A mark alone ends data. -/
theorem ends_cons {mark : Char} (hmark : mark ∈ closers) (tail : List Char) : Ends (mark :: tail) :=
  ⟨[], mark, tail, rfl, Layout.blank_nil, hmark⟩

/-- Blanks may stand in front of the mark. -/
theorem Ends.append (hblank : Blank blanks) (h : Ends rest) : Ends (blanks ++ rest) := by
  obtain ⟨more, mark, tail, rfl, hmore, hmark⟩ := h
  exact ⟨blanks ++ more, mark, tail, by simp, hblank.append hmore, hmark⟩

/-- What ends data ends a word, too. -/
theorem Ends.notWord (h : Ends rest) : NotWord rest := by
  obtain ⟨blanks, mark, tail, rfl, hblank, hmark⟩ := h
  intro c hc
  -- the first character is a blank or the mark
  cases blanks with
  | nil =>
    obtain rfl : mark = c := by simpa using hc
    exact eq_false_of_all (by decide) hmark
  | cons first others =>
    obtain rfl : first = c := by simpa using hc
    simp [isWordChar, hblank first (List.mem_cons_self ..)]

/-- A token that is no such mark does not come behind data. -/
theorem Ends.expect?_eq_none (h : Ends rest) (token : String)
    (htoken : (token.toList.head?.any fun c => !closers.contains c) = true) :
    expect? token rest = none := by
  obtain ⟨blanks, mark, tail, rfl, hblank, hmark⟩ := h
  obtain ⟨c, hc, hink⟩ := (Option.any_eq_true ..).mp htoken
  rw [expect?_blank hblank]
  refine Reading.expect?_eq_none (isSpace_of_mem_closers hmark) ?_
  rw [hc, Option.any_some, bne_iff_ne]
  rintro rfl
  simp [hmark] at hink

/-- A mark does not come where something starts. -/
theorem Starts.expect?_eq_none (h : Starts text) {mark : Char} {token : String}
    (htoken : token.toList = [mark]) (hmark : mark ∈ '\x7b' :: closers) (hblank : Blank blanks)
    (rest : List Char) : expect? token (blanks ++ (text ++ rest)) = none := by
  obtain ⟨c, tail, rfl, hink, hcloses⟩ := h
  rw [expect?_blank hblank, List.cons_append]
  refine Reading.expect?_eq_none hink ?_
  rw [htoken, List.head?_cons, Option.any_some, bne_iff_ne]
  rintro rfl
  exact hcloses hmark

/-- A word starts data. -/
theorem starts_of_isWordChar {c : Char} (hc : isWordChar c = true) (tail : List Char) :
    Starts (c :: tail) := by
  refine ⟨c, tail, rfl, isSpace_of_isWordChar hc, fun hmem => ?_⟩
  have hmark : isWordChar c = false := eq_false_of_all (by decide) hmem
  rw [hc] at hmark
  cases hmark

/-- So does a name. -/
theorem starts_of_isPlainName {name : String} (hname : isPlainName name) (tail : List Char) :
    Starts (name.toList ++ tail) := by
  obtain ⟨c, rest, hrest, -, hword⟩ := isPlainName_spec hname
  rw [hrest]
  exact starts_of_isWordChar (hword c (by simp [hrest])) _

/-- Data does not end with the text: a mark follows. -/
theorem Ends.ne_nil (h : Ends rest) : rest ≠ [] := by
  obtain ⟨blanks, mark, tail, rfl, -⟩ := h
  simp

/-- Data is not empty, so an item of a list uses up some of its steps. -/
theorem Starts.length_pos (h : Starts text) : 0 < text.length := by
  obtain ⟨c, tail, rfl, -⟩ := h
  simp

/-! ## Lists -/

/-- A mark is passed behind blanks. -/
theorem expect?_mark {token : String} {mark : Char} (htoken : token.toList = [mark])
    (hmark : mark ∈ closers) (hblank : Blank blanks) (rest : List Char) :
    expect? token (blanks ++ mark :: rest) = some rest := by
  rw [expect?_blank hblank]
  simp [expect?, skip_cons (isSpace_of_mem_closers hmark), htoken]

/-- The items of a list are read back from all of its spellings, if each of them is, from all of
its own that are not longer than `bound`. -/
theorem separated?_listed {α : Type} {item? : Reader α} {close : String} {mark : Char}
    (hclose : close.toList = [mark]) (hmark : mark ∈ [')', ']', '\x7d']) {bound : Nat}
    {documents : List Layout.Document} {values : List α} (hlisted : Listed documents text)
    (hitems : List.Forall₂ (fun document value => ∀ written, written.length ≤ bound →
      Spelled document written → Reads item? value written) documents values)
    (hbound : text.length ≤ bound) {steps : Nat} (hsteps : text.length < steps)
    (hblank : Blank blanks) (rest : List Char) :
    separated? item? close steps (blanks ++ (text ++ mark :: rest)) = some (values, rest) := by
  have hcloser : mark ∈ closers := by
    simp only [List.mem_cons, List.not_mem_nil, or_false] at hmark
    rcases hmark with rfl | rfl | rfl
    all_goals decide
  have hcomma : mark ≠ ',' := by
    rintro rfl
    simp at hmark
  -- along the spelling of the list; the blanks behind a comma stand in front of what follows
  induction hlisted generalizing values blanks steps with
  | nil =>
    cases hitems
    obtain ⟨steps, rfl⟩ := Nat.exists_eq_add_one_of_ne_zero (Nat.ne_of_gt hsteps)
    simp only [separated?, List.nil_append, expect?_mark hclose hcloser hblank]
  | @last item written after hspelled hafter =>
    cases hitems with
    | cons hitem hothers =>
      cases hothers
      rw [List.length_append] at hbound hsteps
      obtain ⟨steps, rfl⟩ := Nat.exists_eq_add_one_of_ne_zero (Nat.ne_zero_of_lt hsteps)
      have hreads := hitem written (by omega) hspelled
      have hend : Ends (after ++ mark :: rest) := (ends_cons hcloser rest).append hafter
      -- behind the last item there is no comma, and the list is closed
      have hno : expect? "," (after ++ mark :: rest) = none := by
        rw [expect?_blank hafter]
        exact expect?_eq_none (isSpace_of_mem_closers hcloser) (by simpa using hcomma.symm)
      have hopen := hreads.starts.expect?_eq_none hclose (List.mem_cons_of_mem _ hcloser) hblank
      simp only [separated?, List.append_assoc, hopen, hreads.found _ _ hblank hend, hno,
        expect?_mark hclose hcloser hafter, Option.bind_eq_bind, Option.bind_some, Option.map_some]
  | @cons item others written after later hspelled hafter _ ih =>
    cases hitems with
    | cons hitem hothers =>
      simp only [List.length_append, List.length_cons] at hbound hsteps
      obtain ⟨steps, rfl⟩ := Nat.exists_eq_add_one_of_ne_zero (Nat.ne_zero_of_lt hsteps)
      have hreads := hitem written (by omega) hspelled
      have hend : Ends (',' :: (after ++ (later ++ mark :: rest))) := ends_cons (by decide) _
      -- behind any other item there is a comma, and the rest of the list
      have hnext : expect? "," (',' :: (after ++ (later ++ mark :: rest))) =
          some (after ++ (later ++ mark :: rest)) :=
        expect?_mark rfl (by decide) Layout.blank_nil _
      have hothers := ih hothers (by omega) (by omega : later.length < steps) hafter
      have hopen := hreads.starts.expect?_eq_none hclose (List.mem_cons_of_mem _ hcloser) hblank
      simp only [separated?, List.append_assoc, List.cons_append, hopen,
        hreads.found _ _ hblank hend, hnext, hothers, Option.bind_eq_bind, Option.bind_some]
      rfl

end ParserFoundry.Code.Reading

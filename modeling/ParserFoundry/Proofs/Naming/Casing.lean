import Mathlib.Data.List.Basic
import ParserFoundry.Naming.Derive
/-!
# Casing of Characters and Names

What the two casings make of names. Case mappings beyond ASCII are given by tables, so what holds of
all images is first checked entry by entry.

Main results:
- `Unicode.not_isSmall_of_mem_toUpper`: no upper case has a small letter of ASCII or an underscore.
- `Unicode.slash_not_mem_toLower`: no lower case has a separator of paths.
- `underscore_not_mem_camelChars`, `not_isLower_of_camelChars`: camel case has no underscore and
  starts with no small letter.
- `forall_mem_snakeFrom`, `snakeFrom_append`: what snake case is made of, and how it goes along a
  name.
- `append_cons_number_inj`: names that end with a letter and a number can be taken apart.
-/

namespace ParserFoundry

namespace Unicode

/-- What holds of the first 128 code points holds of all characters of ASCII. -/
theorem forall_ascii {P : Char → Prop} (h : ∀ n < 128, P (Char.ofNat n)) {c : Char}
    (hc : c.toNat < 128) : P c := by
  have hown := h c.toNat hc
  rwa [Char.ofNat_toNat] at hown

/-! ## Images of case mappings -/

/-- The image of a character comes from one of the two tables, or is the character itself. -/
theorem mem_mapCase {expansions : List (Nat × List Nat)} {runs : List CaseRun} {c d : Char}
    (h : d ∈ mapCase expansions runs c) :
    (∃ entry ∈ expansions, ∃ code ∈ entry.2, d = Char.ofNat code) ∨
      (∃ run ∈ runs, run.covers c.toNat = true ∧ d = Char.ofNat (run.image c.toNat)) ∨ d = c := by
  unfold mapCase at h
  split at h
  case h_1 entry hentry =>
    obtain ⟨code, hcode, rfl⟩ := List.mem_map.mp h
    exact .inl ⟨entry, List.mem_of_find?_eq_some hentry, code, hcode, rfl⟩
  case h_2 =>
    split at h
    case h_1 run hrun =>
      have hcovers := List.find?_some hrun
      exact .inr (.inl ⟨run, List.mem_of_find?_eq_some hrun, hcovers, List.mem_singleton.mp h⟩)
    case h_2 => exact .inr (.inr (List.mem_singleton.mp h))

/-- If no expansion is empty, no image is. -/
theorem mapCase_ne_nil {expansions : List (Nat × List Nat)} {runs : List CaseRun}
    (hexpansions : ∀ entry ∈ expansions, entry.2 ≠ []) (c : Char) :
    mapCase expansions runs c ≠ [] := by
  unfold mapCase
  split
  case h_1 entry hentry =>
    simpa using hexpansions entry (List.mem_of_find?_eq_some hentry)
  case h_2 => split <;> simp

theorem toLower_ascii {c : Char} (h : c.toNat < 128) : toLower c = [c.toLower] :=
  if_pos h

theorem toUpper_ne_nil (c : Char) : toUpper c ≠ [] := by
  unfold toUpper
  split
  · simp
  · exact mapCase_ne_nil (by decide +kernel) c

/-! ## Small characters -/

/-- A small letter of ASCII or an underscore. -/
def isSmall (c : Char) : Bool :=
  c.isLower || c == '_'

theorem toNat_lt_of_isSmall {c : Char} (h : isSmall c = true) : c.toNat < 128 := by
  rcases Bool.or_eq_true_iff.mp h with hlower | hunderscore
  · have hle : c.val ≤ 'z'.val := by
      have := Bool.and_eq_true_iff.mp hlower
      exact of_decide_eq_true this.2
    have hnat : c.toNat ≤ 122 := UInt32.le_iff_toNat_le.mp hle
    omega
  · rw [beq_iff_eq.mp hunderscore]
    decide

theorem toNat_ofNat_of_isValidChar {code : Nat} (hvalid : code.isValidChar) :
    (Char.ofNat code).toNat = code := by
  rw [Char.ofNat, dif_pos hvalid]
  rfl

theorem not_isSmall_ofNat {code : Nat} (h : 128 ≤ code) : isSmall (Char.ofNat code) = false := by
  by_cases hvalid : code.isValidChar
  · have hcode := toNat_ofNat_of_isValidChar hvalid
    refine Bool.eq_false_iff.mpr fun hsmall => ?_
    have := toNat_lt_of_isSmall hsmall
    omega
  · -- a number without a character stands for the null character
    rw [Char.ofNat, dif_neg hvalid]
    rfl

/-- No upper case has a small character, unless it is that of an underscore. -/
theorem not_isSmall_of_mem_toUpper {c d : Char} (hc : c ≠ '_') (hd : d ∈ toUpper c) :
    isSmall d = false := by
  unfold toUpper at hd
  split at hd
  case isTrue hascii =>
    have hall : c ≠ '_' → isSmall c.toUpper = false :=
      forall_ascii (P := fun c => c ≠ '_' → isSmall c.toUpper = false) (by decide +kernel) hascii
    rw [List.mem_singleton.mp hd]
    exact hall hc
  case isFalse hascii =>
    -- beyond ASCII: a listed expansion, a run of single characters, or the character itself
    rcases mem_mapCase hd with ⟨entry, hentry, code, hcode, rfl⟩ | ⟨run, hrun, hcovers, rfl⟩ | rfl
    · have hall : ∀ entry ∈ upperExpansions, ∀ code ∈ entry.2,
          isSmall (Char.ofNat code) = false := by
        decide +kernel
      exact hall entry hentry code hcode
    · -- only two single characters beyond ASCII have an upper case in it
      have hall : ∀ run ∈ upperRuns, 128 ≤ run.target ∨
          run.first = run.last ∧ isSmall (Char.ofNat run.target) = false := by
        decide +kernel
      rcases hall run hrun with htarget | ⟨hsingle, htarget⟩
      -- a run with its target beyond ASCII has all its images there
      · refine not_isSmall_ofNat ?_
        unfold CaseRun.image
        omega
      · simp only [CaseRun.covers, Bool.and_eq_true, decide_eq_true_eq] at hcovers
        have himage : run.image c.toNat = run.target := by
          unfold CaseRun.image
          omega
        rwa [himage]
    · refine Bool.eq_false_iff.mpr fun hsmall => hascii (toNat_lt_of_isSmall hsmall)

/-- No lower case has a separator of paths, unless it is that of a separator. -/
theorem slash_not_mem_toLower {c : Char} (hc : c ≠ '/') : '/' ∉ toLower c := by
  unfold toLower
  split
  case isTrue hascii =>
    have hall : c ≠ '/' → c.toLower ≠ '/' :=
      forall_ascii (P := fun c => c ≠ '/' → c.toLower ≠ '/') (by decide +kernel) hascii
    exact fun hmem => hall hc (List.mem_singleton.mp hmem).symm
  case isFalse hascii =>
    intro hmem
    -- an expansion, a run, or the character itself
    rcases mem_mapCase hmem with ⟨entry, hentry, code, hcode, hslash⟩ | ⟨run, hrun, -, hslash⟩ | heq
    · have hall : ∀ entry ∈ lowerExpansions, ∀ code ∈ entry.2, '/' ≠ Char.ofNat code := by
        decide
      exact hall entry hentry code hcode hslash
    · -- all images of runs come behind the separator
      have hall : ∀ run ∈ lowerRuns, 47 < run.target := by decide +kernel
      have htarget := hall run hrun
      have hcode := congrArg Char.toNat hslash
      by_cases hvalid : (run.image c.toNat).isValidChar
      · rw [toNat_ofNat_of_isValidChar hvalid] at hcode
        unfold CaseRun.image at hcode
        change 47 = _ at hcode
        omega
      · -- a number without a character stands for the null character
        have hnull : Char.ofNat (run.image c.toNat) = '\x00' := dif_neg hvalid
        rw [hnull] at hslash
        cases hslash
    · exact hc heq.symm

end Unicode

namespace Naming

open Unicode (isSmall)

variable {chars : List Char}

/-! ## Camel case -/

/-- Segments have characters, and no underscore among them. -/
theorem mem_segmentsFrom {current : List Char} (hcurrent : '_' ∉ current) :
    ∀ segment ∈ segmentsFrom current chars, segment ≠ [] ∧ '_' ∉ segment := by
  -- the stretch at hand grows along the name, so it is generalised
  induction chars generalizing current with
  | nil =>
    intro segment hsegment
    cases current with
    | nil => simp [segmentsFrom] at hsegment
    | cons c tail =>
      rw [segmentsFrom, List.isEmpty_cons, if_neg Bool.false_ne_true] at hsegment
      rw [List.mem_singleton.mp hsegment]
      exact ⟨by simp, by simpa only [List.mem_reverse] using hcurrent⟩
  | cons c rest ih =>
    intro segment hsegment
    rw [segmentsFrom] at hsegment
    split at hsegment
    -- an underscore ends the segment at hand, if there is one
    case isTrue =>
      split at hsegment
      case isTrue => exact ih (by simp) segment hsegment
      case isFalse hne =>
        rcases List.mem_cons.mp hsegment with rfl | hmem
        · exact ⟨by simpa using hne, by simpa using hcurrent⟩
        · exact ih (by simp) segment hmem
    case isFalse hc =>
      -- any other character belongs to the segment
      refine ih ?_ segment hsegment
      simp only [List.mem_cons, not_or]
      exact ⟨fun heq => hc heq.symm, hcurrent⟩

theorem mem_segments {segment : List Char} (h : segment ∈ segments chars) :
    segment ≠ [] ∧ '_' ∉ segment :=
  mem_segmentsFrom (by simp) segment h

theorem underscore_not_mem_capitalize {segment : List Char} (h : '_' ∉ segment) :
    '_' ∉ capitalize segment := by
  cases segment with
  | nil => simp [capitalize]
  | cons c rest =>
    simp only [List.mem_cons, not_or] at h
    unfold capitalize
    rw [List.mem_append, not_or]
    refine ⟨fun hmem => ?_, h.2⟩
    have hsmall := Unicode.not_isSmall_of_mem_toUpper (Ne.symm h.1) hmem
    exact absurd hsmall (by decide)

/-- Camel case has no underscore. -/
theorem underscore_not_mem_camelChars (chars : List Char) : '_' ∉ camelChars chars := by
  intro hmem
  obtain ⟨segment, hsegment, hmem⟩ := List.mem_flatMap.mp hmem
  exact underscore_not_mem_capitalize (mem_segments hsegment).2 hmem

/-- Camel case starts with the upper case of a character. -/
theorem exists_mem_toUpper_of_camelChars {c : Char} {tail : List Char}
    (h : camelChars chars = c :: tail) : ∃ first, first ≠ '_' ∧ c ∈ Unicode.toUpper first := by
  unfold camelChars at h
  cases hsegments : segments chars with
  | nil => simp [hsegments] at h
  | cons segment others =>
    -- the first segment is not empty, and neither is the upper case of its first character
    obtain ⟨hne, hunderscore⟩ := mem_segments (hsegments ▸ List.mem_cons_self ..)
    obtain ⟨first, rest, rfl⟩ := List.exists_cons_of_ne_nil hne
    obtain ⟨upper, more, hupper⟩ := List.exists_cons_of_ne_nil (Unicode.toUpper_ne_nil first)
    rw [hsegments, List.flatMap_cons, capitalize, hupper] at h
    obtain rfl : upper = c := by simpa using (List.cons.inj h).1
    exact ⟨first, fun heq => hunderscore (heq ▸ List.mem_cons_self ..),
      hupper ▸ List.mem_cons_self ..⟩

/-- Camel case starts with no small letter. -/
theorem not_isLower_of_camelChars {c : Char} {tail : List Char} (h : camelChars chars = c :: tail) :
    c.isLower = false := by
  obtain ⟨first, hfirst, hmem⟩ := exists_mem_toUpper_of_camelChars h
  exact (Bool.or_eq_false_iff.mp (Unicode.not_isSmall_of_mem_toUpper hfirst hmem)).1

/-! ## Snake case -/

/-- Snake case consists of underscores and of the lower case of characters. -/
theorem forall_mem_snakeFrom {P : Char → Prop} (hunderscore : P '_')
    (hlower : ∀ c ∈ chars, ∀ d ∈ Unicode.toLower c, P d) (afterLower : Bool) :
    ∀ d ∈ snakeFrom afterLower chars, P d := by
  induction chars generalizing afterLower with
  | nil => simp [snakeFrom]
  | cons c rest ih =>
    obtain ⟨hc, hrest⟩ := List.forall_mem_cons.mp hlower
    have hinserted : ∀ d ∈ (if Unicode.isUpper c && afterLower then ['_'] else []), P d := by
      intro d hd
      -- the underscore that may be put in front of a capital
      split at hd
      · rwa [List.mem_singleton.mp hd]
      · cases hd
    rw [snakeFrom]
    exact List.forall_mem_append.mpr
      ⟨List.forall_mem_append.mpr ⟨hinserted, hc⟩, ih hrest _⟩

/-- Snake case changes nothing where there is no upper case. -/
theorem snakeFrom_eq_self
    (h : ∀ c ∈ chars, Unicode.isUpper c = false ∧ Unicode.toLower c = [c]) (afterLower : Bool) :
    snakeFrom afterLower chars = chars := by
  induction chars generalizing afterLower with
  | nil => rfl
  | cons c rest ih =>
    obtain ⟨⟨hupper, hlower⟩, hrest⟩ := List.forall_mem_cons.mp h
    rw [snakeFrom, hupper, hlower, ih hrest]
    rfl

/-- Whether a lower-case letter comes just before what follows the characters. -/
def lowerAfter (afterLower : Bool) (chars : List Char) : Bool :=
  (chars.getLast?.map Unicode.isLower).getD afterLower

/-- Of what came before, only the last character counts. -/
theorem snakeFrom_append (afterLower : Bool) (first second : List Char) :
    snakeFrom afterLower (first ++ second) =
      snakeFrom afterLower first ++ snakeFrom (lowerAfter afterLower first) second := by
  induction first generalizing afterLower with
  | nil => rfl
  | cons c rest ih =>
    -- of a stretch with a second character, the first one does not count
    have hlast : lowerAfter afterLower (c :: rest) = lowerAfter (Unicode.isLower c) rest := by
      cases rest with
      | nil => rfl
      | cons d others => simp [lowerAfter, List.getLast?_cons]
    rw [List.cons_append, snakeFrom, snakeFrom, ih, hlast, List.append_assoc _ (snakeFrom _ rest)]

/-- The last character ends the snake case of a name. -/
theorem snakeFrom_concat (afterLower : Bool) (chars : List Char) (c : Char) :
    ∃ front, snakeFrom afterLower (chars ++ [c]) = front ++ Unicode.toLower c := by
  rw [snakeFrom_append, snakeFrom, snakeFrom, List.append_nil, ← List.append_assoc]
  exact ⟨_, rfl⟩

/-! ## Numbers at the end of names -/

theorem isDigit_of_mem_toString {number : Nat} {c : Char} (h : c ∈ (toString number).toList) :
    c.isDigit = true := by
  rw [Nat.toString_eq_ofList_toDigits, String.toList_ofList] at h
  exact Nat.isDigit_of_mem_toDigits (by decide) (by decide) h

theorem eq_of_toString_eq {i j : Nat} (h : toString i = toString j) : i = j := by
  rw [Nat.toString_eq_ofList_toDigits, Nat.toString_eq_ofList_toDigits, String.ofList_inj] at h
  rw [← @Nat.ofDigitChars_ten_toDigits i, h, Nat.ofDigitChars_ten_toDigits]

/-- A stretch that starts with a character, and does not have it again, has it nowhere else. -/
theorem eq_of_cons_eq_append_cons {c : Char} {front first second : List Char} (h : c ∉ first)
    (heq : c :: first = front ++ c :: second) : front = [] ∧ first = second := by
  -- the front is empty, or the character comes again within the digits
  rcases List.append_eq_cons_iff.mp heq.symm with ⟨rfl, hsecond⟩ | ⟨others, rfl, hfirst⟩
  · exact ⟨rfl, (List.cons.inj hsecond).2.symm⟩
  · exact absurd (hfirst ▸ List.mem_append_right _ (List.mem_cons_self ..)) h

/-- A name that ends with a letter and a number can be taken apart in one way only. -/
theorem append_cons_number_inj {letter : Char} (hletter : letter.isDigit = false)
    {first second : List Char} {i j : Nat}
    (h : first ++ letter :: (toString i).toList = second ++ letter :: (toString j).toList) :
    first = second ∧ i = j := by
  have hnumber : ∀ number : Nat, letter ∉ (toString number).toList := by
    intro number hmem
    rw [isDigit_of_mem_toString hmem] at hletter
    cases hletter
  -- a longer name would have the other letter within the digits of its number
  have hnames : first = second ∧ (toString i).toList = (toString j).toList := by
    rcases List.append_eq_append_iff.mp h with ⟨more, hsecond, hrest⟩ | ⟨more, hfirst, hrest⟩
    · obtain ⟨rfl, hdigits⟩ := eq_of_cons_eq_append_cons (hnumber i) hrest
      exact ⟨by rw [hsecond, List.append_nil], hdigits⟩
    · obtain ⟨rfl, hdigits⟩ := eq_of_cons_eq_append_cons (hnumber j) hrest
      exact ⟨by rw [hfirst, List.append_nil], hdigits.symm⟩
  exact ⟨hnames.1, eq_of_toString_eq (String.toList_inj.mp hnames.2)⟩

theorem append_letter_number_inj {first second : String} {i j : Nat}
    (h : first ++ "P" ++ toString i = second ++ "P" ++ toString j) : first = second ∧ i = j := by
  have hchars : first.toList ++ 'P' :: (toString i).toList =
      second.toList ++ 'P' :: (toString j).toList := by
    have hlist := congrArg String.toList h
    simp only [String.toList_append, List.append_assoc] at hlist
    exact hlist
  obtain ⟨hnames, hnumbers⟩ := append_cons_number_inj (by decide) hchars
  exact ⟨String.toList_inj.mp hnames, hnumbers⟩

end Naming

end ParserFoundry

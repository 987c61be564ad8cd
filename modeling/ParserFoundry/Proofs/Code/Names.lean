import ParserFoundry.Code.PathReader
import ParserFoundry.Proofs.Code.Reading
import ParserFoundry.Proofs.NameTable
import ParserFoundry.Proofs.Naming.Casing
/-!
# Names that Readers Find

The names in generated code are plain: readers of generated code find them as they stand, whether
they are derived from a grammar or made from the stem of the type names.

Main results:
- `isPlainName_of_usable`, `isPlainName_recognizerName`: derived names are plain.
- `exists_of_isName`, `isPlainName_of_isName`: names of the language are made of certain characters,
  and they are plain, too.
-/

namespace ParserFoundry.Code

open Reading

/-! ## Characters -/

section Characters

variable {c : Char}

/-- A class of characters without the ten digits has no digit. -/
theorem isDigit_eq_false_of {within : Char → Bool}
    (hdigits : ("0123456789".toList.all fun digit => !within digit) = true)
    (hc : within c = true) : c.isDigit = false := by
  -- the digits are tried one by one
  have hnumbers : ∀ n < 58, 48 ≤ n → Char.ofNat n ∈ "0123456789".toList := by decide
  cases hdigit : c.isDigit with
  | false => rfl
  | true =>
    obtain ⟨hfirst, hlast⟩ := Char.isDigit_iff_toNat.mp hdigit
    have hmem := hnumbers c.toNat (Nat.lt_succ_of_le hlast) hfirst
    rw [Char.ofNat_toNat] at hmem
    have hnot := eq_false_of_all hdigits hmem
    rw [hc] at hnot
    cases hnot

theorem isWordChar_of_isNameContinue (hc : isNameContinue c = true) : isWordChar c = true :=
  isWordChar_of (by decide) hc

theorem isWordChar_of_isNameStart (hc : isNameStart c = true) : isWordChar c = true :=
  isWordChar_of (by decide) hc

theorem isDigit_eq_false_of_isNameStart (hc : isNameStart c = true) : c.isDigit = false :=
  isDigit_eq_false_of (by decide) hc

/-- A letter, a digit or an underscore of ASCII. -/
def isIdentifierChar (c : Char) : Bool :=
  c.isAlphanum || c == '_'

theorem isWordChar_of_isIdentifierChar (hc : isIdentifierChar c = true) : isWordChar c = true :=
  isWordChar_of (by decide) hc

theorem toNat_lt_of_isIdentifierChar (hc : isIdentifierChar c = true) : c.toNat < 128 := by
  -- the classes of letters and digits are ranges of code points
  change ((decide ('A'.val ≤ c.val ∧ c.val ≤ 'Z'.val) ||
    decide ('a'.val ≤ c.val) && decide (c.val ≤ 'z'.val)) ||
    decide ('0'.val ≤ c.val) && decide (c.val ≤ '9'.val) || c == '_') = true at hc
  simp only [Bool.or_eq_true, Bool.and_eq_true, decide_eq_true_eq, beq_iff_eq,
    UInt32.le_iff_toNat_le] at hc
  have hlimits : 'Z'.val.toNat = 90 ∧ 'z'.val.toNat = 122 ∧ '9'.val.toNat = 57 := by decide
  have hval : c.toNat = c.val.toNat := rfl
  rcases hc with hc | rfl
  · omega
  · decide

theorem isIdentifierChar_toLower (hc : isIdentifierChar c = true) :
    ∀ lower ∈ Unicode.toLower c, isIdentifierChar lower = true := by
  have hall : (Unicode.toLower c).all isIdentifierChar = true :=
    Unicode.forall_ascii
      (P := fun c => isIdentifierChar c = true → (Unicode.toLower c).all isIdentifierChar = true)
      (by decide +kernel) (toNat_lt_of_isIdentifierChar hc) hc
  exact List.all_eq_true.mp hall

end Characters

/-! ## Plain names -/

theorem isPlainName_of_cons {name : String} {c : Char} {tail : List Char}
    (hname : name.toList = c :: tail) (hdigit : c.isDigit = false)
    (hword : ∀ d ∈ c :: tail, isWordChar d = true) : isPlainName name := by
  simp only [isPlainName, hname, List.head?_cons, Option.any_some, hdigit, Bool.not_false,
    Bool.true_and, List.all_eq_true]
  exact hword

/-- Word characters may follow a plain name. -/
theorem isPlainName_append {name ending : String} (hname : isPlainName name)
    (hending : ∀ c ∈ ending.toList, isWordChar c = true) : isPlainName (name ++ ending) := by
  obtain ⟨c, tail, htail, hdigit, hword⟩ := isPlainName_spec hname
  have hname : (name ++ ending).toList = c :: (tail ++ ending.toList) := by simp [htail]
  refine isPlainName_of_cons hname hdigit ?_
  rw [← List.cons_append, ← htail]
  exact List.forall_mem_append.mpr ⟨hword, hending⟩

theorem mem_isIdentifierChar_of_usable {name : String} (h : NameTable.Usable name) :
    ∃ c tail, name.toList = c :: tail ∧ c.isDigit = false ∧
      ∀ d ∈ c :: tail, isIdentifierChar d = true := by
  -- the first character is no digit, and all of them are letters, digits or underscores
  obtain ⟨hidentifier, -⟩ := h
  cases hname : name.toList with
  | nil => simp [hname, NameTable.isIdentifier] at hidentifier
  | cons c tail =>
    simp only [hname, NameTable.isIdentifier, Bool.and_eq_true, List.all_eq_true] at hidentifier
    refine ⟨c, tail, rfl, ?_, List.forall_mem_cons.mpr ⟨?_, hidentifier.2⟩⟩
    · have hdigits : ("0123456789".toList.all fun digit => !(digit.isAlpha || digit == '_')) := by
        decide
      exact isDigit_eq_false_of hdigits hidentifier.1
    · have := hidentifier.1
      simp only [isIdentifierChar, Char.isAlphanum, Bool.or_eq_true] at this ⊢
      tauto

/-- A usable name is plain. -/
theorem isPlainName_of_usable {name : String} (h : NameTable.Usable name) : isPlainName name := by
  obtain ⟨c, tail, hname, hdigit, hchars⟩ := mem_isIdentifierChar_of_usable h
  exact isPlainName_of_cons hname hdigit fun d hd => isWordChar_of_isIdentifierChar (hchars d hd)

/-- The name of a recognizer is plain. -/
theorem isPlainName_recognizerName {kind : String} (h : NameTable.Usable kind) :
    isPlainName (Naming.recognizerName kind) := by
  obtain ⟨c, tail, hkind, -, hchars⟩ := mem_isIdentifierChar_of_usable h
  refine isPlainName_append (by decide) fun d hd => isWordChar_of_isIdentifierChar ?_
  -- lower case keeps these characters, and no other ones are put in
  rw [Naming.snakeCase, String.toList_ofList, Naming.snakeChars] at hd
  exact Naming.forall_mem_snakeFrom (by decide)
    (fun e he => isIdentifierChar_toLower (hchars e (hkind ▸ he))) false d hd

/-! ## Names of the language -/

theorem name?_spec {input name rest : List Char} (h : Code.name? input = some (name, rest)) :
    input = name ++ rest ∧ ∃ c tail, name = c :: tail ∧ isNameStart c = true ∧
      ∀ d ∈ tail, isNameContinue d = true := by
  cases input with
  | nil => cases h
  | cons c tail =>
    rw [Code.name?] at h
    split at h
    case isTrue hstart =>
      cases h
      exact ⟨by simp, c, _, rfl, hstart, List.all_eq_true.mp List.all_takeWhile⟩
    case isFalse => cases h

/-- A name of the language starts like a name and goes on like one, behind the mark of a raw one. -/
theorem exists_of_isName {name : String} (h : isName name = true) :
    ∃ c tail, (name.toList = c :: tail ∨ name.toList = 'r' :: '#' :: c :: tail) ∧
      isNameStart c = true ∧ ∀ d ∈ tail, isNameContinue d = true := by
  -- a name is a token that leaves nothing of the text
  have hfound : ∃ found, Token.anyName? name.toList = some (found, []) := by
    rw [isName] at h
    split at h
    case h_1 found rest heq =>
      obtain rfl := List.isEmpty_iff.mp h
      exact ⟨found, heq⟩
    case h_2 => cases h
  obtain ⟨found, hfound⟩ := hfound
  generalize name.toList = input at hfound
  -- the mark of a raw name is passed first, if there is one
  unfold Token.anyName? at hfound
  split at hfound
  case h_1 rest =>
    simp only [Option.bind_eq_bind, Option.bind_eq_some_iff] at hfound
    obtain ⟨⟨text, after⟩, htext, hfound⟩ := hfound
    split at hfound
    case isTrue => simp at hfound
    case isFalse =>
      simp only [pure, Option.some.injEq, Prod.mk.injEq] at hfound
      obtain ⟨-, rfl⟩ := hfound
      obtain ⟨rfl, c, tail, rfl, hstart, hcontinue⟩ := name?_spec htext
      exact ⟨c, tail, .inr (by rw [List.append_nil]), hstart, hcontinue⟩
  case h_2 =>
    obtain ⟨rfl, c, tail, rfl, hstart, hcontinue⟩ := name?_spec hfound
    exact ⟨c, tail, .inl (List.append_nil _), hstart, hcontinue⟩

/-- Every name of the language is plain, a raw one included. -/
theorem isPlainName_of_isName {name : String} (h : isName name = true) : isPlainName name := by
  obtain ⟨c, tail, hname, hstart, hcontinue⟩ := exists_of_isName h
  have hword : ∀ d ∈ c :: tail, isWordChar d = true :=
    List.forall_mem_cons.mpr ⟨isWordChar_of_isNameStart hstart,
      fun d hd => isWordChar_of_isNameContinue (hcontinue d hd)⟩
  -- readers take the mark of a raw name for a part of the word
  rcases hname with hname | hname
  · exact isPlainName_of_cons hname (isDigit_eq_false_of_isNameStart hstart) hword
  · refine isPlainName_of_cons hname (by decide) ?_
    exact List.forall_mem_cons.mpr ⟨by decide, List.forall_mem_cons.mpr ⟨by decide, hword⟩⟩

/-- A character that names do not have is not in any. -/
theorem not_mem_of_isName {name : String} (h : isName name = true) {mark : Char}
    (hmark : mark ≠ 'r' ∧ mark ≠ '#') (hstart : isNameStart mark = false)
    (hcontinue : isNameContinue mark = false) : mark ∉ name.toList := by
  obtain ⟨c, tail, hname, hc, htail⟩ := exists_of_isName h
  have hmem : mark ∉ c :: tail := by
    intro hmem
    rcases List.mem_cons.mp hmem with rfl | hmem
    · rw [hc] at hstart
      cases hstart
    · rw [htail mark hmem] at hcontinue
      cases hcontinue
  rcases hname with hname | hname
  · rwa [hname]
  · rw [hname]
    exact List.not_mem_cons_of_ne_of_not_mem hmark.1
      (List.not_mem_cons_of_ne_of_not_mem hmark.2 hmem)

end ParserFoundry.Code

import Mathlib.Data.List.TakeWhile
import ParserFoundry.Proofs.Code.Names
/-!
# Words that Make Identifiers

A word of letters, digits and underscores that starts with no digit is one token of the language, a
name. Unless it is a keyword, the identifier made of it is the word itself.

Main results:
- `read?_word`: such a word is read as a single name.
- `identifier?_word`: the identifier that is made of it.
-/

namespace ParserFoundry.Code

/-! ## Characters of words -/

theorem ne_of_isIdentifierChar {c mark : Char} (hc : isIdentifierChar c = true)
    (hmark : isIdentifierChar mark = false) : c ≠ mark := by
  rintro rfl
  rw [hc] at hmark
  cases hmark

/-- The classes of characters that the reader of tokens asks for, on a character of a word. -/
theorem classes_of_isIdentifierChar {c : Char} (hc : isIdentifierChar c = true) :
    isBlank c = false ∧ Token.closingOf? c = none ∧ Token.isClosing c = false ∧
      "~!@#$%^&*-=+|;:,<.>/?'".toList.contains c = false ∧ isNameContinue c = true ∧
      (c.isDigit = false → isNameStart c = true) := by
  exact Unicode.forall_ascii (P := fun c => isIdentifierChar c = true → isBlank c = false ∧
    Token.closingOf? c = none ∧ Token.isClosing c = false ∧
    "~!@#$%^&*-=+|;:,<.>/?'".toList.contains c = false ∧ isNameContinue c = true ∧
    (c.isDigit = false → isNameStart c = true)) (by decide +kernel)
    (toNat_lt_of_isIdentifierChar hc) hc

/-! ## Words as tokens -/

section Word

variable {c : Char} {tail : List Char} (hdigit : c.isDigit = false)
  (hchars : ∀ d ∈ c :: tail, isIdentifierChar d = true)

include hchars

/-- A word is not where a text of the language starts: these have quotes or hashes near by. -/
theorem not_textStart_word :
    (Token.textStarts.any fun start => start.toList.isPrefixOf (c :: tail)) = false := by
  -- a start of a text has a mark in it that no word has
  have hmarks : ∀ start ∈ Token.textStarts,
      (start.toList.any fun mark => !isIdentifierChar mark) = true := by
    decide
  refine List.any_eq_false.mpr fun start hstart hprefix => ?_
  obtain ⟨mark, hmark, hother⟩ := List.any_eq_true.mp (hmarks start hstart)
  have hmem := (List.isPrefixOf_iff_prefix.mp hprefix).subset hmark
  simp [hchars mark hmem] at hother

include hdigit

theorem name?_word : name? (c :: tail) = some (c :: tail, []) := by
  have hstart := (classes_of_isIdentifierChar (hchars c (List.mem_cons_self ..))).2.2.2.2.2 hdigit
  have hcontinue : ∀ d ∈ tail, isNameContinue d = true := fun d hd =>
    (classes_of_isIdentifierChar (hchars d (List.mem_cons_of_mem _ hd))).2.2.2.2.1
  rw [name?, if_pos hstart, List.takeWhile_eq_self_iff.mpr hcontinue,
    List.dropWhile_eq_nil_iff.mpr hcontinue]

theorem anyName?_word : Token.anyName? (c :: tail) = some (c :: tail, []) := by
  have hword := name?_word hdigit hchars
  unfold Token.anyName?
  split
  -- the mark of a raw name is no character of a word
  case h_1 rest heq =>
    have hhash : isIdentifierChar '#' = true := hchars '#' (heq ▸ by simp)
    cases hhash
  case h_2 => exact hword

theorem afterLiteral?_word : afterLiteral? (c :: tail) = none := by
  have hne (mark : Char) (hmark : isIdentifierChar mark = false) : mark ∉ c :: tail :=
    fun hmem => ne_of_isIdentifierChar (hchars mark hmem) hmark rfl
  -- raw texts have a quote or a hash behind the letters, and a word has neither
  have hraw (kind : TextKind) (rest : List Char) (hrest : ∀ d ∈ rest, d ∈ c :: tail) :
      afterRawText? kind rest = none := by
    have hhashes : rest.takeWhile (· == '#') = [] := by
      cases rest with
      | nil => rfl
      | cons d others =>
        have : d ≠ '#' := fun heq => hne '#' (by decide) (heq ▸ hrest d (List.mem_cons_self ..))
        simp [this]
    unfold afterRawText?
    simp only [hhashes, List.length_nil, List.drop_zero]
    split
    case h_1 others => exact absurd (hrest '"' (List.mem_cons_self ..)) (hne '"' (by decide))
    case h_2 => rfl
  unfold afterLiteral?
  split
  case h_1 rest heq => exact absurd (by simp [heq]) (hne '"' (by decide))
  case h_2 rest heq => exact absurd (by simp [heq]) (hne '"' (by decide))
  case h_3 rest heq => exact absurd (by simp [heq]) (hne '"' (by decide))
  case h_4 rest heq => exact hraw _ rest fun d hd => by simp [heq, hd]
  case h_5 rest heq => exact hraw _ rest fun d hd => by simp [heq, hd]
  case h_6 rest heq => exact hraw _ rest fun d hd => by simp [heq, hd]
  case h_7 rest heq => exact absurd (by simp [heq]) (hne '\'' (by decide))
  case h_8 rest heq => exact absurd (by simp [heq]) (hne '\'' (by decide))
  case h_9 => simp [afterNumber?, hdigit]

/-- A word is a single token of its own. -/
theorem leaf?_word :
    Token.leaf? (c :: tail) = some (.name (String.ofList (c :: tail)), []) := by
  -- neither a mark, nor a literal, nor the start of a text: a name is all that is left
  have hmark : Token.mark? (c :: tail) = none := by
    have hclass := (classes_of_isIdentifierChar (hchars c (List.mem_cons_self ..))).2.2.2.1
    unfold Token.mark?
    split
    case h_1 => rfl
    case h_2 => rfl
    case h_3 heq =>
      cases heq
      rw [hclass, if_neg Bool.false_ne_true]
    case h_4 => rfl
  have hpunctuation : Token.punctuation? (c :: tail) = none := by
    simp [Token.punctuation?, hmark]
  simp [Token.leaf?, afterLiteral?_word hdigit hchars, hpunctuation,
    not_textStart_word hchars, anyName?_word hdigit hchars]

/-- A word is read as a single name. -/
theorem read?_word : Token.read? (c :: tail) = some [.name (String.ofList (c :: tail))] := by
  have hc := hchars c (List.mem_cons_self ..)
  obtain ⟨hblank, hopening, hclosing, -, -, -⟩ := classes_of_isIdentifierChar hc
  have hslash : c ≠ '/' := ne_of_isIdentifierChar hc (by decide)
  -- nothing is skipped in front of a word, since comments start with a slash
  have hskip : skipBlanks ((c :: tail).length + 1) (c :: tail) = c :: tail := by
    unfold skipBlanks
    split
    case h_1 heq => cases heq
    case h_2 heq => cases heq
    case h_3 heq => exact absurd (List.cons.inj heq).1 hslash
    case h_4 heq => exact absurd (List.cons.inj heq).1 hslash
    case h_5 heq =>
      cases heq
      rw [hblank, if_neg Bool.false_ne_true]
  have hdoc : docComment? (c :: tail) = none := by
    unfold docComment?
    split
    case h_5 => rfl
    all_goals
      rename_i heq
      exact absurd (List.cons.inj heq).1 hslash
  -- the word is the only token: nothing is left behind it, and no bracket is open
  unfold Token.read?
  split
  case h_1 heq => cases heq; cases hc
  case h_2 =>
    rw [Token.readAll?]
    simp only [hskip, hdoc, hopening, hclosing, leaf?_word hdigit hchars]
    simp [Token.readAll?, skipBlanks, docComment?]

end Word

/-- The identifier that is made of a word is the word itself, unless it is a keyword. -/
theorem identifier?_word {name : String} {c : Char} {tail : List Char}
    (hname : name.toList = c :: tail) (hdigit : c.isDigit = false)
    (hchars : ∀ d ∈ c :: tail, isIdentifierChar d = true) (hkeyword : name ∉ keywords) :
    identifier? name = some name := by
  have hread : Token.read? name.toList = some [.name name] := by
    rw [hname, read?_word hdigit hchars, ← hname, String.ofList_toList]
  simp [identifier?, hread, Reader.name, hkeyword]

end ParserFoundry.Code

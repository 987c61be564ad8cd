import Mathlib
import ParserFoundry.Proofs.Code.Identifiers
import ParserFoundry.Proofs.NameTable
/-!
# Shapes of Derived Names

Only kinds are checked one by one. Functions are derived from kinds afterwards, and are usable
because kinds have a shape that casing turns into another one: a capital letter and then letters and
digits become a small letter and then small letters, digits and underscores. The last character of
an action, and the first word of a recognizer, keep both apart from the keywords.

Main results:
- `isKindName_terminalKind`, `isKindName_camelCase_append`: the shape of checked kinds.
- `isFunctionName_snakeCase`: the shape of the functions derived from them.
- `names_usable`: all names of a table are usable as they stand.
-/

namespace ParserFoundry

namespace Naming

open Code (isIdentifierChar toNat_lt_of_isIdentifierChar)

/-! ## Two shapes -/

/-- A capital letter, and then letters and digits. -/
def isKindName (name : String) : Bool :=
  match name.toList with
  | [] => false
  | c :: tail => c.isUpper && tail.all Char.isAlphanum

/-- A small letter, a digit or an underscore. -/
def isFunctionChar (c : Char) : Bool :=
  c.isLower || c.isDigit || c == '_'

/-- A small letter, and then small letters, digits and underscores. -/
def isFunctionName (name : String) : Bool :=
  match name.toList with
  | [] => false
  | c :: tail => c.isLower && tail.all isFunctionChar

/-- A kind, by its first character and the others. -/
theorem isKindName_iff {name : String} :
    isKindName name = true ↔ ∃ c tail, name.toList = c :: tail ∧ c.isUpper = true ∧
      ∀ d ∈ tail, d.isAlphanum = true := by
  unfold isKindName
  cases name.toList with
  | nil => simp
  | cons c tail => simp

/-- A function, by its first character and the others. -/
theorem isFunctionName_iff {name : String} :
    isFunctionName name = true ↔ ∃ c tail, name.toList = c :: tail ∧ c.isLower = true ∧
      ∀ d ∈ tail, isFunctionChar d = true := by
  unfold isFunctionName
  cases name.toList with
  | nil => simp
  | cons c tail => simp

/-! ## Kinds -/

/-- A usable name without underscores that starts with no small letter is a kind. -/
theorem isKindName_of_usable {name : String} (husable : NameTable.Usable name)
    (hunderscore : '_' ∉ name.toList)
    (hhead : ∀ c tail, name.toList = c :: tail → c.isLower = false) : isKindName name = true := by
  obtain ⟨c, tail, hname, hdigit, hchars⟩ := Code.mem_isIdentifierChar_of_usable husable
  have halphanum : ∀ d ∈ c :: tail, d.isAlphanum = true := by
    intro d hd
    have hne : d ≠ '_' := fun heq => hunderscore (hname ▸ heq ▸ hd)
    simpa [isIdentifierChar, hne] using hchars d hd
  refine isKindName_iff.mpr ⟨c, tail, hname, ?_, fun d hd => halphanum d (.tail _ hd)⟩
  -- a letter or digit that is neither a digit nor small is a capital letter
  simpa [Char.isAlphanum, Char.isAlpha, hdigit, hhead c tail hname] using
    halphanum c (List.mem_cons_self ..)

/-- Camel case, with an ending that has no small letters and no underscores, is a kind if it is
usable at all. -/
theorem isKindName_camelCase_append {name ending : String}
    (husable : NameTable.Usable (camelCase name ++ ending))
    (hending : ∀ c ∈ ending.toList, Unicode.isSmall c = false) :
    isKindName (camelCase name ++ ending) = true := by
  have hchars : (camelCase name ++ ending).toList = camelChars name.toList ++ ending.toList := by
    simp [camelCase]
  -- no underscore comes from camel case or from the ending, and no small letter is in front
  refine isKindName_of_usable husable ?_ ?_
  · rw [hchars, List.mem_append, not_or]
    refine ⟨underscore_not_mem_camelChars _, fun hmem => ?_⟩
    exact absurd (hending '_' hmem) (by decide)
  · intro c tail hcons
    rw [hchars] at hcons
    cases hcamel : camelChars name.toList with
    | cons d rest =>
      rw [hcamel, List.cons_append] at hcons
      exact (List.cons.inj hcons).1 ▸ not_isLower_of_camelChars hcamel
    | nil =>
      rw [hcamel, List.nil_append] at hcons
      exact (Bool.or_eq_false_iff.mp (hending c (hcons ▸ List.mem_cons_self ..))).1

/-- Camel case alone is the case without an ending. -/
theorem isKindName_camelCase {name : String} (husable : NameTable.Usable (camelCase name)) :
    isKindName (camelCase name) = true := by
  have happend : isKindName (camelCase name ++ "") = true :=
    isKindName_camelCase_append (by simpa using husable) (by simp)
  simpa using happend

/-- The kinds of punctuation have the shape, and so do those in camel case. -/
theorem isKindName_terminalKind {name : String} (husable : NameTable.Usable (terminalKind name)) :
    isKindName (terminalKind name) = true := by
  -- the table is finite, so its kinds are looked at one by one
  have hpunctuation : ∀ entry ∈ punctuation, isKindName entry.2 = true := by decide
  unfold terminalKind at husable ⊢
  split at husable
  case h_1 kind hkind =>
    obtain ⟨before, after, hsplit, -⟩ := List.lookup_eq_some_iff.mp hkind
    exact hpunctuation (name, kind) (hsplit ▸ by simp)
  case h_2 => exact isKindName_camelCase husable

/-- Digits are among the first 128 characters. -/
theorem toNat_lt_of_isDigit {c : Char} (h : c.isDigit = true) : c.toNat < 128 :=
  toNat_lt_of_isIdentifierChar (by simp [isIdentifierChar, Char.isAlphanum, h])

/-- Digits are not small in any script. -/
theorem isSmall_eq_false_of_isDigit {c : Char} (h : c.isDigit = true) :
    Unicode.isSmall c = false := by
  -- what is small is known not to be a digit
  refine Bool.eq_false_iff.mpr fun hsmall => ?_
  rw [Code.isDigit_eq_false_of (by decide) hsmall] at h
  cases h

/-- Casing leaves digits as they are. -/
theorem toLower_of_isDigit {c : Char} (h : c.isDigit = true) : Unicode.toLower c = [c] := by
  have hupper : ¬ c.isUpper = true := by
    intro hupper
    rw [Code.isDigit_eq_false_of (by decide) hupper] at h
    cases h
  rw [Unicode.toLower_ascii (toNat_lt_of_isDigit h), Char.toLower_eq_of_not_isUpper hupper]

/-- The kind of a production is camel case with an ending of a capital letter and digits. -/
theorem isKindName_productionKind {name : String} {ordinal : Nat}
    (husable : NameTable.Usable (productionKind name ordinal)) :
    isKindName (productionKind name ordinal) = true := by
  unfold productionKind at husable ⊢
  rw [String.append_assoc] at husable ⊢
  have hletter : ∀ c ∈ "P".toList, Unicode.isSmall c = false := by
    intro c hc
    obtain rfl : c = 'P' := List.mem_singleton.mp hc
    rfl
  refine isKindName_camelCase_append husable ?_
  rw [String.toList_append]
  refine List.forall_mem_append.mpr ⟨hletter, fun c hc => ?_⟩
  exact isSmall_eq_false_of_isDigit (isDigit_of_mem_toString hc)

/-! ## Functions -/

/-- Letters and digits stand in identifiers. -/
theorem isIdentifierChar_of_isAlphanum {c : Char} (h : c.isAlphanum = true) :
    isIdentifierChar c = true := by
  simp [isIdentifierChar, h]

/-- Capital letters do. -/
theorem isIdentifierChar_of_isUpper {c : Char} (h : c.isUpper = true) :
    isIdentifierChar c = true :=
  isIdentifierChar_of_isAlphanum (by simp [Char.isAlphanum, Char.isAlpha, h])

/-- Small letters do. -/
theorem isIdentifierChar_of_isLower {c : Char} (h : c.isLower = true) :
    isIdentifierChar c = true :=
  isIdentifierChar_of_isAlphanum (by simp [Char.isAlphanum, Char.isAlpha, h])

/-- The small form of a letter or digit can stand in a function. -/
theorem isFunctionChar_toLower {c : Char} (h : c.isAlphanum = true) :
    ∀ d ∈ Unicode.toLower c, isFunctionChar d = true := by
  intro d hd
  -- letters become small, and digits stay
  rcases Bool.or_eq_true_iff.mp h with halpha | hdigit
  · have hascii := toNat_lt_of_isIdentifierChar (isIdentifierChar_of_isAlphanum h)
    rw [Unicode.toLower_ascii hascii] at hd
    rw [List.mem_singleton.mp hd]
    simp [isFunctionChar, halpha]
  · rw [toLower_of_isDigit hdigit] at hd
    rw [List.mem_singleton.mp hd]
    simp [isFunctionChar, hdigit]

/-- A capital letter has one small form, and that is small. -/
theorem isLower_toLower {c : Char} (h : c.isUpper = true) :
    Unicode.toLower c = [c.toLower] ∧ c.toLower.isLower = true := by
  have hascii : c.toNat < 128 := toNat_lt_of_isIdentifierChar (isIdentifierChar_of_isUpper h)
  refine ⟨Unicode.toLower_ascii hascii, ?_⟩
  rw [Char.isLower_toLower_eq_isAlpha, Char.isAlpha, h, Bool.true_or]

/-- Snake case makes functions of kinds. -/
theorem isFunctionName_snakeCase {kind : String} (h : isKindName kind = true) :
    isFunctionName (snakeCase kind) = true := by
  obtain ⟨c, tail, hkind, hupper, htail⟩ := isKindName_iff.mp h
  -- only the first character has to become small; the others may be anything that can follow
  obtain ⟨hlower, hsmall⟩ := isLower_toLower hupper
  have hsnake : (snakeCase kind).toList = c.toLower :: snakeFrom (Unicode.isLower c) tail := by
    simp [snakeCase, snakeChars, hkind, snakeFrom, hlower]
  refine isFunctionName_iff.mpr ⟨_, _, hsnake, hsmall, ?_⟩
  exact forall_mem_snakeFrom (by decide) (fun d hd => isFunctionChar_toLower (htail d hd)) _

/-- A recognizer's first word is small letters and an underscore, and the rest is a function. -/
theorem isFunctionName_recognizerName {kind : String} (h : isKindName kind = true) :
    isFunctionName (recognizerName kind) = true := by
  -- behind the first word, the function of the kind starts with a small letter
  obtain ⟨c, tail, hsnake, hlower, htail⟩ := isFunctionName_iff.mp (isFunctionName_snakeCase h)
  have hname : (recognizerName kind).toList = "recognize_".toList ++ c :: tail := by
    simp [recognizerName, hsnake]
  have hword : ∀ d ∈ "ecognize_".toList, isFunctionChar d = true := List.all_eq_true.mp (by decide)
  refine isFunctionName_iff.mpr ⟨'r', "ecognize_".toList ++ c :: tail, hname, by decide, ?_⟩
  refine List.forall_mem_append.mpr ⟨hword, List.forall_mem_cons.mpr ⟨?_, htail⟩⟩
  simp [isFunctionChar, hlower]

/-! ## Keywords -/

open Code (keywords)

/-- `Self` is the only keyword with a capital letter. -/
theorem kind_not_mem_keywords {kind : String} (h : isKindName kind = true) (hself : kind ≠ "Self") :
    kind ∉ keywords := by
  -- the keywords are finitely many; one alone has the shape of a kind
  have hall : ∀ word ∈ keywords, isKindName word = true → word = "Self" := by decide
  exact fun hmem => hself (hall kind hmem h)

/-- A recognizer is known by its first word. -/
theorem recognizerName_not_mem {words : List String}
    (hwords : ∀ word ∈ words, "recognize_".toList.isPrefixOf word.toList = false) (kind : String) :
    recognizerName kind ∉ words := by
  intro hmem
  have hprefix := hwords _ hmem
  simp [recognizerName] at hprefix

/-- No keyword starts with a recognizer's first word. -/
theorem recognizerName_not_mem_keywords (kind : String) : recognizerName kind ∉ keywords :=
  recognizerName_not_mem (by decide) kind

/-- A number ends with a digit. -/
theorem toString_eq_concat (number : Nat) :
    ∃ digits last, (toString number).toList = digits ++ [last] ∧ last.isDigit = true := by
  obtain ⟨c, tail, hdigits, -⟩ := Code.Reading.exists_digit number
  have hsplit := List.dropLast_append_getLast (List.cons_ne_nil c tail)
  have hmem : (c :: tail).getLast (List.cons_ne_nil c tail) ∈ (toString number).toList := by
    rw [hdigits]
    exact List.getLast_mem _
  exact ⟨_, _, hdigits.trans hsplit.symm, isDigit_of_mem_toString hmem⟩

/-- Actions end with a digit, and no keyword does. -/
theorem actionName_not_mem_keywords (name : String) (ordinal : Nat) :
    actionName (productionKind name ordinal) ∉ keywords := by
  have hall : ∀ word ∈ keywords, word.toList.getLast?.any Char.isDigit = false := by decide
  -- casing keeps the last character of a name, which is the last digit of the ordinal
  obtain ⟨digits, last, hlast, hdigit⟩ := toString_eq_concat ordinal
  have hlower : Unicode.toLower last = [last] := toLower_of_isDigit hdigit
  have hkind : (productionKind name ordinal).toList =
      (camelChars name.toList ++ "P".toList ++ digits) ++ [last] := by
    rw [productionKind, String.toList_append, String.toList_append, hlast, camelCase,
      String.toList_ofList, List.append_assoc _ digits]
  obtain ⟨front, hfront⟩ :=
    snakeFrom_concat false (camelChars name.toList ++ "P".toList ++ digits) last
  have hname : (actionName (productionKind name ordinal)).toList = front ++ [last] := by
    rw [actionName, snakeCase, String.toList_ofList, snakeChars, hkind, hfront, hlower]
  intro hmem
  have hnone := hall _ hmem
  rw [hname, List.getLast?_concat, Option.any_some, hdigit] at hnone
  cases hnone

/-- The reserved `Self` has been refused before. -/
theorem ne_self_of_usable {kind : String} (h : NameTable.Usable kind) : kind ≠ "Self" := by
  rintro rfl
  exact h.2 (List.mem_cons_self ..)

/-! ## Identifiers -/

/-- What can stand in a function can stand in an identifier. -/
theorem isIdentifierChar_of_isFunctionChar {c : Char} (h : isFunctionChar c = true) :
    isIdentifierChar c = true := by
  rcases Bool.or_eq_true_iff.mp h with h | hunderscore
  · rcases Bool.or_eq_true_iff.mp h with hlower | hdigit
    · exact isIdentifierChar_of_isLower hlower
    · exact isIdentifierChar_of_isAlphanum (by simp [Char.isAlphanum, hdigit])
  · simp [isIdentifierChar, hunderscore]

/-- A kind that is no keyword is an identifier as it stands. -/
theorem identifier?_of_isKindName {kind : String} (h : isKindName kind = true)
    (hkeyword : kind ∉ keywords) : Code.identifier? kind = some kind := by
  obtain ⟨c, tail, hkind, hupper, htail⟩ := isKindName_iff.mp h
  have hdigit : c.isDigit = false := Code.isDigit_eq_false_of (by decide) hupper
  refine Code.identifier?_word hkind hdigit (List.forall_mem_cons.mpr ⟨?_, ?_⟩) hkeyword
  · exact isIdentifierChar_of_isUpper hupper
  · exact fun d hd => isIdentifierChar_of_isAlphanum (htail d hd)

/-- So is a function that is no keyword. -/
theorem identifier?_of_isFunctionName {name : String} (h : isFunctionName name = true)
    (hkeyword : name ∉ keywords) : Code.identifier? name = some name := by
  obtain ⟨c, tail, hname, hlower, htail⟩ := isFunctionName_iff.mp h
  have hdigit : c.isDigit = false := Code.isDigit_eq_false_of (by decide) hlower
  refine Code.identifier?_word hname hdigit (List.forall_mem_cons.mpr ⟨?_, ?_⟩) hkeyword
  · exact isIdentifierChar_of_isLower hlower
  · exact fun d hd => isIdentifierChar_of_isFunctionChar (htail d hd)

end Naming

/-! ## Names of a table -/

open Naming

namespace NameTable.DerivedFrom

variable {symbols : SymbolTable} {names : NameTable}

/-- Terminals are named by kinds, those of the punctuation table among them. -/
theorem isKindName_of_mem_terminalKinds (derived : names.DerivedFrom symbols) :
    ∀ kind ∈ names.terminalKinds, isKindName kind = true := by
  intro kind hkind
  have husable := derived.terminalKinds_usable kind hkind
  rw [derived.terminalKinds_eq] at hkind
  obtain ⟨terminal, -, rfl⟩ := List.mem_map.mp hkind
  exact isKindName_terminalKind husable

/-- Nonterminals are named by kinds. -/
theorem isKindName_of_mem_nonterminalKinds (derived : names.DerivedFrom symbols) :
    ∀ kind ∈ names.nonterminalKinds, isKindName kind = true := by
  intro kind hkind
  have husable := derived.nonterminalKinds_usable kind hkind
  rw [derived.nonterminalKinds_eq] at hkind
  obtain ⟨name, -, rfl⟩ := List.mem_map.mp hkind
  exact isKindName_camelCase husable

/-- Productions are named by kinds with their ordinals. -/
theorem isKindName_of_mem_productionKinds (derived : names.DerivedFrom symbols) :
    ∀ kind ∈ names.productionKinds, isKindName kind = true := by
  intro kind hkind
  have husable := derived.productionKinds_usable kind hkind
  rw [derived.productionKinds_eq] at hkind
  obtain ⟨production, -, rfl⟩ := List.mem_map.mp hkind
  exact isKindName_productionKind husable

end NameTable.DerivedFrom

/-- A class of names: one for each member, all of one shape and all different, and each of them an
identifier as it stands. -/
structure NameClass {α : Type} (members : List α) (shape : String → Bool) (names : List String) :
    Prop where
  length_eq : names.length = members.length
  nodup : names.Nodup
  shape_eq : ∀ name ∈ names, shape name = true
  not_keyword : ∀ name ∈ names, name ∉ Code.keywords
  identifier_eq : ∀ name ∈ names, Code.identifier? name = some name

section Classes

variable {α : Type} {members : List α} {names : List String}

/-- Checked kinds of the right number, all different, are a class of names. -/
theorem NameClass.of_kinds (hlength : names.length = members.length) (hnodup : names.Nodup)
    (hshape : ∀ kind ∈ names, isKindName kind = true)
    (husable : ∀ kind ∈ names, NameTable.Usable kind) : NameClass members isKindName names := by
  have hkeyword : ∀ kind ∈ names, kind ∉ Code.keywords := fun kind hkind =>
    kind_not_mem_keywords (hshape kind hkind) (ne_self_of_usable (husable kind hkind))
  exact {
    length_eq := hlength
    nodup := hnodup
    shape_eq := hshape
    not_keyword := hkeyword
    identifier_eq := fun kind hkind =>
      identifier?_of_isKindName (hshape kind hkind) (hkeyword kind hkind) }

/-- Functions need no check of their own, but must be known not to be keywords. -/
theorem NameClass.of_functions (hlength : names.length = members.length) (hnodup : names.Nodup)
    (hshape : ∀ name ∈ names, isFunctionName name = true)
    (hkeyword : ∀ name ∈ names, name ∉ Code.keywords) : NameClass members isFunctionName names where
  length_eq := hlength
  nodup := hnodup
  shape_eq := hshape
  not_keyword := hkeyword
  identifier_eq := fun name hname =>
    identifier?_of_isFunctionName (hshape name hname) (hkeyword name hname)

end Classes

/-- All five classes of names are usable as they stand, and no kind is the reserved `Self`. -/
structure NameTable.UsableFor (names : NameTable) (symbols : SymbolTable) : Prop where
  terminalKinds : NameClass symbols.terminals isKindName names.terminalKinds
  recognizers : NameClass symbols.terminals isFunctionName names.recognizers
  nonterminalKinds : NameClass symbols.nonterminals isKindName names.nonterminalKinds
  productionKinds : NameClass symbols.productions isKindName names.productionKinds
  actions : NameClass symbols.productions isFunctionName names.actions
  ne_self : ∀ kind ∈ names.terminalKinds ++ names.nonterminalKinds ++ names.productionKinds,
    kind ≠ "Self"

/-- The names of a table are usable as they stand. -/
theorem names_usable {symbols : SymbolTable} {names : NameTable}
    (h : NameTable.ofSymbols symbols = .ok names) : names.UsableFor symbols := by
  have derived := NameTable.derivedFrom_of_ofSymbols h
  -- kinds have their shape since they are checked, functions since kinds have theirs
  have hterminals := derived.isKindName_of_mem_terminalKinds
  have hproductions := derived.isKindName_of_mem_productionKinds
  have hactions : ∀ name ∈ names.actions, isFunctionName name = true := by
    rw [derived.actions_eq]
    exact List.forall_mem_map.mpr fun kind hkind =>
      isFunctionName_snakeCase (hproductions kind hkind)
  have hrecognizers : ∀ name ∈ names.recognizers, isFunctionName name = true := by
    rw [derived.recognizers_eq]
    exact List.forall_mem_map.mpr fun kind hkind =>
      isFunctionName_recognizerName (hterminals kind hkind)
  constructor
  case terminalKinds =>
    exact .of_kinds derived.length_terminalKinds derived.terminalKinds_nodup hterminals
      derived.terminalKinds_usable
  case recognizers =>
    refine .of_functions derived.length_recognizers derived.recognizers_nodup hrecognizers ?_
    rw [derived.recognizers_eq]
    exact List.forall_mem_map.mpr fun kind _ => recognizerName_not_mem_keywords kind
  case nonterminalKinds =>
    exact .of_kinds derived.length_nonterminalKinds derived.nonterminalKinds_nodup
      derived.isKindName_of_mem_nonterminalKinds derived.nonterminalKinds_usable
  case productionKinds =>
    exact .of_kinds derived.length_productionKinds derived.productionKinds_nodup hproductions
      derived.productionKinds_usable
  case actions =>
    refine .of_functions derived.length_actions derived.actions_nodup hactions ?_
    rw [derived.actions_eq, derived.productionKinds_eq]
    exact List.forall_mem_map.mpr (List.forall_mem_map.mpr fun production _ =>
      actionName_not_mem_keywords _ _)
  case ne_self =>
    refine List.forall_mem_append.mpr ⟨List.forall_mem_append.mpr ⟨?_, ?_⟩, ?_⟩
    · exact fun kind hkind => ne_self_of_usable (derived.terminalKinds_usable kind hkind)
    · exact fun kind hkind => ne_self_of_usable (derived.nonterminalKinds_usable kind hkind)
    · exact fun kind hkind => ne_self_of_usable (derived.productionKinds_usable kind hkind)

/-- Symbols that are named by keywords, with underscores and by punctuation. -/
def keywordSymbols : SymbolTable where
  terminals := [⟨"while", .literal "while"⟩, ⟨"*!", .literal "*!"⟩, ⟨"_r_", .pattern "r"⟩]
  nonterminals := ["fn", "self_type"]
  productions := [⟨⟨0⟩, 0, [.terminal ⟨0⟩]⟩, ⟨⟨1⟩, 0, []⟩, ⟨⟨1⟩, 1, [.nonterminal ⟨0⟩]⟩]
  augmentedStart? := none

def keywordNames : NameTable :=
  ⟨["While", "AsteriskGready", "R"],
    ["recognize_while", "recognize_asterisk_gready", "recognize_r"], ["Fn", "SelfType"],
    ["FnP0", "SelfTypeP0", "SelfTypeP1"], ["fn_p0", "self_type_p0", "self_type_p1"]⟩

theorem names_usable_keywords :
    NameTable.ofSymbols keywordSymbols = .ok keywordNames ∧
      keywordNames.UsableFor keywordSymbols := by
  have hnames : NameTable.ofSymbols keywordSymbols = .ok keywordNames := by decide +kernel
  exact ⟨hnames, names_usable hnames⟩

end ParserFoundry

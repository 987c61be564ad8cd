import ParserFoundry.Proofs.Generation.Blueprint
import ParserFoundry.Proofs.Naming.Shapes
import ParserFoundry.Proofs.Naming.Words
/-!
# Names That Casing Brings Back

Camel case drops the underscores of a name, and snake case puts one between a small letter and a
capital. A name of small letters, digits and underscores comes back if these are the places where
its underscores were: no two of them adjoin, and each has a letter behind it and in front of it a
letter that has not become a capital.

Main results:
- `snakeFrom_flatMap_capitalize`: words that are capitalized, joined and put into snake case.
- `rejoin_eq_iff`: when their joints are underscores.
- `snakeCase_camelCase_iff`: the names that come back.
-/

namespace ParserFoundry

namespace Naming

variable {chars word : List Char}

/-! ## Small letters, digits and underscores -/

/-- Snake case leaves what is no capital as it is. -/
theorem casing_of_isFunctionChar {c : Char} (h : isFunctionChar c = true) :
    Unicode.isUpper c = false ∧ Unicode.toLower c = [c] ∧ Unicode.isLower c = c.isAlpha := by
  have hascii := Code.toNat_lt_of_isIdentifierChar (isIdentifierChar_of_isFunctionChar h)
  exact Unicode.forall_ascii (P := fun c => isFunctionChar c = true →
    Unicode.isUpper c = false ∧ Unicode.toLower c = [c] ∧ Unicode.isLower c = c.isAlpha)
    (by decide +kernel) hascii h

/-- The capital of a letter goes back to the letter, and what is no letter is its own capital. -/
theorem casing_of_capital {c : Char} (h : isFunctionChar c = true) :
    Unicode.toUpper c = [c.toUpper] ∧ Unicode.toLower c.toUpper = [c] ∧
      Unicode.isUpper c.toUpper = c.isAlpha ∧ Unicode.isLower c.toUpper = false := by
  have hascii := Code.toNat_lt_of_isIdentifierChar (isIdentifierChar_of_isFunctionChar h)
  exact Unicode.forall_ascii (P := fun c => isFunctionChar c = true →
    Unicode.toUpper c = [c.toUpper] ∧ Unicode.toLower c.toUpper = [c] ∧
      Unicode.isUpper c.toUpper = c.isAlpha ∧ Unicode.isLower c.toUpper = false)
    (by decide +kernel) hascii h

theorem snakeFrom_of_isFunctionChar (h : ∀ c ∈ chars, isFunctionChar c = true)
    (afterLower : Bool) : snakeFrom afterLower chars = chars := by
  refine snakeFrom_eq_self (fun c hc => ?_) afterLower
  obtain ⟨hupper, hlower, -⟩ := casing_of_isFunctionChar (h c hc)
  exact ⟨hupper, hlower⟩

/-! ## Words in snake case -/

/-- Whether the word starts with a letter, which can become a capital. -/
def opensWithLetter (word : List Char) : Bool :=
  word.head?.any Char.isAlpha

/-- Whether the word ends with a letter that does not become a capital. -/
def closesWithLetter (word : List Char) : Bool :=
  decide (2 ≤ word.length) && word.getLast?.any Char.isAlpha

/-- Join words as snake case does it with their capitalizations: with an underscore where a letter
that is small comes before a letter that becomes a capital. -/
def rejoin (afterLower : Bool) : List (List Char) → List Char
  | [] => []
  | word :: rest =>
    (if opensWithLetter word && afterLower then ['_'] else []) ++ word ++
      rejoin (closesWithLetter word) rest

/-- A capitalized word comes back, with an underscore in front if a small letter comes before it. -/
theorem snakeFrom_capitalize (h : ∀ c ∈ word, isFunctionChar c = true) (afterLower : Bool) :
    snakeFrom afterLower (capitalize word) =
      (if opensWithLetter word && afterLower then ['_'] else []) ++ word := by
  cases word with
  | nil => rfl
  | cons c rest =>
    obtain ⟨hc, hrest⟩ := List.forall_mem_cons.mp h
    obtain ⟨hcapital, hback, hupper, -⟩ := casing_of_capital hc
    rw [capitalize, hcapital, List.singleton_append, snakeFrom, hback, hupper,
      snakeFrom_of_isFunctionChar hrest, List.append_assoc]
    rfl

/-- A small letter ends a capitalized word exactly if it has not become a capital itself. -/
theorem lowerAfter_capitalize (hne : word ≠ []) (h : ∀ c ∈ word, isFunctionChar c = true)
    (afterLower : Bool) : lowerAfter afterLower (capitalize word) = closesWithLetter word := by
  obtain ⟨c, rest, rfl⟩ := List.exists_cons_of_ne_nil hne
  obtain ⟨hc, hrest⟩ := List.forall_mem_cons.mp h
  obtain ⟨hcapital, -, -, hlower⟩ := casing_of_capital hc
  rw [capitalize, hcapital, List.singleton_append, lowerAfter, closesWithLetter]
  rcases List.eq_nil_or_concat rest with rfl | ⟨front, last, rfl⟩
  · -- the only character is a capital now
    simp [hlower]
  · obtain ⟨-, -, hlast⟩ := casing_of_isFunctionChar (hrest last (by simp))
    rw [List.concat_eq_append, ← List.cons_append, ← List.cons_append, List.getLast?_concat,
      List.getLast?_concat]
    simp [hlast]

/-- Words that are capitalized, joined and put into snake case are rejoined. -/
theorem snakeFrom_flatMap_capitalize {words : List (List Char)}
    (h : ∀ word ∈ words, word ≠ [] ∧ ∀ c ∈ word, isFunctionChar c = true) (afterLower : Bool) :
    snakeFrom afterLower (words.flatMap capitalize) = rejoin afterLower words := by
  induction words generalizing afterLower with
  | nil => rfl
  | cons word rest ih =>
    obtain ⟨⟨hne, hword⟩, hrest⟩ := List.forall_mem_cons.mp h
    rw [List.flatMap_cons, snakeFrom_append, snakeFrom_capitalize hword,
      lowerAfter_capitalize hne hword, ih hrest, rejoin]

/-! ## Underscores -/

/-- There are no more underscores than joints. -/
theorem count_rejoin_le {words : List (List Char)} (h : ∀ word ∈ words, '_' ∉ word)
    (afterLower : Bool) : (rejoin afterLower words).count '_' ≤ words.length := by
  induction words generalizing afterLower with
  | nil => simp [rejoin]
  | cons word rest ih =>
    obtain ⟨hword, hrest⟩ := List.forall_mem_cons.mp h
    -- between two words there is one underscore at most
    have hjoint : (if opensWithLetter word && afterLower then ['_'] else []).count '_' ≤ 1 := by
      split <;> simp
    have hbehind := ih hrest (closesWithLetter word)
    rw [rejoin, List.count_append, List.count_append, List.count_eq_zero_of_not_mem hword,
      List.length_cons]
    omega

/-- A name has one stretch more than it has underscores. -/
theorem length_splitOn_underscore (chars : List Char) :
    (chars.splitOn '_').length = chars.count '_' + 1 := by
  induction chars with
  | nil => rfl
  | cons c rest ih =>
    rw [List.splitOn_cons_eq_if_modifyHead]
    by_cases hc : c = '_'
    · simp [hc, ih]
    · simp [hc, ih]

/-- The stretches of a name are made of its characters without the underscores. -/
theorem mem_of_splitOn (h : word ∈ chars.splitOn '_') : ∀ c ∈ word, c ∈ chars ∧ c ≠ '_' := by
  induction chars generalizing word with
  | nil =>
    rw [List.splitOn_nil, List.mem_singleton] at h
    simp [h]
  | cons first rest ih =>
    rw [List.splitOn_cons_eq_if_modifyHead] at h
    obtain ⟨stretch, others, hsplit⟩ := List.exists_cons_of_ne_nil (List.splitOn_ne_nil '_' rest)
    rw [hsplit] at h ih
    have hbehind : ∀ other ∈ stretch :: others, ∀ c ∈ other, c ∈ first :: rest ∧ c ≠ '_' := by
      intro other hother c hc
      obtain ⟨hmem, hne⟩ := ih hother c hc
      exact ⟨List.mem_cons_of_mem _ hmem, hne⟩
    by_cases hfirst : first = '_'
    · -- an underscore is put in front of an empty stretch
      rw [if_pos (beq_iff_eq.mpr hfirst)] at h
      rcases List.mem_cons.mp h with rfl | hmem
      · exact fun c hc => absurd hc List.not_mem_nil
      · exact hbehind word hmem
    · rw [if_neg (mt beq_iff_eq.mp hfirst), List.modifyHead_cons] at h
      rcases List.mem_cons.mp h with rfl | hmem
      · exact List.forall_mem_cons.mpr
          ⟨⟨List.mem_cons_self, hfirst⟩, hbehind stretch List.mem_cons_self⟩
      · exact hbehind word (List.mem_cons_of_mem _ hmem)

theorem intercalate_underscore (first : List Char) (rest : List (List Char)) :
    ['_'].intercalate (first :: rest) = first ++ rest.flatMap fun word => '_' :: word := by
  induction rest generalizing first with
  | nil => simp
  | cons word others ih => simp [List.intercalate_cons_cons, ih]

/-! ## Names that come back -/

/-- Words are rejoined with all of their underscores exactly if all but the last one close with a
letter and all but the first one open with one. -/
theorem rejoin_eq_iff {first : List Char} {rest : List (List Char)}
    (h : ∀ word ∈ rest, word ≠ [] ∧ '_' ∉ word) :
    (rejoin (closesWithLetter first) rest = rest.flatMap fun word => '_' :: word) ↔
      (∀ word ∈ (first :: rest).dropLast, closesWithLetter word = true) ∧
        ∀ word ∈ rest, opensWithLetter word = true := by
  -- the first word goes along, since it decides the joint in front of the next one
  induction rest generalizing first with
  | nil => simp [rejoin]
  | cons word others ih =>
    obtain ⟨⟨hne, hunderscore⟩, hothers⟩ := List.forall_mem_cons.mp h
    rw [List.flatMap_cons, rejoin, List.dropLast_cons_of_ne_nil (List.cons_ne_nil word others),
      List.forall_mem_cons, List.forall_mem_cons]
    cases hjoint : opensWithLetter word && closesWithLetter first with
    | true =>
      -- the joint is an underscore, and what is behind the word decides
      obtain ⟨hopens, hcloses⟩ := Bool.and_eq_true_iff.mp hjoint
      simp [ih hothers, hopens, hcloses]
    | false =>
      -- without an underscore the first character of the word stands in its place
      obtain ⟨c, tail, rfl⟩ := List.exists_cons_of_ne_nil hne
      have hc : c ≠ '_' := fun heq => hunderscore (heq ▸ List.mem_cons_self)
      have hdiffer : ¬ ((c :: tail) ++ rejoin (closesWithLetter (c :: tail)) others =
          '_' :: (c :: tail) ++ others.flatMap fun word => '_' :: word) :=
        fun heq => hc (List.cons.inj heq).1
      have hmissing : ¬ (closesWithLetter first = true ∧ opensWithLetter (c :: tail) = true) := by
        rw [and_comm, ← Bool.and_eq_true_iff, hjoint]
        exact Bool.false_ne_true
      simp only [Bool.false_eq_true, if_false, List.nil_append, hdiffer, false_iff]
      exact fun hboth => hmissing ⟨hboth.1.1, hboth.2.1⟩

/-- Stretches between underscores that casing brings back: none is empty, all but the last one have
at least two characters and end in a letter, and all but the first one start with a letter. -/
structure ComesBack (stretches : List (List Char)) : Prop where
  ne_nil : ∀ stretch ∈ stretches, stretch ≠ []
  closes : ∀ stretch ∈ stretches.dropLast,
    2 ≤ stretch.length ∧ stretch.getLast?.any Char.isAlpha = true
  opens : ∀ stretch ∈ stretches.tail, stretch.head?.any Char.isAlpha = true

instance (stretches : List (List Char)) : Decidable (ComesBack stretches) :=
  decidable_of_iff
    ((∀ stretch ∈ stretches, stretch ≠ []) ∧
      (∀ stretch ∈ stretches.dropLast,
        2 ≤ stretch.length ∧ stretch.getLast?.any Char.isAlpha = true) ∧
      ∀ stretch ∈ stretches.tail, stretch.head?.any Char.isAlpha = true)
    ⟨fun h => ⟨h.1, h.2.1, h.2.2⟩, fun back => ⟨back.ne_nil, back.closes, back.opens⟩⟩

theorem closesWithLetter_iff :
    closesWithLetter word = true ↔
      2 ≤ word.length ∧ word.getLast?.any Char.isAlpha = true := by
  rw [closesWithLetter, Bool.and_eq_true, decide_eq_true_eq]

theorem comesBack_iff {first : List Char} {rest : List (List Char)}
    (h : ∀ word ∈ first :: rest, word ≠ []) :
    ComesBack (first :: rest) ↔
      (∀ word ∈ (first :: rest).dropLast, closesWithLetter word = true) ∧
        ∀ word ∈ rest, opensWithLetter word = true := by
  simp only [closesWithLetter_iff]
  exact ⟨fun back => ⟨back.closes, back.opens⟩, fun ⟨hcloses, hopens⟩ => ⟨h, hcloses, hopens⟩⟩

/-- Of a name of small letters, digits and underscores the words are left, and rejoined. -/
theorem snakeChars_camelChars (h : ∀ c ∈ chars, isFunctionChar c = true) :
    snakeChars (camelChars chars) = rejoin false (words chars) := by
  rw [snakeChars, camelChars, segments_eq_words]
  refine snakeFrom_flatMap_capitalize (fun word hword => ?_) false
  obtain ⟨hsplit, hne⟩ := List.mem_filter.mp hword
  exact ⟨by simpa using hne, fun c hc => h c (mem_of_splitOn hsplit c hc).1⟩

/-- A name with an empty stretch loses an underscore, unless it is empty itself. -/
theorem rejoin_words_ne (hchars : chars ≠ []) (hempty : [] ∈ chars.splitOn '_') :
    rejoin false (words chars) ≠ chars := by
  intro heq
  have hlength := length_splitOn_underscore chars
  have hfewer : (words chars).length < (chars.splitOn '_').length :=
    List.length_filter_lt_length_iff_exists.mpr ⟨[], hempty, by simp⟩
  -- words have none themselves, so all underscores are in the joints
  have hunderscore : ∀ word ∈ words chars, '_' ∉ word := fun word hword hmem =>
    (mem_of_splitOn (List.mem_filter.mp hword).1 '_' hmem).2 rfl
  cases hwords : words chars with
  | nil =>
    rw [hwords] at heq
    exact hchars heq.symm
  | cons first rest =>
    -- the first word has no underscore in front, and each of the others at most one
    rw [hwords] at heq hfewer hunderscore
    have hcount := congrArg (List.count '_') heq
    obtain ⟨hfirst, hrest⟩ := List.forall_mem_cons.mp hunderscore
    have hle := count_rejoin_le hrest (closesWithLetter first)
    rw [rejoin, Bool.and_false, if_neg Bool.false_ne_true, List.nil_append, List.count_append,
      List.count_eq_zero_of_not_mem hfirst] at hcount
    rw [List.length_cons] at hfewer
    omega

theorem snakeChars_camelChars_eq_iff (h : ∀ c ∈ chars, isFunctionChar c = true) :
    snakeChars (camelChars chars) = chars ↔ chars = [] ∨ ComesBack (chars.splitOn '_') := by
  rw [snakeChars_camelChars h]
  by_cases hempty : [] ∈ chars.splitOn '_'
  -- with an empty stretch the underscores do not come back
  · have hnever : ¬ ComesBack (chars.splitOn '_') := fun back => back.ne_nil [] hempty rfl
    constructor
    · intro heq
      exact .inl (not_imp_not.mp (fun hchars => rejoin_words_ne hchars hempty) heq)
    · rintro (rfl | hback)
      · rfl
      · exact absurd hback hnever
  · -- all stretches are words, and only their joints matter
    have hne : ∀ stretch ∈ chars.splitOn '_', stretch ≠ [] := fun stretch hmem heq =>
      hempty (heq ▸ hmem)
    have hwords : words chars = chars.splitOn '_' :=
      List.filter_eq_self.mpr fun stretch hmem => by simpa using hne stretch hmem
    have hchars : chars ≠ [] := by
      rintro rfl
      exact hempty (by simp)
    have hjoined : ['_'].intercalate (chars.splitOn '_') = chars := List.intercalate_splitOn '_'
    have hunderscore : ∀ stretch ∈ chars.splitOn '_', stretch ≠ [] ∧ '_' ∉ stretch :=
      fun stretch hmem => ⟨hne stretch hmem, fun hc => (mem_of_splitOn hmem '_' hc).2 rfl⟩
    obtain ⟨first, rest, hsplit⟩ := List.exists_cons_of_ne_nil (List.splitOn_ne_nil '_' chars)
    rw [hsplit] at hwords hne hjoined hunderscore ⊢
    rw [intercalate_underscore] at hjoined
    rw [hwords, rejoin, Bool.and_false, if_neg Bool.false_ne_true, List.nil_append,
      comesBack_iff hne,
      ← rejoin_eq_iff fun word hword => hunderscore word (List.mem_cons_of_mem _ hword)]
    -- both sides are the first stretch, and the others with what is put between them
    nth_rewrite 1 [← hjoined]
    simp [hchars]

/-- **When the casings are inverse to each other.** A name of small letters, digits and underscores
is the snake case of its camel case exactly if it is empty, or no stretch between its underscores is
empty, each but the last one has at least two characters and ends in a letter, and each but the
first one starts with a letter. So the file of a generated parser is called after the name that was
asked for exactly in these cases. -/
theorem snakeCase_camelCase_iff (name : String)
    (hname : ∀ c ∈ name.toList, isFunctionChar c = true) :
    (snakeCase (camelCase name) = name ↔
      name = "" ∨ ComesBack (name.toList.splitOn '_')) ∧
    ∀ options grammar automaton library generated, options.parserName = name →
      (Generation.generate options grammar automaton library).result.1 = .ok generated →
      (generated.parser.name = name ++ ".rs" ↔
        name = "" ∨ ComesBack (name.toList.splitOn '_')) := by
  have hinverse : snakeCase (camelCase name) = name ↔
      name = "" ∨ ComesBack (name.toList.splitOn '_') := by
    rw [← String.toList_inj, snakeCase, camelCase, String.toList_ofList, String.toList_ofList,
      snakeChars_camelChars_eq_iff hname, String.toList_eq_nil_iff]
  refine ⟨hinverse, ?_⟩
  rintro options grammar automaton library generated rfl hgenerated
  obtain ⟨blueprint, -, hstem, rfl⟩ := Generation.exists_named_blueprint hgenerated
  have hfile : blueprint.generated.parser.name =
      snakeCase (camelCase options.parserName) ++ ".rs" :=
    congrArg (fun stem => snakeCase stem ++ ".rs") hstem
  rw [← hinverse, hfile]
  exact String.append_left_inj ".rs"

end Naming

/-! ## Files of generated parsers -/

namespace Generation

open Naming (camelCase isFunctionChar ComesBack)

/-- Names with the same camel case ask for the same parser. -/
theorem generate_of_camelCase_eq {options : GenerationOptions} {grammar : Grammar}
    {automaton : Automaton} {library : Library} {name stem : String}
    (hstem : typeStem options = .ok stem) (hname : camelCase name = camelCase options.parserName) :
    generate { options with parserName := name } grammar automaton library =
      generate options grammar automaton library := by
  have hother : typeStem { options with parserName := name } = .ok stem := by
    -- only the camel case of the name is checked and used
    simp only [typeStem, hname] at hstem ⊢
    split at hstem
    · cases hstem
    · split at hstem
      · rename_i hempty hspells
        rw [if_neg hempty, if_pos hspells]
        exact hstem
      · cases hstem
  simp only [generate, hstem, hother]
  rfl

end Generation

namespace Naming

/-- A name of three words comes back. One with an underscore at its end does not: the file of its
parser is called without the underscore. -/
theorem snakeCase_camelCase_iff_grammar :
    (∀ c ∈ "term_list_p3".toList, isFunctionChar c = true) ∧
    snakeCase (camelCase "term_list_p3") = "term_list_p3" ∧
    (∀ c ∈ "grammar_".toList, isFunctionChar c = true) ∧
    (Generation.generate { parserName := "grammar_" } Statements.grammar
      Statements.automaton).result.1 = .ok Statements.blueprint.generated ∧
    Statements.blueprint.generated.parser.name ≠ "grammar_" ++ ".rs" := by
  have hwords : ∀ c ∈ "term_list_p3".toList, isFunctionChar c = true :=
    List.all_eq_true.mp (by decide +kernel)
  have hback : ComesBack ("term_list_p3".toList.splitOn '_') := by decide +kernel
  have hchars : ∀ c ∈ "grammar_".toList, isFunctionChar c = true :=
    List.all_eq_true.mp (by decide +kernel)
  have hlost : ¬ ("grammar_" = "" ∨ ComesBack ("grammar_".toList.splitOn '_')) := by
    decide +kernel
  have hstem : Generation.typeStem {} = .ok "Grammar" := by decide +kernel
  have hname : camelCase "grammar_" = camelCase ({} : GenerationOptions).parserName := by
    decide +kernel
  -- camel case drops the underscore, so the same parser is generated as without it
  have hgenerated : (Generation.generate { parserName := "grammar_" } Statements.grammar
      Statements.automaton).result.1 = .ok Statements.blueprint.generated := by
    rw [← Statements.generate_blueprint]
    exact congrArg (fun run => run.result.1) (Generation.generate_of_camelCase_eq hstem hname)
  refine ⟨hwords, (snakeCase_camelCase_iff _ hwords).1.mpr (.inr hback), hchars, hgenerated, ?_⟩
  exact fun hfile =>
    hlost (((snakeCase_camelCase_iff _ hchars).2 _ _ _ _ _ rfl hgenerated).mp hfile)

end Naming

end ParserFoundry

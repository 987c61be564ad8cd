import ParserFoundry.Proofs.Naming.Idempotence
/-!
# Words of Names

A name is read word by word, a word being what stands between underscores, unless that is nothing.
The stretches that camel case collects along the name are these words, so that camel case is a
function of them.

Main results:
- `segments_eq_words`: the stretches that are collected are the words.
- `camelChars_eq_nil_iff`: which names become empty.
- `camelCase_of_words`: camel case is a normal form of the words.
-/

namespace ParserFoundry

namespace Naming

/-! ## Words -/

/-- What stands between underscores, without what is empty. -/
def words (chars : List Char) : List (List Char) :=
  (chars.splitOn '_').filter fun word => !word.isEmpty

variable {chars : List Char}

/-- The stretches along a name are its words; the first of them goes on with the stretch at hand. -/
theorem segmentsFrom_eq_filter (current chars : List Char) :
    segmentsFrom current chars =
      (chars.splitOnPPrepend (· == '_') current).filter fun word => !word.isEmpty := by
  induction chars generalizing current with
  | nil => cases current <;> simp [segmentsFrom]
  | cons c rest ih =>
    rw [segmentsFrom, List.splitOnPPrepend_cons_eq_if]
    by_cases hc : c = '_'
    · -- an underscore ends the stretch at hand, which is dropped if it is empty
      rw [if_pos hc, if_pos (beq_iff_eq.mpr hc), ih, List.splitOnPPrepend_nil_right]
      cases current <;> simp
    · rw [if_neg hc, if_neg (mt beq_iff_eq.mp hc), ih]

theorem segments_eq_words (chars : List Char) : segments chars = words chars :=
  segmentsFrom_eq_filter [] chars

/-! ## Empty names -/

theorem capitalize_ne_nil {word : List Char} (h : word ≠ []) : capitalize word ≠ [] := by
  obtain ⟨c, rest, rfl⟩ := List.exists_cons_of_ne_nil h
  rw [capitalize]
  exact List.append_ne_nil_of_left_ne_nil (Unicode.toUpper_ne_nil c) rest

/-- Only underscores leave no stretch. -/
theorem segmentsFrom_eq_nil_iff {current : List Char} :
    segmentsFrom current chars = [] ↔ current = [] ∧ ∀ c ∈ chars, c = '_' := by
  -- a stretch at hand is never lost, so only underscores leave nothing behind
  induction chars generalizing current with
  | nil => cases current <;> simp [segmentsFrom]
  | cons c rest ih =>
    by_cases hc : c = '_'
    · cases current with
      | nil => simp [segmentsFrom, hc, ih]
      | cons d others => simp [segmentsFrom, hc]
    · simp [segmentsFrom, hc, ih]

/-- The names that become empty consist of underscores. -/
theorem camelChars_eq_nil_iff : camelChars chars = [] ↔ ∀ c ∈ chars, c = '_' := by
  have hsegments : camelChars chars = [] ↔ segments chars = [] := by
    rw [camelChars, List.flatMap_eq_nil_iff, List.eq_nil_iff_forall_not_mem]
    -- a segment is not empty, and neither is its capitalization
    constructor
    · intro hempty segment hmem
      exact capitalize_ne_nil (mem_segments hmem).1 (hempty segment hmem)
    · intro hnone segment hmem
      exact absurd hmem (hnone segment)
  rw [hsegments, segments, segmentsFrom_eq_nil_iff]
  exact and_iff_right rfl

/-! ## Camel case -/

/-- **Camel case is a normal form of the words of a name.** Applied twice it gives what it gives
applied once, it has no underscore, and it is empty exactly for names that consist of underscores.
It joins the words of the name, each with its first character in upper case, which may be several
characters; so names of the same words have the same camel case. -/
theorem camelCase_of_words (name : String) :
    camelCase (camelCase name) = camelCase name ∧
    '_' ∉ (camelCase name).toList ∧
    (camelCase name = "" ↔ ∀ c ∈ name.toList, c = '_') ∧
    camelCase name = String.ofList ((words name.toList).flatMap capitalize) ∧
    ∀ other : String, words other.toList = words name.toList →
      camelCase other = camelCase name := by
  have hwords : ∀ name : String,
      camelCase name = String.ofList ((words name.toList).flatMap capitalize) := by
    -- the segments are the words, so nothing else of the name is asked for
    intro name
    rw [camelCase, camelChars, segments_eq_words]
  refine ⟨camelCase_camelCase name, ?_, ?_, hwords name, ?_⟩
  · rw [camelCase, String.toList_ofList]
    exact underscore_not_mem_camelChars name.toList
  · rw [← String.toList_eq_nil_iff, camelCase, String.toList_ofList]
    exact camelChars_eq_nil_iff
  · intro other hsame
    rw [hwords other, hsame, ← hwords name]

/-- Underscores around the words make no difference. Two of the words start with a character whose
upper case is two characters. -/
theorem camelCase_of_words_sharp :
    words "__ß_ŉ_aß".toList = words "ß__ŉ_aß_".toList ∧
    camelCase "__ß_ŉ_aß" = camelCase "ß__ŉ_aß_" ∧
    camelCase "__ß_ŉ_aß" = "SSʼNAß" := by
  have hwords : words "__ß_ŉ_aß".toList = words "ß__ŉ_aß_".toList := by decide +kernel
  exact ⟨hwords, (camelCase_of_words "ß__ŉ_aß_").2.2.2.2 "__ß_ŉ_aß" hwords, by decide +kernel⟩

end Naming

end ParserFoundry

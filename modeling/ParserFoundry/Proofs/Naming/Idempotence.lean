import ParserFoundry.Proofs.NameTable
import ParserFoundry.Proofs.Unicode.UpperCase
/-!
# Deriving Kinds Twice

Camel case leaves a name in camel case as it is. It has no underscore, so that it is one segment, and
upper-case letters are their own upper case.

The kinds of terminals come from two rules, and the result of one may fall under the other: without
its underscore, `_;` is the name of a punctuation mark. This is the only way in which the kind of a
kind can differ from the kind.

Main results:
- `Naming.camelCase_camelCase`: camel case is idempotent.
- `Naming.terminalKind_terminalKind_iff`: for which terminals the kind of the kind is the kind.
-/

namespace ParserFoundry

namespace Naming

/-! ## Camel case of camel case -/

variable {chars : List Char}

/-- Without an underscore there is one segment, unless there is nothing. -/
theorem segmentsFrom_of_not_mem (h : '_' ∉ chars) (current : List Char) :
    segmentsFrom current chars =
      if (current.reverse ++ chars).isEmpty then [] else [current.reverse ++ chars] := by
  induction chars generalizing current with
  | nil => cases current <;> simp [segmentsFrom]
  | cons c rest ih =>
    simp only [List.mem_cons, not_or] at h
    rw [segmentsFrom, if_neg (Ne.symm h.1), ih h.2]
    simp

theorem camelChars_camelChars (chars : List Char) :
    camelChars (camelChars chars) = camelChars chars := by
  have hunderscore := underscore_not_mem_camelChars chars
  cases hcamel : camelChars chars with
  | nil => rfl
  | cons c tail =>
    obtain ⟨first, hfirst, hmem⟩ := exists_mem_toUpper_of_camelChars hcamel
    rw [hcamel] at hunderscore
    have hsegments : segments (c :: tail) = [c :: tail] := by
      rw [segments, segmentsFrom_of_not_mem hunderscore]
      rfl
    rw [camelChars, hsegments, List.flatMap_singleton, capitalize,
      Unicode.toUpper_of_mem_toUpper hfirst hmem, List.singleton_append]

/-- Camel case is idempotent. -/
theorem camelCase_camelCase (name : String) : camelCase (camelCase name) = camelCase name := by
  rw [camelCase, camelCase, String.toList_ofList, camelChars_camelChars]

/-! ## Kinds of kinds -/

/-- The kinds of punctuation are no punctuation, and in camel case. -/
theorem terminalKind_of_punctuation :
    ∀ entry ∈ punctuation, terminalKind entry.2 = entry.2 ∧ entry.1 ≠ entry.2 ∧
      NameTable.isIdentifier entry.1.toList = false := by
  decide +kernel

theorem mem_punctuation_of_lookup {name kind : String} (h : punctuation.lookup name = some kind) :
    (name, kind) ∈ punctuation := by
  obtain ⟨before, after, hsplit, -⟩ := List.lookup_eq_some_iff.mp h
  simp [hsplit]

/-- The kind of the kind of a terminal is the kind, unless the terminal is no punctuation and becomes
punctuation in camel case. -/
theorem terminalKind_terminalKind_iff {name : String} :
    terminalKind (terminalKind name) = terminalKind name ↔
      (punctuation.lookup name = none → punctuation.lookup (camelCase name) = none) := by
  cases hname : punctuation.lookup name with
  | some kind =>
    have hkind : terminalKind name = kind := by rw [terminalKind, hname]
    rw [hkind]
    simpa using (terminalKind_of_punctuation _ (mem_punctuation_of_lookup hname)).1
  | none =>
    have hcamel : terminalKind name = camelCase name := by rw [terminalKind, hname]
    rw [hcamel]
    -- the second time the name is looked up in the form that it has in camel case
    cases hagain : punctuation.lookup (camelCase name) with
    | none =>
      rw [terminalKind, hagain]
      simpa using camelCase_camelCase name
    | some kind =>
      have hne := (terminalKind_of_punctuation _ (mem_punctuation_of_lookup hagain)).2.1
      rw [terminalKind, hagain]
      simpa using hne.symm

/-- Without the underscore this is a semicolon. -/
example : terminalKind "_;" = ";" ∧ terminalKind ";" = "SemiColon" := by decide +kernel

/-- A kind that is usable is its own kind. -/
theorem terminalKind_of_usable {name : String} (h : NameTable.Usable (terminalKind name)) :
    terminalKind (terminalKind name) = terminalKind name := by
  refine terminalKind_terminalKind_iff.mpr fun hname => ?_
  rw [terminalKind, hname] at h
  refine Option.eq_none_iff_forall_ne_some.mpr fun kind hkind => ?_
  -- no punctuation is an identifier
  have hnone := (terminalKind_of_punctuation _ (mem_punctuation_of_lookup hkind)).2.2
  rw [h.1] at hnone
  cases hnone

end Naming

end ParserFoundry

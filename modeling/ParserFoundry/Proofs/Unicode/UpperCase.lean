import ParserFoundry.Proofs.Naming.Casing
/-!
# Upper Case of Upper Case

Characters are mapped to upper case by tables of stretches. No stretch is mapped into another stretch
that is mapped again, so that upper-case letters are their own upper case.

Main results:
- `CaseRun.covers_image_eq_false`: when the images of one stretch lie outside of another one.
- `toUpper_of_mem_toUpper`: upper case is its own upper case.
-/

namespace ParserFoundry

namespace Unicode

/-! ## Runs and their images -/

/-- Whether the images of a run are seen to lie outside of another run: below it, above it, between
its steps, or beside it if there is only one. -/
def CaseRun.avoids (run other : CaseRun) : Bool :=
  Nat.blt other.last run.target || Nat.blt (run.image run.last) other.first ||
    (run.step == 2 && other.step == 2 && (run.target + other.first) % 2 == 1) ||
    (run.first == run.last && !other.covers run.target)

theorem CaseRun.covers_image_eq_false {run other : CaseRun} {code : Nat}
    (havoids : run.avoids other = true) (hcovers : run.covers code = true) :
    other.covers (run.image code) = false := by
  simp only [covers, Bool.and_eq_true, decide_eq_true_eq, beq_iff_eq] at hcovers
  obtain ⟨⟨hfirst, hlast⟩, hstep⟩ := hcovers
  simp only [avoids, Bool.or_eq_true, Nat.blt_eq, Bool.and_eq_true, beq_iff_eq,
    Bool.not_eq_true'] at havoids
  refine Bool.eq_false_iff.mpr fun himage => ?_
  have hbounds := himage
  simp only [covers, Bool.and_eq_true, decide_eq_true_eq, beq_iff_eq] at hbounds
  simp only [image] at hbounds
  -- the four ways in which a run is seen to avoid another one
  rcases havoids with ((hbelow | habove) | ⟨⟨htwo, hother⟩, hparity⟩) | ⟨hsingle, hbeside⟩
  · omega
  · simp only [image] at habove
    omega
  · rw [htwo] at hstep
    rw [hother] at hbounds
    omega
  · have htarget : run.image code = run.target := by
      unfold image
      omega
    rw [htarget, hbeside] at himage
    cases himage

/-! ## Characters that are their own upper case -/

/-- The stretches of characters beyond ASCII that have another upper case. -/
def upperSources : List CaseRun :=
  upperRuns ++ upperExpansions.map fun entry => ⟨entry.1, entry.1, 1, entry.1⟩

/-- What is no small letter and belongs to no stretch is its own upper case. -/
theorem toUpper_eq_self {c : Char} (hlower : c.isLower = false)
    (hsources : 128 ≤ c.toNat → ∀ run ∈ upperSources, run.covers c.toNat = false) :
    toUpper c = [c] := by
  unfold toUpper
  split
  case isTrue hascii =>
    have hall : c.isLower = false → c.toUpper = c :=
      forall_ascii (P := fun c => c.isLower = false → c.toUpper = c) (by decide +kernel) hascii
    rw [hall hlower]
  case isFalse hascii =>
    obtain ⟨hruns, hexpansions⟩ := List.forall_mem_append.mp (hsources (Nat.le_of_not_lt hascii))
    -- an expansion is listed under its character, which belongs to no stretch
    have hnoExpansion : (upperExpansions.find? fun entry => entry.1 == c.toNat) = none := by
      refine List.find?_eq_none.mpr fun entry hentry heq => ?_
      have hcovers := List.forall_mem_map.mp hexpansions entry hentry
      simp [CaseRun.covers, beq_iff_eq.mp heq] at hcovers
    have hnoRun : (upperRuns.find? fun run => run.covers c.toNat) = none := by
      refine List.find?_eq_none.mpr fun run hrun => ?_
      simp [hruns run hrun]
    simp only [mapCase, hnoExpansion, hnoRun]

/-- A character that is made from a number beyond ASCII has that number. -/
theorem toNat_ofNat_of_le {code : Nat} (h : 128 ≤ (Char.ofNat code).toNat) :
    (Char.ofNat code).toNat = code := by
  by_cases hvalid : code.isValidChar
  · exact toNat_ofNat_of_isValidChar hvalid
  · -- a number without a character stands for the null character
    rw [Char.ofNat, dif_neg hvalid] at h
    exact absurd h (by decide)

theorem toUpper_lt_of_ascii {c : Char} (hascii : c.toNat < 128) : c.toUpper.toNat < 128 :=
  forall_ascii (P := fun c => c.toUpper.toNat < 128) (by decide +kernel) hascii

/-! ## The tables -/

theorem upperRuns_avoid : (upperRuns.all fun run => upperSources.all run.avoids) = true := by
  decide +kernel

theorem upperExpansions_avoid : (upperExpansions.all fun entry => entry.2.all fun code =>
    code < 128 || upperSources.all fun run => !run.covers code) = true := by
  decide +kernel

/-- Upper case is its own upper case. -/
theorem toUpper_of_mem_toUpper {c d : Char} (hc : c ≠ '_') (h : d ∈ toUpper c) :
    toUpper d = [d] := by
  have hlower : d.isLower = false := (Bool.or_eq_false_iff.mp (not_isSmall_of_mem_toUpper hc h)).1
  by_cases hascii : c.toNat < 128
  · rw [toUpper, if_pos hascii] at h
    obtain rfl := List.mem_singleton.mp h
    have hstays := toUpper_lt_of_ascii hascii
    -- images of letters of ASCII stay in it, where no table is asked
    exact toUpper_eq_self hlower fun hbeyond => by omega
  · have hmapped : toUpper c = mapCase upperExpansions upperRuns c := if_neg hascii
    -- a character that neither table lists is its own upper case, and images are not listed
    rw [hmapped, mapCase] at h
    split at h
    case h_1 entry hentry =>
      obtain ⟨code, hcode, rfl⟩ := List.mem_map.mp h
      refine toUpper_eq_self hlower fun hbeyond => ?_
      have hcodeNat := toNat_ofNat_of_le hbeyond
      rw [hcodeNat] at hbeyond ⊢
      -- the numbers of all expansions have been compared with all stretches
      have hall := List.all_eq_true.mp upperExpansions_avoid entry (List.mem_of_find?_eq_some hentry)
      simpa [Nat.not_lt.mpr hbeyond] using List.all_eq_true.mp hall code hcode
    case h_2 hnoExpansion =>
      split at h
      case h_1 run hrun =>
        obtain rfl := List.mem_singleton.mp h
        refine toUpper_eq_self hlower fun hbeyond => ?_
        rw [toNat_ofNat_of_le hbeyond]
        intro other hother
        have hall := List.all_eq_true.mp upperRuns_avoid run (List.mem_of_find?_eq_some hrun)
        have hcovers := List.find?_some hrun
        exact CaseRun.covers_image_eq_false (List.all_eq_true.mp hall other hother) hcovers
      case h_2 hnoRun =>
        obtain rfl := List.mem_singleton.mp h
        simp only [hmapped, mapCase, hnoExpansion, hnoRun]

end Unicode

end ParserFoundry

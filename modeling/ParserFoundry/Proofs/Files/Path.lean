import ParserFoundry.Files.Path
/-!
# Directories Above a Path

The parent of a path has fewer pieces, so the paths above it come to an end, and all of them are
listed.

Main results:
- `ancestors_eq`, `mem_ancestors_iff`: the list of the paths above a path.
-/

namespace ParserFoundry.Files

namespace Path

theorem length_dropIdleEnd_le (pieces : List Name) :
    (dropIdleEnd pieces).length ≤ pieces.length := by
  induction pieces with
  | nil => exact Nat.le_refl 0
  | cons piece rest ih =>
    unfold dropIdleEnd
    split
    case h_1 hrest =>
      split
      · exact Nat.zero_le _
      · exact Nat.succ_le_succ (Nat.zero_le _)
    case h_2 => exact Nat.succ_le_succ ih

theorem length_trimmed_le (path : Path) : path.trimmed.length ≤ path.pieces.length := by
  unfold trimmed
  split
  case h_1 here rest _ hpieces =>
    rw [hpieces]
    exact Nat.succ_le_succ (length_dropIdleEnd_le rest)
  case h_2 => exact length_dropIdleEnd_le _

theorem length_pieces_lt_of_parent {path parent : Path} (h : path.parent? = some parent) :
    parent.pieces.length < path.pieces.length := by
  have hpieces : path.pieces ≠ [] := by
    -- without a piece there is nothing but the root, and that has no parent
    intro hnil
    obtain ⟨rooted, pieces⟩ := path
    subst hnil
    cases rooted <;> cases h
  -- the parent is what is left without the last piece, once idle ends are dropped
  obtain ⟨last, hlast⟩ : ∃ last, parent = ⟨path.rooted, last⟩ ∧
      last = (⟨path.rooted, path.trimmed.dropLast⟩ : Path).trimmed := by
    unfold parent? at h
    split at h
    case h_1 => cases h
    case h_2 => cases h
    case h_3 => exact ⟨_, (Option.some.inj h).symm, rfl⟩
  have hparent := length_trimmed_le ⟨path.rooted, path.trimmed.dropLast⟩
  have htrimmed := length_trimmed_le path
  have hpositive := List.length_pos_iff.mpr hpieces
  rw [hlast.1, hlast.2]
  simp only [List.length_dropLast] at hparent ⊢
  omega

/-- As many steps as there are pieces are enough. -/
theorem ancestorsFrom_congr {path : Path} {steps steps' : Nat} (h : path.pieces.length ≤ steps)
    (h' : path.pieces.length ≤ steps') : ancestorsFrom steps path = ancestorsFrom steps' path := by
  -- a parent has fewer pieces, so one step less suffices for it
  induction steps generalizing path steps' with
  | zero =>
    cases hparent : path.parent? with
    | none => cases steps' <;> simp [ancestorsFrom, hparent]
    | some parent =>
      have hlt := length_pieces_lt_of_parent hparent
      omega
  | succ steps ih =>
    cases hparent : path.parent? with
    | none => cases steps' <;> simp [ancestorsFrom, hparent]
    | some parent =>
      have hlt := length_pieces_lt_of_parent hparent
      obtain ⟨more, rfl⟩ : ∃ more, steps' = more + 1 := ⟨steps' - 1, by omega⟩
      simp only [ancestorsFrom, hparent]
      rw [ih (by omega) (by omega : parent.pieces.length ≤ more)]

/-- A path is listed, and then what is listed for its parent. -/
theorem ancestors_eq (path : Path) :
    path.ancestors =
      path :: match path.parent? with
        | none => []
        | some parent => parent.ancestors := by
  rw [ancestors, ancestorsFrom]
  cases hparent : path.parent? with
  | none => rfl
  | some parent =>
    have hlt := length_pieces_lt_of_parent hparent
    exact congrArg _ (ancestorsFrom_congr (by omega) (by omega))

/-- A path, its parent, and so on up to the last one. -/
inductive IsAncestor : Path → Path → Prop
  | self {path : Path} : IsAncestor path path
  | above {path parent ancestor : Path} :
      path.parent? = some parent → IsAncestor ancestor parent → IsAncestor ancestor path

/-- All directories above a path are listed. -/
theorem mem_ancestors_iff {path ancestor : Path} :
    ancestor ∈ path.ancestors ↔ IsAncestor ancestor path := by
  constructor
  · -- the induction is on the pieces, since a parent has fewer of them
    induction hlength : path.pieces.length using Nat.strongRecOn generalizing path with
    | ind length ih =>
      intro h
      rw [ancestors_eq] at h
      rcases List.mem_cons.mp h with rfl | habove
      · exact .self
      · cases hparent : path.parent? with
        | none =>
          rw [hparent] at habove
          cases habove
        | some parent =>
          rw [hparent] at habove
          have hlt := length_pieces_lt_of_parent hparent
          exact .above hparent (ih _ (hlength ▸ hlt) rfl habove)
  · intro h
    induction h with
    | self =>
      rw [ancestors_eq]
      exact List.mem_cons_self
    | above hparent _ ih =>
      rw [ancestors_eq, hparent]
      exact List.mem_cons_of_mem _ ih

end Path

end ParserFoundry.Files

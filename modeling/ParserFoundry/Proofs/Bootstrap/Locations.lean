import ParserFoundry.Bootstrap.Staging
import ParserFoundry.Proofs.Files.Components
/-!
# Where Staged Files Are

A file of a project is kept by its path from the root, and it is looked for behind the root again.
A path that leads through the root leads to the same file then, and so does any other path. But a
path that is meant from the root may have the components of the root in front, too: it is not told
apart from a path through the root, and another file is staged in its place.

Main results:
- `components_join_kept`: where a path leads from the root, after it was kept.
- `addFile_location`: the law for all files, and when a file is kept where it was said to be.
-/

namespace ParserFoundry.Files.Path

variable {root path : Path}

/-! ## Kept paths -/

/-- The path that is kept of a path from a root. -/
def kept (root path : Path) : Path :=
  (path.relativeTo? root).getD path

/-- A path that has the components of the root in front leads where it leads by itself, and any
other path leads behind the root. -/
theorem components_join_kept (hroot : root.rooted = false → root.pieces.head? ≠ some []) :
    (root.join (kept root path)).components =
      if root.components <+: path.components then path.components
      else (root.join path).components := by
  unfold kept
  -- the root is taken off in front, or the path is kept as it is
  cases hrest : path.relativeTo? root with
  | none => rw [if_neg (relativeTo_eq_none_iff.mp hrest), Option.getD_none]
  | some rest =>
    have hbegins : root.components <+: path.components := by
      by_contra hnot
      cases hrest.symm.trans (relativeTo_eq_none_iff.mpr hnot)
    rw [if_pos hbegins, Option.getD_some]
    by_cases hempty : root.components = []
    · -- behind nothing, the path is what it is
      rw [eq_of_components_nil hroot hempty, ← components_relativeTo hempty hrest, join]
      cases rest.rooted <;> rfl
    · -- the steps that were kept go on where the root ends
      obtain ⟨hrooted, hsteps⟩ := steps_relativeTo hempty hrest
      rw [components_join hempty hrooted, hsteps]

/-- The start of a path is its first component, unless this is a step. -/
theorem start_eq_filter (path : Path) :
    path.start =
      (path.components.take 1).filter fun component => component = .root ∨ component = .current := by
  rw [components_eq, start]
  split
  case isTrue => rfl
  case isFalse =>
    split
    case isTrue => rfl
    case isFalse =>
      cases hsteps : steps path.pieces with
      | nil => rfl
      | cons component rest =>
        obtain ⟨piece, -, rfl⟩ := exists_of_mem_steps (hsteps ▸ List.mem_cons_self)
        simp [componentOf_ne_root, componentOf_ne_current]

theorem start_eq_of_isFront (hroot : root.components ≠ [])
    (hbegins : root.components <+: path.components) : root.start = path.start := by
  -- both first components are the same, and the start is decided by the first one
  obtain ⟨later, hlater⟩ := hbegins
  have hfirst : path.components.take 1 = root.components.take 1 := by
    rw [← hlater, List.take_append_of_le_length (List.length_pos_iff.mpr hroot)]
  rw [start_eq_filter, start_eq_filter, hfirst]

/-- A path that starts with the components of a root, but not at the root of all files, has them
twice from the root. -/
theorem components_join_eq_self_iff (hbegins : root.components <+: path.components)
    (hroot : root.rooted = false → root.pieces.head? ≠ some []) :
    (root.join path).components = path.components ↔
      path.rooted = true ∨ steps root.pieces = [] := by
  cases hrooted : path.rooted with
  | true =>
    rw [join, if_pos hrooted]
    exact iff_of_true rfl (.inl rfl)
  | false =>
    -- a root without components is the empty path, behind which a path is itself
    by_cases hempty : root.components = []
    · have hnothing := eq_of_components_nil hroot hempty
      have hjoin : root.join path = path := by
        rw [hnothing, join, if_neg (by simp [hrooted])]
        rfl
      rw [hjoin, hnothing]
      exact iff_of_true rfl (.inr rfl)
    · -- the paths start in the same way, so that the steps of the root are left over
      rw [components_join hempty hrooted, components_eq path, List.append_left_inj,
        ← start_eq_of_isFront hempty hbegins, components_eq root]
      simp

end ParserFoundry.Files.Path

namespace ParserFoundry.Bootstrap.Staging

open Files

variable {staging : Staging}

/-- **Where a file is staged**: a path that has the components of the root in front means itself,
and any other path is one from the root. So files are staged where they were said to be, except for
those whose paths from the root start with the components of the root. -/
theorem addFile_location {text : String} (hroot : staging.root = .ofText text) (path : Path) :
    ∃ stored, (staging.addFile path).files = staging.files ++ [stored] ∧
      ((staging.root.join stored).components =
        if staging.root.components <+: path.components then path.components
        else (staging.root.join path).components) ∧
      ((staging.root.join stored).components = (staging.root.join path).components ↔
        path.rooted = true ∨ ¬staging.root.components <+: path.components ∨
          Path.steps staging.root.pieces = []) := by
  have hhead : staging.root.rooted = false → staging.root.pieces.head? ≠ some [] := by
    rw [hroot]
    exact Path.head_ofText text
  -- the law is the lemma; the second part compares its two sides
  refine ⟨Path.kept staging.root path, rfl, Path.components_join_kept hhead, ?_⟩
  rw [Path.components_join_kept hhead]
  split
  case isTrue hbegins =>
    rw [eq_comm, Path.components_join_eq_self_iff hbegins hhead]
    simp [hbegins]
  case isFalse hbegins => exact iff_of_true rfl (.inr (.inl hbegins))

/-- The file `p/x.rs` of the project `p` is not the file `x.rs`, but this is staged for it. -/
example :
    let staging := ({ root := .ofText "p" } : Staging).addFile (.ofText "p/x.rs")
    staging.files = [.ofText "x.rs"] ∧
      staging.files.map staging.target = [.ofText "p/x_bootstrap.rs"] ∧
      staging.root.join (.ofText "p/x.rs") = .ofText "p/p/x.rs" := by
  decide

end ParserFoundry.Bootstrap.Staging

import ParserFoundry.Proofs.Bootstrap.Finishing
import ParserFoundry.Proofs.Files.Within
/-!
# What Finishing Takes Away

Finishing deletes files of a project, so that it matters what it leaves alone. Whatever a tree
holds and whatever the system refuses, the snapshots up to the first that stays are gone, each is
reported as removed or as missing, and no other place has changed.

Main results:
- `Removing.within`, `Removing.cleared`: what is left after snapshots were removed or found missing.
- `finish_clears`: finishing, to its end or up to a snapshot that cannot be removed.
-/

namespace ParserFoundry.Bootstrap

open Files

/-! ## Merged lists -/

/-- The last list is made of the elements of the two others, and keeps the order of both. -/
inductive Merged {α : Type} : List α → List α → List α → Prop
  | nil : Merged [] [] []
  | left {value : α} {first second all : List α} :
      Merged first second all → Merged (value :: first) second (value :: all)
  | right {value : α} {first second all : List α} :
      Merged first second all → Merged first (value :: second) (value :: all)

theorem Merged.mem_left {α : Type} {first second all : List α} (h : Merged first second all)
    {value : α} (hvalue : value ∈ first) : value ∈ all := by
  induction h with
  | nil => exact hvalue
  | left _ ih =>
    rcases List.mem_cons.mp hvalue with rfl | hrest
    · exact List.mem_cons_self
    · exact List.mem_cons_of_mem _ (ih hrest)
  | right _ ih => exact List.mem_cons_of_mem _ (ih hvalue)

namespace Staging

variable {staging : Staging} {refusals : Refusals} {tree between final : Tree}

/-! ## Removed snapshots -/

/-- What is left of a tree when each of some paths was removed or found missing. -/
structure Cleared (tree : Tree) (paths : List Path) (report : Removed) (final : Tree) : Prop where
  reported : Merged report.removed report.missing paths
  /-- What was removed were files of the tree. -/
  files : ∀ path ∈ report.removed, ∃ contents, tree.at? path.place = some (.file contents)
  /-- What was missing did not exist, unless it led to a file that was removed before. -/
  missing : ∀ path ∈ report.missing, tree.exists_ path = false ∨
    ∃ earlier ∈ report.removed, earlier.place = path.place
  gone : ∀ path ∈ paths, final.exists_ path = false
  others : ∀ place, (∀ path ∈ report.removed, path.place ≠ place) →
    final.at? place = tree.at? place

/-- Removing files adds nothing to a tree. -/
theorem Removing.within {paths : List Path} {report : Removed}
    (h : Removing refusals tree paths report final) : final.Within tree := by
  induction h with
  | nil => exact .refl _
  | removed hremove _ ih =>
    -- a removal that was not refused has erased one place
    obtain ⟨hreaches, -, rfl⟩ :=
      Tree.removeFile_eq_ok_iff.mp (Refusals.guard_eq_ok_iff.mp hremove).2
    exact ih.trans (Tree.erase_within hreaches.place_ne_nil)
  | missing _ _ ih => exact ih

theorem Cleared.of_nil (tree : Tree) : Cleared tree [] {} tree where
  reported := .nil
  files := nofun
  missing := nofun
  gone := nofun
  others _ _ := rfl

/-- The file at a path is removed, and then the others are. -/
theorem Cleared.of_removed {path : Path} {rest : List Path} {report : Removed}
    (hremove : tree.removeFile path = .ok between) (hwithin : final.Within between)
    (h : Cleared between rest report final) :
    Cleared tree (path :: rest) { report with removed := path :: report.removed } final := by
  obtain ⟨hreaches, ⟨contents, hfile⟩, rfl⟩ := Tree.removeFile_eq_ok_iff.mp hremove
  have hgone := Tree.exists_eq_false_of_removeFile hremove
  have hplace := hreaches.place_ne_nil
  have hbetween : (tree.erase path.place).at? path.place = none := Tree.at?_erase_self hplace
  constructor
  case reported => exact .left h.reported
  case files =>
    refine List.forall_mem_cons.mpr ⟨⟨contents, hfile⟩, fun other hother => ?_⟩
    obtain ⟨found, hfound⟩ := h.files other hother
    -- nothing stands any longer where the first file stood
    have hne : other.place ≠ path.place := by
      intro heq
      rw [heq, hbetween] at hfound
      cases hfound
    exact ⟨found, by rwa [Tree.at?_erase_of_ne hne] at hfound⟩
  case missing =>
    intro other hother
    rcases h.missing other hother with hmissing | ⟨earlier, hearlier, hsame⟩
    · cases hexists : tree.exists_ other with
      | false => exact .inl rfl
      | true =>
        -- the path stopped existing when the first file went, so it led there
        have hnode : tree.at? path.place ≠ some .directory := by simp [hfile]
        have hsame := Tree.place_eq_of_exists_erase hplace hnode hexists hmissing
        exact .inr ⟨path, List.mem_cons_self, hsame.symm⟩
    · exact .inr ⟨earlier, List.mem_cons_of_mem _ hearlier, hsame⟩
  -- what does not exist any longer is not put back by later removals
  case gone => exact List.forall_mem_cons.mpr ⟨hwithin.exists_eq_false hgone, h.gone⟩
  case others =>
    intro place hothers
    obtain ⟨hpath, hrest⟩ := List.forall_mem_cons.mp hothers
    rw [h.others place hrest, Tree.at?_erase_of_ne (Ne.symm hpath)]

/-- A path is missing, and then the others are removed. -/
theorem Cleared.of_missing {path : Path} {rest : List Path} {report : Removed}
    (hremove : tree.removeFile path = .error .missing) (hwithin : final.Within tree)
    (h : Cleared tree rest report final) :
    Cleared tree (path :: rest) { report with missing := path :: report.missing } final := by
  have hmissing := Tree.exists_eq_false_of_missing hremove
  constructor
  case reported => exact .right h.reported
  case files => exact h.files
  case missing => exact List.forall_mem_cons.mpr ⟨.inl hmissing, h.missing⟩
  case gone => exact List.forall_mem_cons.mpr ⟨hwithin.exists_eq_false hmissing, h.gone⟩
  case others => exact h.others

theorem Removing.cleared {paths : List Path} {report : Removed}
    (h : Removing refusals tree paths report final) : Cleared tree paths report final := by
  -- along the relation, each removal or missing file in front of what the rest comes to
  induction h with
  | nil => exact .of_nil _
  | removed hremove hrest ih =>
    exact ih.of_removed (Refusals.guard_eq_ok_iff.mp hremove).2 hrest.within
  | missing hremove hrest ih =>
    exact ih.of_missing (Refusals.guard_eq_missing_iff.mp hremove).2 hrest.within

/-- A place that has changed is that of one of the snapshots, and nothing stands there any longer. -/
theorem Removing.changed {files : List Path} (hfiles : files ⊆ staging.files) {report : Removed}
    (h : Removing refusals tree (files.map staging.target) report final) {place : Place}
    (hchanged : final.at? place ≠ tree.at? place) :
    final.at? place = none ∧ ∃ file ∈ staging.files, (staging.target file).place = place := by
  constructor
  · -- anything that stands there would have stood there before
    cases hnode : final.at? place with
    | none => rfl
    | some node => exact absurd (hnode.trans (h.within place node hnode).symm) hchanged
  · by_contra hnone
    push Not at hnone
    refine hchanged (h.cleared.others place fun path hpath => ?_)
    obtain ⟨file, hfile, rfl⟩ := List.mem_map.mp (h.cleared.reported.mem_left hpath)
    exact hnone file (hfiles hfile)

/-! ## Finishing -/

/-- **Finishing takes away snapshots and nothing else**: if it comes to a result, all snapshots are
gone and reported in order; if it fails, that is so for the snapshots before one that could not be
removed although it was not missing. In no case does it change a place that is not that of a
snapshot. -/
theorem finish_clears (staging : Staging) (refusals : Refusals) (tree : Tree) :
    let finished := staging.finish tree refusals
    (match finished.outcome with
      | .ok report => Cleared tree (staging.files.map staging.target) report finished.tree
      | .error cause =>
        ∃ first file later report, staging.files = first ++ file :: later ∧
          Cleared tree (first.map staging.target) report finished.tree ∧
          refusals.guard .remove finished.tree (staging.target file)
            (finished.tree.removeFile (staging.target file)) = .error cause ∧
          cause ≠ .missing) ∧
      ∀ place, finished.tree.at? place ≠ tree.at? place →
        finished.tree.at? place = none ∧
          ∃ file ∈ staging.files, (staging.target file).place = place := by
  intro finished
  rcases finishFrom_ends staging refusals tree {} staging.files with
    ⟨report, hremoving, houtcome⟩ | ⟨cause, houtcome, first, file, later, report, hfiles, hremoving,
      hstopped⟩
  · -- the turn of every file has come
    have hok : finished.outcome = .ok report := by
      rw [show finished.outcome = _ from houtcome]
      simp
    rw [hok]
    exact ⟨hremoving.cleared, fun place => hremoving.changed (List.Subset.refl _)⟩
  · -- only the files before the one at which it stopped have had their turn
    have hsubset : first ⊆ staging.files := by
      rw [hfiles]
      exact List.subset_append_left first _
    rw [show finished.outcome = _ from houtcome]
    exact ⟨⟨first, file, later, report, hfiles, hremoving.cleared, hstopped⟩,
      fun place => hremoving.changed hsubset⟩

/-- A directory that has the name of a snapshot stays, and the snapshot before it does not. -/
example :
    let tree : Tree := ⟨[(["p".toList], .directory),
      (["p".toList, "a_bootstrap.rs".toList], .file [7]),
      (["p".toList, "b_bootstrap.rs".toList], .directory)]⟩
    let finished := twice.finish tree
    finished.outcome = .error .isDirectory ∧
      finished.tree.exists_ (.ofText "p/a_bootstrap.rs") = false ∧
      finished.tree.isDirectory (.ofText "p/b_bootstrap.rs") = true := by
  decide

end Staging

end ParserFoundry.Bootstrap

import ParserFoundry.Bootstrap.SnapshotPath
import ParserFoundry.Proofs.Files.Components
/-!
# Snapshots Have Their Own Paths

Staging writes the snapshot of a file beside the file. So the snapshot of one file must not have
the path of the snapshot of another one, nor that of its own file. The name of a file can be read
off the name of its snapshot, whatever dots it has, and a name is never one that stands in for a
missing one.

Main results:
- `splitExtension_snapshotName`, `snapshotName_injective`: what the name of a snapshot shows.
- `components_snapshotPath`: the components of the path of a snapshot.
- `snapshotPath_apart`: paths of snapshots are apart from each other and from those of the files.
-/

namespace ParserFoundry.Bootstrap

open Files

/-! ## Names -/

theorem splitExtension_snapshotName (name : Name) :
    Path.splitExtension (snapshotName name) =
      ((Path.splitExtension name).1 ++ ending, (Path.splitExtension name).2) := by
  unfold snapshotName
  rcases Path.splitExtension_cases name with
    ⟨hdot, hsplit⟩ | ⟨stem, extension, hstem, hdot, -, hsplit⟩
  · -- there is no dot behind the first character of the name, and none in the ending
    have hdot' : '.' ∉ (name ++ ending).tail := by
      cases name with
      | nil => decide
      | cons first rest =>
        exact List.not_mem_append hdot (by decide)
    rw [hsplit]
    dsimp only
    rw [List.append_nil]
    exact Path.splitExtension_of_not_mem hdot'
  · -- the ending comes before the last dot, which is found again
    rw [hsplit]
    exact Path.splitExtension_append (by simp [hstem]) hdot

theorem snapshotName_injective : Function.Injective snapshotName := by
  intro name other h
  have hsplit := congrArg Path.splitExtension h
  rw [splitExtension_snapshotName, splitExtension_snapshotName, Prod.mk.injEq,
    List.append_left_inj] at hsplit
  exact Path.splitExtension_injective (Prod.ext hsplit.1 hsplit.2)

/-- The name of a snapshot is longer than that of its file. -/
theorem length_snapshotName (name : Name) :
    (snapshotName name).length = name.length + ending.length := by
  unfold snapshotName
  rcases Path.splitExtension_cases name with ⟨-, hsplit⟩ | ⟨stem, extension, -, -, hname, hsplit⟩
  · rw [hsplit]
    simp
  · rw [hsplit, hname]
    simp only [List.length_append, List.length_cons]
    omega

/-- The name of a snapshot is a name, whatever its file is called. -/
theorem componentOf_snapshotName (name : Name) :
    Path.isIdle (snapshotName name) = false ∧
      Path.componentOf (snapshotName name) = .normal (snapshotName name) := by
  -- no piece with another meaning is as long as the ending
  have hlength : 2 < (snapshotName name).length := by
    rw [length_snapshotName]
    exact Nat.lt_of_lt_of_le (by decide) (Nat.le_add_left ending.length _)
  obtain ⟨hidle, hparent⟩ := Path.isName_of_length hlength
  exact ⟨hidle, if_neg hparent⟩

/-! ## Paths -/

theorem components_snapshotPath (path : Path) :
    (snapshotPath path).components =
      (if path.fileName?.isSome then path.components.dropLast else path.components) ++
        [.normal (snapshotName (path.fileName?.getD []))] := by
  obtain ⟨hidle, hname⟩ := componentOf_snapshotName (path.fileName?.getD [])
  rw [snapshotPath, Path.components_withFileName hidle, hname]

theorem fileName_snapshotPath (path : Path) :
    (snapshotPath path).fileName? = some (snapshotName (path.fileName?.getD [])) := by
  rw [Path.fileName_eq_some_iff, components_snapshotPath, List.getLast?_concat]

/-- Two paths with the same snapshot are the same, component by component. -/
theorem components_eq_of_snapshotPath {path other : Path}
    (h : (snapshotPath path).components = (snapshotPath other).components) :
    path.components = other.components := by
  rw [components_snapshotPath, components_snapshotPath] at h
  obtain ⟨hfront, hlast⟩ := List.append_inj' h rfl
  have hname := snapshotName_injective (Component.normal.inj (List.singleton_inj.mp hlast))
  -- no file has the empty name that stands in for a missing one
  cases hpath : path.fileName? with
  | none =>
    cases hother : other.fileName? with
    | none => simpa [hpath, hother] using hfront
    | some name =>
      obtain rfl : [] = name := by simpa [hpath, hother] using hname
      cases (Path.componentOf_fileName hother).1
  | some name =>
    cases hother : other.fileName? with
    | none =>
      obtain rfl : name = [] := by simpa [hpath, hother] using hname
      cases (Path.componentOf_fileName hpath).1
    | some name' =>
      obtain rfl : name = name' := by simpa [hpath, hother] using hname
      have hfront' : path.components.dropLast = other.components.dropLast := by
        simpa [hpath, hother] using hfront
      rw [← List.dropLast_append_getLast? _ (Path.fileName_eq_some_iff.mp hpath),
        ← List.dropLast_append_getLast? _ (Path.fileName_eq_some_iff.mp hother), hfront']

/-- The path of a snapshot is not that of its file. -/
theorem components_snapshotPath_ne (path : Path) :
    (snapshotPath path).components ≠ path.components := by
  intro h
  -- a path with the name of a snapshot has a file name, and a longer one than it has itself
  have hname := fileName_snapshotPath path
  rw [Path.fileName_eq_some_iff, h, ← Path.fileName_eq_some_iff] at hname
  cases hpath : path.fileName? with
  | none =>
    rw [hpath] at hname
    cases hname
  | some name =>
    rw [hpath, Option.getD_some] at hname
    have hlength := length_snapshotName name
    rw [← Option.some.inj hname] at hlength
    exact absurd hlength (Nat.ne_of_lt (Nat.lt_add_of_pos_right (by decide)))

/-- **The paths of snapshots are apart**: two files have the same one only if they have the same
path, and no snapshot has the path of its file. It stands in the same directory, and only the stem
of its name is longer. -/
theorem snapshotPath_apart (path other : Path) :
    ((snapshotPath path).components = (snapshotPath other).components ↔
        path.components = other.components) ∧
      (snapshotPath path).components ≠ path.components ∧
      ∀ name, path.fileName? = some name →
        (snapshotPath path).parent?.map Path.components = path.parent?.map Path.components ∧
          (snapshotPath path).extension? = path.extension? ∧
          (snapshotPath path).stem? = path.stem?.map fun stem => stem ++ ending := by
  refine ⟨⟨components_eq_of_snapshotPath, fun h => ?_⟩, components_snapshotPath_ne path, ?_⟩
  · -- the file name is the last component, so equal paths have equal ones
    have hname : path.fileName? = other.fileName? := by
      unfold Path.fileName?
      rw [h]
    rw [components_snapshotPath, components_snapshotPath, h, hname]
  · intro name hname
    -- the name of the snapshot is known; its parts are those of the name of the file
    have hsnapshot := fileName_snapshotPath path
    rw [hname, Option.getD_some] at hsnapshot
    refine ⟨?_, ?_, ?_⟩
    · -- both parents lack only the last component
      obtain ⟨parent, hparent⟩ := Path.exists_parent (Path.fileName_eq_some_iff.mp hname) nofun
      obtain ⟨parent', hparent'⟩ :=
        Path.exists_parent (Path.fileName_eq_some_iff.mp hsnapshot) nofun
      rw [hparent, hparent', Option.map_some, Option.map_some, Path.components_parent hparent,
        Path.components_parent hparent', components_snapshotPath, hname, List.dropLast_concat]
      rfl
    · rw [Path.extension?, Path.extension?, hsnapshot, hname, Option.bind_some, Option.bind_some,
        splitExtension_snapshotName]
    · rw [Path.stem?, Path.stem?, hsnapshot, hname, Option.map_some, Option.map_some,
        Option.map_some, splitExtension_snapshotName]

/-- A file that is written in two ways has one snapshot. -/
theorem snapshotPath_apart_spellings :
    (snapshotPath (.ofText "src//parse.tab.rs")).components =
        (snapshotPath (.ofText "src/./parse.tab.rs")).components ∧
      (Path.ofText "src//parse.tab.rs").fileName? = some "parse.tab.rs".toList ∧
      (snapshotPath (.ofText "src//parse.tab.rs")).extension? = some "rs".toList ∧
      (snapshotPath (.ofText "src//parse.tab.rs")).stem? = some "parse.tab_bootstrap".toList := by
  have hname : (Path.ofText "src//parse.tab.rs").fileName? = some "parse.tab.rs".toList := by decide
  obtain ⟨hsame, -, hparts⟩ :=
    snapshotPath_apart (.ofText "src//parse.tab.rs") (.ofText "src/./parse.tab.rs")
  obtain ⟨-, hextension, hstem⟩ := hparts _ hname
  refine ⟨hsame.mpr (by decide), hname, hextension.trans (by decide), hstem.trans (by decide)⟩

end ParserFoundry.Bootstrap

import ParserFoundry.Bootstrap.Staging
import ParserFoundry.Proofs.Files.Within
/-!
# Staging Is All or Nothing

Starting asks for all snapshots before it writes the first one, and takes back what it has written
if it cannot write all of them. So either all snapshots are in place when the project is built, or
there is no build and no file other than the snapshots has changed. A snapshot stays behind only if
the system refuses to remove it.

Main results:
- `collect_answered`, `collect_error`: what version control is asked for.
- `erased_removeAll`: what taking back leaves behind.
- `staged_of_writeEach`: what writing all snapshots changes.
- `start_allOrNothing`: the four ways in which starting ends.
-/

namespace ParserFoundry.Bootstrap

open Files

/-! ## Refusals of the surroundings -/

namespace Surroundings

variable {surroundings : Surroundings} {operation : Operation} {before : List Path}
variable {tree tree' : Tree} {path : Path}

/-- What is not refused comes to its own result. -/
theorem guard_eq_ok_iff {outcome : Except FileError Tree} :
    surroundings.guard operation before tree path outcome = .ok tree' ↔
      surroundings.refusal? operation before tree path = none ∧ outcome = .ok tree' := by
  unfold guard
  cases surroundings.refusal? operation before tree path <;> simp

/-- The system never refuses to remove the file at a path. -/
def Removes (surroundings : Surroundings) (path : Path) : Prop :=
  ∀ before tree, surroundings.refusal? .remove before tree path = none

theorem Removes.remove_eq (h : surroundings.Removes path) :
    surroundings.remove before tree path = tree.removeFile path := by
  rw [remove, guard, h before tree]

end Surroundings

namespace Staging

variable {staging : Staging} {surroundings : Surroundings}

/-! ## Asking -/

/-- Version control answers to all of the files, after those that it was asked for before. -/
inductive Answered (staging : Staging) (surroundings : Surroundings) :
    List Path → List Path → List (Option Bytes) → Prop
  | nil {before : List Path} : Answered staging surroundings before [] []
  | cons {before rest : List Path} {file : Path} {answer : Option Bytes}
      {answers : List (Option Bytes)} :
      surroundings.contents? before staging.revision file = .ok answer →
      Answered staging surroundings (before ++ [file]) rest answers →
      Answered staging surroundings before (file :: rest) (answer :: answers)

/-- The snapshots that the answers give. -/
def snapshotsOf (staging : Staging) (files : List Path) (answers : List (Option Bytes)) :
    List Snapshot :=
  (files.zip answers).filterMap fun (file, answer) =>
    answer.map fun contents => (staging.target file, contents)

/-- The files without a snapshot. -/
def missingOf (files : List Path) (answers : List (Option Bytes)) : List Path :=
  ((files.zip answers).filter fun entry => entry.2.isNone).map Prod.fst

/-- If all files are answered to, all of them are asked for. -/
theorem collect_answered {before files : List Path} {answers : List (Option Bytes)}
    (h : Answered staging surroundings before files answers) :
    staging.collect surroundings before files =
      ⟨files, .ok (staging.snapshotsOf files answers, missingOf files answers)⟩ := by
  -- the answers are given in the order in which `collect` asks
  induction h with
  | nil => rfl
  | @cons before rest file answer answers hanswer hrest ih =>
    simp only [collect, hanswer, ih]
    cases answer <;> rfl

/-- Behind the first error, no file is asked for. -/
theorem collect_error {before asked later : List Path} {file : Path} {cause : StagingError}
    {answers : List (Option Bytes)} (h : Answered staging surroundings before asked answers)
    (herror : surroundings.contents? (before ++ asked) staging.revision file = .error cause) :
    staging.collect surroundings before (asked ++ file :: later) =
      ⟨asked ++ [file], .error cause⟩ := by
  induction h with
  | nil =>
    rw [List.append_nil] at herror
    simp only [List.nil_append, collect, herror]
  | @cons before rest first answer answers hanswer hrest ih =>
    have hothers := ih (by rwa [List.append_assoc])
    simp only [List.cons_append, collect, hanswer, hothers]
    rfl

theorem length_answered {before files : List Path} {answers : List (Option Bytes)}
    (h : Answered staging surroundings before files answers) : files.length = answers.length := by
  induction h with
  | nil => rfl
  | cons _ _ ih => rw [List.length_cons, List.length_cons, ih]

/-! ## Answers -/

/-- Either there is a first error, or all of the files are answered to. -/
theorem error_or_answered (before files : List Path) :
    (∃ asked file later answers cause, files = asked ++ file :: later ∧
      Answered staging surroundings before asked answers ∧
      surroundings.contents? (before ++ asked) staging.revision file = .error cause) ∨
      ∃ answers, Answered staging surroundings before files answers := by
  -- the files are asked for from the first one on, and what was asked before grows
  induction files generalizing before with
  | nil => exact .inr ⟨[], .nil⟩
  | cons first rest ih =>
    cases hanswer : surroundings.contents? before staging.revision first with
    | error cause => exact .inl ⟨[], first, rest, [], cause, rfl, .nil, by simpa using hanswer⟩
    | ok answer =>
      rcases ih (before ++ [first]) with
        ⟨asked, file, later, answers, cause, rfl, hasked, herror⟩ | ⟨answers, hanswers⟩
      · refine .inl ⟨first :: asked, file, later, answer :: answers, cause, rfl, ?_, ?_⟩
        · exact .cons hanswer hasked
        · simpa using herror
      · exact .inr ⟨answer :: answers, .cons hanswer hanswers⟩

/-- Either some file has no snapshot, or there are contents for all of them. -/
theorem missing_or_contents {before files : List Path} {answers : List (Option Bytes)}
    (h : Answered staging surroundings before files answers) :
    missingOf files answers ≠ [] ∨ ∃ contents : List Bytes, answers = contents.map some := by
  induction h with
  | nil => exact .inr ⟨[], rfl⟩
  | @cons before rest file answer answers _ _ ih =>
    -- one file without a snapshot is enough
    cases answer with
    | none => exact .inl (by simp [missingOf])
    | some bytes =>
      rcases ih with hmissing | ⟨contents, rfl⟩
      · exact .inl (by simpa [missingOf] using hmissing)
      · exact .inr ⟨bytes :: contents, rfl⟩

/-- The snapshots of all files, each with its path. -/
def snapshots (staging : Staging) (contents : List Bytes) : List Snapshot :=
  (staging.files.map staging.target).zip contents

theorem snapshotsOf_some (files : List Path) (contents : List Bytes) :
    staging.snapshotsOf files (contents.map some) = (files.map staging.target).zip contents := by
  induction files generalizing contents with
  | nil => rfl
  | cons file rest ih =>
    cases contents with
    | nil => rfl
    | cons bytes others => exact congrArg _ (ih others)

theorem missingOf_some (files : List Path) (contents : List Bytes) :
    missingOf files (contents.map some) = [] := by
  induction files generalizing contents with
  | nil => rfl
  | cons file rest ih =>
    cases contents with
    | nil => rfl
    | cons bytes others => exact ih others

/-! ## Taking back -/

/-- The place of a file that can be written and removed. -/
def Writable (tree : Tree) (path : Path) : Prop :=
  tree.Reaches path ∧ tree.at? path.place ≠ some .directory

theorem writable_congr {tree tree' : Tree} (h : tree.SameDirectories tree') {path : Path}
    (hpath : Writable tree path) : Writable tree' path :=
  ⟨h.reaches hpath.1, fun hnode => hpath.2 ((h _).mpr hnode)⟩

/-- Wherever the system lets files be removed no file is left, and nothing else has changed. -/
structure Erased (surroundings : Surroundings) (tree : Tree) (paths : List Path) (tree' : Tree) :
    Prop where
  directories : tree.SameDirectories tree'
  within : tree'.Within tree
  gone : ∀ path ∈ paths, surroundings.Removes path → tree'.at? path.place = none
  others : ∀ place, (∀ path ∈ paths, path.place ≠ place) → tree'.at? place = tree.at? place

/-- Taking one file back and then the others takes all of them back. -/
theorem Erased.cons {tree between tree' : Tree} {path : Path} {rest : List Path}
    (hfirst : Erased surroundings tree [path] between)
    (hrest : Erased surroundings between rest tree') :
    Erased surroundings tree (path :: rest) tree' := by
  constructor
  case directories => exact hfirst.directories.trans hrest.directories
  case within => exact hrest.within.trans hfirst.within
  case gone =>
    intro other hother hremoves
    rcases List.mem_cons.mp hother with rfl | hlater
    · -- nothing comes back where the first file was
      have hbetween := hfirst.gone other (List.mem_singleton_self other) hremoves
      cases hnode : tree'.at? other.place with
      | none => rfl
      | some node => exact absurd (hrest.within _ _ hnode) (by simp [hbetween])
    · exact hrest.gone other hlater hremoves
  case others =>
    intro place hplace
    obtain ⟨hpath, hlater⟩ := List.forall_mem_cons.mp hplace
    rw [hrest.others place hlater]
    exact hfirst.others place (List.forall_mem_singleton.mpr hpath)

/-- A file that is there is taken back. -/
theorem erased_of_removeFile (surroundings : Surroundings) {tree tree' : Tree} {path : Path}
    (h : tree.removeFile path = .ok tree') : Erased surroundings tree [path] tree' := by
  obtain ⟨hreaches, ⟨contents, hfile⟩, rfl⟩ := Tree.removeFile_eq_ok_iff.mp h
  have hplace := hreaches.place_ne_nil
  constructor
  case directories => exact Tree.sameDirectories_erase hplace (by simp [hfile])
  case within => exact Tree.erase_within hplace
  case gone =>
    intro other hother _
    rw [List.mem_singleton.mp hother]
    exact Tree.at?_erase_self hplace
  case others =>
    intro place hne
    exact Tree.at?_erase_of_ne (hne path (List.mem_singleton_self path)).symm

/-- A file that cannot be removed is not there, unless the system refuses to remove it. -/
theorem erased_of_remove_error {before : List Path} {tree : Tree} {path : Path} {cause : FileError}
    (hpath : Writable tree path) (h : surroundings.remove before tree path = .error cause) :
    Erased surroundings tree [path] tree := by
  constructor
  case directories => exact .refl tree
  case within => exact .refl tree
  case gone =>
    intro other hother hremoves
    obtain rfl := List.mem_singleton.mp hother
    -- the system lets it be removed, so it is the tree that does not
    rw [hremoves.remove_eq] at h
    cases hnode : tree.at? other.place with
    | none => rfl
    | some node =>
      cases node with
      | directory => exact absurd hnode hpath.2
      | file contents =>
        have hok := Tree.removeFile_eq_ok_iff.mpr ⟨hpath.1, ⟨contents, hnode⟩, rfl⟩
        rw [h] at hok
        cases hok
  case others => exact fun _ _ => rfl

/-- Taking back leaves no file at any of the places from which the system lets files be removed, and
changes nothing else. -/
theorem erased_removeAll (surroundings : Surroundings) (before : List Path) {tree : Tree}
    {paths : List Path} (h : ∀ path ∈ paths, Writable tree path) :
    Erased surroundings tree paths (removeAll surroundings before tree paths).1 := by
  induction paths generalizing before tree with
  | nil => exact ⟨.refl tree, .refl tree, nofun, fun _ _ => rfl⟩
  | cons path rest ih =>
    obtain ⟨hpath, hrest⟩ := List.forall_mem_cons.mp h
    cases hremove : surroundings.remove before tree path with
    | ok between =>
      -- no directory goes with a file, so the other files can still be removed
      have hfirst := erased_of_removeFile surroundings (Surroundings.guard_eq_ok_iff.mp hremove).2
      have hothers := ih (before ++ [path]) fun other hother =>
        writable_congr hfirst.directories (hrest other hother)
      simp only [removeAll, hremove]
      exact hfirst.cons hothers
    | error cause =>
      -- without a refusal, this file was taken back by another path, and is gone
      have hfirst := erased_of_remove_error hpath hremove
      simp only [removeAll, hremove]
      exact hfirst.cons (ih (before ++ [path]) hrest)

/-! ## Writing -/

/-- Write all snapshots in order, up to the first error; nothing is taken back. -/
def writeEach (surroundings : Surroundings) (written : List Path) (tree : Tree) :
    List Snapshot → Except FileError Tree
  | [] => .ok tree
  | (path, contents) :: rest => do
    let tree ← surroundings.write written tree path contents
    writeEach surroundings (written ++ [path]) tree rest

theorem writeEach_cons_error {written : List Path} {tree : Tree} {path : Path} {contents : Bytes}
    {cause : FileError} (h : surroundings.write written tree path contents = .error cause)
    (rest : List Snapshot) :
    writeEach surroundings written tree ((path, contents) :: rest) = .error cause := by
  rw [writeEach, h]
  rfl

theorem writeEach_cons_ok {written : List Path} {tree between : Tree} {path : Path}
    {contents : Bytes} (h : surroundings.write written tree path contents = .ok between)
    (rest : List Snapshot) :
    writeEach surroundings written tree ((path, contents) :: rest) =
      writeEach surroundings (written ++ [path]) between rest := by
  rw [writeEach, h]
  rfl

/-- The snapshots are in place, and nothing else has changed. -/
structure Staged (tree : Tree) (snapshots : List Snapshot) (tree' : Tree) : Prop where
  directories : tree.SameDirectories tree'
  writable : ∀ snapshot ∈ snapshots, Writable tree snapshot.1
  /-- A place has the last contents that were written there. -/
  last : ∀ first path contents later, snapshots = first ++ (path, contents) :: later →
    (∀ other ∈ later, other.1.place ≠ path.place) → tree'.at? path.place = some (.file contents)
  others : ∀ place, (∀ snapshot ∈ snapshots, snapshot.1.place ≠ place) →
    tree'.at? place = tree.at? place

theorem write_of_surroundings {written : List Path} {tree tree' : Tree} {path : Path}
    {contents : Bytes} (h : surroundings.write written tree path contents = .ok tree') :
    tree.write path contents = .ok tree' :=
  (Surroundings.guard_eq_ok_iff.mp h).2

/-- What one write changes. -/
theorem staged_of_write {tree tree' : Tree} {path : Path} {contents : Bytes}
    (h : tree.write path contents = .ok tree') : Staged tree [(path, contents)] tree' := by
  obtain ⟨hreaches, hnode, rfl⟩ := Tree.write_eq_ok_iff.mp h
  have hplace := hreaches.place_ne_nil
  -- the write of one file, in the words of the list with one snapshot
  constructor
  case directories => exact Tree.sameDirectories_put hplace hnode
  case writable => exact List.forall_mem_singleton.mpr ⟨hreaches, hnode⟩
  case last =>
    intro first found bytes later hsplit _
    obtain ⟨rfl, hsame, rfl⟩ : first = [] ∧ (path, contents) = (found, bytes) ∧ later = [] := by
      cases first with
      | nil => simpa using hsplit
      | cons other rest => simp at hsplit
    cases hsame
    exact Tree.at?_put_self hplace
  case others =>
    intro place hne
    exact Tree.at?_put_of_ne (hne _ (List.mem_singleton_self _)).symm

/-- Writing one snapshot and then the others writes all of them. -/
theorem Staged.cons {tree between tree' : Tree} {snapshot : Snapshot} {rest : List Snapshot}
    (hfirst : Staged tree [snapshot] between) (hrest : Staged between rest tree') :
    Staged tree (snapshot :: rest) tree' := by
  constructor
  case directories => exact hfirst.directories.trans hrest.directories
  case writable =>
    intro other hother
    rcases List.mem_cons.mp hother with rfl | hlater
    · exact hfirst.writable other (List.mem_singleton_self other)
    · exact writable_congr hfirst.directories.symm (hrest.writable other hlater)
  case last =>
    intro first path contents later hsplit hlast
    cases first with
    | nil =>
      -- nothing is written at this place again
      obtain ⟨rfl, rfl⟩ := List.cons.inj hsplit
      rw [hrest.others _ hlast]
      exact hfirst.last [] path contents [] rfl nofun
    | cons other first =>
      obtain ⟨-, rfl⟩ := List.cons.inj hsplit
      exact hrest.last first path contents later rfl hlast
  case others =>
    intro place hplace
    obtain ⟨hpath, hlater⟩ := List.forall_mem_cons.mp hplace
    rw [hrest.others place hlater]
    exact hfirst.others place (List.forall_mem_singleton.mpr hpath)

/-- What writing all snapshots changes. -/
theorem staged_of_writeEach {written : List Path} {tree tree' : Tree} {snapshots : List Snapshot}
    (h : writeEach surroundings written tree snapshots = .ok tree') :
    Staged tree snapshots tree' := by
  induction snapshots generalizing written tree with
  | nil =>
    cases h
    exact ⟨.refl _, nofun, fun first _ _ _ hsplit => by simp at hsplit, fun _ _ => rfl⟩
  | cons snapshot rest ih =>
    obtain ⟨between, hwrite, hrest⟩ := bind_eq_ok_iff.mp h
    exact (staged_of_write (write_of_surroundings hwrite)).cons (ih hrest)

/-! ## Writing with a way back -/

theorem writeAll_ok {written : List Path} {tree tree' : Tree} {snapshots : List Snapshot}
    (h : writeEach surroundings written tree snapshots = .ok tree') :
    (writeAll surroundings tree written snapshots).1 = tree' ∧
      (writeAll surroundings tree written snapshots).2.1 =
        .ok (written ++ snapshots.map Prod.fst) := by
  induction snapshots generalizing written tree with
  | nil =>
    cases h
    simp [writeAll]
  | cons snapshot rest ih =>
    obtain ⟨between, hwrite, hrest⟩ := bind_eq_ok_iff.mp h
    obtain ⟨htree, houtcome⟩ := ih hrest
    simp only [writeAll, hwrite, htree, houtcome]
    simp

/-- The first snapshot that cannot be written is known, and those before it are taken back. -/
theorem writeAll_error {written : List Path} {tree : Tree} {snapshots : List Snapshot}
    {cause : FileError} (h : writeEach surroundings written tree snapshots = .error cause) :
    (writeAll surroundings tree written snapshots).2.1 = .error cause ∧
      ∃ first path contents later between,
        snapshots = first ++ (path, contents) :: later ∧
        writeEach surroundings written tree first = .ok between ∧
        surroundings.write (written ++ first.map Prod.fst) between path contents = .error cause ∧
        (writeAll surroundings tree written snapshots).1 =
          (removeAll surroundings [] between (written ++ first.map Prod.fst)).1 := by
  induction snapshots generalizing written tree with
  | nil => cases h
  | cons snapshot rest ih =>
    obtain ⟨path, contents⟩ := snapshot
    cases hwrite : surroundings.write written tree path contents with
    | error other =>
      -- this is the snapshot that cannot be written
      rw [writeEach_cons_error hwrite] at h
      obtain rfl : other = cause := Except.error.inj h
      simp only [writeAll, hwrite, true_and]
      exact ⟨[], path, contents, rest, tree, rfl, rfl, by simp [hwrite], by simp⟩
    | ok between =>
      -- it is among the others, and this one is taken back with those before it
      rw [writeEach_cons_ok hwrite] at h
      obtain ⟨houtcome, first, failed, bytes, later, last, rfl, hfirst, hfailed, htree⟩ := ih h
      simp only [writeAll, hwrite, houtcome, htree, true_and]
      refine ⟨(path, contents) :: first, failed, bytes, later, last, rfl, ?_, ?_, ?_⟩
      · rw [writeEach_cons_ok hwrite, hfirst]
      · simpa using hfailed
      · simp

/-! ## Starting -/

/-- How starting ends. Paths that lead to the same place are the same file, and a place that is
written more than once has the last contents. -/
structure AllOrNothing (staging : Staging) (surroundings : Surroundings) (tree : Tree)
    (started : Started) : Prop where
  /-- After the first error of version control no file is asked for, and nothing is done. -/
  shown : ∀ asked file later answers cause, staging.files = asked ++ file :: later →
    Answered staging surroundings [] asked answers →
    surroundings.contents? asked staging.revision file = .error cause →
    started.outcome = .error cause ∧ started.asked = asked ++ [file] ∧ started.tree = tree ∧
      started.built = false
  /-- If files have no snapshot, all files have been asked for, and nothing is done. -/
  found : ∀ answers, Answered staging surroundings [] staging.files answers →
    missingOf staging.files answers ≠ [] →
    started.outcome = .error (.missingSnapshots (missingOf staging.files answers)) ∧
      started.asked = staging.files ∧ started.tree = tree ∧ started.built = false
  /-- If a snapshot cannot be written, those before it are gone, unless the system refuses to remove
  them, and nothing is built. -/
  written : ∀ (contents : List Bytes) cause,
    Answered staging surroundings [] staging.files (contents.map some) →
    writeEach surroundings [] tree (staging.snapshots contents) = .error cause →
    started.outcome = .error (.file cause) ∧ started.asked = staging.files ∧
      started.built = false ∧
      ∃ first path bytes later between,
        staging.snapshots contents = first ++ (path, bytes) :: later ∧
        writeEach surroundings [] tree first = .ok between ∧
        surroundings.write (first.map Prod.fst) between path bytes = .error cause ∧
        (∀ snapshot ∈ first, surroundings.Removes snapshot.1 →
          started.tree.exists_ snapshot.1 = false) ∧
        ∀ place, (∀ snapshot ∈ first, snapshot.1.place ≠ place) →
          started.tree.at? place = tree.at? place
  /-- If all snapshots can be written, they are in place when the project is built, and the outcome
  is that of the build. -/
  built : ∀ (contents : List Bytes) final,
    Answered staging surroundings [] staging.files (contents.map some) →
    writeEach surroundings [] tree (staging.snapshots contents) = .ok final →
    started.outcome =
        (surroundings.build staging.root final).map (fun _ => staging.files.map staging.target) ∧
      started.asked = staging.files ∧ started.built = true ∧ started.tree = final ∧
      (∀ first path bytes later, staging.snapshots contents = first ++ (path, bytes) :: later →
        (∀ other ∈ later, other.1.place ≠ path.place) →
        ∀ other ∈ staging.snapshots contents, other.1.place = path.place →
          final.read other.1 = .ok bytes) ∧
      ∀ place, (∀ snapshot ∈ staging.snapshots contents, snapshot.1.place ≠ place) →
        final.at? place = tree.at? place
  /-- There is no other case. -/
  complete : (∃ asked file later answers cause, staging.files = asked ++ file :: later ∧
      Answered staging surroundings [] asked answers ∧
      surroundings.contents? asked staging.revision file = .error cause) ∨
    (∃ answers, Answered staging surroundings [] staging.files answers ∧
      missingOf staging.files answers ≠ []) ∨
    ∃ contents : List Bytes, Answered staging surroundings [] staging.files (contents.map some)

/-- What is left of the snapshots when one of them cannot be written. -/
theorem erased_of_staged (surroundings : Surroundings) {tree between : Tree}
    {first : List Snapshot} (h : Staged tree first between) :
    let left := (removeAll surroundings [] between (first.map Prod.fst)).1
    (∀ snapshot ∈ first, surroundings.Removes snapshot.1 →
      left.at? snapshot.1.place = none ∧ left.exists_ snapshot.1 = false) ∧
    ∀ place, (∀ snapshot ∈ first, snapshot.1.place ≠ place) → left.at? place = tree.at? place := by
  intro left
  -- what has been staged can be removed again, as no directory has come or gone
  have hwritable : ∀ path ∈ first.map Prod.fst, Writable between path := by
    refine List.forall_mem_map.mpr fun snapshot hsnapshot => ?_
    exact writable_congr h.directories (h.writable snapshot hsnapshot)
  have herased : Erased surroundings between (first.map Prod.fst) left :=
    erased_removeAll surroundings [] hwritable
  constructor
  · intro snapshot hsnapshot hremoves
    have hmem : snapshot.1 ∈ first.map Prod.fst := List.mem_map_of_mem hsnapshot
    have hreaches := (writable_congr herased.directories (hwritable _ hmem)).1
    have hgone := herased.gone _ hmem hremoves
    exact ⟨hgone, Tree.exists_eq_false hreaches hgone⟩
  · intro place hplace
    rw [herased.others place (List.forall_mem_map.mpr hplace)]
    exact h.others place hplace

/-- A snapshot is read back from every path to its place. -/
theorem read_of_staged {tree final : Tree} {snapshots : List Snapshot}
    (h : Staged tree snapshots final) {first later : List Snapshot} {path : Path} {bytes : Bytes}
    (hsplit : snapshots = first ++ (path, bytes) :: later)
    (hlast : ∀ other ∈ later, other.1.place ≠ path.place) {other : Snapshot}
    (hother : other ∈ snapshots) (hplace : other.1.place = path.place) :
    final.read other.1 = .ok bytes := by
  have hreaches := (writable_congr h.directories (h.writable other hother)).1
  refine Tree.read_eq_ok hreaches ?_
  -- only what was written last at the place counts, by whichever path it is read
  rw [hplace]
  exact h.last first path bytes later hsplit hlast

/-- With contents for all files, the rest depends on whether they can be written. -/
theorem startIn_of_contents (tree : Tree) {contents : List Bytes}
    (h : Answered staging surroundings [] staging.files (contents.map some)) :
    staging.startIn surroundings tree =
      match writeAll surroundings tree [] (staging.snapshots contents) with
      | (tree, .error cause, notes) => ⟨.error (.file cause), tree, staging.files, false, notes⟩
      | (tree, .ok written, notes) =>
        ⟨(surroundings.build staging.root tree).map fun _ => written, tree, staging.files, true,
          notes⟩ := by
  have hcollect := collect_answered h
  rw [snapshotsOf_some, missingOf_some, ← snapshots] at hcollect
  simp only [startIn, hcollect]
  rfl

theorem map_fst_snapshots {contents : List Bytes}
    (h : Answered staging surroundings [] staging.files (contents.map some)) :
    (staging.snapshots contents).map Prod.fst = staging.files.map staging.target := by
  have hlength := length_answered h
  rw [List.length_map] at hlength
  refine List.map_fst_zip (Nat.le_of_eq ?_)
  rw [List.length_map, hlength]

/-- After an error of version control nothing is done. -/
theorem startIn_of_error (tree : Tree) {asked later : List Path} {file : Path}
    {cause : StagingError} {answers : List (Option Bytes)}
    (hfiles : staging.files = asked ++ file :: later)
    (hasked : Answered staging surroundings [] asked answers)
    (herror : surroundings.contents? asked staging.revision file = .error cause) :
    staging.startIn surroundings tree = ⟨.error cause, tree, asked ++ [file], false, []⟩ := by
  have hcollect : staging.collect surroundings [] staging.files =
      ⟨asked ++ [file], .error cause⟩ := by
    rw [hfiles]
    exact collect_error hasked (by simpa using herror)
  simp [startIn, hcollect]

/-- If files have no snapshot nothing is done. -/
theorem startIn_of_missing (tree : Tree) {answers : List (Option Bytes)}
    (hanswers : Answered staging surroundings [] staging.files answers)
    (hmissing : missingOf staging.files answers ≠ []) :
    staging.startIn surroundings tree =
      ⟨.error (.missingSnapshots (missingOf staging.files answers)), tree, staging.files, false,
        []⟩ := by
  simp [startIn, collect_answered hanswers, hmissing]

/-- If a snapshot cannot be written, those before it are staged first, and then taken back. -/
theorem startIn_of_writeEach_error {tree : Tree} {contents : List Bytes} {cause : FileError}
    (hanswers : Answered staging surroundings [] staging.files (contents.map some))
    (hwrite : writeEach surroundings [] tree (staging.snapshots contents) = .error cause) :
    ∃ first path bytes later between notes,
      staging.snapshots contents = first ++ (path, bytes) :: later ∧
      writeEach surroundings [] tree first = .ok between ∧
      surroundings.write (first.map Prod.fst) between path bytes = .error cause ∧
      staging.startIn surroundings tree =
        ⟨.error (.file cause), (removeAll surroundings [] between (first.map Prod.fst)).1,
          staging.files, false, notes⟩ := by
  obtain ⟨houtcome, first, path, bytes, later, between, hsplit, hfirst, hfailed, htree⟩ :=
    writeAll_error hwrite
  rw [List.nil_append] at hfailed htree
  rw [startIn_of_contents tree hanswers]
  -- the pair of the tree and the outcome is known part by part
  rcases hwriting : writeAll surroundings tree [] (staging.snapshots contents) with
    ⟨final, outcome, notes⟩
  rw [hwriting] at houtcome htree
  obtain rfl : outcome = .error cause := houtcome
  obtain rfl : final = _ := htree
  exact ⟨first, path, bytes, later, between, notes, hsplit, hfirst, hfailed, rfl⟩

/-- If all snapshots can be written, the build comes after the last of them. -/
theorem startIn_of_writeEach {tree final : Tree} {contents : List Bytes}
    (hanswers : Answered staging surroundings [] staging.files (contents.map some))
    (hwrite : writeEach surroundings [] tree (staging.snapshots contents) = .ok final) :
    ∃ notes, staging.startIn surroundings tree =
      ⟨(surroundings.build staging.root final).map (fun _ => staging.files.map staging.target),
        final, staging.files, true, notes⟩ := by
  obtain ⟨htree, houtcome⟩ := writeAll_ok hwrite
  rw [List.nil_append, map_fst_snapshots hanswers] at houtcome
  rw [startIn_of_contents tree hanswers]
  rcases hwriting : writeAll surroundings tree [] (staging.snapshots contents) with
    ⟨tree', outcome, notes⟩
  rw [hwriting] at houtcome htree
  obtain rfl : outcome = .ok _ := houtcome
  obtain rfl : tree' = final := htree
  exact ⟨notes, rfl⟩

/-- Version control reports an error, or some file has no snapshot, or there are contents for all
files. -/
theorem error_or_missing_or_contents (staging : Staging) (surroundings : Surroundings) :
    (∃ asked file later answers cause, staging.files = asked ++ file :: later ∧
      Answered staging surroundings [] asked answers ∧
      surroundings.contents? asked staging.revision file = .error cause) ∨
    (∃ answers, Answered staging surroundings [] staging.files answers ∧
      missingOf staging.files answers ≠ []) ∨
    ∃ contents : List Bytes, Answered staging surroundings [] staging.files (contents.map some) := by
  -- either not all files are answered to, or the answers decide
  rcases error_or_answered [] staging.files with herror | ⟨answers, hanswers⟩
  · exact .inl (by simpa using herror)
  · rcases missing_or_contents hanswers with hmissing | ⟨contents, rfl⟩
    · exact .inr (.inl ⟨answers, hanswers, hmissing⟩)
    · exact .inr (.inr ⟨contents, hanswers⟩)

/-- **Starting is all or nothing**: up to the build, it either puts all snapshots in place or leaves
no change but the removal of snapshots, as far as the system lets them be removed. -/
theorem start_allOrNothing (staging : Staging) (surroundings : Surroundings) (tree : Tree) :
    AllOrNothing staging surroundings tree (staging.startIn surroundings tree) := by
  constructor
  case shown =>
    intro asked file later answers cause hfiles hasked herror
    rw [startIn_of_error tree hfiles hasked herror]
    exact ⟨rfl, rfl, rfl, rfl⟩
  case found =>
    intro answers hanswers hmissing
    rw [startIn_of_missing tree hanswers hmissing]
    exact ⟨rfl, rfl, rfl, rfl⟩
  case written =>
    intro contents cause hanswers hwrite
    obtain ⟨first, path, bytes, later, between, notes, hsplit, hfirst, hfailed, hstart⟩ :=
      startIn_of_writeEach_error hanswers hwrite
    -- the snapshots before the one that failed were staged, and are erased again
    obtain ⟨hgone, hothers⟩ := erased_of_staged surroundings (staged_of_writeEach hfirst)
    rw [hstart]
    exact ⟨rfl, rfl, rfl, first, path, bytes, later, between, hsplit, hfirst, hfailed,
      fun snapshot hsnapshot hremoves => (hgone snapshot hsnapshot hremoves).2, hothers⟩
  case built =>
    intro contents final hanswers hwrite
    obtain ⟨notes, hstart⟩ := startIn_of_writeEach hanswers hwrite
    -- nothing is taken back, so the tree is the one with all snapshots staged
    have hstaged := staged_of_writeEach hwrite
    rw [hstart]
    refine ⟨rfl, rfl, rfl, rfl, ?_, hstaged.others⟩
    intro first path bytes later hsplit hlast other hother hplace
    exact read_of_staged hstaged hsplit hlast hother hplace
  case complete => exact error_or_missing_or_contents staging surroundings

/-! ## The same file by two paths -/

/-- Two files of a project, and the first of them once more by another path. -/
def twice : Staging where
  root := .ofText "p"
  files := [.ofText "a.rs", .ofText "b.rs", .ofText "./a.rs"]

/-- The contents count what has been asked for, and only so many files can be written. -/
def roomFor (count : Nat) : Surroundings where
  contents? before _ _ := .ok (some [UInt8.ofNat before.length])
  refusal? operation before _ _ :=
    if operation = .write ∧ count ≤ before.length then some .noTree else none
  build _ _ := .ok ()

/-- The project, with a snapshot of the first file from before. -/
def stagedBefore : Tree where
  entries := [
    (["p".toList], .directory),
    (["p".toList, "a.rs".toList], .file [7]),
    (["p".toList, "a_bootstrap.rs".toList], .file [9])]

theorem answered_twice (count : Nat) :
    Answered twice (roomFor count) [] twice.files ([[0], [1], [2]].map some) :=
  .cons rfl (.cons rfl (.cons rfl .nil))

/-- Without room for the third snapshot, not even the snapshot from before is left; with it, both
paths lead to what was written last. -/
theorem start_allOrNothing_twice :
    ((twice.startIn (roomFor 2) stagedBefore).outcome = .error (.file .noTree) ∧
      (twice.startIn (roomFor 2) stagedBefore).built = false ∧
      (twice.startIn (roomFor 2) stagedBefore).tree.exists_ (.ofText "p/a_bootstrap.rs") = false) ∧
    (twice.startIn (roomFor 3) stagedBefore).built = true ∧
      (twice.startIn (roomFor 3) stagedBefore).tree.read (.ofText "p/a_bootstrap.rs") =
        .ok [2] := by
  constructor
  · obtain ⟨houtcome, -, hbuilt, -⟩ :=
      (start_allOrNothing twice (roomFor 2) stagedBefore).written _ .noTree (answered_twice 2) rfl
    exact ⟨houtcome, hbuilt, by decide⟩
  · obtain ⟨-, -, hbuilt, htree, hread, -⟩ :=
      (start_allOrNothing twice (roomFor 3) stagedBefore).built _ _ (answered_twice 3) rfl
    rw [htree]
    refine ⟨hbuilt, hread [_, _] _ [2] [] rfl nofun (.ofText "p/a_bootstrap.rs", [0]) ?_ ?_⟩
    · decide
    · decide

end Staging

end ParserFoundry.Bootstrap

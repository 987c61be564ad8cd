import Mathlib.Data.List.Basic
import ParserFoundry.Files.Tree
import ParserFoundry.Proofs.Checked
/-!
# What Operations Do to Trees

Without links, a path leads to one place at most, and this place does not depend on the tree.
Writing and removing files changes what stands there and nothing else. Since neither makes or takes
away a directory, what could be written can be removed afterwards.

Main results:
- `write_eq_ok_iff`, `removeFile_eq_ok_iff`: when files are written and removed, and what changes.
- `find_eq`: what a path shows of its place.
- `SameDirectories.reaches`: paths that can be followed stay so while files come and go.
-/

namespace ParserFoundry.Files

/-! ## Places of paths -/

namespace Path

/-- Follow one piece from a place. -/
def follow (place : Place) (piece : Name) : Place :=
  if isIdle piece then place
  else if piece = ['.', '.'] then place.dropLast
  else place ++ [piece]

/-- The place that a path leads to, if it leads anywhere. -/
def place (path : Path) : Place :=
  path.pieces.foldl follow []

end Path

namespace Tree

variable {tree tree' : Tree} {place other : Place} {node next : Node}

/-! ## Entries -/

/-- Entries of other places are found as before. -/
theorem lookup_filter_ne {entries : List (Place × Node)} (h : other ≠ place) :
    (entries.filter fun entry => entry.1 ≠ place).lookup other = entries.lookup other := by
  induction entries with
  | nil => rfl
  | cons entry rest ih =>
    obtain ⟨found, value⟩ := entry
    by_cases hfound : found = place
    · -- an entry that goes is not the one that is looked for
      have hne : (other == found) = false := beq_eq_false_iff_ne.mpr (hfound ▸ h)
      rw [List.filter_cons_of_neg (by simpa using hfound), ih, List.lookup_cons, hne]
    · rw [List.filter_cons_of_pos (by simpa using hfound), List.lookup_cons, List.lookup_cons, ih]

theorem lookup_filter_self {entries : List (Place × Node)} :
    (entries.filter fun entry => entry.1 ≠ place).lookup place = none := by
  refine List.lookup_eq_none_iff.mpr fun entry hentry => ?_
  have hne := of_decide_eq_true (List.mem_filter.mp hentry).2
  exact bne_iff_ne.mpr (Ne.symm hne)

/-- What was put at a place stands there. -/
theorem at?_put_self (hplace : place ≠ []) : (tree.put place node).at? place = some node := by
  unfold at? put
  rw [if_neg (by simpa using hplace), List.lookup_append, lookup_filter_self, Option.none_or]
  simp

/-- What stands at other places stays. -/
theorem at?_put_of_ne (h : other ≠ place) : (tree.put place node).at? other = tree.at? other := by
  unfold at? put
  split
  case isTrue => rfl
  case isFalse =>
    have hsingle : ([(place, node)] : List (Place × Node)).lookup other = none := by
      rw [List.lookup_cons, beq_eq_false_iff_ne.mpr h]
      rfl
    rw [List.lookup_append, lookup_filter_ne h, hsingle, Option.or_none]

/-- Nothing stands at a place that was cleared. -/
theorem at?_erase_self (hplace : place ≠ []) : (tree.erase place).at? place = none := by
  unfold at? erase
  rw [if_neg (by simpa using hplace), lookup_filter_self]

/-- Nothing else was cleared. -/
theorem at?_erase_of_ne (h : other ≠ place) : (tree.erase place).at? other = tree.at? other := by
  unfold at? erase
  rw [lookup_filter_ne h]

/-- Where nothing stands, nothing is taken away. -/
theorem erase_eq_self (h : tree.at? place = none) : tree.erase place = tree := by
  unfold at? at h
  split at h
  case isTrue => cases h
  case isFalse =>
    obtain ⟨entries⟩ := tree
    refine congrArg Tree.mk (List.filter_eq_self.mpr fun entry hentry => ?_)
    have hne := List.lookup_eq_none_iff.mp h entry hentry
    exact decide_eq_true (Ne.symm (bne_iff_ne.mp hne))

/-! ## Trees without some places -/

/-- The tree without what stands at some places. -/
def without (tree : Tree) (places : List Place) : Tree :=
  ⟨tree.entries.filter fun entry => entry.1 ∉ places⟩

@[simp]
theorem without_nil : tree.without [] = tree := by
  simp [without]

/-- Places are cleared one after the other. -/
theorem without_cons (place : Place) (places : List Place) :
    tree.without (place :: places) = (tree.erase place).without places := by
  unfold without erase
  rw [List.filter_filter]
  refine congrArg Tree.mk (List.filter_congr fun entry _ => ?_)
  simp [Bool.and_comm]

/-- Without a place, it does not matter what was put there. -/
theorem without_put {places : List Place} (h : place ∈ places) :
    (tree.put place node).without places = tree.without places := by
  have hgone : ¬ place ∉ places := fun hnot => hnot h
  unfold without put
  rw [List.filter_append, List.filter_cons_of_neg (by simpa using hgone), List.filter_nil,
    List.append_nil, List.filter_filter]
  refine congrArg Tree.mk (List.filter_congr fun entry _ => ?_)
  by_cases hentry : entry.1 = place
  · simp [hentry, h]
  · simp [hentry]

/-- Without places at which nothing stands, a tree is the same. -/
theorem without_eq_self {places : List Place} (h : ∀ place ∈ places, tree.at? place = none) :
    tree.without places = tree := by
  induction places with
  | nil => exact without_nil
  | cons place rest ih =>
    obtain ⟨hplace, hrest⟩ := List.forall_mem_cons.mp h
    rw [without_cons, erase_eq_self hplace, ih hrest]

/-! ## Following paths -/

/-- A name leads to the place below. -/
theorem follow_name {piece : Name} (hspecial : isSpecial piece = false) :
    Path.follow place piece = place ++ [piece] := by
  obtain ⟨hidle, hparent⟩ := Bool.or_eq_false_iff.mp hspecial
  rw [Path.follow, if_neg (by simp [hidle]), if_neg (beq_eq_false_iff_ne.mp hparent)]

/-- A piece with a meaning of its own is followed without a look at the tree. -/
theorem walk_cons_special {piece : Name} (rest : List Name)
    (hspecial : isSpecial piece = true) :
    tree.walk place .directory (piece :: rest) =
      tree.walk (Path.follow place piece) .directory rest := by
  rw [walk, Path.follow]
  -- an idle piece stays, and the other one goes to the directory above
  rcases Bool.or_eq_true_iff.mp hspecial with hidle | hparent
  · rw [if_pos hidle, if_pos hidle]
  · split
    · rfl
    · rw [if_pos (beq_iff_eq.mp hparent), if_pos (beq_iff_eq.mp hparent)]

/-- A piece that is a name leads to what stands behind the name. -/
theorem walk_cons_name {piece : Name} (rest : List Name) (hspecial : isSpecial piece = false) :
    tree.walk place .directory (piece :: rest) =
      if byteLength piece > longestName then .error .nameTooLong
      else
        match tree.at? (place ++ [piece]) with
        | none => .error .missing
        | some next => tree.walk (place ++ [piece]) next rest := by
  obtain ⟨hidle, hparent⟩ := Bool.or_eq_false_iff.mp hspecial
  rw [walk]
  exact (if_neg (by simp [hidle])).trans (if_neg (beq_eq_false_iff_ne.mp hparent))

/-- Where a path leads to does not depend on the tree. -/
theorem walk_place {pieces : List Name} (h : tree.walk place node pieces = .ok (other, next)) :
    other = pieces.foldl Path.follow place := by
  -- piece by piece; the place moves with each, whatever the node is
  induction pieces generalizing place node with
  | nil =>
    cases h
    rfl
  | cons piece rest ih =>
    cases node with
    | file contents => cases h
    | directory =>
      cases hspecial : isSpecial piece with
      | true =>
        rw [walk_cons_special rest hspecial] at h
        exact ih h
      | false =>
        rw [walk_cons_name rest hspecial] at h
        rw [List.foldl_cons, follow_name hspecial]
        split at h
        case isTrue => cases h
        case isFalse =>
          split at h
          case h_1 => cases h
          case h_2 => exact ih h

/-- The pieces of a path are followed one after the other. -/
theorem walk_append (first rest : List Name) :
    tree.walk place node (first ++ rest) =
      tree.walk place node first >>= fun found => tree.walk found.1 found.2 rest := by
  -- the pieces behind are followed from wherever those in front lead to
  induction first generalizing place node with
  | nil => rfl
  | cons piece pieces ih =>
    rw [List.cons_append]
    cases node with
    | file contents => rfl
    | directory =>
      cases hspecial : isSpecial piece with
      | true => rw [walk_cons_special _ hspecial, walk_cons_special _ hspecial, ih]
      | false =>
        rw [walk_cons_name _ hspecial, walk_cons_name _ hspecial]
        split
        case isTrue => rfl
        case isFalse =>
          -- a name without a node ends the way for both
          cases tree.at? (place ++ [piece]) with
          | none => rfl
          | some found => exact ih

/-! ## Trees with the same directories -/

/-- The directories of two trees are the same, whatever files they have. -/
def SameDirectories (tree tree' : Tree) : Prop :=
  ∀ place, tree.at? place = some .directory ↔ tree'.at? place = some .directory

theorem SameDirectories.refl (tree : Tree) : tree.SameDirectories tree :=
  fun _ => Iff.rfl

theorem SameDirectories.trans {tree'' : Tree} (h : tree.SameDirectories tree')
    (h' : tree'.SameDirectories tree'') : tree.SameDirectories tree'' :=
  fun place => (h place).trans (h' place)

theorem SameDirectories.symm (h : tree.SameDirectories tree') : tree'.SameDirectories tree :=
  fun place => (h place).symm

/-- Directories lead on to the same directories. -/
theorem SameDirectories.walk (h : tree.SameDirectories tree') {pieces : List Name}
    (hwalk : tree.walk place .directory pieces = .ok (other, .directory)) :
    tree'.walk place .directory pieces = .ok (other, .directory) := by
  -- on the way there are directories only, and these are the same in both trees
  induction pieces generalizing place with
  | nil => exact hwalk
  | cons piece rest ih =>
    cases hspecial : isSpecial piece with
    | true =>
      rw [walk_cons_special rest hspecial] at hwalk ⊢
      exact ih hwalk
    | false =>
      rw [walk_cons_name rest hspecial] at hwalk ⊢
      split at hwalk
      case isTrue => cases hwalk
      case isFalse hlength =>
        rw [if_neg hlength]
        cases hnext : tree.at? (place ++ [piece]) with
        | none =>
          rw [hnext] at hwalk
          cases hwalk
        | some next =>
          rw [hnext] at hwalk
          cases next with
          | file contents =>
            -- a file leads nowhere, and is no directory itself
            cases rest <;> cases hwalk
          | directory =>
            rw [(h _).mp hnext]
            exact ih hwalk

/-! ## Places of files -/

/-- The directory of a path is found exactly if the path can be looked for and all pieces but the
last one lead to a directory. -/
theorem findParent_eq_ok_iff {path : Path} {pieces : List Name} {directory : Place} {name : Name} :
    tree.findParent path pieces = .ok (directory, name) ↔
      checkPath path = .ok () ∧
        tree.walk [] .directory pieces.dropLast = .ok (directory, .directory) ∧
        name = pieces.getLast?.getD [] := by
  unfold findParent
  simp only [bind_eq_ok_iff, Prod.exists]
  constructor
  -- the way has to end at a directory
  · rintro ⟨⟨⟩, hcheck, place, node, hwalk, h⟩
    cases node with
    | file contents => cases h
    | directory =>
      cases h
      exact ⟨hcheck, hwalk, rfl⟩
  · rintro ⟨hcheck, hwalk, rfl⟩
    exact ⟨⟨⟩, hcheck, directory, .directory, hwalk, rfl⟩

/-- The path leads to a place in a directory that is there, where a file may stand. -/
def Reaches (tree : Tree) (path : Path) : Prop :=
  ∃ directory name, tree.findParent path path.pieces = .ok (directory, name) ∧
    isSpecial name = false ∧ byteLength name ≤ longestName

/-- A path that is reached stays so while files come and go. -/
theorem SameDirectories.reaches (h : tree.SameDirectories tree') {path : Path}
    (hreaches : tree.Reaches path) : tree'.Reaches path := by
  obtain ⟨directory, name, hparent, hname⟩ := hreaches
  obtain ⟨hcheck, hwalk, hlast⟩ := findParent_eq_ok_iff.mp hparent
  exact ⟨directory, name, findParent_eq_ok_iff.mpr ⟨hcheck, h.walk hwalk, hlast⟩, hname⟩

/-- Pieces that lead to a name consist of a way to its directory and of the name. -/
theorem pieces_of_findParent {path : Path} {pieces : List Name} {directory : Place} {name : Name}
    (h : tree.findParent path pieces = .ok (directory, name))
    (hspecial : isSpecial name = false) : pieces = pieces.dropLast ++ [name] := by
  obtain ⟨-, -, hname⟩ := findParent_eq_ok_iff.mp h
  cases hlast : pieces.getLast? with
  | none =>
    -- without a last piece the name would be empty
    rw [hlast] at hname
    rw [hname] at hspecial
    cases hspecial
  | some last =>
    rw [hlast, Option.getD_some] at hname
    rw [hname]
    exact (List.dropLast_append_getLast? last hlast).symm

/-- The place of the pieces is below that of their directory. -/
theorem foldl_of_findParent {path : Path} {pieces : List Name} {directory : Place} {name : Name}
    (h : tree.findParent path pieces = .ok (directory, name))
    (hspecial : isSpecial name = false) : pieces.foldl Path.follow [] = directory ++ [name] := by
  obtain ⟨-, hwalk, -⟩ := findParent_eq_ok_iff.mp h
  rw [pieces_of_findParent h hspecial, List.foldl_append, ← walk_place hwalk]
  exact follow_name hspecial

/-- The place of a path is below that of its directory. -/
theorem place_of_findParent {path : Path} {directory : Place} {name : Name}
    (h : tree.findParent path path.pieces = .ok (directory, name))
    (hspecial : isSpecial name = false) : path.place = directory ++ [name] :=
  foldl_of_findParent h hspecial

/-- No file stands at the root. -/
theorem Reaches.place_ne_nil {path : Path} (h : tree.Reaches path) : path.place ≠ [] := by
  obtain ⟨directory, name, hparent, hspecial, -⟩ := h
  rw [place_of_findParent hparent hspecial]
  simp

/-! ## Writing and removing -/

/-- A name is looked up in a directory if it is not too long. -/
theorem child_eq_ok_iff {directory : Place} {name : Name} {node? : Option Node} :
    tree.child directory name = .ok (place, node?) ↔
      byteLength name ≤ longestName ∧ place = directory ++ [name] ∧
        node? = tree.at? (directory ++ [name]) := by
  unfold child
  split
  case isTrue hlength => simp [Nat.not_le_of_gt hlength]
  case isFalse hlength => simp [Nat.le_of_not_gt hlength, eq_comm]

/-- What is done at the place of a file comes to a result if the path leads there. -/
theorem atPlace_eq_ok_iff {path : Path} {next : Place × Option Node → Except FileError Tree} :
    (tree.findParent path path.pieces >>= fun (directory, name) =>
      if isSpecial name then .error .isDirectory else tree.child directory name >>= next) =
        .ok tree' ↔
      tree.Reaches path ∧ next (path.place, tree.at? path.place) = .ok tree' := by
  simp only [bind_eq_ok_iff, Prod.exists]
  constructor
  -- a name with a meaning of its own is refused before anything is looked up
  · rintro ⟨directory, name, hparent, h⟩
    cases hspecial : isSpecial name with
    | true =>
      rw [hspecial] at h
      cases h
    | false =>
      rw [hspecial, if_neg Bool.false_ne_true, bind_eq_ok_iff] at h
      obtain ⟨⟨found, node?⟩, hchild, h⟩ := h
      obtain ⟨hlength, rfl, rfl⟩ := child_eq_ok_iff.mp hchild
      rw [place_of_findParent hparent hspecial]
      exact ⟨⟨directory, name, hparent, hspecial, hlength⟩, h⟩
  · rintro ⟨⟨directory, name, hparent, hspecial, hlength⟩, h⟩
    rw [place_of_findParent hparent hspecial] at h
    refine ⟨directory, name, hparent, ?_⟩
    rw [hspecial, if_neg Bool.false_ne_true, bind_eq_ok_iff]
    exact ⟨_, child_eq_ok_iff.mpr ⟨hlength, rfl, rfl⟩, h⟩

/-- Writing is a step at the place of a file. -/
theorem write_eq (path : Path) (contents : Bytes) :
    tree.write path contents =
      (tree.findParent path path.pieces >>= fun (directory, name) =>
        if isSpecial name then .error .isDirectory
        else tree.child directory name >>= fun
          | (_, some .directory) => .error .isDirectory
          | (place, _) => .ok (tree.put place (.file contents))) := by
  unfold write
  refine bind_congr fun ⟨directory, name⟩ => ?_
  dsimp only
  split <;> rfl

/-- So is removing. -/
theorem removeFile_eq (path : Path) :
    tree.removeFile path =
      (tree.findParent path path.pieces >>= fun (directory, name) =>
        if isSpecial name then .error .isDirectory
        else tree.child directory name >>= fun
          | (_, none) => .error .missing
          | (_, some .directory) => .error .isDirectory
          | (place, some (.file _)) => .ok (tree.erase place)) := by
  unfold removeFile
  refine bind_congr fun ⟨directory, name⟩ => ?_
  dsimp only
  split <;> rfl

/-- A file is written where none or a file stands, and nothing else changes. -/
theorem write_eq_ok_iff {path : Path} {contents : Bytes} :
    tree.write path contents = .ok tree' ↔
      tree.Reaches path ∧ tree.at? path.place ≠ some .directory ∧
        tree' = tree.put path.place (.file contents) := by
  rw [write_eq, atPlace_eq_ok_iff]
  refine and_congr_right fun _ => ?_
  -- what stands there decides
  cases tree.at? path.place with
  | none => simp [eq_comm]
  | some node => cases node <;> simp [eq_comm]

/-- A file that is there is removed, and nothing else changes. -/
theorem removeFile_eq_ok_iff {path : Path} :
    tree.removeFile path = .ok tree' ↔
      tree.Reaches path ∧ (∃ contents, tree.at? path.place = some (.file contents)) ∧
        tree' = tree.erase path.place := by
  rw [removeFile_eq, atPlace_eq_ok_iff]
  refine and_congr_right fun _ => ?_
  cases tree.at? path.place with
  | none => simp
  | some node => cases node <;> simp [eq_comm]

/-- There is no file to remove where nothing stands. -/
theorem removeFile_eq_missing {path : Path} (h : tree.Reaches path)
    (hnone : tree.at? path.place = none) : tree.removeFile path = .error .missing := by
  obtain ⟨directory, name, hparent, hspecial, hlength⟩ := h
  -- the directory is there, and nothing stands at the name
  rw [place_of_findParent hparent hspecial] at hnone
  have hchild : tree.child directory name = .ok (directory ++ [name], none) :=
    child_eq_ok_iff.mpr ⟨hlength, rfl, hnone.symm⟩
  simp only [removeFile_eq, hparent, bind, Except.bind, hspecial, hchild]
  rfl

end Tree

/-! ## Refusals -/

namespace Refusals

variable {Result : Type} {refusals : Refusals} {operation : Operation} {tree : Tree} {path : Path}
variable {outcome : Except FileError Result}

/-- What is not refused comes to its own result. -/
theorem guard_eq_ok_iff {result : Result} :
    refusals.guard operation tree path outcome = .ok result ↔
      refusals.cause? operation tree path = none ∧ outcome = .ok result := by
  unfold guard
  cases refusals.cause? operation tree path <;> simp

/-- A refusal is no sign that something is not there. -/
theorem guard_eq_missing_iff :
    refusals.guard operation tree path outcome = .error .missing ↔
      refusals.cause? operation tree path = none ∧ outcome = .error .missing := by
  unfold guard
  cases refusals.cause? operation tree path <;> simp

/-- What is not refused has no cause to be. -/
theorem refuses_eq_false_iff :
    refusals.refuses operation tree path = false ↔ refusals.cause? operation tree path = none := by
  simp [refuses]

/-- The operation is never refused at the path, whatever the tree. -/
def Permits (refusals : Refusals) (operation : Operation) (path : Path) : Prop :=
  ∀ tree, refusals.cause? operation tree path = none

theorem Permits.refuses_eq (h : refusals.Permits operation path) :
    refusals.refuses operation tree path = false :=
  refuses_eq_false_iff.mpr (h tree)

end Refusals

namespace Tree

variable {tree tree' : Tree} {place : Place}

/-! ## Looking -/

/-- A path that is reached finds what stands at its place. -/
theorem find_eq {path : Path} (h : tree.Reaches path) :
    tree.find path =
      match tree.at? path.place with
      | none => .error .missing
      | some node => .ok (path.place, node) := by
  obtain ⟨directory, name, hparent, hspecial, hlength⟩ := h
  obtain ⟨hcheck, hwalk, -⟩ := findParent_eq_ok_iff.mp hparent
  have hfind : tree.find path = tree.walk [] .directory path.pieces := by
    rw [find, hcheck]
    rfl
  -- all pieces but the last one lead to the directory
  rw [hfind, pieces_of_findParent hparent hspecial, walk_append, hwalk]
  change tree.walk directory .directory [name] = _
  rw [walk_cons_name _ hspecial, if_neg (Nat.not_lt_of_le hlength),
    place_of_findParent hparent hspecial]
  rfl

/-- A file is read where it stands. -/
theorem read_eq_ok {path : Path} {contents : Bytes} (h : tree.Reaches path)
    (hfile : tree.at? path.place = some (.file contents)) : tree.read path = .ok contents := by
  rw [read, find_eq h, hfile]
  rfl

/-- A path that is reached shows if nothing stands at its place. -/
theorem exists_eq_false {path : Path} (h : tree.Reaches path)
    (hnone : tree.at? path.place = none) : tree.exists_ path = false := by
  rw [exists_, find_eq h, hnone]
  rfl

/-- Nothing stands at the place of a path that is reached and does not exist. -/
theorem at?_eq_none_of_exists {path : Path} (h : tree.Reaches path)
    (hexists : tree.exists_ path = false) : tree.at? path.place = none := by
  cases hnode : tree.at? path.place with
  | none => rfl
  -- if something stood there, it would be found
  | some node =>
    rw [exists_, find_eq h, hnode] at hexists
    cases hexists

/-! ## Directories stay -/

/-- Putting a file where no directory stands keeps all directories. -/
theorem sameDirectories_put {contents : Bytes} (hplace : place ≠ [])
    (hnode : tree.at? place ≠ some .directory) :
    tree.SameDirectories (tree.put place (.file contents)) := by
  intro other
  -- only the place itself could differ
  by_cases hother : other = place
  · rw [hother, at?_put_self hplace]
    exact iff_of_false hnode (by simp)
  · rw [at?_put_of_ne hother]

/-- Removing what is no directory keeps all directories. -/
theorem sameDirectories_erase (hplace : place ≠ []) (hnode : tree.at? place ≠ some .directory) :
    tree.SameDirectories (tree.erase place) := by
  intro other
  by_cases hother : other = place
  · rw [hother, at?_erase_self hplace]
    exact iff_of_false hnode (by simp)
  · rw [at?_erase_of_ne hother]

end Tree

end ParserFoundry.Files

import ParserFoundry.Proofs.Files.Tree
/-!
# Trees Within Trees

A tree is within another one if all that stands in it stands in the other one, too. Whatever a path
leads to in the smaller tree, it leads to in the larger one: so a path stays without a file while
files are removed, and stays a directory while directories are made.

Main results:
- `Within.walk`, `Within.find`: paths lead to the same places in the larger tree.
- `find_eq_bind`, `read_eq_ok_iff`: what a path finds, by its last piece and the directory above.
- `exists_eq_false_of_missing`, `exists_eq_false_of_removeFile`: what is not there to be removed,
  or has been removed, does not exist.
-/

namespace ParserFoundry.Files

namespace Tree

variable {tree tree' : Tree} {place other : Place} {node next : Node} {path : Path}

/-! ## Larger and smaller trees -/

/-- All that stands in a tree stands in the other one. -/
def Within (tree tree' : Tree) : Prop :=
  ∀ place node, tree.at? place = some node → tree'.at? place = some node

theorem Within.refl (tree : Tree) : tree.Within tree :=
  fun _ _ hnode => hnode

theorem Within.trans {tree'' : Tree} (h : tree.Within tree') (h' : tree'.Within tree'') :
    tree.Within tree'' :=
  fun place node hnode => h' place node (h place node hnode)

/-- Where nothing stands, something can be put. -/
theorem within_put (h : tree.at? place = none) : tree.Within (tree.put place node) := by
  intro other found hfound
  have hne : other ≠ place := by
    intro heq
    rw [heq, h] at hfound
    cases hfound
  rw [at?_put_of_ne hne]
  exact hfound

theorem erase_within (hplace : place ≠ []) : (tree.erase place).Within tree := by
  intro other found hfound
  -- only the place that is erased has changed, and nothing stands there any longer
  by_cases hother : other = place
  · rw [hother, at?_erase_self hplace] at hfound
    cases hfound
  · rwa [at?_erase_of_ne hother] at hfound

/-- Where pieces lead to in a tree, they lead to in a larger one. -/
theorem Within.walk (h : tree.Within tree') {pieces : List Name}
    (hwalk : tree.walk place node pieces = .ok (other, next)) :
    tree'.walk place node pieces = .ok (other, next) := by
  induction pieces generalizing place node with
  | nil => exact hwalk
  | cons piece rest ih =>
    cases node with
    | file contents => cases hwalk
    | directory =>
      -- only a name depends on what stands in the tree
      cases hspecial : isSpecial piece with
      | true =>
        rw [walk_cons_special rest hspecial] at hwalk ⊢
        exact ih hwalk
      | false =>
        rw [walk_cons_name rest hspecial] at hwalk ⊢
        split at hwalk
        case isTrue => cases hwalk
        case isFalse hlength =>
          rw [if_neg hlength]
          split at hwalk
          case h_1 => cases hwalk
          case h_2 found hfound =>
            rw [h _ _ hfound]
            exact ih hwalk

/-! ## Finding -/

theorem find_eq_ok_iff :
    tree.find path = .ok (place, node) ↔
      checkPath path = .ok () ∧ tree.walk [] .directory path.pieces = .ok (place, node) := by
  unfold find
  rw [bind_eq_ok_iff]
  constructor
  · rintro ⟨⟨⟩, hcheck, hwalk⟩
    exact ⟨hcheck, hwalk⟩
  · rintro ⟨hcheck, hwalk⟩
    exact ⟨⟨⟩, hcheck, hwalk⟩

theorem Within.find (h : tree.Within tree') (hfind : tree.find path = .ok (place, node)) :
    tree'.find path = .ok (place, node) := by
  obtain ⟨hcheck, hwalk⟩ := find_eq_ok_iff.mp hfind
  exact find_eq_ok_iff.mpr ⟨hcheck, h.walk hwalk⟩

theorem exists_eq_true_iff :
    tree.exists_ path = true ↔ ∃ place node, tree.find path = .ok (place, node) := by
  unfold exists_
  cases hfind : tree.find path with
  | error cause => simp [Except.toOption]
  | ok found => exact iff_of_true rfl ⟨found.1, found.2, rfl⟩

/-- What does not exist in a tree does not exist in a smaller one. -/
theorem Within.exists_eq_false (h : tree.Within tree') (hexists : tree'.exists_ path = false) :
    tree.exists_ path = false := by
  refine Bool.eq_false_iff.mpr fun htrue => ?_
  obtain ⟨place, node, hfind⟩ := exists_eq_true_iff.mp htrue
  have hlarger := exists_eq_true_iff.mpr ⟨place, node, h.find hfind⟩
  rw [hexists] at hlarger
  cases hlarger

/-- A single piece leads on if it says nothing of its own, or if something has it for a name. -/
theorem walk_single_eq_ok_iff {piece : Name} :
    tree.walk place .directory [piece] = .ok (other, next) ↔
      isSpecial piece = true ∧ other = Path.follow place piece ∧ next = .directory ∨
        isSpecial piece = false ∧ byteLength piece ≤ longestName ∧ other = place ++ [piece] ∧
          tree.at? (place ++ [piece]) = some next := by
  -- a name has to be short enough and something has to stand under it
  cases hspecial : isSpecial piece with
  | true =>
    rw [walk_cons_special [] hspecial]
    simp [walk, eq_comm]
  | false =>
    rw [walk_cons_name [] hspecial]
    split
    case isTrue hlength => simp [Nat.not_le_of_gt hlength]
    case isFalse hlength =>
      cases tree.at? (place ++ [piece]) with
      | none => simp
      | some node => simp [walk, Nat.le_of_not_gt hlength, eq_comm]

/-- Pieces lead to the directory above the last one, and from there on by the last one. -/
theorem walk_eq_bind (hcheck : checkPath path = .ok ()) (pieces : List Name) :
    tree.walk [] .directory pieces =
      tree.findParent path pieces >>= fun (directory, name) =>
        tree.walk directory .directory [name] := by
  unfold findParent
  rw [hcheck]
  rcases List.eq_nil_or_concat pieces with rfl | ⟨front, last, rfl⟩
  · rfl
  · rw [List.concat_eq_append, walk_append, List.dropLast_concat, List.getLast?_concat]
    simp only [bind, Except.bind]
    cases tree.walk [] .directory front with
    | error cause => rfl
    | ok found =>
      obtain ⟨directory, node⟩ := found
      cases node <;> rfl

theorem find_eq_bind (path : Path) :
    tree.find path =
      tree.findParent path path.pieces >>= fun (directory, name) =>
        tree.walk directory .directory [name] := by
  cases hcheck : checkPath path with
  | error cause =>
    simp only [find, findParent, hcheck]
    rfl
  | ok checked =>
    rw [← walk_eq_bind hcheck, find, hcheck]
    rfl

/-- What a path finds stands behind its last piece, in a directory that is there. -/
theorem find_iff_findParent :
    tree.find path = .ok (place, node) ↔
      ∃ directory name, tree.findParent path path.pieces = .ok (directory, name) ∧
        tree.walk directory .directory [name] = .ok (place, node) := by
  rw [find_eq_bind, bind_eq_ok_iff, Prod.exists]

theorem read_eq_ok_iff {contents : Bytes} :
    tree.read path = .ok contents ↔
      tree.Reaches path ∧ tree.at? path.place = some (.file contents) := by
  constructor
  · intro h
    obtain ⟨⟨place, node⟩, hfind, hnode⟩ := bind_eq_ok_iff.mp h
    cases node with
    | directory => cases hnode
    | file found =>
      cases hnode
      -- only a name leads to a file
      obtain ⟨directory, name, hparent, hlast⟩ := find_iff_findParent.mp hfind
      obtain ⟨hspecial, hlength, -, hfile⟩ :=
        (walk_single_eq_ok_iff.mp hlast).resolve_left fun hspecial => nomatch hspecial.2.2
      rw [place_of_findParent hparent hspecial]
      exact ⟨⟨directory, name, hparent, hspecial, hlength⟩, hfile⟩
  · rintro ⟨hreaches, hfile⟩
    exact read_eq_ok hreaches hfile

/-! ## Missing files -/

/-- What exists stands behind its last piece, in a directory that is there. -/
theorem exists_iff_findParent :
    tree.exists_ path = true ↔
      ∃ directory name, tree.findParent path path.pieces = .ok (directory, name) ∧
        (isSpecial name = true ∨
          byteLength name ≤ longestName ∧ ∃ node, tree.at? (directory ++ [name]) = some node) := by
  simp only [exists_eq_true_iff, find_iff_findParent, walk_single_eq_ok_iff]
  constructor
  · rintro ⟨place, node, directory, name, hparent, ⟨hspecial, -⟩ | ⟨-, hlength, -, hnode⟩⟩
    · exact ⟨directory, name, hparent, .inl hspecial⟩
    · exact ⟨directory, name, hparent, .inr ⟨hlength, node, hnode⟩⟩
  -- whichever way the last piece leads on, it leads to something
  · rintro ⟨directory, name, hparent, hname⟩
    cases hspecial : isSpecial name with
    | true => exact ⟨_, _, directory, name, hparent, .inl ⟨hspecial, rfl, rfl⟩⟩
    | false =>
      obtain ⟨hlength, node, hnode⟩ := hname.resolve_left (by simp [hspecial])
      exact ⟨_, node, directory, name, hparent, .inr ⟨hspecial, hlength, rfl, hnode⟩⟩

/-- What is not there to be removed does not exist. -/
theorem exists_eq_false_of_missing (h : tree.removeFile path = .error .missing) :
    tree.exists_ path = false := by
  refine Bool.eq_false_iff.mpr fun htrue => ?_
  obtain ⟨directory, name, hparent, hname⟩ := exists_iff_findParent.mp htrue
  -- whatever stands there is removed, or it is a directory
  simp only [removeFile_eq, hparent, bind, Except.bind] at h
  cases hspecial : isSpecial name with
  | true => simp [hspecial] at h
  | false =>
    obtain ⟨hlength, node, hnode⟩ := hname.resolve_left (by simp [hspecial])
    have hchild : tree.child directory name = .ok (directory ++ [name], some node) :=
      child_eq_ok_iff.mpr ⟨hlength, rfl, hnode.symm⟩
    simp only [hspecial, Bool.false_eq_true, if_false, hchild] at h
    cases node <;> cases h

/-- What has been removed does not exist. -/
theorem exists_eq_false_of_removeFile (h : tree.removeFile path = .ok tree') :
    tree'.exists_ path = false := by
  -- the directories are as before, so the path still leads to the place, which is empty
  obtain ⟨hreaches, ⟨contents, hfile⟩, rfl⟩ := removeFile_eq_ok_iff.mp h
  have hplace := hreaches.place_ne_nil
  have hdirectories : tree.SameDirectories (tree.erase path.place) :=
    sameDirectories_erase hplace (by simp [hfile])
  exact exists_eq_false (hdirectories.reaches hreaches) (at?_erase_self hplace)

/-- A path that no longer exists when a file has gone led to the file. -/
theorem place_eq_of_exists_erase (hplace : place ≠ []) (hnode : tree.at? place ≠ some .directory)
    (hexists : tree.exists_ path = true) (hgone : (tree.erase place).exists_ path = false) :
    path.place = place := by
  obtain ⟨directory, name, hparent, hname⟩ := exists_iff_findParent.mp hexists
  obtain ⟨hcheck, hwalk, hlast⟩ := findParent_eq_ok_iff.mp hparent
  -- the directory above is still there
  have hparent' : (tree.erase place).findParent path path.pieces = .ok (directory, name) :=
    findParent_eq_ok_iff.mpr ⟨hcheck, (sameDirectories_erase hplace hnode).walk hwalk, hlast⟩
  by_contra hne
  refine Bool.eq_false_iff.mp hgone (exists_iff_findParent.mpr ⟨directory, name, hparent', ?_⟩)
  cases hspecial : isSpecial name with
  | true => exact .inl rfl
  | false =>
    obtain ⟨hlength, found, hfound⟩ := hname.resolve_left (by simp [hspecial])
    rw [place_of_findParent hparent hspecial] at hne
    exact .inr ⟨hlength, found, by rw [at?_erase_of_ne hne, hfound]⟩

end Tree

end ParserFoundry.Files

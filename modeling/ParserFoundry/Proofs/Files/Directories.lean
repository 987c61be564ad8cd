import Mathlib.Data.List.DropRight
import ParserFoundry.Proofs.Files.Path
import ParserFoundry.Proofs.Files.Within
/-!
# Making Directories

A directory is made where nothing stands, in a directory that is there, after its parents if it
lacks them. Whether all of them can be made or not, nothing but directories is added, and only at
places of the path and of the paths above it. A directory that is there needs no making.

Main results:
- `makeDirectory_eq_ok`, `makeDirectory_of_isDirectory`: making one directory.
- `Grown`, `grown_makeDirectories`: what becomes of a tree in which directories are made.
- `makeDirectoriesFrom_cases`: what making a directory with its parents comes to.
- `hasDirectory_of_makeDirectories`, `makeDirectories_of_hasDirectory`: afterwards the directory is
  there, and then nothing has to be done for it.
-/

namespace ParserFoundry.Files

namespace Tree

variable {tree tree' made : Tree} {place other : Place} {node : Node} {path : Path}

/-! ## One directory -/

/-- Empty pieces at the end lead nowhere else. -/
theorem withoutEmptyEnd_append (pieces : List Name) :
    ∃ count, pieces = withoutEmptyEnd pieces ++ List.replicate count [] := by
  refine ⟨(pieces.rtakeWhile List.isEmpty).length, ?_⟩
  have hempty : pieces.rtakeWhile List.isEmpty =
      List.replicate (pieces.rtakeWhile List.isEmpty).length [] :=
    List.eq_replicate_of_mem fun piece hpiece =>
      List.isEmpty_iff.mp (List.mem_rtakeWhile_imp hpiece)
  rw [← hempty]
  exact List.rdropWhile_append_rtakeWhile.symm

/-- Empty pieces stay where they are. -/
theorem foldl_replicate_empty (count : Nat) (place : Place) :
    (List.replicate count []).foldl Path.follow place = place := by
  induction count with
  | zero => rfl
  | succ count ih => exact ih

/-- Walking them stays in the directory. -/
theorem walk_replicate_empty (count : Nat) (place : Place) :
    tree.walk place .directory (List.replicate count []) = .ok (place, .directory) := by
  induction count with
  | zero => rfl
  | succ count ih => exact ih

/-- The place of a path is that of its pieces without the empty end. -/
theorem place_withoutEmptyEnd (path : Path) :
    path.place = (withoutEmptyEnd path.pieces).foldl Path.follow [] := by
  -- the empty pieces at the end are followed last, to no effect
  obtain ⟨count, hpieces⟩ := withoutEmptyEnd_append path.pieces
  rw [Path.place]
  nth_rewrite 1 [hpieces]
  rw [List.foldl_append, foldl_replicate_empty]

/-- Pieces lead to a directory with the empty ones at their end if they do so without them. -/
theorem walk_withoutEmptyEnd {pieces : List Name} :
    tree.walk place node pieces = .ok (other, .directory) ↔
      tree.walk place node (withoutEmptyEnd pieces) = .ok (other, .directory) := by
  obtain ⟨count, hpieces⟩ := withoutEmptyEnd_append pieces
  nth_rewrite 1 [hpieces]
  rw [walk_append, bind_eq_ok_iff]
  constructor
  · rintro ⟨⟨between, found⟩, hkept, hempty⟩
    cases found with
    | file contents =>
      -- a file is no directory, and no piece leads on from it
      cases count <;> cases hempty
    | directory =>
      rw [walk_replicate_empty] at hempty
      cases hempty
      exact hkept
  · intro hkept
    exact ⟨_, hkept, walk_replicate_empty count other⟩

/-- A path is that of a directory if walking it ends in one. -/
theorem isDirectory_iff :
    tree.isDirectory path = true ↔ ∃ place, tree.find path = .ok (place, .directory) := by
  unfold isDirectory
  cases tree.find path with
  | error cause => simp
  | ok found =>
    obtain ⟨place, node⟩ := found
    cases node <;> simp

/-- Making a directory, as two steps: its parent is found, and then nothing may stand there. -/
theorem makeDirectory_eq (path : Path) :
    tree.makeDirectory path =
      (tree.findParent path (withoutEmptyEnd path.pieces) >>= fun (directory, name) =>
        if isSpecial name then .error .alreadyThere
        else tree.child directory name >>= fun
          | (_, some _) => .error .alreadyThere
          | (place, none) => .ok (tree.put place .directory)) := by
  unfold makeDirectory
  refine bind_congr fun ⟨directory, name⟩ => ?_
  dsimp only
  split <;> rfl

/-- A directory is made where nothing stands, and it is there afterwards. -/
theorem makeDirectory_eq_ok (h : tree.makeDirectory path = .ok made) :
    path.place ≠ [] ∧ tree.at? path.place = none ∧ made = tree.put path.place .directory ∧
      made.isDirectory path = true := by
  rw [makeDirectory_eq, bind_eq_ok_iff] at h
  -- found by its parent; a special name or a node in its place would be an error
  obtain ⟨⟨directory, name⟩, hparent, h⟩ := h
  cases hspecial : isSpecial name with
  | true => simp [hspecial] at h
  | false =>
    simp only [hspecial, Bool.false_eq_true, if_false] at h
    obtain ⟨⟨place, node?⟩, hchild, h⟩ := bind_eq_ok_iff.mp h
    obtain ⟨hlength, rfl, hnode⟩ := child_eq_ok_iff.mp hchild
    cases node? with
    | some node => cases h
    | none =>
      obtain rfl := (Except.ok.inj h).symm
      have hplace : path.place = directory ++ [name] :=
        (place_withoutEmptyEnd path).trans (foldl_of_findParent hparent hspecial)
      have hne : directory ++ [name] ≠ [] := by simp
      obtain ⟨hcheck, hwalk, -⟩ := findParent_eq_ok_iff.mp hparent
      rw [hplace]
      refine ⟨hne, hnode.symm, rfl, isDirectory_iff.mpr ⟨directory ++ [name], ?_⟩⟩
      -- the way to the parent is still there, and the name leads on to the new directory
      refine find_eq_ok_iff.mpr ⟨hcheck, walk_withoutEmptyEnd.mpr ?_⟩
      rw [pieces_of_findParent hparent hspecial, walk_append, bind_eq_ok_iff]
      refine ⟨_, (within_put hnode.symm).walk hwalk, walk_single_eq_ok_iff.mpr (.inr ?_)⟩
      exact ⟨hspecial, hlength, rfl, at?_put_self hne⟩

/-- A directory that is there is not made again. -/
theorem makeDirectory_of_isDirectory (h : tree.isDirectory path = true) :
    tree.makeDirectory path = .error .alreadyThere := by
  obtain ⟨place, hfind⟩ := isDirectory_iff.mp h
  obtain ⟨hcheck, hwalk⟩ := find_eq_ok_iff.mp hfind
  rw [walk_withoutEmptyEnd, walk_eq_bind hcheck] at hwalk
  obtain ⟨⟨directory, name⟩, hparent, hlast⟩ := bind_eq_ok_iff.mp hwalk
  rw [makeDirectory_eq, hparent]
  change (if isSpecial name then _ else _) = _
  rcases walk_single_eq_ok_iff.mp hlast with ⟨hspecial, -⟩ | ⟨hspecial, hlength, -, hnode⟩
  · rw [if_pos hspecial]
  · have hchild : tree.child directory name = .ok (directory ++ [name], some .directory) :=
      child_eq_ok_iff.mpr ⟨hlength, rfl, hnode.symm⟩
    rw [if_neg (by simp [hspecial]), hchild]
    rfl

/-! ## Trees in which directories are made -/

/-- Nothing has changed at a place, or a directory was made there where nothing stood, and the place
is that of one of the paths. -/
def GrownAt (tree : Tree) (paths : List Path) (made : Tree) (place : Place) : Prop :=
  made.at? place = tree.at? place ∨
    tree.at? place = none ∧ made.at? place = some .directory ∧ ∃ path ∈ paths, path.place = place

/-- Only directories are added, at places of the paths where nothing stood. -/
def Grown (tree : Tree) (paths : List Path) (made : Tree) : Prop :=
  ∀ place, GrownAt tree paths made place

/-- What a tree has at a place is all that counts for the place. -/
theorem GrownAt.of_eq {paths : List Path} (h : GrownAt tree paths made place)
    (heq : tree'.at? place = made.at? place) : GrownAt tree paths tree' place := by
  unfold GrownAt
  rw [heq]
  exact h

/-- Nothing is made of nothing done. -/
theorem Grown.refl (tree : Tree) (paths : List Path) : Grown tree paths tree :=
  fun _ => .inl rfl

/-- What is made in two steps is made, and nothing twice. -/
theorem Grown.trans {between : Tree} {paths : List Path} (h : Grown tree paths between)
    (h' : Grown between paths made) : Grown tree paths made := by
  intro place
  rcases h' place with hsame | ⟨hnone, hmade, hpath⟩
  · exact (h place).of_eq hsame
  · rcases h place with hsame | ⟨-, hbetween, -⟩
    · exact .inr ⟨hsame ▸ hnone, hmade, hpath⟩
    · -- what was made before is not made again
      rw [hbetween] at hnone
      cases hnone

/-- More paths may be named than are used. -/
theorem Grown.mono {paths more : List Path} (hsubset : paths ⊆ more) (h : Grown tree paths made) :
    Grown tree more made := by
  intro place
  rcases h place with hsame | ⟨hnone, hmade, path, hpath, hplace⟩
  · exact .inl hsame
  · exact .inr ⟨hnone, hmade, path, hsubset hpath, hplace⟩

/-- Making one directory adds it and nothing else. -/
theorem grown_makeDirectory (h : tree.makeDirectory path = .ok made) :
    Grown tree [path] made := by
  obtain ⟨hne, hnone, rfl, -⟩ := makeDirectory_eq_ok h
  intro place
  -- the tree has changed at the place of the path only
  by_cases hplace : place = path.place
  · rw [hplace]
    exact .inr ⟨hnone, at?_put_self hne, path, List.mem_singleton_self path, rfl⟩
  · exact .inl (at?_put_of_ne hplace)

variable {refusals : Refusals}

/-- Settling a directory makes it, or changes nothing. -/
theorem grown_settleDirectory : Grown tree [path] (settleDirectory refusals tree path).1 := by
  unfold settleDirectory
  split
  case h_1 made hmade => exact grown_makeDirectory (Refusals.guard_eq_ok_iff.mp hmade).2
  case h_2 => exact .refl tree _

/-! ## All directories of a path -/

/-- A directory is settled at once or after its parents, unless this is not needed or breaks off. -/
theorem makeDirectoriesFrom_cases {steps : Nat} {result : Tree × Except FileError Unit}
    (h : makeDirectoriesFrom refusals tree path (steps + 1) = result) :
    path.components = [] ∧ result = (tree, .ok ()) ∨
      (∃ cause, result = (tree, .error cause)) ∨
      result = settleDirectory refusals tree path ∨
      ∃ parent between outcome, path.parent? = some parent ∧
        makeDirectoriesFrom refusals tree parent steps = (between, outcome) ∧
        (outcome = .ok () ∧ result = settleDirectory refusals between path ∨
          ∃ cause, result = (between, .error cause)) := by
  rw [makeDirectoriesFrom] at h
  split_ifs at h with hempty
  · exact .inl ⟨List.isEmpty_iff.mp hempty, h.symm⟩
  · right
    split at h
    case h_1 =>
      -- something above is missing
      split at h
      case h_1 => exact .inl ⟨_, h.symm⟩
      case h_2 parent hparent =>
        refine .inr (.inr ?_)
        cases hrest : makeDirectoriesFrom refusals tree parent steps with
        | mk between outcome =>
          rw [hrest] at h
          cases outcome with
          | error cause => exact ⟨parent, between, _, hparent, hrest, .inr ⟨cause, h.symm⟩⟩
          | ok done => exact ⟨parent, between, _, hparent, hrest, .inl ⟨rfl, h.symm⟩⟩
    case h_2 => exact .inr (.inl h.symm)

/-- With its parents, a directory adds directories above it and itself. -/
theorem grown_makeDirectoriesFrom (steps : Nat) (path : Path) :
    Grown tree path.ancestors (makeDirectoriesFrom refusals tree path steps).1 := by
  -- on the steps, each of which goes to the parent
  induction steps generalizing path with
  | zero => exact .refl tree _
  | succ steps ih =>
    -- whatever becomes of the path itself, it is among its ancestors
    have hself : [path] ⊆ path.ancestors := by
      rw [Path.ancestors_eq]
      exact List.cons_subset_cons path (List.nil_subset _)
    rcases makeDirectoriesFrom_cases
        (rfl : makeDirectoriesFrom refusals tree path (steps + 1) = _) with
      ⟨-, hmade⟩ | ⟨cause, hmade⟩ | hmade | ⟨parent, between, outcome, hparent, hrest, hmade⟩
    · rw [hmade]
      exact .refl tree _
    · rw [hmade]
      exact .refl tree _
    · rw [hmade]
      exact grown_settleDirectory.mono hself
    · -- the paths above the parent are above the path, too
      have hparents : parent.ancestors ⊆ path.ancestors := by
        rw [Path.ancestors_eq path, hparent]
        exact List.subset_cons_self _ _
      have hgrown := (ih parent).mono hparents
      rw [hrest] at hgrown
      rcases hmade with ⟨-, hmade⟩ | ⟨cause, hmade⟩
      · rw [hmade]
        exact hgrown.trans (grown_settleDirectory.mono hself)
      · rw [hmade]
        exact hgrown

/-- However making a directory with its parents ends, only directories are added. -/
theorem grown_makeDirectories (tree : Tree) (path : Path) (refusals : Refusals) :
    Grown tree path.ancestors (tree.makeDirectories path refusals).1 :=
  grown_makeDirectoriesFrom _ path

/-- The path is that of a directory, or it says nothing. -/
def HasDirectory (tree : Tree) (path : Path) : Prop :=
  path.components = [] ∨ tree.isDirectory path = true

/-- Where directories are the same, a path has its directory in both trees. -/
theorem HasDirectory.congr (h : HasDirectory tree path) (hdirectories : tree.SameDirectories tree') :
    HasDirectory tree' path := by
  refine h.imp_right fun hdirectory => ?_
  obtain ⟨place, hfind⟩ := isDirectory_iff.mp hdirectory
  obtain ⟨hcheck, hwalk⟩ := find_eq_ok_iff.mp hfind
  exact isDirectory_iff.mpr ⟨place, find_eq_ok_iff.mpr ⟨hcheck, hdirectories.walk hwalk⟩⟩

/-- A directory that has been settled is there: it was made, or was there already. -/
theorem isDirectory_of_settleDirectory (h : (settleDirectory refusals tree path).2 = .ok ()) :
    (settleDirectory refusals tree path).1.isDirectory path = true := by
  unfold settleDirectory at h ⊢
  -- made now, or refused but there
  split at h
  case h_1 made hmade => exact (makeDirectory_eq_ok (Refusals.guard_eq_ok_iff.mp hmade).2).2.2.2
  case h_2 cause hcause =>
    dsimp only at h ⊢
    split at h
    case isTrue hdirectory => exact hdirectory
    case isFalse => cases h

/-- What comes last is the directory itself, so it is there if nothing failed. -/
theorem hasDirectory_of_makeDirectoriesFrom {steps : Nat}
    (h : (makeDirectoriesFrom refusals tree path steps).2 = .ok ()) :
    HasDirectory (makeDirectoriesFrom refusals tree path steps).1 path := by
  cases steps with
  | zero => cases h
  | succ steps =>
    rcases makeDirectoriesFrom_cases
        (rfl : makeDirectoriesFrom refusals tree path (steps + 1) = _) with
      ⟨hempty, -⟩ | ⟨cause, hmade⟩ | hmade | ⟨-, between, -, -, -, ⟨-, hmade⟩ | ⟨cause, hmade⟩⟩
    · exact .inl hempty
    · rw [hmade] at h
      cases h
    · rw [hmade] at h ⊢
      exact .inr (isDirectory_of_settleDirectory h)
    · -- however it went with the parents, the directory itself was settled last
      rw [hmade] at h ⊢
      exact .inr (isDirectory_of_settleDirectory h)
    · rw [hmade] at h
      cases h

/-- A directory that was made with its parents is there. -/
theorem hasDirectory_of_makeDirectories (h : (tree.makeDirectories path refusals).2 = .ok ()) :
    HasDirectory (tree.makeDirectories path refusals).1 path :=
  hasDirectory_of_makeDirectoriesFrom h

/-- Nothing is done for a directory that is there, and nothing can be refused. -/
theorem makeDirectories_of_hasDirectory (h : HasDirectory tree path) (refusals : Refusals) :
    tree.makeDirectories path refusals = (tree, .ok ()) := by
  unfold makeDirectories makeDirectoriesFrom
  split_ifs with hempty
  · rfl
  · have hdirectory := h.resolve_left (by simpa using hempty)
    obtain ⟨cause, hcause, hmissing⟩ : ∃ cause,
        refusals.guard .makeDirectory tree path (tree.makeDirectory path) = .error cause ∧
          cause ≠ .missing := by
      rw [makeDirectory_of_isDirectory hdirectory, Refusals.guard]
      -- whether the system refuses or the directory is there, it is not for something missing above
      cases refusals.cause? .makeDirectory tree path with
      | none => exact ⟨_, rfl, nofun⟩
      | some cause => exact ⟨_, rfl, nofun⟩
    have hsettled : settleDirectory refusals tree path = (tree, .ok ()) := by
      rw [settleDirectory, hcause]
      exact congrArg (Prod.mk tree) (if_pos hdirectory)
    rw [hcause]
    split
    case h_1 heq => exact absurd (Except.error.inj heq) hmissing
    case h_2 => exact hsettled

end Tree

/-! ## Files in a directory -/

namespace Path

/-- A name that is joined to the path of a directory leads to its place in the directory. -/
theorem place_join_single {name : Name} (hspecial : Tree.isSpecial name = false) (base : Path) :
    (base.join (single name)).place = base.place ++ [name] := by
  rw [join, if_neg (by simp [single])]
  split
  case isTrue hbase =>
    obtain ⟨-, hpieces⟩ := (Bool.and_eq_true _ _).mp hbase
    rw [place, place, List.isEmpty_iff.mp hpieces]
    exact Tree.follow_name hspecial
  case isFalse =>
    have hend : (withoutEnd base.pieces).foldl follow [] = base.place := by
      unfold withoutEnd
      split
      case isTrue hlast =>
        -- the empty piece at the end leads nowhere else
        obtain ⟨front, hpieces⟩ := List.getLast?_eq_some_iff.mp hlast
        rw [place, hpieces, List.dropLast_concat, List.foldl_append]
        rfl
      case isFalse => rfl
    have hname : (withoutEnd base.pieces ++ [name]).foldl follow [] = base.place ++ [name] := by
      rw [List.foldl_append, hend]
      exact Tree.follow_name hspecial
    exact hname

end Path

end ParserFoundry.Files

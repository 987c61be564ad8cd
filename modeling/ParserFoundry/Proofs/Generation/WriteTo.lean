import ParserFoundry.Generation.WriteTo
import ParserFoundry.Proofs.Code.Names
import ParserFoundry.Proofs.Files.Bytes
import ParserFoundry.Proofs.Files.Components
import ParserFoundry.Proofs.Files.Directories
import ParserFoundry.Proofs.Generation.Blueprint
/-!
# What Writing a Parser Leaves

A generated parser is written into a directory in which anything may stand. If all goes well, both
files hold what was generated, and only a file is written that did not hold it before, or that the
system did not let be read. If not, some first files hold it and the others are untouched. In neither
case does anything else change, except that the directory and those above it may have been made.

Main results:
- `Settled`, `writeFile_ends`: one file is written, or found to be right.
- `Writing`, `writeFiles_ends`: so are all of them, in order, or the first ones.
- `Writing.held`, `Writing.others`, `Writing.steady`: what is left of a tree by then.
- `reported`: which files are written.
- `writtenTo_of_writeFiles`, `writeTo_ends`: what is left, whether or not all goes well.
- `writeTo_leaves`: a generated parser is written into a directory.
-/

namespace ParserFoundry

/-! ## Names of generated files -/

/-- The file names of a generated parser lead into no other directory. -/
theorem slash_not_mem_snakeCase {stem : String} (h : Code.isName stem = true) :
    '/' ∉ (Naming.snakeCase stem).toList := by
  have hstem : '/' ∉ stem.toList :=
    Code.not_mem_of_isName h (by decide) (by decide) (by decide)
  -- lower case makes no slash, and the stem has none
  intro hmem
  rw [Naming.snakeCase, String.toList_ofList, Naming.snakeChars] at hmem
  exact Naming.forall_mem_snakeFrom (P := fun d => d ≠ '/') (by decide)
    (fun c hc d hd heq =>
      Unicode.slash_not_mem_toLower (fun hslash => hstem (hslash ▸ hc)) (heq ▸ hd))
    false '/' hmem rfl

namespace GeneratedParser

open Files

variable {refusals : Refusals} {tree between final : Tree} {directory : Path}

/-- The path of a generated file in a directory. -/
def pathIn (directory : Path) (file : GeneratedFile) : Path :=
  directory.join (.ofText file.name)

/-- A file whose name starts with a stem stands in the directory itself. -/
theorem place_pathIn {stem ending : String} (hstem : '/' ∉ stem.toList)
    (hending : '/' ∉ ending.toList) (hlength : 2 < ending.toList.length) (directory : Path)
    (contents : String) :
    (pathIn directory ⟨stem ++ ending, contents⟩).place =
      directory.place ++ [stem.toList ++ ending.toList] := by
  have hname : (stem ++ ending).toList = stem.toList ++ ending.toList := String.toList_append
  have hslash : '/' ∉ (stem ++ ending).toList := by
    rw [hname]
    exact List.not_mem_append hstem hending
  have hlonger : 2 < (stem ++ ending).toList.length := by
    rw [hname, List.length_append]
    exact Nat.lt_add_left _ hlength
  -- such a name is neither empty nor one of the two with a meaning of their own
  obtain ⟨hidle, hparent⟩ := Path.isName_of_length hlonger
  have hne : (stem ++ ending).toList ≠ [] := List.ne_nil_of_length_pos (by omega)
  rw [pathIn, Path.ofText_eq_single hne hslash, ← hname]
  exact Path.place_join_single
    (Bool.or_eq_false_iff.mpr ⟨hidle, beq_eq_false_iff_ne.mpr hparent⟩) directory

/-! ## One file -/

/-- The turn of a file: it is found to hold its contents, or it is written. A file that cannot be read
is written whatever it holds. -/
inductive Settled (refusals : Refusals) (path : Path) (contents : Bytes) :
    Tree → Written → Tree → Prop
  | kept {tree : Tree} :
      tree.Reaches path → tree.at? path.place = some (.file contents) →
      refusals.refuses .read tree path = false →
      Settled refusals path contents tree ⟨path, false⟩ tree
  | changed {tree : Tree} :
      tree.Reaches path →
      tree.at? path.place ≠ some (.file contents) ∨ refusals.refuses .read tree path = true →
      tree.at? path.place ≠ some .directory →
      Settled refusals path contents tree ⟨path, true⟩ (tree.put path.place (.file contents))

/-- A file has its turn, or nothing is changed. -/
theorem writeFile_ends (refusals : Refusals) (tree : Tree) (path : Path) (contents : Bytes) :
    (∃ between entry notes, writeFile refusals tree path contents = (between, .ok entry, notes) ∧
      Settled refusals path contents tree entry between) ∨
    ∃ cause, writeFile refusals tree path contents = (tree, .error cause, []) := by
  unfold writeFile
  split
  case isTrue hread =>
    -- the file was read, and what was found are the contents
    have hok : refusals.guard .read tree path (tree.read path) = .ok contents := by
      cases hresult : refusals.guard .read tree path (tree.read path) with
      | error cause => simp [hresult, Except.toOption] at hread
      | ok found => simpa [hresult, Except.toOption] using hread
    obtain ⟨hpermitted, hfound⟩ := Refusals.guard_eq_ok_iff.mp hok
    obtain ⟨hreaches, hfile⟩ := Tree.read_eq_ok_iff.mp hfound
    exact .inl ⟨tree, _, _, rfl,
      .kept hreaches hfile (Refusals.refuses_eq_false_iff.mpr hpermitted)⟩
  case isFalse hread =>
    split
    case h_1 written hwrite =>
      obtain ⟨hreaches, hnode, rfl⟩ :=
        Tree.write_eq_ok_iff.mp (Refusals.guard_eq_ok_iff.mp hwrite).2
      refine .inl ⟨_, _, _, rfl, .changed hreaches ?_ hnode⟩
      -- a file that could be read with these contents would have been kept
      refine or_iff_not_imp_right.mpr fun hrefused hfile => hread ?_
      have hpermitted := Refusals.refuses_eq_false_iff.mp (Bool.eq_false_of_not_eq_true hrefused)
      rw [Refusals.guard_eq_ok_iff.mpr ⟨hpermitted, Tree.read_eq_ok hreaches hfile⟩]
      rfl
    case h_2 => exact .inr ⟨_, rfl⟩

/-- Whether a place lacks a file with a text: there is none, it holds no text, or another one. -/
def isStale (tree : Tree) (place : Place) (text : String) : Bool :=
  match tree.at? place with
  | some (.file bytes) => Bytes.text? bytes != some text
  | _ => true

theorem isStale_eq_false_iff {place : Place} {text : String} :
    isStale tree place text = false ↔ tree.at? place = some (.file (Bytes.ofText text)) := by
  unfold isStale
  cases tree.at? place with
  | none => simp
  | some node =>
    cases node with
    | directory => simp
    | file bytes => simp [Bytes.text_eq_some_iff]

theorem isStale_congr {tree' : Tree} {place : Place} (h : tree.at? place = tree'.at? place)
    (text : String) : isStale tree place text = isStale tree' place text := by
  unfold isStale
  rw [h]

section Settled

variable {path : Path} {contents : Bytes} {entry : Written}

/-- No directory comes or goes in the turn of a file. -/
theorem Settled.directories (h : Settled refusals path contents tree entry between) :
    tree.SameDirectories between := by
  cases h with
  | kept => exact .refl _
  | changed hreaches _ hnode => exact Tree.sameDirectories_put hreaches.place_ne_nil hnode

theorem Settled.others (h : Settled refusals path contents tree entry between) {place : Place}
    (hplace : place ≠ path.place) : between.at? place = tree.at? place := by
  cases h with
  | kept => rfl
  | changed => exact Tree.at?_put_of_ne hplace

/-- After its turn a file holds its contents. -/
theorem Settled.held (h : Settled refusals path contents tree entry between) :
    between.Reaches path ∧ between.at? path.place = some (.file contents) := by
  -- the directories are as before, so the path still leads there
  have hdirectories := h.directories
  cases h with
  | kept hreaches hfile => exact ⟨hreaches, hfile⟩
  | changed hreaches =>
    exact ⟨hdirectories.reaches hreaches, Tree.at?_put_self hreaches.place_ne_nil⟩

/-- A file that held its contents before its turn holds them after it, even if it is written. -/
theorem Settled.steady (h : Settled refusals path contents tree entry between)
    (hfile : tree.at? path.place = some (.file contents)) (place : Place) :
    between.at? place = tree.at? place := by
  by_cases hplace : place = path.place
  · rw [hplace, h.held.2, hfile]
  · exact h.others hplace

theorem Settled.ne_directory (h : Settled refusals path contents tree entry between) :
    tree.at? path.place ≠ some .directory := by
  cases h with
  | kept _ hfile =>
    rw [hfile]
    nofun
  | changed _ _ hnode => exact hnode

/-- A file is written if it was stale, or could not be read. -/
theorem Settled.entry_eq {text : String}
    (h : Settled refusals path (Bytes.ofText text) tree entry between) :
    entry = ⟨path, isStale tree path.place text || refusals.refuses .read tree path⟩ := by
  cases h with
  | kept _ hfile hread => rw [isStale_eq_false_iff.mpr hfile, hread, Bool.or_false]
  | changed _ hother =>
    rcases hother with hother | hrefused
    · rw [Bool.eq_true_of_not_eq_false (mt isStale_eq_false_iff.mp hother), Bool.true_or]
    · rw [hrefused, Bool.or_true]

end Settled

/-! ## Files in order -/

/-- All files have their turns, one after the other. -/
inductive Writing (refusals : Refusals) (directory : Path) :
    Tree → List GeneratedFile → List Written → Tree → Prop
  | nil {tree : Tree} : Writing refusals directory tree [] [] tree
  | cons {tree between final : Tree} {file : GeneratedFile} {rest : List GeneratedFile}
      {entry : Written} {written : List Written} :
      Settled refusals (pathIn directory file) (Bytes.ofText file.contents) tree entry between →
      Writing refusals directory between rest written final →
      Writing refusals directory tree (file :: rest) (entry :: written) final

/-- Behind a file that has had its turn, the others have theirs. -/
theorem writeFiles_cons_ok {file : GeneratedFile} {rest : List GeneratedFile} {entry : Written}
    {outcome : Except FileError (List Written)} {notes more : List Note}
    (h : writeFile refusals tree (pathIn directory file) (Bytes.ofText file.contents) =
      (between, .ok entry, notes))
    (hrest : writeFiles refusals between directory rest = (final, outcome, more)) :
    writeFiles refusals tree directory (file :: rest) =
      (final, outcome.map (entry :: ·), notes ++ more) := by
  rw [pathIn] at h
  unfold writeFiles
  dsimp only
  rw [h]
  dsimp only
  rw [hrest]

theorem writeFiles_cons_error {file : GeneratedFile} {cause : FileError} {notes : List Note}
    (h : writeFile refusals tree (pathIn directory file) (Bytes.ofText file.contents) =
      (between, .error cause, notes)) (rest : List GeneratedFile) :
    writeFiles refusals tree directory (file :: rest) = (between, .error cause, notes) := by
  rw [pathIn] at h
  unfold writeFiles
  dsimp only
  rw [h]

/-- Either all files have their turns, or there is one that cannot be written. -/
theorem writeFiles_ends (refusals : Refusals) (tree : Tree) (directory : Path)
    (files : List GeneratedFile) :
    (∃ final written notes, writeFiles refusals tree directory files = (final, .ok written, notes) ∧
      Writing refusals directory tree files written final) ∨
    ∃ final cause notes first later written,
      writeFiles refusals tree directory files = (final, .error cause, notes) ∧
      files = first ++ later ∧ later ≠ [] ∧ Writing refusals directory tree first written final := by
  induction files generalizing tree with
  | nil => exact .inl ⟨tree, [], [], rfl, .nil⟩
  | cons file rest ih =>
    rcases writeFile_ends refusals tree (pathIn directory file) (Bytes.ofText file.contents) with
      ⟨between, entry, notes, hturn, hsettled⟩ | ⟨cause, hturn⟩
    · rcases ih between with ⟨final, written, more, hrest, hwriting⟩ |
        ⟨final, cause, more, first, later, written, hrest, rfl, hlater, hwriting⟩
      · exact .inl ⟨final, _, _, writeFiles_cons_ok hturn hrest, .cons hsettled hwriting⟩
      · exact .inr ⟨final, cause, _, file :: first, later, _, writeFiles_cons_ok hturn hrest, rfl,
          hlater, .cons hsettled hwriting⟩
    · -- no file has had its turn
      exact .inr ⟨tree, cause, [], [], file :: rest, [], writeFiles_cons_error hturn rest, rfl,
        List.cons_ne_nil _ _, .nil⟩

/-! ## What is left -/

variable {files : List GeneratedFile} {written : List Written}

/-- The places of files in a directory. -/
def placesIn (directory : Path) (files : List GeneratedFile) : List Place :=
  files.map fun file => (pathIn directory file).place

theorem nodup_placesIn_cons {file : GeneratedFile} :
    (placesIn directory (file :: files)).Nodup ↔
      (pathIn directory file).place ∉ placesIn directory files ∧ (placesIn directory files).Nodup :=
  List.nodup_cons

theorem Writing.directories (h : Writing refusals directory tree files written final) :
    tree.SameDirectories final := by
  induction h with
  | nil => exact .refl _
  | cons hsettled _ ih => exact hsettled.directories.trans ih

theorem Writing.others (h : Writing refusals directory tree files written final) {place : Place}
    (hplace : place ∉ placesIn directory files) : final.at? place = tree.at? place := by
  induction h with
  | nil => rfl
  | cons hsettled _ ih =>
    rw [ih (mt (List.mem_cons_of_mem _) hplace)]
    exact hsettled.others fun heq => hplace (heq ▸ List.mem_cons_self)

/-- If no file is written at the place of another one, all of them hold their contents. -/
theorem Writing.held (h : Writing refusals directory tree files written final)
    (hnodup : (placesIn directory files).Nodup) :
    ∀ file ∈ files, final.Reaches (pathIn directory file) ∧
      final.at? (pathIn directory file).place = some (.file (Bytes.ofText file.contents)) := by
  induction h with
  | nil => exact nofun
  | cons hsettled hrest ih =>
    -- the files behind this one have other places
    obtain ⟨hother, hnodup⟩ := nodup_placesIn_cons.mp hnodup
    obtain ⟨hreaches, hfile⟩ := hsettled.held
    refine List.forall_mem_cons.mpr ⟨⟨hrest.directories.reaches hreaches, ?_⟩, ih hnodup⟩
    rw [hrest.others hother, hfile]

/-- Writing files that held their contents changes nothing. -/
theorem Writing.steady (h : Writing refusals directory tree files written final)
    (hheld : ∀ file ∈ files,
      tree.at? (pathIn directory file).place = some (.file (Bytes.ofText file.contents)))
    (place : Place) : final.at? place = tree.at? place := by
  induction h with
  | nil => rfl
  | @cons tree between final file rest entry written hsettled _ ih =>
    -- the turn of the first file leaves what the others held
    obtain ⟨hfile, hrest⟩ := List.forall_mem_cons.mp hheld
    have hbetween := hsettled.steady hfile
    rw [ih fun other hmem => (hbetween _).trans (hrest other hmem), hbetween]

/-- No file is written over a directory. -/
theorem Writing.ne_directory (h : Writing refusals directory tree files written final) :
    ∀ file ∈ files, tree.at? (pathIn directory file).place ≠ some .directory := by
  induction h with
  | nil => exact nofun
  | cons hsettled _ ih =>
    refine List.forall_mem_cons.mpr ⟨hsettled.ne_directory, fun other hmem hnode => ?_⟩
    exact ih other hmem ((hsettled.directories _).mp hnode)

theorem Writing.length_eq (h : Writing refusals directory tree files written final) :
    written.length = files.length := by
  induction h with
  | nil => rfl
  | cons _ _ ih => rw [List.length_cons, List.length_cons, ih]

/-- Files have their turns in the tree that is left by those before them. -/
theorem writeFiles_append_ok {first later : List GeneratedFile} {notes : List Note}
    (h : writeFiles refusals tree directory (first ++ later) = (final, .ok written, notes)) :
    ∃ between entries others earlier more,
      writeFiles refusals tree directory first = (between, .ok entries, earlier) ∧
      writeFiles refusals between directory later = (final, .ok others, more) ∧
      written = entries ++ others := by
  induction first generalizing tree written notes with
  | nil => exact ⟨tree, [], written, [], notes, rfl, h, rfl⟩
  | cons file rest ih =>
    rw [List.cons_append] at h
    -- the first files have the same turns whether or not others come later
    rcases writeFile_ends refusals tree (pathIn directory file) (Bytes.ofText file.contents) with
      ⟨between, entry, _, hturn, -⟩ | ⟨cause, hturn⟩
    · cases hrest : writeFiles refusals between directory (rest ++ later) with
      | mk left result =>
      obtain ⟨outcome, more⟩ := result
      rw [writeFiles_cons_ok hturn hrest] at h
      cases outcome with
      | error cause => cases h
      | ok others =>
        cases h
        obtain ⟨last, entries, others, earlier, more, hfirst, hlater, rfl⟩ := ih hrest
        exact ⟨last, entry :: entries, others, _, more, writeFiles_cons_ok hturn hfirst, hlater, rfl⟩
    · rw [writeFiles_cons_error hturn] at h
      cases h

theorem writing_of_writeFiles {notes : List Note}
    (h : writeFiles refusals tree directory files = (final, .ok written, notes)) :
    Writing refusals directory tree files written final := by
  rcases writeFiles_ends refusals tree directory files with
    ⟨_, _, _, hrun, hwriting⟩ | ⟨_, _, _, _, _, _, hrun, -⟩
  · cases h.symm.trans hrun
    exact hwriting
  · cases h.symm.trans hrun

/-- A file is written if it was stale before all of them had their turns, or if it could not be read
in its own turn. -/
theorem reported {before later : List GeneratedFile} {file : GeneratedFile} {notes : List Note}
    (hrun : writeFiles refusals tree directory files = (final, .ok written, notes))
    (hnodup : (placesIn directory files).Nodup) (hsplit : files = before ++ file :: later) :
    written[before.length]? = some ⟨pathIn directory file,
      isStale tree (pathIn directory file).place file.contents ||
        refusals.refuses .read (writeFiles refusals tree directory before).1
          (pathIn directory file)⟩ := by
  subst hsplit
  obtain ⟨between, entries, others, _, _, hbefore, hlater, rfl⟩ := writeFiles_append_ok hrun
  have hwriting := writing_of_writeFiles hbefore
  -- no file before this one has its place
  have hother : (pathIn directory file).place ∉ placesIn directory before := by
    rw [placesIn, List.map_append, List.map_cons] at hnodup
    exact fun hmem => (List.nodup_append.mp hnodup).2.2 _ hmem _ List.mem_cons_self rfl
  rw [List.getElem?_append_right (Nat.le_of_eq hwriting.length_eq), hwriting.length_eq,
    Nat.sub_self, hbefore, ← isStale_congr (hwriting.others hother)]
  cases writing_of_writeFiles hlater with
  | cons hsettled _ =>
    rw [hsettled.entry_eq]
    rfl

/-- What is reported of the files if all of them can be read: those are written that were stale. -/
def reportFrom (tree : Tree) (directory : Path) (files : List GeneratedFile) : List Written :=
  files.map fun file =>
    ⟨pathIn directory file, isStale tree (pathIn directory file).place file.contents⟩

/-- Where every file can be read, what is reported of each makes up the report. -/
theorem eq_reportFrom (hlength : written.length = files.length)
    (h : ∀ before file later, files = before ++ file :: later →
      written[before.length]? = some
        ⟨pathIn directory file, isStale tree (pathIn directory file).place file.contents⟩) :
    written = reportFrom tree directory files := by
  refine List.ext_getElem (by rw [hlength, reportFrom, List.length_map]) fun i hi hi' => ?_
  have hfile : i < files.length := hlength ▸ hi
  have hsplit : files = files.take i ++ files[i] :: files.drop (i + 1) := by
    rw [← List.drop_eq_getElem_cons, List.take_append_drop]
  have hentry := h _ _ _ hsplit
  rw [List.length_take_of_le (Nat.le_of_lt hfile), List.getElem?_eq_getElem hi] at hentry
  rw [Option.some.inj hentry]
  simp only [reportFrom, List.getElem_map]

/-- Files that hold their contents are not written again, if they can be read. -/
theorem writeFiles_of_held
    (h : ∀ file ∈ files, tree.Reaches (pathIn directory file) ∧
      tree.at? (pathIn directory file).place = some (.file (Bytes.ofText file.contents)))
    (hread : ∀ file ∈ files, refusals.refuses .read tree (pathIn directory file) = false) :
    ∃ notes, writeFiles refusals tree directory files =
      (tree, .ok (files.map fun file => ⟨pathIn directory file, false⟩), notes) := by
  induction files with
  | nil => exact ⟨[], rfl⟩
  | cons file rest ih =>
    obtain ⟨⟨hreaches, hfile⟩, hrest⟩ := List.forall_mem_cons.mp h
    obtain ⟨hpermitted, hothers⟩ := List.forall_mem_cons.mp hread
    obtain ⟨notes, hnotes⟩ := ih hrest hothers
    have hfound : refusals.guard .read tree (pathIn directory file)
        (tree.read (pathIn directory file)) = .ok (Bytes.ofText file.contents) :=
      Refusals.guard_eq_ok_iff.mpr
        ⟨Refusals.refuses_eq_false_iff.mp hpermitted, Tree.read_eq_ok hreaches hfile⟩
    have hturn : writeFile refusals tree (pathIn directory file) (Bytes.ofText file.contents) =
        (tree, .ok ⟨pathIn directory file, false⟩,
          [⟨.debug, (pathIn directory file).text ++ " is unchanged"⟩]) := by
      rw [writeFile, hfound]
      exact if_pos rfl
    exact ⟨_, writeFiles_cons_ok hturn hnotes⟩

/-! ## Writing into a directory -/

variable {generated : GeneratedParser}

/-- The tree in which a file has its turn, behind those before it. -/
def turnBehind (refusals : Refusals) (tree : Tree) (directory : Path)
    (before : List GeneratedFile) : Tree :=
  (writeFiles refusals (tree.makeDirectories directory refusals).1 directory before).1

/-- What is left when a generated parser has been written into a directory. -/
structure WrittenTo (generated : GeneratedParser) (refusals : Refusals) (tree : Tree)
    (directory : Path) (written : List Written) (final : Tree) : Prop where
  /-- Where no file is refused to be read, those are written that did not hold their contents. -/
  report : (∀ file ∈ generated.files, refusals.Permits .read (pathIn directory file)) →
    written = reportFrom tree directory generated.files
  /-- In any case these are written, and those that the system did not let be read. -/
  turns : written.length = generated.files.length ∧
    ∀ before file later, generated.files = before ++ file :: later →
      written[before.length]? = some ⟨pathIn directory file,
        isStale tree (pathIn directory file).place file.contents ||
          refusals.refuses .read (turnBehind refusals tree directory before)
            (pathIn directory file)⟩
  held : ∀ file ∈ generated.files,
    final.read (pathIn directory file) = .ok (Bytes.ofText file.contents)
  others : ∀ place ∉ placesIn directory generated.files,
    tree.GrownAt directory.ancestors final place
  /-- Writing the parser again writes nothing, whatever else the system refuses by then, as long as
  the files can be read. -/
  again : ∀ refusals' : Refusals,
    (∀ file ∈ generated.files, refusals'.refuses .read final (pathIn directory file) = false) →
    ∃ notes, generated.writeTo final directory refusals' =
      (final, .ok (generated.files.map fun file => ⟨pathIn directory file, false⟩), notes)
  /-- Even if they cannot be read, no place holds anything else afterwards. -/
  steady : ∀ refusals' place,
    (generated.writeTo final directory refusals').1.at? place = final.at? place

/-- What is left when some file could not be written, or the directory not be made: the files before
it hold their contents, and all else is untouched. -/
def Interrupted (generated : GeneratedParser) (tree : Tree) (directory : Path) (final : Tree) :
    Prop :=
  ∃ first later, generated.files = first ++ later ∧ later ≠ [] ∧
    (∀ file ∈ first,
      final.at? (pathIn directory file).place = some (.file (Bytes.ofText file.contents))) ∧
    ∀ place ∉ placesIn directory first, tree.GrownAt directory.ancestors final place

/-- Where a directory is there or could be made, the files have their turns in it. -/
theorem writeTo_of_made {made : Tree}
    (h : tree.makeDirectories directory refusals = (made, .ok ())) :
    generated.writeTo tree directory refusals =
      writeFiles refusals made directory generated.files := by
  rw [writeTo, h]

/-- A directory that is made does not come to stand where a file is written afterwards. -/
theorem Writing.isStale_grown {made : Tree} (h : Writing refusals directory made files written final)
    (hgrown : tree.Grown directory.ancestors made) {file : GeneratedFile} (hfile : file ∈ files) :
    isStale made (pathIn directory file).place file.contents =
      isStale tree (pathIn directory file).place file.contents := by
  have hsame : made.at? (pathIn directory file).place = tree.at? (pathIn directory file).place :=
    (hgrown _).resolve_right fun hnew => h.ne_directory file hfile hnew.2.1
  exact isStale_congr hsame _

/-- Files that held their contents hold them still, even if writing them breaks off. -/
theorem writeFiles_steady (refusals : Refusals)
    (hheld : ∀ file ∈ files,
      tree.at? (pathIn directory file).place = some (.file (Bytes.ofText file.contents)))
    (place : Place) : (writeFiles refusals tree directory files).1.at? place = tree.at? place := by
  rcases writeFiles_ends refusals tree directory files with
    ⟨_, _, _, hrun, hwriting⟩ | ⟨_, _, _, first, later, _, hrun, rfl, -, hwriting⟩
  · rw [hrun]
    exact hwriting.steady hheld place
  · rw [hrun]
    exact hwriting.steady (fun file hfile => hheld file (List.mem_append_left _ hfile)) place

/-- What is left when the directory is made and all files have had their turns. -/
theorem writtenTo_of_writeFiles {made : Tree} {notes : List Note}
    (hmade : tree.makeDirectories directory refusals = (made, .ok ()))
    (hrun : writeFiles refusals made directory generated.files = (final, .ok written, notes))
    (hnodup : (placesIn directory generated.files).Nodup) :
    WrittenTo generated refusals tree directory written final := by
  have hgrown := Tree.grown_makeDirectories tree directory refusals
  have hdirectory := Tree.hasDirectory_of_makeDirectories (congrArg Prod.snd hmade)
  rw [hmade] at hgrown hdirectory
  have hwriting := writing_of_writeFiles hrun
  have hheld := hwriting.held hnodup
  have hturns : ∀ before file later, generated.files = before ++ file :: later →
      written[before.length]? = some ⟨pathIn directory file,
        isStale tree (pathIn directory file).place file.contents ||
          refusals.refuses .read (turnBehind refusals tree directory before)
            (pathIn directory file)⟩ := by
    intro before file later hsplit
    have hfile : file ∈ generated.files := by simp [hsplit]
    rw [reported hrun hnodup hsplit, hwriting.isStale_grown hgrown hfile, turnBehind, hmade]
  -- the directory is still there when the parser is written again
  have hthere : ∀ refusals', final.makeDirectories directory refusals' = (final, .ok ()) :=
    Tree.makeDirectories_of_hasDirectory (hdirectory.congr hwriting.directories)
  constructor
  case report =>
    intro hreads
    refine eq_reportFrom hwriting.length_eq fun before file later hsplit => ?_
    have hfile : file ∈ generated.files := by simp [hsplit]
    rw [hturns before file later hsplit, (hreads file hfile).refuses_eq, Bool.or_false]
  case turns => exact ⟨hwriting.length_eq, hturns⟩
  case held => exact fun file hfile => Tree.read_eq_ok_iff.mpr (hheld file hfile)
  case others => exact fun place hplace => (hgrown place).of_eq (hwriting.others hplace)
  case again =>
    intro refusals' hreads
    rw [writeTo_of_made (hthere refusals')]
    exact writeFiles_of_held hheld hreads
  case steady =>
    intro refusals' place
    rw [writeTo_of_made (hthere refusals')]
    exact writeFiles_steady refusals' (fun file hfile => (hheld file hfile).2) place

/-- Either all files have their turns, or the directory cannot be made or some file not written. -/
theorem writeTo_ends (refusals : Refusals) (tree : Tree)
    (hnodup : (placesIn directory generated.files).Nodup) :
    match generated.writeTo tree directory refusals with
    | (final, .ok written, _) => WrittenTo generated refusals tree directory written final
    | (final, .error _, _) => Interrupted generated tree directory final := by
  cases hmade : tree.makeDirectories directory refusals with
  | mk made outcome =>
  have hgrown := Tree.grown_makeDirectories tree directory refusals
  rw [hmade] at hgrown
  cases outcome with
  | error cause =>
    -- no file has had its turn
    rw [writeTo, hmade]
    exact ⟨[], generated.files, rfl, List.cons_ne_nil _ _, nofun, fun place _ => hgrown place⟩
  | ok done =>
    rw [writeTo_of_made hmade]
    rcases writeFiles_ends refusals made directory generated.files with
      ⟨final, written, notes, hrun, -⟩ |
      ⟨final, cause, notes, first, later, written, hrun, hfiles, hlater, hwriting⟩
    · rw [hrun]
      exact writtenTo_of_writeFiles hmade hrun hnodup
    · rw [hrun]
      -- the files that had their turns have different places among themselves
      have hfirst : (placesIn directory first).Nodup := by
        rw [hfiles, placesIn, List.map_append] at hnodup
        exact (List.nodup_append.mp hnodup).1
      exact ⟨first, later, hfiles, hlater, fun file hfile => (hwriting.held hfirst file hfile).2,
        fun place hplace => (hgrown place).of_eq (hwriting.others hplace)⟩

/-- The two files of a parser have different places. -/
theorem nodup_placesIn_generated {blueprint : Blueprint}
    (hstem : Code.isName blueprint.typeStem = true) (directory : Path) :
    (placesIn directory blueprint.generated.files).Nodup := by
  have hslash := slash_not_mem_snakeCase hstem
  have hparser : (pathIn directory blueprint.generated.parser).place =
      directory.place ++ [(Naming.snakeCase blueprint.typeStem).toList ++ ".rs".toList] :=
    place_pathIn hslash (by decide) (by decide) directory _
  have htypes : (pathIn directory blueprint.generated.types).place =
      directory.place ++ [(Naming.snakeCase blueprint.typeStem).toList ++ "_types.rs".toList] :=
    place_pathIn hslash (by decide) (by decide) directory _
  -- the same stem has two endings
  rw [placesIn, files, List.map_cons, List.map_cons, List.map_nil, hparser, htypes]
  simp

end GeneratedParser

end ParserFoundry

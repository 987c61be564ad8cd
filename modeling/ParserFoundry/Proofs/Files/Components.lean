import Mathlib.Data.List.DropRight
import Mathlib.Data.List.Infix
import ParserFoundry.Files.Path
/-!
# Components of Paths

Paths are compared by their components, while the operations on paths work on the pieces that they
are written with. So each operation is followed by what it does to the components: the pieces that
say nothing are of no account, except for a `.` in front.

Main results:
- `components_parent`: the parent lacks the last component.
- `components_join`, `components_join_single`: a joined path goes on where its base ends.
- `components_withFileName`: another last name.
- `steps_relativeTo`: what is left of a path behind another one.
-/

namespace ParserFoundry.Files

namespace Path

variable {path base parent : Path}

/-! ## Steps -/

/-- What the pieces of a path say, one after the other. -/
def steps (pieces : List Name) : List Component :=
  (pieces.filter fun piece => !isIdle piece).map componentOf

/-- What a path says before its first step. -/
def start (path : Path) : List Component :=
  if path.rooted then [.root] else if path.startsHere then [.current] else []

/-- Components are what comes before the first step, and the steps. -/
theorem components_eq (path : Path) : path.components = path.start ++ steps path.pieces :=
  rfl

/-- Without pieces nothing is said. -/
@[simp]
theorem steps_nil : steps [] = [] :=
  rfl

/-- Pieces are read one by one, so lists of them are read one after the other. -/
theorem steps_append (first rest : List Name) : steps (first ++ rest) = steps first ++ steps rest := by
  simp [steps]

/-- A piece that says nothing is passed over. -/
theorem steps_cons_idle {piece : Name} (hidle : isIdle piece = true) (rest : List Name) :
    steps (piece :: rest) = steps rest := by
  simp [steps, hidle]

/-- Any other piece is a step. -/
theorem steps_cons {piece : Name} (hidle : isIdle piece = false) (rest : List Name) :
    steps (piece :: rest) = componentOf piece :: steps rest := by
  simp [steps, hidle]

/-- The root is not written as a piece. -/
theorem componentOf_ne_root (piece : Name) : componentOf piece ≠ .root := by
  unfold componentOf
  split <;> nofun

/-- Nor is a `.` that counts: one behind the start says nothing. -/
theorem componentOf_ne_current (piece : Name) : componentOf piece ≠ .current := by
  unfold componentOf
  split <;> nofun

/-- A step comes from a piece that says something. -/
theorem exists_of_mem_steps {pieces : List Name} {component : Component}
    (h : component ∈ steps pieces) :
    ∃ piece, isIdle piece = false ∧ componentOf piece = component := by
  obtain ⟨piece, hpiece, rfl⟩ := List.mem_map.mp h
  exact ⟨piece, by simpa using (List.mem_filter.mp hpiece).2, rfl⟩

/-- A piece with three characters is a name. -/
theorem isName_of_length {piece : Name} (h : 2 < piece.length) :
    isIdle piece = false ∧ piece ≠ ['.', '.'] := by
  constructor
  · refine Bool.eq_false_iff.mpr fun hidle => ?_
    rcases Bool.or_eq_true_iff.mp hidle with hnil | hdot
    · rw [beq_iff_eq.mp hnil] at h
      simp at h
    · rw [beq_iff_eq.mp hdot] at h
      simp at h
  · intro hparent
    rw [hparent] at h
    simp at h

/-! ## Idle ends -/

/-- From behind: a piece that says nothing is dropped, and any other one stops the dropping. -/
theorem dropIdleEnd_concat (front : List Name) (last : Name) :
    dropIdleEnd (front ++ [last]) = if isIdle last then dropIdleEnd front else front ++ [last] := by
  -- along the list, where the end of the whole is the end of the rest
  induction front with
  | nil =>
    unfold dropIdleEnd
    rfl
  | cons piece rest ih =>
    rw [List.cons_append]
    simp only [dropIdleEnd, ih]
    cases isIdle last with
    | true => rfl
    | false => cases rest <;> rfl

/-- The idle end is the longest one whose pieces all say nothing. -/
theorem dropIdleEnd_eq (pieces : List Name) : dropIdleEnd pieces = pieces.rdropWhile isIdle := by
  -- from the back, as both sides drop pieces there
  induction pieces using List.reverseRecOn with
  | nil => rfl
  | append_singleton front last ih => rw [dropIdleEnd_concat, List.rdropWhile_concat, ih]

/-- What is left are the first pieces. -/
theorem dropIdleEnd_isFront (pieces : List Name) : dropIdleEnd pieces <+: pieces := by
  rw [dropIdleEnd_eq]
  exact List.rdropWhile_prefix isIdle pieces

/-- The idle end says nothing. -/
@[simp]
theorem steps_dropIdleEnd (pieces : List Name) : steps (dropIdleEnd pieces) = steps pieces := by
  induction pieces using List.reverseRecOn with
  | nil => rfl
  | append_singleton front last ih =>
    rw [dropIdleEnd_concat]
    cases hidle : isIdle last with
    | true => rw [if_pos rfl, ih, steps_append, steps_cons_idle hidle, steps_nil, List.append_nil]
    | false => rfl

/-- Without its idle end, a list is empty or ends with a piece that says something. -/
theorem dropIdleEnd_cases (pieces : List Name) :
    dropIdleEnd pieces = [] ∨
      ∃ front last, dropIdleEnd pieces = front ++ [last] ∧ isIdle last = false := by
  induction pieces using List.reverseRecOn with
  | nil => exact .inl rfl
  | append_singleton front last ih =>
    rw [dropIdleEnd_concat]
    cases hidle : isIdle last with
    | true => exact ih
    | false => exact .inr ⟨front, last, rfl, hidle⟩

/-! ## Trimmed paths -/

/-- A path that starts with a dot is not rooted, and the dot is its first piece. -/
theorem startsHere_eq_true_iff :
    path.startsHere = true ↔ path.rooted = false ∧ ∃ rest, path.pieces = ['.'] :: rest := by
  unfold startsHere
  -- a path with a root or without pieces has no dot in front
  cases path.rooted <;> cases path.pieces <;> simp

/-- A path that does not start with a dot does not do so when it ends earlier. -/
theorem startsHere_of_isFront {front : List Name} (hstart : path.startsHere = false)
    (hfront : front <+: path.pieces) : (⟨path.rooted, front⟩ : Path).startsHere = false := by
  refine Bool.eq_false_iff.mpr fun htrue => Bool.eq_false_iff.mp hstart ?_
  obtain ⟨hrooted, rest, rfl⟩ := startsHere_eq_true_iff.mp htrue
  obtain ⟨later, hpieces⟩ := hfront
  exact startsHere_eq_true_iff.mpr ⟨hrooted, rest ++ later, hpieces.symm⟩

/-- The idle end is dropped behind a dot in front, and behind no dot. -/
theorem trimmed_cases (path : Path) :
    (∃ rest, path.startsHere = true ∧ path.pieces = ['.'] :: rest ∧
      path.trimmed = ['.'] :: dropIdleEnd rest) ∨
    path.startsHere = false ∧ path.trimmed = dropIdleEnd path.pieces := by
  unfold trimmed
  cases hstart : path.startsHere with
  | true =>
    obtain ⟨-, rest, hpieces⟩ := startsHere_eq_true_iff.mp hstart
    rw [hpieces]
    exact .inl ⟨rest, rfl, rfl, rfl⟩
  | false => exact .inr ⟨rfl, rfl⟩

/-- Trimming drops nothing that counts. -/
theorem components_trimmed (path : Path) :
    (⟨path.rooted, path.trimmed⟩ : Path).components = path.components := by
  obtain ⟨rooted, pieces⟩ := path
  rcases trimmed_cases ⟨rooted, pieces⟩ with ⟨rest, hstart, rfl, htrimmed⟩ | ⟨hstart, htrimmed⟩
  · obtain ⟨rfl, -⟩ := startsHere_eq_true_iff.mp hstart
    rw [htrimmed, components_eq, components_eq, steps_cons_idle rfl, steps_cons_idle rfl,
      steps_dropIdleEnd]
    rfl
  · have hstart' := startsHere_of_isFront hstart (dropIdleEnd_isFront pieces)
    rw [htrimmed, components_eq, components_eq, steps_dropIdleEnd, start, start, hstart, hstart']

/-- The last of the pieces that trimming leaves is the last component. -/
theorem components_dropLast_trimmed (hlast : path.components.getLast? ≠ some .root) :
    (⟨path.rooted, path.trimmed.dropLast⟩ : Path).components = path.components.dropLast := by
  obtain ⟨rooted, pieces⟩ := path
  rcases trimmed_cases ⟨rooted, pieces⟩ with ⟨rest, hstart, rfl, htrimmed⟩ | ⟨hstart, htrimmed⟩
  · -- behind the dot in front, there is a last step or the dot itself is the last component
    obtain ⟨rfl, -⟩ := startsHere_eq_true_iff.mp hstart
    have hsteps := steps_dropIdleEnd rest
    rw [htrimmed, components_eq ⟨false, ['.'] :: rest⟩, steps_cons_idle rfl]
    rcases dropIdleEnd_cases rest with hnil | ⟨front, last, hrest, hidle⟩
    · rw [hnil, steps_nil] at hsteps
      rw [hnil, ← hsteps]
      rfl
    · rw [hrest, steps_append, steps_cons hidle, steps_nil] at hsteps
      rw [hrest, ← hsteps, ← List.cons_append, List.dropLast_concat, ← List.append_assoc,
        List.dropLast_concat, components_eq, steps_cons_idle rfl]
      rfl
  · have hsteps := steps_dropIdleEnd pieces
    rw [htrimmed, components_eq ⟨rooted, pieces⟩]
    rcases dropIdleEnd_cases pieces with hnil | ⟨front, last, hpieces, hidle⟩
    · -- without a step there is nothing but the root
      rw [hnil, steps_nil] at hsteps
      rw [hnil, ← hsteps, List.append_nil, start, hstart]
      cases rooted with
      | true => exact absurd (by rw [components_eq, ← hsteps]; rfl) hlast
      | false => rfl
    · have hfront : front <+: pieces :=
        (hpieces ▸ List.prefix_append front [last]).trans (dropIdleEnd_isFront pieces)
      have hstart' := startsHere_of_isFront hstart hfront
      rw [hpieces, steps_append, steps_cons hidle, steps_nil] at hsteps
      rw [hpieces, ← hsteps, List.dropLast_concat, ← List.append_assoc, List.dropLast_concat,
        components_eq, start, start, hstart, hstart']

/-! ## Parents and last names -/

/-- The parent of a path lacks its last component. -/
theorem components_parent (h : path.parent? = some parent) :
    parent.components = path.components.dropLast := by
  have hlast : path.components.getLast? ≠ some .root := by
    intro hroot
    unfold parent? at h
    rw [hroot] at h
    cases h
  have hparent : parent =
      ⟨path.rooted, (⟨path.rooted, path.trimmed.dropLast⟩ : Path).trimmed⟩ := by
    unfold parent? at h
    split at h
    case h_1 => cases h
    case h_2 => cases h
    case h_3 => exact (Option.some.inj h).symm
  rw [hparent, components_trimmed ⟨path.rooted, path.trimmed.dropLast⟩,
    components_dropLast_trimmed hlast]

/-- A path whose last component is no root has a parent. -/
theorem exists_parent {component : Component} (hlast : path.components.getLast? = some component)
    (hroot : component ≠ .root) : ∃ parent, path.parent? = some parent := by
  unfold parent?
  rw [hlast]
  cases component with
  | root => exact absurd rfl hroot
  | current => exact ⟨_, rfl⟩
  | parent => exact ⟨_, rfl⟩
  | normal name => exact ⟨_, rfl⟩

/-- A path has a file name exactly if its last component is a name. -/
theorem fileName_eq_some_iff {name : Name} :
    path.fileName? = some name ↔ path.components.getLast? = some (.normal name) := by
  -- the last component is the name, whatever stands before it
  unfold fileName?
  cases path.components.getLast? with
  | none => simp
  | some component => cases component <;> simp

/-- The last name of a path says something, and it does not lead upwards. -/
theorem componentOf_fileName {name : Name} (h : path.fileName? = some name) :
    isIdle name = false ∧ componentOf name = .normal name := by
  have hmem := List.mem_of_getLast? (fileName_eq_some_iff.mp h)
  rw [components_eq] at hmem
  rcases List.mem_append.mp hmem with hstart | hsteps
  · -- the start of a path is no name
    unfold start at hstart
    split at hstart
    · cases List.mem_singleton.mp hstart
    · split at hstart
      · cases List.mem_singleton.mp hstart
      · cases hstart
  · obtain ⟨piece, hidle, hpiece⟩ := exists_of_mem_steps hsteps
    have hname : piece = name := by
      unfold componentOf at hpiece
      split at hpiece
      · cases hpiece
      · exact Component.normal.inj hpiece
    exact ⟨hname ▸ hidle, by rw [← hname] at hpiece ⊢; exact hpiece⟩

/-! ## Stems and extensions -/

/-- The last name without its extension. -/
def stem? (path : Path) : Option Name :=
  path.fileName?.map fun name => (splitExtension name).1

/-- What the last name has behind its last dot. -/
def extension? (path : Path) : Option Name :=
  path.fileName?.bind fun name => (splitExtension name).2

/-- A dot in front alone, as of a hidden file, starts no extension. -/
theorem splitExtension_of_not_mem {name : Name} (h : '.' ∉ name.tail) :
    splitExtension name = (name, none) := by
  cases name with
  | nil => rfl
  | cons first rest =>
    have hrest : ∀ c ∈ rest.reverse, (c != '.') = true := by
      intro c hc
      exact bne_iff_ne.mpr fun heq => h (heq ▸ List.mem_reverse.mp hc)
    unfold splitExtension
    -- all characters behind the first one are passed from behind, and no dot stops at
    rw [List.reverse_cons, List.dropWhile_append_of_pos hrest]
    by_cases hfirst : first = '.'
    · rw [List.dropWhile_cons_of_neg (by simp [hfirst])]
    · rw [List.dropWhile_cons_of_pos (by simp [hfirst])]
      rfl

/-- The extension is what stands behind the last dot, if something stands before it. -/
theorem splitExtension_append {stem extension : Name} (hstem : stem ≠ [])
    (hextension : '.' ∉ extension) :
    splitExtension (stem ++ '.' :: extension) = (stem, some extension) := by
  have hrest : ∀ c ∈ extension.reverse, (c != '.') = true := by
    intro c hc
    exact bne_iff_ne.mpr fun heq => hextension (heq ▸ List.mem_reverse.mp hc)
  have hreverse : (stem ++ '.' :: extension).reverse = extension.reverse ++ '.' :: stem.reverse := by
    simp
  -- from behind, the extension comes first, and then the last dot of the name
  unfold splitExtension
  rw [hreverse, List.dropWhile_append_of_pos hrest, List.takeWhile_append_of_pos hrest]
  cases hback : stem.reverse with
  | nil => exact absurd (List.reverse_eq_nil_iff.mp hback) hstem
  | cons last before =>
    have hback' : (last :: before).reverse = stem := by rw [← hback, List.reverse_reverse]
    simpa using hback'

/-- A name has an extension exactly if there is a dot in it that does not come first. -/
theorem splitExtension_cases (name : Name) :
    '.' ∉ name.tail ∧ splitExtension name = (name, none) ∨
      ∃ stem extension, stem ≠ [] ∧ '.' ∉ extension ∧ name = stem ++ '.' :: extension ∧
        splitExtension name = (stem, some extension) := by
  -- by the dot, which the extension stands behind
  by_cases hdot : '.' ∈ name.tail
  · -- the last dot is the first one from behind
    obtain ⟨behind, before, hreverse, hbehind⟩ :=
      List.eq_append_cons_of_mem (List.mem_reverse.mpr hdot)
    cases name with
    | nil => cases hdot
    | cons first rest =>
      have hname : first :: rest = (first :: before.reverse) ++ '.' :: behind.reverse := by
        rw [← List.reverse_reverse rest, show rest.reverse = _ from hreverse]
        simp
      have hextension : '.' ∉ behind.reverse := by simpa using hbehind
      exact .inr ⟨_, _, List.cons_ne_nil _ _, hextension, hname,
        hname ▸ splitExtension_append (List.cons_ne_nil _ _) hextension⟩
  · exact .inl ⟨hdot, splitExtension_of_not_mem hdot⟩

/-- A name is told by its stem and its extension. -/
theorem splitExtension_injective : Function.Injective splitExtension := by
  intro name other h
  -- both names have an extension or neither has; then both are put together again
  rcases splitExtension_cases name with ⟨-, hname⟩ | ⟨stem, extension, -, -, hname, hsplit⟩
  · rcases splitExtension_cases other with ⟨-, hother⟩ | ⟨_, _, -, -, -, hother⟩
    · rw [hname, hother] at h
      exact congrArg Prod.fst h
    · rw [hname, hother] at h
      cases h
  · rcases splitExtension_cases other with ⟨-, hother⟩ | ⟨_, _, -, -, hother, hsplit'⟩
    · rw [hsplit, hother] at h
      cases h
    · rw [hsplit, hsplit'] at h
      cases h
      rw [hname, hother]

/-! ## Joined paths -/

/-- Without the empty piece at its end, a list says the same. -/
@[simp]
theorem steps_withoutEnd (pieces : List Name) : steps (withoutEnd pieces) = steps pieces := by
  unfold withoutEnd
  split
  case isTrue hlast =>
    obtain ⟨front, hpieces⟩ := List.getLast?_eq_some_iff.mp hlast
    rw [hpieces, List.dropLast_concat, steps_append, steps_cons_idle rfl, steps_nil, List.append_nil]
  case isFalse => rfl

/-- What is left without an empty end are the first pieces. -/
theorem withoutEnd_isFront (pieces : List Name) : withoutEnd pieces <+: pieces := by
  unfold withoutEnd
  split
  case isTrue => exact List.dropLast_prefix pieces
  case isFalse => exact List.prefix_rfl

/-- Nothing is left of no pieces, and of a single empty one. -/
theorem eq_of_withoutEnd_eq_nil {pieces : List Name} (h : withoutEnd pieces = []) :
    pieces = [] ∨ pieces = [[]] := by
  unfold withoutEnd at h
  split at h
  case isTrue hlast =>
    obtain ⟨front, rfl⟩ := List.getLast?_eq_some_iff.mp hlast
    rw [List.dropLast_concat] at h
    rw [h]
    exact .inr rfl
  case isFalse => exact .inl h

/-- A path that is joined goes on with the steps of the second one. -/
theorem steps_join (hpath : path.rooted = false) :
    steps (base.join path).pieces = steps base.pieces ++ steps path.pieces := by
  -- a base without pieces is left out, and any other one goes in front
  unfold join
  rw [if_neg (by simp [hpath])]
  split
  case isTrue hbase =>
    obtain ⟨-, hpieces⟩ := (Bool.and_eq_true _ _).mp hbase
    rw [List.isEmpty_iff.mp hpieces]
    rfl
  case isFalse =>
    rw [steps_append, steps_withoutEnd]
    cases path.pieces <;> rfl

/-- A path that is joined starts where its base does, unless the base says nothing and the second
path says where it starts. -/
theorem start_join (hpath : path.rooted = false)
    (hstart : base.components ≠ [] ∨ path.startsHere = false) :
    (base.join path).start = base.start := by
  obtain ⟨rooted, pieces⟩ := base
  unfold join
  rw [if_neg (by simp [hpath])]
  cases rooted with
  | true => rfl
  | false =>
    split
    case isTrue hbase =>
      rw [Bool.not_false, Bool.true_and] at hbase
      obtain rfl := List.isEmpty_iff.mp hbase
      have hhere := hstart.resolve_left (by simp [components_eq, start, startsHere])
      rw [start, start, hhere, hpath]
      rfl
    case isFalse hbase =>
      cases hkept : withoutEnd pieces with
      | cons piece rest =>
        -- the first piece is that of the base
        obtain ⟨later, hpieces⟩ := withoutEnd_isFront pieces
        rw [hkept] at hpieces
        rw [← hpieces]
        rfl
      | nil =>
        -- the base is written as a single empty piece, which says nothing
        obtain rfl := (eq_of_withoutEnd_eq_nil hkept).resolve_left fun hnil => by
          simp [hnil] at hbase
        have hhere := hstart.resolve_left (fun hne => hne rfl)
        rw [startsHere, hpath] at hhere
        cases hpieces : path.pieces with
        | nil => rfl
        | cons piece rest =>
          rw [hpieces] at hhere
          simpa [start, startsHere] using hhere

/-- A path that is joined to a base that says something goes on where the base ends. -/
theorem components_join (hbase : base.components ≠ []) (hpath : path.rooted = false) :
    (base.join path).components = base.components ++ steps path.pieces := by
  rw [components_eq, start_join hpath (.inl hbase), steps_join hpath, ← List.append_assoc,
    ← components_eq]

/-- A name is joined to any base. -/
theorem components_join_single {name : Name} (hidle : isIdle name = false) :
    (base.join (single name)).components = base.components ++ [componentOf name] := by
  have hhere : (single name).startsHere = false := by
    refine Bool.eq_false_iff.mpr fun htrue => ?_
    obtain ⟨-, rest, hname⟩ := startsHere_eq_true_iff.mp htrue
    cases hname
    cases hidle
  rw [components_eq, start_join rfl (.inr hhere), steps_join rfl, ← List.append_assoc,
    ← components_eq, single, steps_cons hidle, steps_nil]

/-- With another last name, a path has another last component, or one more if it had no name. -/
theorem components_withFileName {name : Name} (hidle : isIdle name = false) :
    (path.withFileName name).components =
      (if path.fileName?.isSome then path.components.dropLast else path.components) ++
        [componentOf name] := by
  unfold withFileName
  cases hname : path.fileName? with
  -- without a name there is none to drop, and with one it is the parent that is joined to
  | none => exact components_join_single hidle
  | some found =>
    obtain ⟨parent, hparent⟩ := exists_parent (fileName_eq_some_iff.mp hname) nofun
    rw [hparent, ← components_parent hparent]
    exact components_join_single hidle

/-! ## Paths behind a base -/

/-- Components are counted by steps; idle pieces among them are dropped for nothing. -/
theorem steps_dropComponents (count : Nat) (pieces : List Name) :
    steps (dropComponents count pieces) = (steps pieces).drop count := by
  -- along the pieces; an idle one does not use up the count
  induction pieces generalizing count with
  | nil => cases count <;> rfl
  | cons piece rest ih =>
    cases count with
    | zero => rfl
    | succ count =>
      rw [dropComponents]
      cases hidle : isIdle piece with
      | true => rw [if_pos rfl, ih, steps_cons_idle hidle]
      | false => rw [if_neg Bool.false_ne_true, ih, steps_cons hidle, List.drop_succ_cons]

/-- Idle pieces in front say nothing, either. -/
theorem steps_dropWhile_idle (pieces : List Name) :
    steps (pieces.dropWhile isIdle) = steps pieces := by
  induction pieces with
  | nil => rfl
  | cons piece rest ih =>
    rw [List.dropWhile_cons]
    cases hidle : isIdle piece with
    | true => rw [if_pos rfl, ih, steps_cons_idle hidle]
    | false => rfl

/-- Nothing is left of a path exactly if it does not go on from the base. -/
theorem relativeTo_eq_none_iff :
    path.relativeTo? base = none ↔ ¬base.components <+: path.components := by
  unfold relativeTo?
  dsimp only
  by_cases hbegins : base.components <+: path.components
  · rw [List.isPrefixOf_iff_prefix.mpr hbegins]
    refine iff_of_false ?_ (not_not.mpr hbegins)
    cases base.components.isEmpty <;> nofun
  · rw [Bool.eq_false_iff.mpr (mt List.isPrefixOf_iff_prefix.mp hbegins)]
    exact iff_of_true rfl hbegins

/-- Behind a base that says nothing, all of a path is left. -/
theorem components_relativeTo {rest : Path} (hbase : base.components = [])
    (h : path.relativeTo? base = some rest) : rest.components = path.components := by
  have hrest : rest = ⟨path.rooted, path.trimmed⟩ := by
    simpa [relativeTo?, hbase, eq_comm] using h
  rw [hrest, components_trimmed]

/-- The pieces behind the first components; the start of a path that has one is a component, but it
is no step. -/
theorem steps_behind (path : Path) {count : Nat} (hcount : 0 < count) :
    steps
        (if path.rooted then dropComponents (count - 1) path.pieces
        else if path.startsHere then dropComponents (count - 1) path.pieces.tail
        else dropComponents count path.pieces) =
      path.components.drop count := by
  obtain ⟨less, rfl⟩ : ∃ less, count = less + 1 := ⟨count - 1, by omega⟩
  rw [components_eq, start]
  -- the start, if there is one, is the first of the components that are dropped
  split
  case isTrue => exact steps_dropComponents less path.pieces
  case isFalse =>
    split
    case isTrue hstart =>
      obtain ⟨-, rest, hpieces⟩ := startsHere_eq_true_iff.mp hstart
      rw [hpieces, steps_cons_idle rfl]
      exact steps_dropComponents less rest
    case isFalse => exact steps_dropComponents (less + 1) path.pieces

/-- What is left of a path behind a base are the steps that the path goes on with. -/
theorem steps_relativeTo {rest : Path} (hbase : base.components ≠ [])
    (h : path.relativeTo? base = some rest) :
    rest.rooted = false ∧ base.components ++ steps rest.pieces = path.components := by
  have hbegins : base.components <+: path.components := by
    -- a base that the path does not go on from leaves nothing
    by_contra hnot
    cases h.symm.trans (relativeTo_eq_none_iff.mpr hnot)
  unfold relativeTo? at h
  dsimp only at h
  rw [List.isPrefixOf_iff_prefix.mpr hbegins, List.isEmpty_eq_false_iff.mpr hbase] at h
  obtain rfl := Option.some.inj h
  refine ⟨rfl, ?_⟩
  rw [steps_dropIdleEnd, steps_dropWhile_idle, steps_behind path (List.length_pos_iff.mpr hbase)]
  exact (List.prefix_append_drop hbegins).symm

/-! ## Paths of texts -/

/-- The first piece starts with the characters that have been read of it. -/
theorem splitFrom_eq_cons (current : Name) (text : List Char) :
    ∃ more others, splitFrom current text = (current.reverse ++ more) :: others := by
  -- along the text, up to the separator that ends the piece
  induction text generalizing current with
  | nil => exact ⟨[], [], by simp [splitFrom]⟩
  | cons c rest ih =>
    unfold splitFrom
    split
    case isTrue => exact ⟨[], _, by rw [List.append_nil]⟩
    case isFalse =>
      obtain ⟨more, others, hsplit⟩ := ih (c :: current)
      exact ⟨c :: more, others, by simp [hsplit]⟩

/-- Without a separator, a text is one piece. -/
theorem splitFrom_of_not_mem {text : List Char} (h : '/' ∉ text) (current : Name) :
    splitFrom current text = [current.reverse ++ text] := by
  induction text generalizing current with
  | nil => simp [splitFrom]
  | cons c rest ih =>
    obtain ⟨hc, hrest⟩ := not_or.mp (mt List.mem_cons.mpr h)
    rw [splitFrom, if_neg (Ne.symm hc), ih hrest]
    simp

/-- A text without a separator is one piece, and relative. -/
theorem ofText_eq_single {name : String} (hname : name.toList ≠ []) (h : '/' ∉ name.toList) :
    ofText name = single name.toList := by
  unfold ofText
  cases hchars : name.toList with
  | nil => exact absurd hchars hname
  | cons c rest =>
    rw [hchars] at h
    have hc : c ≠ '/' := fun heq => h (heq ▸ List.mem_cons_self)
    simp [ofChars, split, single, hc, splitFrom_of_not_mem h]

/-- A text that does not start with a separator has something before the first one. -/
theorem head_ofText (text : String) (h : (ofText text).rooted = false) :
    (ofText text).pieces.head? ≠ some [] := by
  unfold ofText at h ⊢
  cases htext : text.toList with
  | nil => nofun
  | cons c rest =>
    rw [htext] at h
    by_cases hc : c = '/'
    · rw [hc] at h
      cases h
    · obtain ⟨more, others, hsplit⟩ := splitFrom_eq_cons [c] rest
      have hpieces : (ofChars (c :: rest)).pieces = splitFrom [c] rest := by
        simp [ofChars, split, splitFrom, hc]
      rw [hpieces, hsplit]
      nofun

/-- A path that says nothing is written as nothing. -/
theorem eq_of_components_nil (hhead : path.rooted = false → path.pieces.head? ≠ some [])
    (h : path.components = []) : path = ⟨false, []⟩ := by
  obtain ⟨rooted, pieces⟩ := path
  cases rooted with
  | true => cases h
  | false =>
    cases pieces with
    | nil => rfl
    | cons piece rest =>
      -- the first piece is no dot, so it is idle only if it is empty
      have hhere : startsHere ⟨false, piece :: rest⟩ = false := by
        refine Bool.eq_false_iff.mpr fun htrue => ?_
        rw [components_eq, start, htrue] at h
        cases h
      rw [components_eq, start, hhere] at h
      cases hidle : isIdle piece with
      | false =>
        rw [steps_cons hidle] at h
        cases h
      | true =>
        rcases Bool.or_eq_true_iff.mp hidle with hnil | hdot
        · exact absurd (congrArg some (beq_iff_eq.mp hnil)) (hhead rfl)
        · rw [beq_iff_eq.mp hdot] at hhere
          cases hhere

end Path

end ParserFoundry.Files

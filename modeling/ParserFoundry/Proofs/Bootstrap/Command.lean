import ParserFoundry.Bootstrap.Command
import ParserFoundry.Proofs.Bootstrap.Finishing
import ParserFoundry.Proofs.Files.Path
/-!
# What the Command Does

The command finds out all that is wrong with its arguments and its working directory before it runs
another program or touches a file. From then on its calls, its changes and its code follow from what
version control and the build answer, and from what the system refuses.

Main results:
- `read_eq_ok_iff`, `read_eq_error_iff`: which arguments make a request.
- `findProjectRoot_eq_ok_iff`, `findProjectRoot_eq_error_iff`: where the project is.
- `askedFor_collect`: for which files version control is run.
- `built_iff`: when the build is run.
- `run_conduct`: what a run does, for all arguments, programs and trees.
-/

namespace ParserFoundry.Bootstrap

open Files

/-! ## Requests -/

/-- What a command is called by. -/
def Command.name : Command → String
  | start => "start"
  | finish => "finish"

/-- A command is known by its name alone. -/
theorem Command.ofName?_eq_some_iff {name : String} {command : Command} :
    ofName? name = some command ↔ name = command.name := by
  unfold ofName? Command.name
  -- both ways the command has its own name, and no other one has it
  cases command <;> grind

/-- The arguments ask for a command on files. -/
def Asks (arguments : List String) (request : Request) : Prop :=
  ∃ sorted, Arguments.read arguments = .ok sorted ∧ sorted.has .help = false ∧
    sorted.values .file ≠ [] ∧ sorted.free = [request.command.name] ∧
    request.files = sorted.values .file ∧
    request.revision? = (sorted.values .revision).head? ∧
    request.package? = (sorted.values .package).head?

/-- What is wrong with arguments. -/
inductive Refused (arguments : List String) : Prop
  | options {cause : OptionError} : Arguments.read arguments = .error cause → Refused arguments
  | help {sorted : Arguments} :
      Arguments.read arguments = .ok sorted → sorted.has .help = true → Refused arguments
  | noFile {sorted : Arguments} :
      Arguments.read arguments = .ok sorted → sorted.values .file = [] → Refused arguments
  | notOneCommand {sorted : Arguments} :
      Arguments.read arguments = .ok sorted →
      (∀ command : Command, sorted.free ≠ [command.name]) → Refused arguments

/-- A request is made exactly of arguments that ask for it. -/
theorem read_eq_ok_iff {arguments : List String} {request : Request} :
    Request.read arguments = .ok request ↔ Asks arguments request := by
  -- the arguments are sorted first; where they cannot be, nothing is asked for
  unfold Request.read Asks
  cases hsorted : Arguments.read arguments with
  | error cause => simp
  | ok sorted =>
    simp only [Except.ok.injEq, exists_eq_left', Request.ofArguments]
    constructor
    · intro h
      -- a request is only made once all of the checks are passed
      split at h
      case isTrue => cases h
      case isFalse hhelp =>
        split at h
        case isTrue => cases h
        case isFalse hfile =>
          split at h
          case h_1 name hfree =>
            split at h
            case h_1 command hcommand =>
              cases h
              rw [Command.ofName?_eq_some_iff.mp hcommand] at hfree
              exact ⟨by simpa using hhelp, by simpa using hfile, hfree, rfl, rfl, rfl⟩
            case h_2 => cases h
          case h_2 => cases h
    · intro ⟨hhelp, hfile, hfree, hfiles, hrevision, hpackage⟩
      have hcommand : Command.ofName? request.command.name = some request.command :=
        Command.ofName?_eq_some_iff.mpr rfl
      rw [if_neg (by simp [hhelp]), if_neg (by simpa using hfile), hfree]
      simp only [hcommand, ← hfiles, ← hrevision, ← hpackage]

/-- Arguments make no request exactly if something is wrong with them. -/
theorem read_eq_error_iff {arguments : List String} :
    (∃ cause, Request.read arguments = .error cause) ↔ Refused arguments := by
  constructor
  · intro ⟨cause, h⟩
    -- where no request is made, one of the checks is not passed
    have hnone : ∀ request, ¬ Asks arguments request := by
      intro request hasks
      cases h.symm.trans (read_eq_ok_iff.mpr hasks)
    cases hsorted : Arguments.read arguments with
    | error cause => exact .options hsorted
    | ok sorted =>
      cases hhelp : sorted.has .help with
      | true => exact .help hsorted hhelp
      | false =>
        by_cases hfile : sorted.values .file = []
        · exact .noFile hsorted hfile
        · refine .notOneCommand hsorted fun command hfree => ?_
          exact hnone ⟨command, _, _, _⟩ ⟨sorted, hsorted, hhelp, hfile, hfree, rfl, rfl, rfl⟩
  · intro h
    -- and each kind of refusal contradicts what a request asks
    cases hread : Request.read arguments with
    | error cause => exact ⟨cause, rfl⟩
    | ok request =>
      obtain ⟨sorted, hsorted, hhelp, hfile, hfree, -⟩ := read_eq_ok_iff.mp hread
      cases h with
      | options hother => cases hother.symm.trans hsorted
      | help hother htrue =>
        cases hother.symm.trans hsorted
        cases hhelp.symm.trans htrue
      | noFile hother hnone =>
        cases hother.symm.trans hsorted
        exact absurd hnone hfile
      | notOneCommand hother hnone =>
        cases hother.symm.trans hsorted
        exact absurd hfree (hnone request.command)

/-! ## Project roots -/

/-- The nearest directory above another one, or itself, that looks like the root of a project. -/
def NearestRoot (tree : Tree) (directory root : Path) : Prop :=
  isProjectRoot tree root = true ∧
    ∃ below above, directory.ancestors = below ++ root :: above ∧
      ∀ other ∈ below, isProjectRoot tree other = false

/-- The project is the nearest one, going upwards. -/
theorem findProjectRoot_eq_ok_iff {tree : Tree} {directory root : Path} :
    findProjectRoot tree directory = .ok root ↔ NearestRoot tree directory root := by
  have hfind : directory.ancestors.find? (isProjectRoot tree) = some root ↔
      NearestRoot tree directory root := by
    simp only [List.find?_eq_some_iff_append, Bool.not_eq_true', NearestRoot]
  -- the directories above are looked at from the nearest one on
  rw [← hfind, findProjectRoot]
  cases directory.ancestors.find? (isProjectRoot tree) with
  | none => simp
  | some found => simp

/-- There is no project exactly if nothing above looks like the root of one. -/
theorem findProjectRoot_eq_error_iff {tree : Tree} {directory : Path} :
    (∃ cause, findProjectRoot tree directory = .error cause) ↔
      ∀ other, other.IsAncestor directory → isProjectRoot tree other = false := by
  have hfind : directory.ancestors.find? (isProjectRoot tree) = none ↔
      ∀ other, other.IsAncestor directory → isProjectRoot tree other = false := by
    simp only [List.find?_eq_none, Path.mem_ancestors_iff, Bool.not_eq_true]
  rw [← hfind, findProjectRoot]
  cases directory.ancestors.find? (isProjectRoot tree) with
  | none => simp
  | some root => simp

/-! ## What version control answers -/

/-- A text occurs in another one if it is a stretch of it. -/
theorem occursIn_iff {part text : List Char} : occursIn part text = true ↔ part <:+: text := by
  induction text with
  | nil => simp [occursIn]
  | cons c rest ih =>
    rw [occursIn, Bool.or_eq_true, List.isPrefixOf_iff_prefix, ih, List.infix_cons_iff]

/-- Version control runs, and shows the contents of a file. -/
def Programs.Shows (programs : Programs) (staging : Staging) (file : Path) (contents : Bytes) :
    Prop :=
  ∃ git, programs.git? = some git ∧
    (git (showArguments staging.root staging.revision file)).code = 0 ∧
    (git (showArguments staging.root staging.revision file)).output = contents

/-- Version control runs, and says that there is no such file. -/
def Programs.Lacks (programs : Programs) (staging : Staging) (file : Path) : Prop :=
  ∃ git, programs.git? = some git ∧
    (git (showArguments staging.root staging.revision file)).code ≠ 0 ∧
    ∃ part ∈ ["does not exist in", "exists on disk, but not in"], part.toList <:+:
      (Bytes.lossyText (git (showArguments staging.root staging.revision file)).errors).toList

/-- Version control runs, and does not fail for a file, even if there is no such file. -/
def Programs.Answers (programs : Programs) (staging : Staging) (file : Path) : Prop :=
  (∃ contents, programs.Shows staging file contents) ∨ programs.Lacks staging file

variable {programs : Programs} {staging : Staging} {refusals : Refusals} {tree final : Tree}

/-- Contents are given exactly if version control shows them. -/
theorem versionControl_eq_some_iff {file : Path} {contents : Bytes} :
    versionControl programs staging.root staging.revision file = .ok (some contents) ↔
      programs.Shows staging file contents := by
  unfold versionControl Programs.Shows
  -- no program, no contents; then the code of its answer decides
  cases programs.git? with
  | none => simp
  | some git =>
    simp only [Option.some.injEq, exists_eq_left']
    split
    case isTrue hcode => simp [hcode]
    case isFalse hcode => split <;> simp [hcode]

/-- A file is given as missing exactly if version control says so. -/
theorem versionControl_eq_none_iff {file : Path} :
    versionControl programs staging.root staging.revision file = .ok none ↔
      programs.Lacks staging file := by
  unfold versionControl Programs.Lacks
  -- with a code other than zero, the messages tell a missing file from a fault
  cases programs.git? with
  | none => simp
  | some git =>
    simp only [Option.some.injEq, exists_eq_left', Bool.or_eq_true, occursIn_iff]
    split
    case isTrue hcode => simp [hcode]
    case isFalse hcode => split <;> simp_all

/-- Version control answers if it shows the file or says that it is missing. -/
theorem exists_versionControl_iff {file : Path} :
    (∃ answer, versionControl programs staging.root staging.revision file = .ok answer) ↔
      programs.Answers staging file := by
  unfold Programs.Answers
  rw [← versionControl_eq_none_iff]
  simp only [← versionControl_eq_some_iff]
  constructor
  · intro ⟨answer, hanswer⟩
    cases answer with
    | none => exact .inr hanswer
    | some contents => exact .inl ⟨contents, hanswer⟩
  · intro h
    rcases h with ⟨contents, hcontents⟩ | hnone
    · exact ⟨_, hcontents⟩
    · exact ⟨_, hnone⟩

/-! ## Asking in order -/

/-- Files are asked for in order, up to the first one for which there is no answer. -/
inductive AskedFor (answers : Path → Prop) : List Path → List Path → Prop
  | nil : AskedFor answers [] []
  | answered {file : Path} {rest asked : List Path} :
      answers file → AskedFor answers rest asked → AskedFor answers (file :: rest) (file :: asked)
  | failed {file : Path} {rest : List Path} :
      ¬ answers file → AskedFor answers (file :: rest) [file]

/-- What the command meets outside. -/
def surroundingsOf (programs : Programs) (root : Path) (package? : Option String)
    (refusals : Refusals) : Surroundings :=
  .ofTools (versionControl programs root) (toolchain programs package?) refusals

/-- What is met outside are the answers of version control, with errors wrapped. -/
theorem contents?_eq_ok_iff {package? : Option String} {before : List Path} {file : Path}
    {answer : Option Bytes} :
    (surroundingsOf programs staging.root package? refusals).contents? before staging.revision file =
        .ok answer ↔
      versionControl programs staging.root staging.revision file = .ok answer := by
  simp only [surroundingsOf, Surroundings.ofTools]
  cases versionControl programs staging.root staging.revision file <;> simp [Except.mapError]

/-- What the command meets refuses what the system refuses, whatever has been done before. -/
theorem guard_surroundingsOf {root : Path} {package? : Option String} {operation : Operation}
    {before : List Path} {path : Path} {outcome : Except FileError Tree} :
    (surroundingsOf programs root package? refusals).guard operation before tree path outcome =
      refusals.guard operation tree path outcome := by
  simp only [surroundingsOf, Surroundings.ofTools, Surroundings.guard, Refusals.guard]
  cases refusals.cause? operation tree path <;> rfl

/-- What is met outside removes what the system permits to be removed. -/
theorem removes_surroundingsOf_iff {root : Path} {package? : Option String} {path : Path} :
    (surroundingsOf programs root package? refusals).Removes path ↔
      refusals.Permits .remove path := by
  simp [Surroundings.Removes, Refusals.Permits, surroundingsOf, Surroundings.ofTools]

/-- Files are asked for in order, up to the first one without an answer. -/
theorem askedFor_collect (package? : Option String) (refusals : Refusals)
    (before files : List Path) :
    AskedFor (programs.Answers staging) files
      (staging.collect (surroundingsOf programs staging.root package? refusals) before
        files).asked := by
  -- the answer to a file does not depend on those that were asked for before it
  induction files generalizing before with
  | nil => exact .nil
  | cons file rest ih =>
    unfold Staging.collect
    split
    case h_1 cause herror =>
      refine .failed fun hanswers => ?_
      obtain ⟨answer, hanswer⟩ := exists_versionControl_iff.mpr hanswers
      cases herror.symm.trans (contents?_eq_ok_iff.mpr hanswer)
    case h_2 answer hanswer =>
      exact .answered (exists_versionControl_iff.mp ⟨answer, contents?_eq_ok_iff.mp hanswer⟩) (ih _)

/-- Whatever follows the answers, no more files are asked for. -/
theorem asked_startIn (staging : Staging) (surroundings : Surroundings) (tree : Tree) :
    (staging.startIn surroundings tree).asked =
      (staging.collect surroundings [] staging.files).asked := by
  unfold Staging.startIn
  dsimp only
  -- the answers, the snapshots and the build follow, none of which asks for a file
  split
  case h_1 => rfl
  case h_2 =>
    split
    case isTrue => rfl
    case isFalse => split <;> rfl

/-! ## Writing in order -/

/-- Write snapshots in order, up to the first one that cannot be written. -/
def writeInOrder (refusals : Refusals) (tree : Tree) (snapshots : List Staging.Snapshot) :
    Except FileError Tree :=
  snapshots.foldlM (fun tree (path, contents) =>
    refusals.guard .write tree path (tree.write path contents)) tree

/-- Snapshots are written in order, as the system permits. -/
theorem writeEach_surroundingsOf (programs : Programs) (root : Path) (package? : Option String)
    (refusals : Refusals) (written : List Path) (tree : Tree) (snapshots : List Staging.Snapshot) :
    Staging.writeEach (surroundingsOf programs root package? refusals) written tree snapshots =
      writeInOrder refusals tree snapshots := by
  -- the snapshots written before do not matter to what the system refuses
  induction snapshots generalizing written tree with
  | nil => rfl
  | cons snapshot rest ih =>
    unfold writeInOrder
    rw [Staging.writeEach, Surroundings.write, guard_surroundingsOf, List.foldlM_cons]
    exact bind_congr fun between => ih _ between

/-- Version control shows contents of all files. -/
def Programs.ShowsAll (programs : Programs) (staging : Staging) (contents : List Bytes) : Prop :=
  List.Forall₂ (programs.Shows staging) staging.files contents

/-- All files have contents exactly if version control shows all of them. -/
theorem answered_iff {package? : Option String} {before files : List Path}
    {contents : List Bytes} :
    Staging.Answered staging (surroundingsOf programs staging.root package? refusals) before files
        (contents.map some) ↔
      List.Forall₂ (programs.Shows staging) files contents := by
  -- file by file, in both directions; what was asked before is of no account
  constructor
  · intro h
    generalize hanswers : contents.map some = answers at h
    induction h generalizing contents with
    | nil =>
      obtain rfl := List.map_eq_nil_iff.mp hanswers
      exact .nil
    | cons hanswer _ ih =>
      obtain ⟨bytes, rest, rfl, rfl, hrest⟩ := List.map_eq_cons_iff.mp hanswers
      exact .cons (versionControl_eq_some_iff.mp (contents?_eq_ok_iff.mp hanswer)) (ih hrest)
  · intro h
    induction h generalizing before with
    | nil => exact .nil
    | cons hshows _ ih =>
      exact .cons (contents?_eq_ok_iff.mpr (versionControl_eq_some_iff.mpr hshows)) ih

/-- Version control shows all files, and their snapshots can be written. -/
def Programs.Stages (programs : Programs) (staging : Staging) (refusals : Refusals)
    (tree final : Tree) : Prop :=
  ∃ contents, programs.ShowsAll staging contents ∧
    writeInOrder refusals tree (staging.snapshots contents) = .ok final

/-- Where all is staged, the outcome is that of the build. -/
theorem startIn_of_stages (package? : Option String)
    (h : programs.Stages staging refusals tree final) :
    ∃ notes, staging.startIn (surroundingsOf programs staging.root package? refusals) tree =
      ⟨((toolchain programs package? staging.root).mapError .build).map
          (fun _ => staging.files.map staging.target),
        final, staging.files, true, notes⟩ := by
  obtain ⟨contents, hshows, hwrite⟩ := h
  rw [← writeEach_surroundingsOf programs staging.root package? refusals []] at hwrite
  exact Staging.startIn_of_writeEach (answered_iff.mpr hshows) hwrite

/-- The project is built exactly if all snapshots are staged. -/
theorem built_iff (programs : Programs) (staging : Staging) (package? : Option String)
    (refusals : Refusals) (tree : Tree) :
    (staging.startIn (surroundingsOf programs staging.root package? refusals) tree).built = true ↔
      ∃ final, programs.Stages staging refusals tree final := by
  constructor
  · intro h
    obtain ⟨contents, final, notes, hanswers, hwrite, -⟩ :=
      (Staging.failed_or_written staging (surroundingsOf programs staging.root package? refusals)
        tree).resolve_left fun ⟨_, _, hbuilt, _⟩ => by cases h.symm.trans hbuilt
    rw [writeEach_surroundingsOf] at hwrite
    exact ⟨final, contents, answered_iff.mp hanswers, hwrite⟩
  · intro ⟨final, hstages⟩
    obtain ⟨notes, hstart⟩ := startIn_of_stages package? hstages
    rw [hstart]

/-- Without a build there is no result. -/
theorem exists_outcome_of_not_stages (package? : Option String)
    (h : ∀ final, ¬ programs.Stages staging refusals tree final) :
    ∃ cause,
      (staging.startIn (surroundingsOf programs staging.root package? refusals) tree).outcome =
        .error cause := by
  -- it has failed, or all has been written and the build has been reached
  rcases Staging.failed_or_written staging
      (surroundingsOf programs staging.root package? refusals) tree with
    ⟨cause, houtcome, -⟩ | ⟨contents, final, notes, hanswers, hwrite, -⟩
  · exact ⟨cause, houtcome⟩
  · rw [writeEach_surroundingsOf] at hwrite
    exact absurd ⟨contents, answered_iff.mp hanswers, hwrite⟩ (h final)

/-- A build succeeds if it is installed, has run and has answered with zero. -/
theorem toolchain_eq_ok_iff {package? : Option String} {root : Path} :
    toolchain programs package? root = .ok () ↔
      ∃ cargo, programs.cargo? = some cargo ∧ (cargo (buildArguments root package?)).code = 0 := by
  unfold toolchain
  -- no program, no build; then the code of its answer decides
  cases programs.cargo? with
  | none => simp
  | some cargo =>
    simp only [Option.some.injEq, exists_eq_left']
    split
    case isTrue hcode => simp [hcode]
    case isFalse hcode => simp [hcode]

/-- A start succeeds exactly if the build has run and has succeeded. -/
theorem isOk_startIn_iff (programs : Programs) (staging : Staging) (package? : Option String)
    (refusals : Refusals) (tree : Tree) :
    (staging.startIn (surroundingsOf programs staging.root package? refusals)
        tree).outcome.isOk = true ↔
      (∃ final, programs.Stages staging refusals tree final) ∧
        ∃ cargo, programs.cargo? = some cargo ∧
          (cargo (buildArguments staging.root package?)).code = 0 := by
  rw [← toolchain_eq_ok_iff]
  by_cases hstages : ∃ final, programs.Stages staging refusals tree final
  · -- the outcome is that of the build
    obtain ⟨final, hfinal⟩ := hstages
    obtain ⟨notes, hstart⟩ := startIn_of_stages package? hfinal
    rw [hstart]
    cases toolchain programs package? staging.root with
    | error cause => simp [Except.map, Except.mapError, Except.isOk, Except.toBool]
    | ok done => simpa [Except.map, Except.mapError, Except.isOk, Except.toBool] using ⟨_, hfinal⟩
  · -- starting has failed before the build
    obtain ⟨cause, houtcome⟩ := exists_outcome_of_not_stages package?
      fun final hfinal => hstages ⟨final, hfinal⟩
    rw [houtcome]
    exact iff_of_false nofun fun h => hstages h.1

/-- If some file is not shown, nothing is written. -/
theorem tree_startIn_of_not_showsAll (package? : Option String) (refusals : Refusals) (tree : Tree)
    (h : ¬ ∃ contents, programs.ShowsAll staging contents) :
    (staging.startIn (surroundingsOf programs staging.root package? refusals) tree).tree = tree := by
  rcases Staging.error_or_missing_or_contents staging
      (surroundingsOf programs staging.root package? refusals) with
    ⟨asked, file, later, answers, cause, hfiles, hasked, herror⟩ |
    ⟨answers, hanswers, hmissing⟩ | ⟨contents, hanswers⟩
  · rw [Staging.startIn_of_error tree hfiles hasked herror]
  · rw [Staging.startIn_of_missing tree hanswers hmissing]
  · exact absurd ⟨contents, answered_iff.mp hanswers⟩ h

/-- If a snapshot cannot be written, those before it were written and are taken back. -/
theorem takenBack_startIn (package? : Option String) {contents : List Bytes} {cause : FileError}
    (hshows : programs.ShowsAll staging contents)
    (hwrite : writeInOrder refusals tree (staging.snapshots contents) = .error cause) :
    let started := staging.startIn (surroundingsOf programs staging.root package? refusals) tree
    ∃ first path bytes later between,
      staging.snapshots contents = first ++ (path, bytes) :: later ∧
      writeInOrder refusals tree first = .ok between ∧
      refusals.guard .write between path (between.write path bytes) = .error cause ∧
      (∀ snapshot ∈ first, refusals.Permits .remove snapshot.1 →
        started.tree.at? snapshot.1.place = none ∧ started.tree.exists_ snapshot.1 = false) ∧
      ∀ place, (∀ snapshot ∈ first, snapshot.1.place ≠ place) →
        started.tree.at? place = tree.at? place := by
  intro started
  rw [← writeEach_surroundingsOf programs staging.root package? refusals []] at hwrite
  obtain ⟨first, path, bytes, later, between, notes, hsplit, hfirst, hfailed, hstart⟩ :=
    Staging.startIn_of_writeEach_error (answered_iff.mpr hshows) hwrite
  have herased := Staging.erased_of_staged
    (surroundingsOf programs staging.root package? refusals) (Staging.staged_of_writeEach hfirst)
  rw [writeEach_surroundingsOf] at hfirst
  rw [Surroundings.write, guard_surroundingsOf] at hfailed
  rw [show started.tree = _ from congrArg Staging.Started.tree hstart]
  refine ⟨first, path, bytes, later, between, hsplit, hfirst, hfailed, ?_, herased.2⟩
  exact fun snapshot hsnapshot hpermits =>
    herased.1 snapshot hsnapshot (removes_surroundingsOf_iff.mpr hpermits)

/-! ## Runs that start -/

/-- The calls of a program, if it is installed. -/
def callsOf {Reply : Type} (name : String) (program? : Option Reply)
    (calls : List (List String)) : List (List String) :=
  if program?.isSome then calls.map (name :: ·) else []

/-- What a run that starts does. -/
structure StartRun (programs : Programs) (staging : Staging) (package? : Option String)
    (refusals : Refusals) (tree : Tree) (run : Run) : Prop where
  /-- Version control is run for the files in order, and then the build if all is staged. -/
  calls : ∃ asked, AskedFor (programs.Answers staging) staging.files asked ∧
    ((∃ final, programs.Stages staging refusals tree final) →
      run.calls =
        callsOf "git" programs.git? (asked.map (showArguments staging.root staging.revision)) ++
          callsOf "cargo" programs.cargo? [buildArguments staging.root package?]) ∧
    ((¬ ∃ final, programs.Stages staging refusals tree final) →
      run.calls =
        callsOf "git" programs.git? (asked.map (showArguments staging.root staging.revision)))
  /-- The build is run exactly if all is staged and it is installed. -/
  builds : (∃ arguments, "cargo" :: arguments ∈ run.calls) ↔
    (∃ final, programs.Stages staging refusals tree final) ∧ programs.cargo?.isSome = true
  /-- The build comes after all snapshots, which stay even if it is not installed. -/
  staged : ∀ final, programs.Stages staging refusals tree final → run.tree = final
  /-- If some file is not shown nothing changes. -/
  untouched : (¬ ∃ contents, programs.ShowsAll staging contents) → run.tree = tree
  /-- If a snapshot cannot be written, those that were written are gone, unless the system refuses to
  remove them, and nothing else has changed. -/
  takenBack : ∀ contents cause, programs.ShowsAll staging contents →
    writeInOrder refusals tree (staging.snapshots contents) = .error cause →
    ∃ first path bytes later between,
      staging.snapshots contents = first ++ (path, bytes) :: later ∧
      writeInOrder refusals tree first = .ok between ∧
      refusals.guard .write between path (between.write path bytes) = .error cause ∧
      (∀ snapshot ∈ first, refusals.Permits .remove snapshot.1 →
        run.tree.at? snapshot.1.place = none ∧ run.tree.exists_ snapshot.1 = false) ∧
      ∀ place, (∀ snapshot ∈ first, snapshot.1.place ≠ place) →
        run.tree.at? place = tree.at? place
  /-- If not all is staged, nothing that the run has written is left, except where the system may
  refuse to remove it. -/
  unstaged : (¬ ∃ final, programs.Stages staging refusals tree final) →
    ∀ place, run.tree.at? place ≠ tree.at? place → run.tree.at? place = none ∨
      ∃ file ∈ staging.files, (staging.target file).place = place ∧
        ¬ refusals.Permits .remove (staging.target file)
  /-- The run succeeds exactly if the build has run and has succeeded. -/
  code : (run.code = 0 ↔ (∃ final, programs.Stages staging refusals tree final) ∧
      ∃ cargo, programs.cargo? = some cargo ∧
        (cargo (buildArguments staging.root package?)).code = 0) ∧
    (run.code = 0 ∨ run.code = 1)

/-- What a run leaves that starts, by what starting has come to. -/
theorem runStart_started (request : Request) (staging : Staging) (programs : Programs)
    (tree : Tree) (refusals : Refusals) :
    let started :=
      staging.startIn (surroundingsOf programs staging.root request.package? refusals) tree
    let run := runStart request staging programs tree refusals
    run.calls =
        callsOf "git" programs.git?
            (started.asked.map (showArguments staging.root staging.revision)) ++
          (if started.built then
            callsOf "cargo" programs.cargo? [buildArguments staging.root request.package?]
          else []) ∧
      run.tree = started.tree ∧
      run.code = if started.outcome.isOk then 0 else 1 := by
  intro started run
  have hstarted : staging.start (versionControl programs staging.root)
      (toolchain programs request.package?) tree refusals = started := rfl
  -- both ways of listing the calls leave out those of programs that are not installed
  have hcalls :
      ((if programs.git?.isSome then started.asked.map fun file =>
          "git" :: showArguments staging.root staging.revision file else []) ++
        if started.built && programs.cargo?.isSome then
          ["cargo" :: buildArguments staging.root request.package?] else []) =
      callsOf "git" programs.git?
          (started.asked.map (showArguments staging.root staging.revision)) ++
        (if started.built then
          callsOf "cargo" programs.cargo? [buildArguments staging.root request.package?]
        else []) := by
    cases started.built <;> simp [callsOf, Function.comp_def]
  simp only [run, runStart, hstarted, hcalls]
  cases started.outcome with
  | error cause => exact ⟨rfl, rfl, rfl⟩
  | ok written => exact ⟨rfl, rfl, rfl⟩

/-- All calls of a program are calls by its name. -/
theorem mem_callsOf_iff {Reply : Type} {name other : String} {program? : Option Reply}
    {calls : List (List String)} {arguments : List String} :
    other :: arguments ∈ callsOf name program? calls ↔
      program?.isSome = true ∧ other = name ∧ arguments ∈ calls := by
  unfold callsOf
  cases program?.isSome with
  | false => simp
  | true =>
    simp only [if_true, List.mem_map, List.cons.injEq, true_and]
    constructor
    · rintro ⟨_, hmem, rfl, rfl⟩
      exact ⟨rfl, hmem⟩
    · rintro ⟨rfl, hmem⟩
      exact ⟨_, hmem, rfl, rfl⟩

/-- Nothing that was written is left where not everything is staged, unless removals are refused. -/
theorem left_startIn (package? : Option String)
    (hnot : ¬ ∃ final, programs.Stages staging refusals tree final) {place : Place}
    (hchanged : (staging.startIn (surroundingsOf programs staging.root package? refusals)
      tree).tree.at? place ≠ tree.at? place) :
    (staging.startIn (surroundingsOf programs staging.root package? refusals) tree).tree.at? place =
        none ∨
      ∃ file ∈ staging.files, (staging.target file).place = place ∧
        ¬ refusals.Permits .remove (staging.target file) := by
  by_cases hshows : ∃ contents, programs.ShowsAll staging contents
  · obtain ⟨contents, hshows⟩ := hshows
    cases hwrite : writeInOrder refusals tree (staging.snapshots contents) with
    | ok final => exact absurd ⟨final, contents, hshows, hwrite⟩ hnot
    | error cause =>
      obtain ⟨first, path, bytes, later, between, hsplit, -, -, hgone, hothers⟩ :=
        takenBack_startIn package? hshows hwrite
      -- only the places of snapshots that were written can have changed
      obtain ⟨snapshot, hsnapshot, rfl⟩ : ∃ snapshot ∈ first, snapshot.1.place = place := by
        by_contra hnone
        push Not at hnone
        exact hchanged (hothers place hnone)
      by_cases hpermits : refusals.Permits .remove snapshot.1
      · exact .inl (hgone snapshot hsnapshot hpermits).1
      · have hmem : snapshot ∈ staging.snapshots contents := by
          rw [hsplit]
          exact List.mem_append_left _ hsnapshot
        obtain ⟨file, hfile, htarget⟩ := List.mem_map.mp (List.of_mem_zip hmem).1
        exact .inr ⟨file, hfile, by rw [htarget], by rwa [htarget]⟩
  · rw [tree_startIn_of_not_showsAll package? refusals tree hshows] at hchanged
    exact absurd rfl hchanged

/-- What a start does, clause by clause. -/
theorem runStart_startRun (request : Request) (staging : Staging) (programs : Programs)
    (tree : Tree) (refusals : Refusals) :
    StartRun programs staging request.package? refusals tree
      (runStart request staging programs tree refusals) := by
  obtain ⟨hcalls, htree, hcode⟩ := runStart_started request staging programs tree refusals
  -- the build is reached exactly if all snapshots are staged
  have hbuilt := built_iff programs staging request.package? refusals tree
  constructor
  case calls =>
    refine ⟨_, askedFor_collect request.package? refusals [] staging.files, ?_, ?_⟩
    · intro hstages
      rw [hcalls, if_pos (hbuilt.mpr hstages), asked_startIn]
    · intro hnot
      rw [hcalls, if_neg fun h => hnot (hbuilt.mp h), asked_startIn, List.append_nil]
  case builds =>
    simp only [hcalls, List.mem_append, mem_callsOf_iff, ← hbuilt]
    cases (staging.startIn (surroundingsOf programs staging.root request.package? refusals)
      tree).built <;> simp [mem_callsOf_iff]
  case staged =>
    intro final hstages
    obtain ⟨notes, hstart⟩ := startIn_of_stages request.package? hstages
    rw [htree, hstart]
  case untouched =>
    intro hnot
    rw [htree]
    exact tree_startIn_of_not_showsAll request.package? refusals tree hnot
  case takenBack =>
    intro contents cause hshows hwrite
    rw [htree]
    exact takenBack_startIn request.package? hshows hwrite
  case unstaged =>
    intro hnot place hchanged
    rw [htree] at hchanged ⊢
    exact left_startIn request.package? hnot hchanged
  case code =>
    rw [hcode, ← isOk_startIn_iff programs staging request.package? refusals tree]
    cases (staging.startIn (surroundingsOf programs staging.root request.package? refusals)
      tree).outcome.isOk with
    | false => exact ⟨iff_of_false nofun nofun, .inr rfl⟩
    | true => exact ⟨iff_of_true rfl rfl, .inl rfl⟩

/-! ## Runs that finish -/

/-- What a run that finishes does. -/
structure FinishRun (staging : Staging) (refusals : Refusals) (tree : Tree) (run : Run) : Prop where
  calls : run.calls = []
  /-- The run succeeds exactly if every snapshot is removed, or is not there to be removed. -/
  code : (run.code = 0 ↔ ∃ report final,
      Staging.Removing refusals tree (staging.files.map staging.target) report final) ∧
    (run.code = 0 ∨ run.code = 1)
  removed : ∀ report final,
    Staging.Removing refusals tree (staging.files.map staging.target) report final → run.tree = final

/-- What a run leaves that finishes, by what finishing has come to. -/
theorem runFinish_finished (staging : Staging) (tree : Tree) (refusals : Refusals) :
    (runFinish staging tree refusals).calls = [] ∧
      (runFinish staging tree refusals).tree = (staging.finish tree refusals).tree ∧
      (runFinish staging tree refusals).code =
        if (staging.finish tree refusals).outcome.isOk then 0 else 1 := by
  unfold runFinish
  dsimp only
  cases (staging.finish tree refusals).outcome with
  | error cause => exact ⟨rfl, rfl, rfl⟩
  | ok report => exact ⟨rfl, rfl, rfl⟩

/-- What a finish does, clause by clause. -/
theorem runFinish_finishRun (staging : Staging) (tree : Tree) (refusals : Refusals) :
    FinishRun staging refusals tree (runFinish staging tree refusals) := by
  obtain ⟨hcalls, htree, hcode⟩ := runFinish_finished staging tree refusals
  constructor
  case calls => exact hcalls
  case code =>
    rw [hcode]
    cases houtcome : (staging.finish tree refusals).outcome with
    | error cause =>
      -- if all could be removed, finishing would have come to a result
      refine ⟨iff_of_false nofun fun ⟨report, final, hremoving⟩ => ?_, .inr rfl⟩
      cases houtcome.symm.trans (Staging.finish_of_removing hremoving).1
    | ok report =>
      have hremoving := Staging.exists_removing_of_finishFrom houtcome
      exact ⟨iff_of_true rfl hremoving, .inl rfl⟩
  case removed =>
    intro report final hremoving
    rw [htree]
    exact (Staging.finish_of_removing hremoving).2

/-! ## All runs -/

/-- The path of a file that is given from the working directory, from the root if it is below it. -/
def located (root directory : Path) (file : String) : Path :=
  ((directory.join (.ofText file)).relativeTo? root).getD (directory.join (.ofText file))

/-- What a request stages, with its files in the order in which they are given. -/
def Request.toStaging (request : Request) (root directory : Path) : Staging where
  root := root
  revision := request.revision?.getD "main"
  files := request.files.map (located root directory)

/-- Files are added behind those that there are, each located by itself. -/
theorem foldl_addFile (directory : Path) (files : List String) (start : Staging) :
    files.foldl (fun staging file => staging.addFile (directory.join (.ofText file))) start =
      { start with files := start.files ++ files.map (located start.root directory) } := by
  -- along the files, each of which is added behind the ones before
  induction files generalizing start with
  | nil => simp
  | cons file rest ih =>
    rw [List.foldl_cons, ih]
    simp [Staging.addFile, located]

/-- What is staged are the files of the request, from the root. -/
theorem stagingOf_eq (request : Request) (root directory : Path) :
    stagingOf request root directory = request.toStaging root directory := by
  rw [stagingOf, foldl_addFile]
  rfl

/-- What a run does. -/
structure Conduct (arguments : List String) (directory : Path) (programs : Programs) (tree : Tree)
    (refusals : Refusals) (run : Run) : Prop where
  /-- If something is wrong with the arguments, or there is no project, nothing is run or changed. -/
  refused : (Refused arguments ∨
      ∀ other, other.IsAncestor directory → isProjectRoot tree other = false) →
    run.calls = [] ∧ run.tree = tree ∧ run.code = 1
  finishes : ∀ request root, Asks arguments request → request.command = .finish →
    NearestRoot tree directory root →
      FinishRun (request.toStaging root directory) refusals tree run
  starts : ∀ request root, Asks arguments request → request.command = .start →
    NearestRoot tree directory root →
      StartRun programs (request.toStaging root directory) request.package? refusals tree run
  /-- There is no other case. -/
  complete : (Refused arguments ∨
      ∀ other, other.IsAncestor directory → isProjectRoot tree other = false) ∨
    ∃ request root, Asks arguments request ∧ NearestRoot tree directory root

/-- **The command checks before it acts**: what it runs and what it changes follows from its
arguments, from what the other programs answer and from what the system refuses, and nothing is done
for arguments that make no request. -/
theorem run_conduct (arguments : List String) (directory : Path) (programs : Programs)
    (tree : Tree) (refusals : Refusals) :
    Conduct arguments directory programs tree refusals
      (run arguments directory programs tree refusals) := by
  constructor
  case refused =>
    intro h
    rw [← read_eq_error_iff, ← findProjectRoot_eq_error_iff] at h
    unfold run
    cases hread : Request.read arguments with
    | error cause => exact ⟨rfl, rfl, rfl⟩
    | ok request =>
      -- the arguments are right, so it is the project that is missing
      rcases h with ⟨cause, hcause⟩ | ⟨cause, hcause⟩
      · cases hread.symm.trans hcause
      · simp only [hcause]
        exact ⟨rfl, rfl, rfl⟩
  case finishes =>
    intro request root hasks hcommand hroot
    rw [← stagingOf_eq]
    simp only [run, read_eq_ok_iff.mpr hasks, findProjectRoot_eq_ok_iff.mpr hroot, hcommand]
    exact runFinish_finishRun _ tree refusals
  case starts =>
    intro request root hasks hcommand hroot
    rw [← stagingOf_eq]
    simp only [run, read_eq_ok_iff.mpr hasks, findProjectRoot_eq_ok_iff.mpr hroot, hcommand]
    exact runStart_startRun request _ programs tree refusals
  case complete =>
    rw [← read_eq_error_iff, ← findProjectRoot_eq_error_iff]
    cases hread : Request.read arguments with
    | error cause => exact .inl (.inl ⟨cause, rfl⟩)
    | ok request =>
      cases hroot : findProjectRoot tree directory with
      | error cause => exact .inl (.inr ⟨cause, rfl⟩)
      | ok root =>
        exact .inr ⟨request, root, read_eq_ok_iff.mp hread, findProjectRoot_eq_ok_iff.mp hroot⟩

/-- A project without files. -/
def emptyProject : Tree where
  entries := [
    (["p".toList], .directory),
    (["p".toList, ".git".toList], .directory),
    (["p".toList, "Cargo.toml".toList], .file [])]

/-- Version control that shows every file as empty, and a build that fails. -/
def failingBuild : Programs where
  git? := some fun _ => {}
  cargo? := some fun _ => { code := 101 }

/-- A build that fails is run once, after the only file was asked for. -/
theorem run_conduct_failingBuild :
    let run := run ["-f", "a.rs", "start"] (.ofText "p") failingBuild emptyProject
    run.calls =
        [["git", "-C", "p", "show", "main:a.rs"],
          ["cargo", "build", "--manifest-path", "p/Cargo.toml", "--features", "bootstrap"]] ∧
      run.tree.read (.ofText "p/a_bootstrap.rs") = .ok [] ∧ run.code = 1 := by
  intro run
  let request : Request := ⟨.start, ["a.rs"], none, none⟩
  have hasks : Asks ["-f", "a.rs", "start"] request := read_eq_ok_iff.mp (by rfl)
  have hroot : NearestRoot emptyProject (.ofText "p") (.ofText "p") :=
    findProjectRoot_eq_ok_iff.mp (by rfl)
  have hconduct := run_conduct ["-f", "a.rs", "start"] (.ofText "p") failingBuild emptyProject {}
  have hstart := hconduct.starts request _ hasks rfl hroot
  let staging := request.toStaging (.ofText "p") (.ofText "p")
  have hshows : failingBuild.ShowsAll staging [[]] := .cons ⟨_, rfl, rfl, rfl⟩ .nil
  -- each part of the run is read off what holds of all runs that start
  obtain ⟨asked, hasked, hcalls, -⟩ := hstart.calls
  refine ⟨?_, ?_, ?_⟩
  · -- the only file is asked for, whatever the answer
    rw [hcalls ⟨_, [[]], hshows, rfl⟩]
    cases hasked with
    | failed hnot => rfl
    | answered hfile hrest =>
      cases hrest
      rfl
  · rw [hstart.staged _ ⟨[[]], hshows, rfl⟩]
    rfl
  · refine hstart.code.2.resolve_left fun hzero => ?_
    obtain ⟨-, cargo, hcargo, hcode⟩ := hstart.code.1.mp hzero
    cases hcargo
    cases hcode

/-- Version control that shows every file as empty, and no build. -/
def missingBuild : Programs where
  git? := some fun _ => {}
  cargo? := none

/-- A project with a snapshot from another time. -/
def staleProject : Tree where
  entries := emptyProject.entries ++ [(["p".toList, "a_bootstrap.rs".toList], .file [120])]

/-- Files can neither be made nor removed in a directory without write permission, but those that are
there can be written. -/
def closedDirectories : Refusals where
  cause? operation tree path :=
    let denied := "Permission denied (os error 13)"
    match operation with
    | .read => none
    | .write => if tree.exists_ path then none else some denied
    | .remove | .makeDirectory => some denied

/-- Snapshots can stay although the build is not run: where it is not installed, and where the system
refuses to write a later one and to remove them. -/
theorem run_leaves_snapshots :
    let unbuilt := run ["-f", "a.rs", "start"] (.ofText "p") missingBuild emptyProject
    let refused := run ["-f", "a.rs", "-f", "b.rs", "start"] (.ofText "p") failingBuild staleProject
      closedDirectories
    (unbuilt.calls = [["git", "-C", "p", "show", "main:a.rs"]] ∧
      emptyProject.read (.ofText "p/a_bootstrap.rs") = .error .missing ∧
      unbuilt.tree.read (.ofText "p/a_bootstrap.rs") = .ok []) ∧
    (refused.calls =
        [["git", "-C", "p", "show", "main:a.rs"], ["git", "-C", "p", "show", "main:b.rs"]] ∧
      staleProject.read (.ofText "p/a_bootstrap.rs") = .ok [120] ∧
      refused.tree.read (.ofText "p/a_bootstrap.rs") = .ok []) :=
  ⟨⟨by rfl, by rfl, by rfl⟩, by rfl, by rfl, by rfl⟩

end ParserFoundry.Bootstrap

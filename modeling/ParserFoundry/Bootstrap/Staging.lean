import ParserFoundry.Bootstrap.SnapshotPath
import ParserFoundry.Files.Tree
import ParserFoundry.Journal
/-!
# Staging

A program that is generated by itself is built from the last committed versions of its generated
files. Staging puts these snapshots beside the working files and builds the project, and finishing
takes them away again. What it meets outside is given as functions that change no file, among them
what the system refuses.
-/

namespace ParserFoundry.Bootstrap

open Files

/-- Why staging fails. -/
inductive StagingError where
  /-- The files have no committed version. -/
  | missingSnapshots (paths : List Path)
  /-- Version control cannot be run, or reports an error. -/
  | versionControl (cause : String)
  /-- The build cannot be run, or fails. -/
  | build (cause : String)
  /-- A snapshot cannot be written. -/
  | file (cause : FileError)
  /-- No directory above `start` looks like the root of a project. -/
  | noProjectRoot (start : Path)
deriving DecidableEq, Repr

def StagingError.message : StagingError → String
  | missingSnapshots paths => "No committed version of: " ++ ", ".intercalate (paths.map Path.text)
  | versionControl cause => "Version control error: " ++ cause
  | build cause => "Build failed: " ++ cause
  | file cause => cause.message
  | noProjectRoot start =>
    "Can't find a project root (a directory with .git and Cargo.toml) above " ++ start.text

/-- Answers with the contents of a file at a revision, or with nothing if it has none there. -/
abbrev VersionControl := String → Path → Except String (Option Bytes)

/-- Builds the project at a root. -/
abbrev Toolchain := Path → Except String Unit

/-- What staging meets outside of the file tree. -/
structure Surroundings where
  /-- The contents of a file at a revision, after the files that have been asked for before. -/
  contents? : List Path → String → Path → Except StagingError (Option Bytes)
  /-- Why a file is not written although its place could hold it, or not removed although it is
  there, after the paths at which this has been done before. -/
  refusal? : Operation → List Path → Tree → Path → Option FileError
  /-- Build the project at a root, with the files of a tree. -/
  build : Path → Tree → Except StagingError Unit

namespace Surroundings

/-- Version control that always gives the same answer to the same file, and a build that looks at no
file. What is refused shows in the tree alone. -/
def ofTools (versionControl : VersionControl) (toolchain : Toolchain) (refusals : Refusals := {}) :
    Surroundings where
  contents? _ revision file := (versionControl revision file).mapError .versionControl
  refusal? operation _ tree path := (refusals.cause? operation tree path).map .refused
  build root _ := (toolchain root).mapError .build

/-- What comes of an operation at a path after those before it, unless it is refused. -/
def guard (surroundings : Surroundings) (operation : Operation) (before : List Path) (tree : Tree)
    (path : Path) (outcome : Except FileError Tree) : Except FileError Tree :=
  match surroundings.refusal? operation before tree path with
  | some cause => .error cause
  | none => outcome

/-- Write a file after those that have been written before. -/
def write (surroundings : Surroundings) (written : List Path) (tree : Tree) (path : Path)
    (contents : Bytes) : Except FileError Tree :=
  surroundings.guard .write written tree path (tree.write path contents)

/-- Remove a file after those that were to be removed before. -/
def remove (surroundings : Surroundings) (before : List Path) (tree : Tree) (path : Path) :
    Except FileError Tree :=
  surroundings.guard .remove before tree path (tree.removeFile path)

end Surroundings

/-- The revision from which snapshots are taken unless another one is asked for. -/
def defaultRevision : String := "main"

/-- Generated files of a project, to be staged from a revision. -/
structure Staging where
  root : Path
  revision : String := defaultRevision
  files : List Path := []
deriving Repr

namespace Staging

/-- Add a file; the path is kept from the root if it leads through it. -/
def addFile (staging : Staging) (path : Path) : Staging :=
  { staging with files := staging.files ++ [(path.relativeTo? staging.root).getD path] }

/-- Where the snapshot of a file stands. -/
def target (staging : Staging) (file : Path) : Path :=
  staging.root.join (snapshotPath file)

/-! ## Starting -/

/-- A snapshot and where it goes. -/
abbrev Snapshot := Path × Bytes

/-- What version control has for the files. -/
structure Collected where
  /-- The files that were asked for, in order. -/
  asked : List Path
  /-- The snapshots, and the files without one. -/
  found : Except StagingError (List Snapshot × List Path)

/-- Ask for all files in order, up to the first error; `before` are those asked for already. -/
def collect (staging : Staging) (surroundings : Surroundings) (before : List Path) :
    List Path → Collected
  | [] => ⟨[], .ok ([], [])⟩
  | file :: rest =>
    match surroundings.contents? before staging.revision file with
    -- An error ends the questions, whereas a file without a snapshot does not.
    | .error cause => ⟨[file], .error cause⟩
    | .ok contents? =>
      let others := staging.collect surroundings (before ++ [file]) rest
      ⟨file :: others.asked, others.found.map fun (snapshots, missing) =>
        match contents? with
        | some contents => ((staging.target file, contents) :: snapshots, missing)
        | none => (snapshots, file :: missing)⟩

/-- Remove the files after those before them; one that cannot be removed is noted. -/
def removeAll (surroundings : Surroundings) (before : List Path) (tree : Tree) :
    List Path → Tree × List Note
  | [] => (tree, [])
  | path :: rest =>
    match surroundings.remove before tree path with
    | .ok tree => removeAll surroundings (before ++ [path]) tree rest
    | .error cause =>
      let (tree, notes) := removeAll surroundings (before ++ [path]) tree rest
      (tree, ⟨.warn, "Can't remove " ++ path.text ++ ": " ++ cause.message⟩ :: notes)

/-- Write the snapshots; `written` are those written so far. If one cannot be written, all are
removed again. -/
def writeAll (surroundings : Surroundings) (tree : Tree) (written : List Path) :
    List Snapshot → Tree × Except FileError (List Path) × List Note
  | [] => (tree, .ok written, [])
  | (path, contents) :: rest =>
    let staged : Note := ⟨.info, "Staging " ++ path.text⟩
    match surroundings.write written tree path contents with
    | .error cause =>
      -- The file that could not be written is not among those taken back.
      let (tree, notes) := removeAll surroundings [] tree written
      (tree, .error cause, staged :: notes)
    | .ok tree =>
      let (tree, outcome, notes) := writeAll surroundings tree (written ++ [path]) rest
      (tree, outcome, staged :: notes)

/-- What starting has come to. -/
structure Started where
  /-- The snapshots that were written, or why the project is not built. -/
  outcome : Except StagingError (List Path)
  tree : Tree
  /-- The files that version control was asked for. -/
  asked : List Path
  /-- Whether a build was run. -/
  built : Bool
  notes : List Note

/-- Stage the snapshots of all files, and then build the project. If a file has no snapshot, nothing
is written. -/
def startIn (staging : Staging) (surroundings : Surroundings) (tree : Tree) : Started :=
  let collected := staging.collect surroundings [] staging.files
  match collected.found with
  | .error cause => ⟨.error cause, tree, collected.asked, false, []⟩
  | .ok (snapshots, missing) =>
    if !missing.isEmpty then
      ⟨.error (.missingSnapshots missing), tree, collected.asked, false, []⟩
    else
      match writeAll surroundings tree [] snapshots with
      | (tree, .error cause, notes) =>
        ⟨.error (.file cause), tree, collected.asked, false, notes⟩
      | (tree, .ok written, notes) =>
        -- A build that fails leaves the snapshots, as nothing takes them back here.
        ⟨(surroundings.build staging.root tree).map fun _ => written, tree, collected.asked, true,
          notes⟩

/-- Stage and build with version control and a toolchain. -/
def start (staging : Staging) (versionControl : VersionControl) (toolchain : Toolchain)
    (tree : Tree) (refusals : Refusals := {}) : Started :=
  staging.startIn (.ofTools versionControl toolchain refusals) tree

/-! ## Finishing -/

/-- The snapshots that were removed, and those that were not there. -/
structure Removed where
  removed : List Path := []
  missing : List Path := []
deriving DecidableEq, Repr

/-- What finishing has come to. -/
structure Finished where
  outcome : Except FileError Removed
  tree : Tree
  notes : List Note

/-- Remove the snapshots of the files, up to the first that is there and cannot be removed. -/
def finishFrom (staging : Staging) (refusals : Refusals) (tree : Tree) (sofar : Removed) :
    List Path → Finished
  | [] => ⟨.ok sofar, tree, []⟩
  | file :: rest =>
    let path := staging.target file
    match refusals.guard .remove tree path (tree.removeFile path) with
    | .ok tree =>
      let finished :=
        staging.finishFrom refusals tree { sofar with removed := sofar.removed ++ [path] } rest
      { finished with notes := ⟨.info, "Removed " ++ path.text⟩ :: finished.notes }
    -- Only what the system says is missing is passed over; a refusal is not.
    | .error .missing =>
      let finished :=
        staging.finishFrom refusals tree { sofar with missing := sofar.missing ++ [path] } rest
      { finished with notes := ⟨.warn, path.text ++ " does not exist"⟩ :: finished.notes }
    | .error cause => ⟨.error cause, tree, []⟩

/-- Remove the snapshots of all files. -/
def finish (staging : Staging) (tree : Tree) (refusals : Refusals := {}) : Finished :=
  staging.finishFrom refusals tree {} staging.files

end Staging

/-! ## Project roots -/

/-- Whether a directory looks like the root of a project. -/
def isProjectRoot (tree : Tree) (directory : Path) : Bool :=
  tree.exists_ (directory.join (.ofText ".git")) &&
    tree.isFile (directory.join (.ofText "Cargo.toml"))

/-- The nearest directory from `start` upwards that looks like the root of a project. -/
def findProjectRoot (tree : Tree) (start : Path) : Except StagingError Path :=
  match start.ancestors.find? (isProjectRoot tree) with
  | some root => .ok root
  | none => .error (.noProjectRoot start)

end ParserFoundry.Bootstrap

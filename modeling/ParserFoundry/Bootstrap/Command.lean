import ParserFoundry.Bootstrap.Options
import ParserFoundry.Bootstrap.Staging
import ParserFoundry.Unicode.Property
/-!
# The Command

The command that stages and finishes. Everything that can be wrong with its arguments is found
before any program is run or any file is touched.
-/

namespace ParserFoundry.Bootstrap

open Files

/-! ## Other programs -/

/-- What a program that was run leaves. -/
structure Reply where
  output : Bytes := []
  errors : Bytes := []
  code : Nat := 0
deriving Repr, Inhabited

/-- The programs that are installed. -/
structure Programs where
  git? : Option (List String → Reply)
  cargo? : Option (List String → Reply)

/-- The cause that is reported for a program that is not installed. -/
def cannotRun (program : String) : String :=
  "can't run " ++ program ++ ": " ++ FileError.missing.message

/-- The arguments that ask version control for a file. -/
def showArguments (root : Path) (revision : String) (file : Path) : List String :=
  let path := file.chars.map fun c => if c = '\\' then '/' else c
  ["-C", root.text, "show", revision ++ ":" ++ String.ofList path]

/-- A text without white space at its ends. -/
def trim (text : String) : String :=
  let isBlank (c : Char) : Bool := Unicode.whiteSpace.contains c.toNat
  String.ofList ((text.toList.dropWhile isBlank).reverse.dropWhile isBlank).reverse

/-- Whether a text stands in another one. -/
def occursIn (part : List Char) : List Char → Bool
  | [] => part.isEmpty
  | c :: rest => part.isPrefixOf (c :: rest) || occursIn part rest

/-- Ask version control for a file. -/
def versionControl (programs : Programs) (root : Path) : VersionControl := fun revision file =>
  match programs.git? with
  | none => .error (cannotRun "git")
  | some git =>
    let reply := git (showArguments root revision file)
    if reply.code = 0 then .ok (some reply.output)
    else
      let cause := Bytes.lossyText reply.errors
      -- The version control says only in its messages that a file is not in a revision.
      if occursIn "does not exist in".toList cause.toList ||
          occursIn "exists on disk, but not in".toList cause.toList then .ok none
      else .error (trim cause)

/-- The arguments that build the project. -/
def buildArguments (root : Path) (package? : Option String) : List String :=
  ["build", "--manifest-path", (root.join (.ofText "Cargo.toml")).text, "--features", "bootstrap"] ++
    match package? with
    | some package => ["-p", package]
    | none => []

/-- Build the project. -/
def toolchain (programs : Programs) (package? : Option String) : Toolchain := fun root =>
  match programs.cargo? with
  | none => .error (cannotRun "cargo")
  | some cargo =>
    let reply := cargo (buildArguments root package?)
    if reply.code = 0 then .ok ()
    else .error ("cargo exited with exit status: " ++ toString reply.code)

/-! ## Runs -/

/-- What a run of the command leaves. -/
structure Run where
  code : Nat
  output : Bytes
  errors : Bytes
  /-- The programs that were run with their arguments, in order. -/
  calls : List (List String)
  tree : Tree
deriving Repr

/-- What the command is asked to do. -/
inductive Command where
  | start
  | finish
deriving DecidableEq, Repr

/-- A valid set of arguments. -/
structure Request where
  command : Command
  files : List String
  revision? : Option String
  package? : Option String
deriving DecidableEq, Repr

/-- Why arguments make no request. -/
inductive RequestError where
  | options (cause : OptionError)
  | helpWanted
  | noFile
  | unknownCommand (name : String)
  | notOneCommand
deriving DecidableEq, Repr

/-- What is said before the usage. -/
def RequestError.message? : RequestError → Option String
  | options cause => some cause.message
  | helpWanted => none
  | noFile => some "At least one file must be specified with -f."
  | unknownCommand name => some ("Unknown command '" ++ name ++ "'.")
  | notOneCommand => some "Exactly one command must be specified."

def Command.ofName? (name : String) : Option Command :=
  if name = "start" then some .start else if name = "finish" then some .finish else none

namespace Request

/-- The request that sorted arguments make. -/
def ofArguments (arguments : Arguments) : Except RequestError Request :=
  if arguments.has .help then .error .helpWanted
  else
    let files := arguments.values .file
    if files.isEmpty then .error .noFile
    else
      match arguments.free with
      | [name] =>
        match Command.ofName? name with
        | some command =>
          .ok ⟨command, files, (arguments.values .revision).head?,
            (arguments.values .package).head?⟩
        | none => .error (.unknownCommand name)
      | _ => .error .notOneCommand

/-- Read the request that arguments make. -/
def read (arguments : List String) : Except RequestError Request :=
  match Arguments.read arguments with
  | .error cause => .error (.options cause)
  | .ok arguments => ofArguments arguments

end Request

def usage : String :=
  "Usage: lrboot [-r <revision>] [-p <package>] -f <file> [-f <file> ...] <start|finish>"

/-- Lines, each with its end. -/
def lines (texts : List String) : Bytes :=
  Bytes.ofText (String.join (texts.map fun text => text ++ "\n"))

/-- A run that fails with lines of errors and touches nothing. -/
def failure (tree : Tree) (texts : List String) : Run :=
  ⟨1, [], lines texts, [], tree⟩

/-- The staging that a request is about; its files are given from the working directory. -/
def stagingOf (request : Request) (root directory : Path) : Staging :=
  let empty : Staging := { root := root, revision := request.revision?.getD defaultRevision }
  request.files.foldl (fun staging file => staging.addFile (directory.join (.ofText file))) empty

/-- Stage and build. -/
def runStart (request : Request) (staging : Staging) (programs : Programs) (tree : Tree)
    (refusals : Refusals := {}) : Run :=
  let started :=
    staging.start (versionControl programs staging.root) (toolchain programs request.package?) tree
      refusals
  let shows := started.asked.map fun file =>
    "git" :: showArguments staging.root staging.revision file
  let build := buildArguments staging.root request.package?
  let reply : Reply :=
    match started.built, programs.cargo? with
    | true, some cargo => cargo build
    | _, _ => {}
  -- Calls are listed only if the program could be run at all.
  let calls :=
    (if programs.git?.isSome then shows else []) ++
      if started.built && programs.cargo?.isSome then ["cargo" :: build] else []
  match started.outcome with
  | .ok written =>
    ⟨0, reply.output ++ lines (written.map (fun path => "Staged " ++ path.text) ++
      ["Bootstrap build finished."]), reply.errors, calls, started.tree⟩
  | .error cause => ⟨1, reply.output, reply.errors ++ lines [cause.message], calls, started.tree⟩

/-- Remove the snapshots. -/
def runFinish (staging : Staging) (tree : Tree) (refusals : Refusals := {}) : Run :=
  let finished := staging.finish tree refusals
  match finished.outcome with
  | .ok report =>
    ⟨0, lines (report.removed.map (fun path => "Removed " ++ path.text) ++
      report.missing.map (fun path => path.text ++ " does not exist, skipping.")), [], [],
      finished.tree⟩
  | .error cause => ⟨1, [], lines [cause.message], [], finished.tree⟩

/-- Run the command with its arguments in a working directory. -/
def run (arguments : List String) (directory : Path) (programs : Programs) (tree : Tree)
    (refusals : Refusals := {}) : Run :=
  match Request.read arguments with
  | .error cause => failure tree (cause.message?.toList ++ [usage])
  | .ok request =>
    match findProjectRoot tree directory with
    | .error cause => failure tree [cause.message]
    | .ok root =>
      let staging := stagingOf request root directory
      match request.command with
      | .start => runStart request staging programs tree refusals
      | .finish => runFinish staging tree refusals

end ParserFoundry.Bootstrap

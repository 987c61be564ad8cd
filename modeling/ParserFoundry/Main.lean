import ParserFoundry.Bootstrap.Command
/-!
# The Program

The command on the files of the machine. All that a run can look at is copied into a tree, the run
decides, and what it has changed in the tree is carried out. Neither version control nor the build
tool is run from here, so a run finds neither installed.
-/

namespace ParserFoundry.Bootstrap

open Files

/-- The paths at which a run may look: the marks of a project in all directories from `directory`
upwards, and the snapshots of the files that the arguments name. -/
def lookedAt (arguments : List String) (directory : Path) : List Path :=
  let marks := directory.ancestors.flatMap fun place =>
    [place, place.join (.ofText ".git"), place.join (.ofText "Cargo.toml")]
  let snapshots := match Request.read arguments with
    | .error _ => []
    | .ok request => request.files.flatMap fun file =>
        let snapshot := snapshotPath (directory.join (.ofText file))
        snapshot.parent?.toList ++ [snapshot]
  marks ++ snapshots

/-- Copy what stands at a path of the machine into a tree. -/
def copyIn (tree : Tree) (path : Path) : IO Tree := do
  let place := (← IO.currentDir) / path.text
  if ← place.isDir then
    return (tree.makeDirectories path).1
  else if ← place.pathExists then
    let contents ← IO.FS.readBinFile place
    return (tree.write path contents.toList).toOption.getD tree
  else
    return tree

/-- Carry out what has changed at a path. -/
def carryOut (before after : Tree) (path : Path) : IO Unit := do
  match (before.read path).toOption, (after.read path).toOption with
  | old?, some new =>
    if old? ≠ some new then IO.FS.writeBinFile path.text (ByteArray.mk new.toArray)
  | some _, none => IO.FS.removeFile path.text
  | none, none => return ()

/-- Run the command on the machine. -/
def runOnMachine (arguments : List String) : IO UInt32 := do
  let directory := Path.ofText (← IO.currentDir).toString
  let paths := lookedAt arguments directory
  let before ← paths.foldlM copyIn {}
  let run := run arguments directory ⟨none, none⟩ before
  for path in paths do
    carryOut before run.tree path
  (← IO.getStdout).write (ByteArray.mk run.output.toArray)
  (← IO.getStderr).write (ByteArray.mk run.errors.toArray)
  return UInt32.ofNat run.code

end ParserFoundry.Bootstrap

/-- The entry point. -/
def main (arguments : List String) : IO UInt32 :=
  ParserFoundry.Bootstrap.runOnMachine arguments

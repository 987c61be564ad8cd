import ParserFoundry.Files.Path
/-!
# Snapshot Paths

The snapshot of a generated file stands beside it. Its name is that of the file with an ending
before the extension.
-/

namespace ParserFoundry.Bootstrap

open Files

/-- What the names of snapshots end with, before their extension. -/
def ending : Name := "_bootstrap".toList

/-- The name of the snapshot of a file. -/
def snapshotName (name : Name) : Name :=
  let (stem, extension?) := Path.splitExtension name
  stem ++ ending ++
    match extension? with
    | some extension => '.' :: extension
    | none => []

/-- The path of the snapshot of a file. -/
def snapshotPath (path : Path) : Path :=
  path.withFileName (snapshotName (path.fileName?.getD []))

end ParserFoundry.Bootstrap

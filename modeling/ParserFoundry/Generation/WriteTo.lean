import ParserFoundry.Files.Tree
import ParserFoundry.Generation.Generate
/-!
# Writing a Generated Parser

The two files are written into a directory. A file that already holds what it should is left as it
is, so that nothing that depends on it has to be made again.
-/

namespace ParserFoundry.GeneratedParser

open Files

/-- What came of one file. -/
structure Written where
  path : Path
  /-- Whether the file had to be written. -/
  changed : Bool
deriving DecidableEq, Repr

/-- Write a file unless it is found to hold the contents already. One that cannot be read is
written. -/
def writeFile (refusals : Refusals) (tree : Tree) (path : Path) (contents : Bytes) :
    Tree × Except FileError Written × List Note :=
  -- Contents that are the same, byte for byte, are the only reason not to write.
  if (refusals.guard .read tree path (tree.read path)).toOption = some contents then
    (tree, .ok ⟨path, false⟩, [⟨.debug, path.text ++ " is unchanged"⟩])
  else
    match refusals.guard .write tree path (tree.write path contents) with
    | .ok tree => (tree, .ok ⟨path, true⟩, [⟨.info, "Wrote " ++ path.text⟩])
    | .error cause => (tree, .error cause, [])

/-- Write files into a directory, up to the first that cannot be written. -/
def writeFiles (refusals : Refusals) (tree : Tree) (directory : Path) :
    List GeneratedFile → Tree × Except FileError (List Written) × List Note
  | [] => (tree, .ok [], [])
  | file :: rest =>
    let path := directory.join (.ofText file.name)
    match writeFile refusals tree path (Bytes.ofText file.contents) with
    -- The first file stays as written even if the second one cannot be.
    | (tree, .error cause, notes) => (tree, .error cause, notes)
    | (tree, .ok written, notes) =>
      let (tree, others, more) := writeFiles refusals tree directory rest
      (tree, others.map (written :: ·), notes ++ more)

/-- Write the generated files into a directory, which is made if necessary. -/
def writeTo (generated : GeneratedParser) (tree : Tree) (directory : Path)
    (refusals : Refusals := {}) : Tree × Except FileError (List Written) × List Note :=
  match tree.makeDirectories directory refusals with
  | (tree, .error cause) => (tree, .error cause, [])
  | (tree, .ok ()) => writeFiles refusals tree directory generated.files

end ParserFoundry.GeneratedParser

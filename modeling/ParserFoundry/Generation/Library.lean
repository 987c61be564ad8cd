import ParserFoundry.Code.Callee
import ParserFoundry.Matcher
/-!
# Libraries

A generation relies on a reader of paths and on a compiler of patterns. The ones of this library are
used unless others are given. They refuse some of the paths and patterns that a full reader of the
language and a full compiler of patterns accept, so that what holds of every generation is said of
any of them.
-/

namespace ParserFoundry

/-- A reader of paths and a compiler of patterns. -/
structure Library where
  /-- The path that a text spells. -/
  readPath : String → Except Code.PathError Code.Path := Code.Path.read
  /-- What a path reads as in front of a call, if it has generic arguments that follow no `::`. -/
  readComparisons : Code.Path → Except Code.PathError Code.Comparisons := Code.Path.comparisons
  /-- The program of a pattern. -/
  compile : Pattern.Compiler := Pattern.Program.ofPattern

/-- What a path is in front of a call. With generic arguments that all follow a `::` it stays a
path. -/
def Library.callee (library : Library) (path : Code.Path) : Except Code.PathError Code.Callee :=
  if path.isBare then (library.readComparisons path).map .compared else .ok (.path path)

end ParserFoundry

import ParserFoundry.Code.PathReader
import ParserFoundry.Matcher
import ParserFoundry.Naming.NameTable
import ParserFoundry.Table.ParseTable
/-!
# Failures of a Generation

The errors of all stages, from the description of the grammar to the text of the generated code.
-/

namespace ParserFoundry

/-- Why no parser can be generated. -/
inductive GenerationError where
  | model (cause : ModelError)
  | numbering (cause : NumberingError)
  | naming (cause : NamingError)
  | matcher (cause : MatcherError)
  | encoding (cause : EncodingError)
  /-- A path that was asked for cannot be read. -/
  | modulePath (path : String) (cause : Code.PathError)
  /-- The code that would be generated has a syntax error. -/
  | code (cause : Code.PathError)
  /-- The stem of the type names spells a name among blanks or comments, but is none as it stands.
  Generation breaks off here without a report. -/
  | unusableStem (stem : String)
deriving DecidableEq, Repr

def GenerationError.message : GenerationError → String
  | model cause => cause.message
  | numbering cause => cause.message
  | naming cause => cause.message
  | matcher cause => cause.message
  | encoding cause => cause.message
  | modulePath path cause =>
    "Generated code is not valid Rust: invalid module path '" ++ path ++ "': " ++ cause.message
  | code cause => "Generated code is not valid Rust: " ++ cause.message
  | unusableStem stem => "\"" ++ stem ++ "\" is not a valid identifier"

/-- Whether the error is reported; otherwise generation breaks off. -/
def GenerationError.isReported : GenerationError → Bool
  | unusableStem _ => false
  | _ => true

end ParserFoundry

import ParserFoundry.Unicode.CaseMapping
/-!
# Casing of Names

The two casings that derived names have. Case mappings and classes are those of Unicode, taken
character by character.
-/

namespace ParserFoundry.Naming

/-! ## Camel case -/

/-- The maximal stretches without an underscore that are not empty; `current` is the stretch at
hand, last character first. -/
def segmentsFrom (current : List Char) : List Char → List (List Char)
  | [] => if current.isEmpty then [] else [current.reverse]
  | c :: rest =>
    if c = '_' then
      if current.isEmpty then segmentsFrom [] rest else current.reverse :: segmentsFrom [] rest
    else segmentsFrom (c :: current) rest

/-- The maximal stretches without an underscore that are not empty. -/
def segments (chars : List Char) : List (List Char) :=
  segmentsFrom [] chars

/-- Put the first character into upper case. -/
def capitalize : List Char → List Char
  | [] => []
  | c :: rest => Unicode.toUpper c ++ rest

def camelChars (chars : List Char) : List Char :=
  (segments chars).flatMap capitalize

/-- Capitalise the segments between underscores and join them. -/
def camelCase (name : String) : String :=
  String.ofList (camelChars name.toList)

/-! ## Snake case -/

/-- Put everything into lower case, with an underscore before each upper-case letter that follows
a lower-case one; `afterLower` says whether one came just before. -/
def snakeFrom (afterLower : Bool) : List Char → List Char
  | [] => []
  | c :: rest =>
    (if Unicode.isUpper c && afterLower then ['_'] else []) ++ Unicode.toLower c ++
      snakeFrom (Unicode.isLower c) rest

def snakeChars (chars : List Char) : List Char :=
  snakeFrom false chars

/-- Put a name in camel case into words joined by underscores. -/
def snakeCase (name : String) : String :=
  String.ofList (snakeChars name.toList)

end ParserFoundry.Naming

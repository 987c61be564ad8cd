/-!
# Lengths in Bytes

How many bytes a text takes in UTF-8. Places in an input and the limits of file names are counted
in bytes.
-/

namespace ParserFoundry

/-- How many bytes a text takes. -/
def byteLength : List Char → Nat
  | [] => 0
  | c :: rest => c.utf8Size + byteLength rest

end ParserFoundry

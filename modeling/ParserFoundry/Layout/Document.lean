/-!
# Documents

Text whose line ends are not settled yet: words, places at which a line may end, and boxes that
group them. A document is a list of pieces.
-/

namespace ParserFoundry.Layout

/-- A place at which a line may end. -/
structure Break where
  /-- The blanks that are written if the line goes on. -/
  blanks : Nat := 0
  /-- The indentation of the next line, counted from that of the box. -/
  offset : Int := 0
  /-- Written at the end of the line if it ends here. -/
  before : String := ""
  /-- Written at the start of the next line if the line ends here. -/
  after : String := ""
  /-- Written if the line goes on. -/
  otherwise : String := ""
  /-- Whether the line always goes on. -/
  never : Bool := false
  /-- Whether the break is dropped at the end of a box. -/
  inner : Bool := false
deriving DecidableEq, Repr, Inhabited

/-- How the breaks of a box that does not fit on a line are used. -/
inductive Style where
  /-- All of them end a line. -/
  | consistent
  /-- Those end a line after which the text up to the next one does not fit. -/
  | inconsistent
deriving DecidableEq, Repr, Inhabited

/-- A piece of a document. -/
inductive Piece where
  | word (text : String)
  | brk (at_ : Break)
  /-- Pieces that are indented together. -/
  | box (style : Style) (indent : Int) (content : List Piece)
deriving Repr, Inhabited

abbrev Document := List Piece

/-- The blanks of a break that never fits on a line, and so always ends it. -/
def endless : Nat := 65535

/-- How far bodies are indented. -/
def indentation : Int := 4

/-! ## Breaks -/

def word (text : String) : Document := [.word text]

/-- A break that leaves nothing on a line that goes on. -/
def cut : Document := [.brk {}]

/-- A break that leaves one blank on a line that goes on. -/
def gap : Document := [.brk { blanks := 1 }]

/-- The end of a line. -/
def lineEnd : Document := [.brk { blanks := endless }]

/-- The end of a line if anything follows in the box. -/
def lineEndBefore : Document := [.brk { blanks := endless, inner := true }]

/-- No place for a line to end; it keeps what stands before it from being cut off. -/
def joint : Document := [.brk { never := true }]

/-- A break with a comma at the end of the line. -/
def commaCut : Document := [.brk { before := "," }]

/-! ## Boxes -/

/-- Leave out a last break that is wanted only if something follows. -/
def dropInner (content : Document) : Document :=
  match content.getLast? with
  | some (.brk at_) => if at_.inner then content.dropLast else content
  | _ => content

/-- A box, unless it holds a single break and nothing else. -/
def box (style : Style) (indent : Int) (content : Document) : Document :=
  match content with
  | [.brk _] => []
  | _ => [.box style indent (dropInner content)]

def consistent (indent : Int) (content : Document) : Document :=
  box .consistent indent content

def inconsistent (indent : Int) (content : Document) : Document :=
  box .inconsistent indent content

/-- Take back the indentation of a body after the last break. -/
def outdent (content : Document) : Document :=
  match content.getLast? with
  | some (.brk at_) => content.dropLast ++ [.brk { at_ with offset := at_.offset - indentation }]
  | _ => content

/-! ## Lists -/

/-- Items with commas between them, and one after the last of them if it ends a line. -/
def commaList : List Document → Document
  | [] => []
  | [item] => item ++ commaCut
  | item :: rest => item ++ word "," ++ gap ++ commaList rest

/-- A list within its delimiters, on one line or with one item per line. -/
def listBody (items : List Document) : Document :=
  consistent indentation (outdent (cut ++ commaList items))

end ParserFoundry.Layout

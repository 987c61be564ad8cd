import ParserFoundry.Layout.Document
/-!
# Printing Documents

A box fits if its text, with what follows it up to the next break, fits on the rest of the line;
then none of its breaks ends a line. The sizes are measured first, from the end to the start.
Widths are counted in bytes.
-/

namespace ParserFoundry.Layout

/-- The width of a line. -/
def margin : Int := 89

/-- The least width that a line has whatever its indentation. -/
def leastSpace : Int := 60

/-- What stands between words: blanks and line ends. -/
def isSpace (c : Char) : Bool :=
  c == ' ' || c == '\n'

/-! ## Measuring -/

/-- A piece with its size: the width from its start to the break that ends what must stay with
it. -/
inductive Sized where
  | word (text : String)
  | brk (at_ : Break) (size : Nat)
  | box (style : Style) (indent : Int) (size : Nat) (content : List Sized)
deriving Repr, Inhabited

/-- A measured document. -/
structure Measured where
  pieces : List Sized
  /-- The width up to the first break outside inner boxes. -/
  lead : Nat
  /-- The whole width. -/
  width : Nat
deriving Repr, Inhabited

mutual

/-- Measure a document that is followed by text of width `after` up to the next break. -/
def measure (after : Nat) : List Piece → Measured
  | [] => ⟨[], after, 0⟩
  | piece :: rest => measurePiece (measure after rest) piece

/-- Measure a piece in front of a measured document. -/
def measurePiece (rest : Measured) : Piece → Measured
  | .word text =>
    ⟨.word text :: rest.pieces, text.utf8ByteSize + rest.lead, text.utf8ByteSize + rest.width⟩
  | .brk at_ =>
    -- A break ends what must stay together in front of it, so its own lead is nothing.
    ⟨.brk at_ (at_.blanks + rest.lead) :: rest.pieces, 0, at_.blanks + rest.width⟩
  | .box style indent content =>
    -- A box has to stay with what follows it up to the next break outside.
    let inner := measure rest.lead content
    ⟨.box style indent (inner.width + rest.lead) inner.pieces :: rest.pieces,
      inner.width + rest.lead, inner.width + rest.width⟩

end

/-! ## Writing -/

/-- What has been written, and how much of the line is left. -/
structure Page where
  text : String := ""
  space : Int := margin
  /-- Blanks to be written before the next text. -/
  pending : Nat := 0
deriving Repr, Inhabited

namespace Page

/-- Write text without using up the line. -/
def put (page : Page) (text : String) : Page :=
  if text.isEmpty then page
  else
    { page with
      text := (page.text.pushn ' ' page.pending) ++ text
      pending := 0 }

/-- Write text. -/
def write (page : Page) (text : String) : Page :=
  let page := { page with text := page.text.pushn ' ' page.pending ++ text, pending := 0 }
  { page with space := page.space - text.utf8ByteSize }

/-- Go on with the line at a break. -/
def goOn (page : Page) (at_ : Break) : Page :=
  { text := page.text ++ at_.otherwise
    space := page.space - at_.blanks - at_.otherwise.utf8ByteSize
    pending := page.pending + at_.blanks }

/-- End the line at a break; `indent` is the indentation of the box. -/
def endLine (page : Page) (at_ : Break) (indent : Int) : Page :=
  let column := indent + at_.offset
  let page := page.put at_.before
  let page : Page :=
    -- Blanks at the end of a line are never written: they stay pending, and are replaced here.
    { text := page.text ++ "\n"
      space := max (margin - column) leastSpace
      pending := column.toNat }
  if at_.after.isEmpty then page else page.write at_.after

end Page

/-- The box that is being written. -/
structure Frame where
  /-- How its breaks are used; they are not if it fits on the line. -/
  style? : Option Style
  indent : Int
deriving Repr, Inhabited

/-- Whether the line goes on at a break of the box. -/
def Frame.goesOn (frame : Frame) (at_ : Break) (size : Nat) (space : Int) : Bool :=
  at_.never ||
    match frame.style? with
    | none => true
    | some .consistent => false
    | some .inconsistent => size ≤ space

mutual

def writeAll (frame : Frame) (page : Page) : List Sized → Page
  | [] => page
  | piece :: rest => writeAll frame (writePiece frame page piece) rest

def writePiece (frame : Frame) (page : Page) : Sized → Page
  | .word text => page.write text
  | .brk at_ size =>
    if frame.goesOn at_ size page.space then page.goOn at_ else page.endLine at_ frame.indent
  | .box style indent size content =>
    -- The size includes what follows the box, so a box that just fits may still be broken.
    if size > page.space then writeAll ⟨some style, frame.indent + indent⟩ page content
    else writeAll ⟨none, frame.indent⟩ page content

end

/-- The text of a document. -/
def print (document : Document) : String :=
  (writeAll ⟨some .inconsistent, 0⟩ {} (measure 0 document).pieces).text

end ParserFoundry.Layout

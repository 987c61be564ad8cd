import ParserFoundry.Layout.Print
/-!
# Spellings of a Document

What the printer can make of a document: its words in order, with blanks and line ends at the
breaks, and the texts that a break has for the way in which it is used. The printer's measuring
only decides between these spellings.

Main results:
- `spells_print`: the text of a document is one of its spellings.
- `spells_append`, `Spelled.listed`: the spellings of a document from those of its parts.
-/

namespace ParserFoundry.Layout

variable {mode : Option Style} {text : List Char}

/-! ## Blank text -/

/-- Text without ink. -/
def Blank (text : List Char) : Prop :=
  ∀ c ∈ text, isSpace c = true

/-- Nothing is blank. -/
theorem blank_nil : Blank [] := by simp [Blank]

/-- Indentation is blank. -/
theorem blank_replicate (count : Nat) : Blank (List.replicate count ' ') := by
  intro c hc
  rw [List.eq_of_mem_replicate hc]
  rfl

/-- Blanks behind blanks are blank. -/
theorem Blank.append {first second : List Char} (h : Blank first) (h' : Blank second) :
    Blank (first ++ second) := by
  -- a character comes from the one text or from the other
  intro c hc
  rcases List.mem_append.mp hc with hc | hc
  · exact h c hc
  · exact h' c hc

/-- A line end is blank, too. -/
theorem Blank.lineEnd (h : Blank text) : Blank ('\n' :: text) := by
  intro c hc
  rcases List.mem_cons.mp hc with rfl | hc
  · rfl
  · exact h c hc

/-! ## Spellings -/

/-- What a break may be written as, in a box whose breaks are used as `mode` says: in a box that
fits, the line goes on at all breaks; in a consistent one it ends at all of them. -/
inductive Break.Spells (mode : Option Style) (at_ : Break) : List Char → Prop
  | goOn {blanks : List Char} (allowed : at_.never = true ∨ mode ≠ some .consistent)
      (hblank : Blank blanks) : Break.Spells mode at_ (at_.otherwise.toList ++ blanks)
  | endLine {blanks : List Char} (allowed : at_.never = false ∧ mode ≠ none)
      (hblank : Blank blanks) :
      Break.Spells mode at_ (at_.before.toList ++ '\n' :: blanks ++ at_.after.toList)

/-- Only the texts of a break, and whether it may end a line, matter. -/
theorem Break.Spells.of_texts {first second : Break} (h : first.Spells mode text)
    (hbefore : first.before = second.before) (hafter : first.after = second.after)
    (hotherwise : first.otherwise = second.otherwise) (hnever : first.never = second.never) :
    second.Spells mode text := by
  cases h with
  | goOn allowed hblank =>
    rw [hotherwise]
    exact .goOn (hnever ▸ allowed) hblank
  | endLine allowed hblank =>
    rw [hbefore, hafter]
    exact .endLine (hnever ▸ allowed) hblank

mutual

/-- `text` is a spelling of the pieces. -/
def Spells (mode : Option Style) : List Piece → List Char → Prop
  | [], text => text = []
  | piece :: rest, text =>
    ∃ first later, text = first ++ later ∧ piece.Spells mode first ∧ Spells mode rest later

/-- `text` is a spelling of the piece. -/
def Piece.Spells (mode : Option Style) : Piece → List Char → Prop
  | .word word, text => text = word.toList
  | .brk at_, text => at_.Spells mode text
  | .box style _ content, text =>
    Layout.Spells none content text ∨ Layout.Spells (some style) content text

end

/-! ## The printer -/

/-- Pushing blanks writes them at the end. -/
theorem toList_pushn (text : String) (count : Nat) :
    (text.pushn ' ' count).toList = text.toList ++ List.replicate count ' ' := by
  rw [String.pushn_eq_repeat_push]
  induction count with
  | zero => simp [Nat.repeat]
  | succ count ih => simp [Nat.repeat, ih, List.replicate_succ']

/-- Pending blanks come in front of what is written, and are then no longer pending. -/
theorem toList_write (page : Page) (text : String) :
    (page.write text).text.toList =
      page.text.toList ++ List.replicate page.pending ' ' ++ text.toList := by
  simp [Page.write, toList_pushn]

/-- From `page` to `page'`, what `text` spells is written: whatever pending blanks are written in
the end, some of the blanks that were pending before stand in front of it. -/
def Wrote (Spelled : List Char → Prop) (page page' : Page) : Prop :=
  ∀ flushed ≤ page'.pending, ∃ lead ≤ page.pending, ∃ text, Spelled text ∧
    page'.text.toList ++ List.replicate flushed ' ' =
      page.text.toList ++ List.replicate lead ' ' ++ text

/-- A word is written as it is, behind the pending blanks. -/
theorem wrote_word (page : Page) (word : String) :
    Wrote (Piece.Spells mode (.word word)) page (page.write word) := by
  intro flushed hflushed
  obtain rfl : flushed = 0 := Nat.le_zero.mp hflushed
  exact ⟨page.pending, Nat.le_refl _, word.toList, rfl, by simp [toList_write]⟩

/-- A break at which the line goes on leaves its blanks pending. -/
theorem wrote_goOn (page : Page) {at_ : Break}
    (allowed : at_.never = true ∨ mode ≠ some .consistent) :
    Wrote (Piece.Spells mode (.brk at_)) page (page.goOn at_) := by
  intro flushed _
  refine ⟨0, Nat.zero_le _, at_.otherwise.toList ++ List.replicate flushed ' ', ?_, ?_⟩
  · exact .goOn allowed (blank_replicate flushed)
  · simp [Page.goOn]

/-- Text at the end of a line takes the pending blanks with it, unless it is empty. -/
theorem toList_put (page : Page) (text : String) :
    ∃ lead ≤ page.pending,
      (page.put text).text.toList = page.text.toList ++ List.replicate lead ' ' ++ text.toList := by
  -- an empty text asks for no blanks in front of it
  by_cases h : text = ""
  · exact ⟨0, Nat.zero_le _, by simp [Page.put, h]⟩
  · exact ⟨page.pending, Nat.le_refl _, by simp [Page.put, h, toList_pushn]⟩

/-- A break at which the line ends writes its two texts around the line end. -/
theorem wrote_endLine (page : Page) {at_ : Break} (indent : Int)
    (allowed : at_.never = false ∧ mode ≠ none) :
    Wrote (Piece.Spells mode (.brk at_)) page (page.endLine at_ indent) := by
  intro flushed hflushed
  obtain ⟨lead, hlead, hput⟩ := toList_put page at_.before
  -- blanks that were pending are written in front of the break's text, or dropped
  by_cases hafter : at_.after = ""
  · refine ⟨lead, hlead, at_.before.toList ++ '\n' :: List.replicate flushed ' ' ++ at_.after.toList,
      .endLine allowed (blank_replicate flushed), ?_⟩
    simp [Page.endLine, hafter, hput]
  · refine ⟨lead, hlead, at_.before.toList ++
      '\n' :: List.replicate (indent + at_.offset).toNat ' ' ++ at_.after.toList,
      .endLine allowed (blank_replicate _), ?_⟩
    have hpending : (page.endLine at_ indent).pending = 0 := by
      simp [Page.endLine, hafter, Page.write]
    obtain rfl : flushed = 0 := by omega
    simp [Page.endLine, hafter, hput, toList_write]

/-- What is written in two steps is spelled in two parts; blanks between them count for the second.
-/
theorem Wrote.append {first later : List Char → Prop} {page between page' : Page}
    (h : Wrote first page between) (h' : Wrote later between page') :
    Wrote (fun text => ∃ one other, text = one ++ other ∧ first one ∧ later other) page page' := by
  intro flushed hflushed
  obtain ⟨lead', hlead', other, hother, htext'⟩ := h' flushed hflushed
  -- what the second step leaves over of the blanks, the first one has left pending
  obtain ⟨lead, hlead, one, hone, htext⟩ := h lead' hlead'
  exact ⟨lead, hlead, one ++ other, ⟨one, other, rfl, hone, hother⟩, by simp [htext', htext]⟩

mutual

/-- Writing measured pieces writes a spelling of the pieces. -/
theorem wrote_writeAll (frame : Frame) (page : Page) (width : Nat) :
    ∀ pieces : List Piece,
      Wrote (Spells frame.style? pieces) page (writeAll frame page (measure width pieces).pieces)
  | [] => by
    intro flushed hflushed
    exact ⟨flushed, hflushed, [], rfl, by simp [measure, writeAll]⟩
  | piece :: rest => by
    obtain ⟨sized, hsized, hpiece⟩ := wrote_writePiece frame page (measure width rest) piece
    have hrest := wrote_writeAll frame (writePiece frame page sized) width rest
    rw [measure, hsized, writeAll]
    exact hpiece.append hrest

/-- A piece is measured as one piece, and writing that writes a spelling of it. -/
theorem wrote_writePiece (frame : Frame) (page : Page) (rest : Measured) :
    ∀ piece : Piece, ∃ sized, (measurePiece rest piece).pieces = sized :: rest.pieces ∧
      Wrote (piece.Spells frame.style?) page (writePiece frame page sized)
  | .word text => ⟨.word text, rfl, wrote_word page text⟩
  | .brk at_ => by
    refine ⟨.brk at_ (at_.blanks + rest.lead), rfl, ?_⟩
    rw [writePiece]
    -- a break goes on if it never ends a line, or if the style lets it go on
    split
    case isTrue hgoesOn =>
      refine wrote_goOn page ?_
      rcases hstyle : frame.style? with _ | ⟨_ | _⟩
      · exact .inr (by simp)
      · exact .inl (by simpa [Frame.goesOn, hstyle] using hgoesOn)
      · exact .inr (by simp)
    case isFalse hends =>
      refine wrote_endLine page frame.indent ⟨?_, ?_⟩
      · cases hnever : at_.never with
        | false => rfl
        | true => exact absurd (by simp [Frame.goesOn, hnever]) hends
      · intro hstyle
        exact hends (by simp [Frame.goesOn, hstyle])
  | .box style indent content => by
    refine ⟨.box style indent _ (measure rest.lead content).pieces, rfl, ?_⟩
    rw [writePiece]
    split
    · intro flushed hflushed
      obtain ⟨lead, hlead, text, htext, heq⟩ :=
        wrote_writeAll ⟨some style, frame.indent + indent⟩ page rest.lead content flushed hflushed
      exact ⟨lead, hlead, text, .inr htext, heq⟩
    · intro flushed hflushed
      obtain ⟨lead, hlead, text, htext, heq⟩ :=
        wrote_writeAll ⟨none, frame.indent⟩ page rest.lead content flushed hflushed
      exact ⟨lead, hlead, text, .inl htext, heq⟩

end

/-- The text of a document is one of its spellings. -/
theorem spells_print (document : Document) :
    Spells (some .inconsistent) document (print document).toList := by
  obtain ⟨lead, hlead, text, htext, heq⟩ :=
    wrote_writeAll ⟨some .inconsistent, 0⟩ {} 0 document 0 (Nat.zero_le _)
  obtain rfl : lead = 0 := Nat.le_zero.mp hlead
  have : (print document).toList = text := by simpa [print] using heq
  exact this ▸ htext

/-! ## Spellings of parts -/

/-- Spellings of a document are spellings of its parts, one behind the other. -/
theorem spells_append {first later : List Piece} :
    Spells mode (first ++ later) text ↔
      ∃ one other, text = one ++ other ∧ Spells mode first one ∧ Spells mode later other := by
  -- piece by piece, and both ways: the pieces of the first part come before those of the second
  induction first generalizing text with
  | nil =>
    constructor
    · exact fun h => ⟨[], text, rfl, rfl, h⟩
    · rintro ⟨_, other, rfl, rfl, h⟩
      exact h
  | cons piece rest ih =>
    simp only [List.cons_append, Spells, ih]
    constructor
    · rintro ⟨one, _, rfl, hone, two, other, rfl, htwo, hother⟩
      exact ⟨one ++ two, other, by simp, ⟨one, two, rfl, hone, htwo⟩, hother⟩
    · rintro ⟨_, other, rfl, ⟨one, two, rfl, hone, htwo⟩, hother⟩
      exact ⟨one, two ++ other, by simp, hone, two, other, rfl, htwo, hother⟩

/-- A document of one piece is spelled as the piece is. -/
theorem spells_singleton {piece : Piece} : Spells mode [piece] text ↔ piece.Spells mode text := by
  simp [Spells]

/-- `text` spells the document, in whatever box it stands. -/
def Spelled (document : Document) (text : List Char) : Prop :=
  ∃ mode, Spells mode document text

namespace Spelled

variable {document first later : Document}

/-- An empty document is spelled by nothing. -/
theorem nil (h : Spelled [] text) : text = [] := by
  obtain ⟨mode, h⟩ := h
  exact h

/-- A spelling of two parts falls into spellings of the parts, in the same kind of box. -/
theorem append (h : Spelled (first ++ later) text) :
    ∃ one other, text = one ++ other ∧ Spelled first one ∧ Spelled later other := by
  obtain ⟨mode, h⟩ := h
  obtain ⟨one, other, htext, hone, hother⟩ := spells_append.mp h
  exact ⟨one, other, htext, ⟨mode, hone⟩, ⟨mode, hother⟩⟩

/-- A word is spelled in one way only. -/
theorem word {written : String} (h : Spelled (word written) text) : text = written.toList := by
  obtain ⟨mode, h⟩ := h
  exact spells_singleton.mp h

/-- A word in front is spelled first, and what follows behind it. -/
theorem word_append {written : String} (h : Spelled (Layout.word written ++ later) text) :
    ∃ other, text = written.toList ++ other ∧ Spelled later other := by
  obtain ⟨one, other, rfl, hone, hother⟩ := h.append
  exact ⟨other, by rw [hone.word], hother⟩

/-- A break is spelled as the box that it stands in says. -/
theorem brk {at_ : Break} (h : Spelled [.brk at_] text) :
    ∃ mode, at_.Spells mode text := by
  obtain ⟨mode, h⟩ := h
  exact ⟨mode, spells_singleton.mp h⟩

/-- A break without texts of its own spells blanks. -/
theorem blank_of_plain {at_ : Break} (h : Spelled [.brk at_] text)
    (hplain : at_.before = "" ∧ at_.after = "" ∧ at_.otherwise = "") : Blank text := by
  -- whether the line ends or goes on, only blanks are left of the texts
  obtain ⟨hbefore, hafter, hotherwise⟩ := hplain
  obtain ⟨mode, h⟩ := h.brk
  cases h with
  | goOn _ hblank => simpa [hotherwise] using hblank
  | endLine _ hblank => simpa [hbefore, hafter] using hblank.lineEnd

/-- A break that only sets blanks spells blanks. -/
theorem blank {blanks : Nat} {offset : Int} {never inner : Bool}
    (h : Spelled [.brk { blanks, offset, never, inner }] text) : Blank text :=
  h.blank_of_plain ⟨rfl, rfl, rfl⟩

/-- A break that ends its line with a comma spells blanks, possibly behind a comma. -/
theorem comma {at_ : Break} (h : Spelled [.brk at_] text) (hbefore : at_.before = ",")
    (hplain : at_.after = "" ∧ at_.otherwise = "") :
    ∃ blanks, Blank blanks ∧ (text = blanks ∨ text = ',' :: blanks) := by
  obtain ⟨hafter, hotherwise⟩ := hplain
  obtain ⟨mode, h⟩ := h.brk
  cases h with
  | goOn _ hblank => exact ⟨_, hblank, .inl (by simp [hotherwise])⟩
  | endLine _ hblank => exact ⟨_, hblank.lineEnd, .inr (by simp [hbefore, hafter])⟩

/-- A box spells what its content does, unless that is a single break. -/
theorem box {style : Style} {indent : Int} {content : Document}
    (h : Spelled (Layout.box style indent content) text) :
    (text = [] ∧ ∃ at_, content = [.brk at_]) ∨ Spelled (dropInner content) text := by
  obtain ⟨mode, h⟩ := h
  unfold Layout.box at h
  split at h
  · exact .inl ⟨h, _, rfl⟩
  · rcases spells_singleton.mp h with h | h
    · exact .inr ⟨_, h⟩
    · exact .inr ⟨_, h⟩

end Spelled

/-! ## Ends of boxes -/

@[simp] theorem dropInner_append_word (content : Document) (written : String) :
    dropInner (content ++ word written) = content ++ word written := by
  simp [dropInner, word]

@[simp] theorem dropInner_append_brk (content : Document) (at_ : Break) :
    dropInner (content ++ [.brk at_]) = if at_.inner then content else content ++ [.brk at_] := by
  simp [dropInner]

/-- What a document starts with stays if more follows. -/
theorem dropInner_append {first later : Document} (hlater : later ≠ []) :
    dropInner (first ++ later) = first ++ dropInner later := by
  obtain rfl | ⟨front, piece, rfl⟩ := List.eq_nil_or_concat later
  · exact absurd rfl hlater
  · rw [List.concat_eq_append, ← List.append_assoc]
    cases piece with
    | brk at_ =>
      rw [dropInner_append_brk, dropInner_append_brk]
      split <;> simp
    | word written => simp [dropInner]
    | box style indent content => simp [dropInner]

@[simp] theorem outdent_append_brk (content : Document) (at_ : Break) :
    outdent (content ++ [.brk at_]) =
      content ++ [.brk { at_ with offset := at_.offset - indentation }] := by
  simp [outdent]

/-- A box whose content ends with a box spells its content. -/
theorem Spelled.box_last {style style' : Style} {indent indent' : Int} {content : Document}
    {inner : List Piece}
    (h : Spelled (Layout.box style indent (content ++ [.box style' indent' inner])) text) :
    Spelled (content ++ [.box style' indent' inner]) text := by
  rcases h.box with ⟨-, at_, hcontent⟩ | h
  · cases content <;> simp at hcontent
  · simpa [dropInner] using h

/-- A box that holds a box only spells that one. -/
theorem Spelled.box_box {style style' : Style} {indent indent' : Int} {content : List Piece}
    (h : Spelled (Layout.box style indent [.box style' indent' content]) text) :
    Spelled [.box style' indent' content] text := by
  have h : Spelled (Layout.box style indent ([] ++ [.box style' indent' content])) text := h
  exact h.box_last

/-- A box spells what its content starts with. -/
theorem Spelled.box_start {style : Style} {indent : Int} {first : String} {later : Document}
    (h : Spelled (Layout.box style indent (Layout.word first ++ later)) text) (hlater : later ≠ []) :
    Spelled (Layout.word first ++ dropInner later) text := by
  rcases h.box with ⟨-, at_, hcontent⟩ | h
  · cases hcontent
  · rwa [dropInner_append hlater] at h

/-- Indentation makes no difference to a spelling. -/
theorem spells_outdent {content : Document} :
    Spells mode (outdent content) text ↔ Spells mode content text := by
  obtain rfl | ⟨front, piece, rfl⟩ := List.eq_nil_or_concat content
  · rfl
  -- only a break at the end is changed, and of it only the offset
  · rw [List.concat_eq_append]
    cases piece with
    | brk at_ =>
      have hpiece : ∀ other, Spells mode [.brk { at_ with offset := at_.offset - indentation }] other ↔
          Spells mode [.brk at_] other := by
        intro other
        rw [spells_singleton, spells_singleton]
        exact ⟨fun h => h.of_texts rfl rfl rfl rfl, fun h => h.of_texts rfl rfl rfl rfl⟩
      rw [outdent_append_brk, spells_append, spells_append]
      simp only [hpiece]
    | word written => simp [outdent]
    | box style indent inner => simp [outdent]

/-- A box whose content ends with a word spells its content. -/
theorem Spelled.box_word {style : Style} {indent : Int} {content : Document} {written : String}
    (h : Spelled (Layout.box style indent (content ++ Layout.word written)) text) :
    Spelled (content ++ Layout.word written) text := by
  rcases h.box with ⟨-, at_, hcontent⟩ | h
  · cases content <;> simp [Layout.word] at hcontent
  · rwa [dropInner_append_word] at h

/-- A box whose content ends with a break spells its content, if the break is not alone and is not
dropped. -/
theorem Spelled.box_brk {style : Style} {indent : Int} {content : Document} {at_ : Break}
    (h : Spelled (Layout.box style indent (content ++ [.brk at_])) text) (hcontent : content ≠ [])
    (hinner : at_.inner = false) : Spelled (content ++ [.brk at_]) text := by
  rcases h.box with ⟨-, other, hother⟩ | h
  · cases content with
    | nil => exact absurd rfl hcontent
    | cons piece rest => simp at hother
  · rwa [dropInner_append_brk, hinner] at h

/-- A box with an outdented body spells its content, if the body does not end with a break that is
dropped. -/
theorem Spelled.box_outdent {style : Style} {indent : Int} {front body : Document} {at_ : Break}
    (h : Spelled (Layout.box style indent (front ++ outdent (body ++ [.brk at_]))) text)
    (hcontent : front ++ body ≠ []) (hinner : at_.inner = false) :
    Spelled (front ++ (body ++ [.brk at_])) text := by
  rw [outdent_append_brk, ← List.append_assoc] at h
  obtain ⟨mode, h⟩ := h.box_brk hcontent hinner
  refine ⟨mode, ?_⟩
  rw [List.append_assoc, spells_append, ← outdent_append_brk] at h
  simp only [spells_outdent] at h
  exact spells_append.mpr h

/-! ## Lists -/

/-- Spellings of items with commas between them, and possibly one behind the last of them. -/
inductive Listed : List Document → List Char → Prop
  | nil : Listed [] []
  | last {item : Document} {written blanks : List Char} :
      Spelled item written → Blank blanks → Listed [item] (written ++ blanks)
  | cons {item : Document} {rest : List Document} {written blanks others : List Char} :
      Spelled item written → Blank blanks → Listed rest others →
      Listed (item :: rest) (written ++ ',' :: (blanks ++ others))

/-- Items with commas between them end with the break behind the last item, and they spell a
list. -/
theorem listed_of_commas (list : List Document → Document) (between last : Break)
    (hlast : ∀ item, list [item] = item ++ [.brk last])
    (hcons : ∀ item next rest,
      list (item :: next :: rest) = item ++ word "," ++ [.brk between] ++ list (next :: rest))
    (hbetween : between.before = "" ∧ between.after = "" ∧ between.otherwise = "")
    (hend : last.before = "," ∧ last.after = "" ∧ last.otherwise = "")
    {items : List Document} (hitems : items ≠ []) :
    ∃ front, list items = front ++ [.brk last] ∧
      ∀ text, Spelled (front ++ [.brk last]) text → Listed items text := by
  induction items with
  | nil => exact absurd rfl hitems
  | cons item rest ih =>
    cases rest with
    | nil =>
      refine ⟨item, hlast item, fun text h => ?_⟩
      obtain ⟨written, other, rfl, hwritten, hother⟩ := h.append
      -- the break behind the last item is nothing but blanks, or a comma and blanks
      obtain ⟨blanks, hblank, rfl | rfl⟩ := hother.comma hend.1 hend.2
      · exact .last hwritten hblank
      · exact (List.append_nil blanks) ▸ .cons hwritten hblank .nil
    | cons next rest =>
      obtain ⟨front, hfront, hlisted⟩ := ih (List.cons_ne_nil _ _)
      refine ⟨item ++ word "," ++ [.brk between] ++ front, by simp [hcons, hfront], ?_⟩
      intro text h
      rw [List.append_assoc] at h
      obtain ⟨_, others, rfl, h, hothers⟩ := h.append
      obtain ⟨_, blanks, rfl, h, hblanks⟩ := h.append
      obtain ⟨written, _, rfl, hwritten, hcomma⟩ := h.append
      obtain rfl := hcomma.word
      have hrest := hlisted others hothers
      simpa using Listed.cons hwritten (hblanks.blank_of_plain hbetween) hrest

/-- A list within its delimiters spells its items, behind blanks. -/
theorem Spelled.listed {style : Style} {indent : Int} {items : List Document}
    (h : Spelled (Layout.box style indent (outdent (cut ++ commaList items))) text) :
    ∃ blanks others, text = blanks ++ others ∧ Blank blanks ∧ Listed items others := by
  cases items with
  | nil =>
    refine ⟨[], [], ?_, blank_nil, .nil⟩
    obtain ⟨mode, h⟩ := h
    exact h
  | cons item rest =>
    obtain ⟨front, hfront, hlisted⟩ := listed_of_commas commaList { blanks := 1 } { before := "," }
      (fun _ => rfl) (fun _ _ _ => rfl) ⟨rfl, rfl, rfl⟩ ⟨rfl, rfl, rfl⟩ (List.cons_ne_nil item rest)
    rw [hfront, ← List.append_assoc, ← List.nil_append (outdent _)] at h
    have h := h.box_outdent (by simp [cut]) rfl
    rw [List.nil_append, List.append_assoc] at h
    obtain ⟨blanks, others, rfl, hblanks, hothers⟩ := h.append
    exact ⟨blanks, others, rfl, hblanks.blank, hlisted others hothers⟩

end ParserFoundry.Layout

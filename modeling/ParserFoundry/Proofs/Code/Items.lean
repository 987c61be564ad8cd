import ParserFoundry.Proofs.Code.Data
/-!
# Items Read Back

A file is the texts of its items, one after the other. From the text of an item, readers find what
the item says, and readers of other kinds of items find nothing.

Main results:
- `spelled_fileText`: the text of a file is made of spellings of its items.
-/

namespace ParserFoundry.Code

open Layout (Blank Spelled Listed isSpace word listBody inconsistent consistent lineEndBefore lineEnd)
open Reading

variable {text : List Char}

/-! ## Files -/

/-- An item ends with a line end, and that is not all of it. -/
theorem Item.exists_lineEnd (item : Item) : ∃ front ≠ [], item.document = front ++ lineEnd := by
  cases item <;> refine ⟨_, ?_, rfl⟩ <;> exact List.cons_ne_nil _ _

theorem spelled_flatten {documents : List Layout.Document} (h : Spelled documents.flatten text) :
    ∃ texts : List (List Char), text = texts.flatten ∧ List.Forall₂ Spelled documents texts := by
  induction documents generalizing text with
  | nil => exact ⟨[], h.nil, .nil⟩
  | cons document rest ih =>
    obtain ⟨first, later, rfl, hfirst, hlater⟩ := h.append
    obtain ⟨texts, rfl, htexts⟩ := ih hlater
    exact ⟨first :: texts, rfl, .cons hfirst htexts⟩

/-- The text of a file is made of spellings of its items. -/
theorem spelled_fileText (items : List Item) :
    ∃ texts : List (List Char), (fileText items).toList = texts.flatten ∧
      List.Forall₂ (fun item text => Spelled item.document text) items texts := by
  have hbox : Spelled (consistent 0 (items.map Item.document).flatten) (fileText items).toList :=
    ⟨_, Layout.spells_print _⟩
  have hcontent : Spelled (items.map Item.document).flatten (fileText items).toList := by
    -- without an item there is nothing in the box; otherwise the last line end closes it
    obtain rfl | ⟨front, last, rfl⟩ := List.eq_nil_or_concat items
    · rcases hbox.box with ⟨-, at_, hat⟩ | h
      · cases hat
      · exact h
    · obtain ⟨inner, hinner, hlast⟩ := last.exists_lineEnd
      have hdocuments : ((front.concat last).map Item.document).flatten =
          ((front.map Item.document).flatten ++ inner) ++ lineEnd := by
        simp [hlast]
      rw [hdocuments] at hbox ⊢
      exact hbox.box_brk (by simp [hinner]) rfl
  obtain ⟨texts, htext, htexts⟩ := spelled_flatten hcontent
  exact ⟨texts, htext, List.forall₂_map_left_iff.mp htexts⟩

/-! ## How items start -/

/-- The kinds of items that start with different words. -/
inductive ItemKind where
  | use_
  | constant
  | static (visibility : Visibility)
  | structure_
  | enumeration
  | implementation
  | function (visibility : Visibility)
deriving DecidableEq

namespace ItemKind

/-- The words that items of the kind start with. -/
def start : ItemKind → String
  | use_ => "use "
  | constant => "pub const "
  | static visibility => visibility.words ++ "static "
  | structure_ => "pub struct "
  | enumeration => "#[derive("
  | implementation => "impl"
  | function visibility => visibility.words ++ "fn "

def isStatic : ItemKind → Bool
  | static _ => true
  | _ => false

def all : List ItemKind :=
  let visibilities : List Visibility := [.hidden, .everywhere, .parent, .own, .crate]
  [use_, constant, structure_, enumeration, implementation] ++ visibilities.map static ++
    visibilities.map function

theorem mem_all (kind : ItemKind) : kind ∈ all := by
  cases kind with
  | static visibility => cases visibility <;> decide
  | function visibility => cases visibility <;> decide
  | _ => decide

theorem start_ink (kind : ItemKind) : kind.start.toList.head?.any (!isSpace ·) = true := by
  -- there are few kinds, so all of them are tried
  have hall : ∀ kind ∈ all, kind.start.toList.head?.any (!isSpace ·) = true := by decide
  exact hall kind kind.mem_all

/-- The words of two kinds differ before the shorter ones end. -/
theorem disagree_start {first second : ItemKind} (hne : first ≠ second) :
    disagree first.start second.start = true := by
  have hall : ∀ first ∈ all, ∀ second ∈ all,
      first ≠ second → disagree first.start second.start = true := by
    decide +kernel
  exact hall first first.mem_all second second.mem_all hne

end ItemKind

def Item.kind : Item → ItemKind
  | .use_ .. => .use_
  | .constant .. => .constant
  | .static visibility .. => .static visibility
  | .record .. => .structure_
  | .wrapper .. => .structure_
  | .enumeration .. => .enumeration
  | .implementation .. => .implementation
  | .function definition => .function definition.visibility

/-- All spellings of the document start with the word. -/
def StartsWith (document : Layout.Document) (first : String) : Prop :=
  ∀ text, Spelled document text → ∃ rest, text = first.toList ++ rest

namespace StartsWith

variable {first more : String} {front later inner : Layout.Document} {style : Layout.Style}
  {indent : Int}

theorem cons : StartsWith (.word first :: later) first := by
  intro text h
  have h : Spelled (word first ++ later) text := h
  obtain ⟨rest, htext, -⟩ := h.word_append
  exact ⟨rest, htext⟩

theorem append (h : StartsWith front first) : StartsWith (front ++ later) first := by
  intro text htext
  obtain ⟨_, other, rfl, hfront, -⟩ := htext.append
  obtain ⟨rest, rfl⟩ := h _ hfront
  exact ⟨rest ++ other, List.append_assoc ..⟩

/-- A part of the word that a document starts with. -/
theorem of_append (h : StartsWith front (first ++ more)) : StartsWith front first := by
  intro text htext
  obtain ⟨rest, rfl⟩ := h text htext
  exact ⟨more.toList ++ rest, by simp⟩

theorem box (h : StartsWith front first) (hfront : front ≠ []) (hlater : later ≠ []) :
    StartsWith (Layout.box style indent (front ++ later)) first := by
  intro text htext
  rcases htext.box with ⟨-, at_, hcontent⟩ | htext
  · rcases List.append_eq_singleton_iff.mp hcontent with ⟨hnil, -⟩ | ⟨-, hnil⟩
    · exact absurd hnil hfront
    · exact absurd hnil hlater
  · rw [Layout.dropInner_append hlater] at htext
    exact h.append _ htext

theorem box_cons : StartsWith (Layout.box style indent (.word first :: inner)) first := by
  cases inner with
  | nil =>
    intro text h
    have h : Spelled (Layout.box style indent ([] ++ word first)) text := h
    exact ⟨[], by simpa using h.box_word.word⟩
  | cons piece pieces =>
    have hfirst : StartsWith (word first) first := cons
    exact hfirst.box nofun (List.cons_ne_nil piece pieces)

end StartsWith

theorem Item.startsWith (item : Item) : StartsWith item.document item.kind.start := by
  -- how deep the first word stands depends on the boxes around it
  cases item with
  | use_ => exact StartsWith.cons.of_append.of_append
  | constant => exact StartsWith.box_cons.append.of_append.of_append
  | static => exact StartsWith.box_cons.append.of_append.of_append
  | record => exact StartsWith.box_cons.append.append.of_append
  | wrapper => exact StartsWith.box_cons.append.of_append
  | enumeration => exact StartsWith.cons.of_append.of_append
  | implementation generics trait? subject bounds members =>
    -- the word stands in the innermost of three boxes, none of which it fills by itself
    have hhead : StartsWith (consistent Layout.indentation (word "impl" ++ genericsDocument generics))
        "impl" := StartsWith.box_cons
    simp only [Item.document, List.append_assoc]
    refine (StartsWith.box (StartsWith.box hhead ?_ ?_) ?_ ?_).append
    · exact List.cons_ne_nil _ _
    · exact List.cons_ne_nil _ _
    · exact List.cons_ne_nil _ _
    · simp [word]
  | function => exact StartsWith.box_cons.append.append.of_append

/-- The words of a kind are found in front of items of that kind only. -/
theorem expect?_start {item : Item} (h : Spelled item.document text) :
    ∃ rest, text = item.kind.start.toList ++ rest ∧
      ∀ kind : ItemKind, expect? kind.start text = if item.kind = kind then some rest else none := by
  obtain ⟨rest, rfl⟩ := item.startsWith text h
  refine ⟨rest, rfl, fun kind => ?_⟩
  split
  case isTrue hkind =>
    subst hkind
    exact expect?_append _ item.kind.start_ink rest
  case isFalse hkind =>
    exact expect?_eq_none_of_disagree item.kind.start_ink
      (ItemKind.disagree_start (Ne.symm hkind)) rest

/-! ## Definitions -/

theorem data?_found {value : Expr} (hvalue : IsData value) {atStart : Bool}
    (hspelled : Spelled (value.form atStart).whole text) {blanks rest : List Char}
    (hblank : Blank blanks) (hrest : Ends rest) :
    data? (blanks ++ (text ++ rest)) = some (value, rest) :=
  (hvalue.reads hspelled (by simp; omega)).found blanks rest hblank hrest

/-- A definition spells its name, its type and its value. -/
theorem spelled_definition {words name type : String} {value : Expr}
    (h : Spelled (consistent 0 (word (words ++ name ++ ": ") ++ (Ty.named type).document ++
      word " = " ++ Layout.joint ++ value.document false ++ word ";") ++ lineEnd) text) :
    ∃ blanks written after, text = words.toList ++ (name.toList ++ (": ".toList ++ (type.toList ++
        (" = ".toList ++ (blanks ++ (written ++ ';' :: after)))))) ∧
      Blank blanks ∧ Spelled (value.form false).whole written ∧ Blank after := by
  -- piece by piece from the end, as the definition is laid out
  obtain ⟨_, after, rfl, h, hafter⟩ := h.append
  obtain ⟨_, _, rfl, h, hclose⟩ := h.box_word.append
  obtain ⟨_, written, rfl, h, hwritten⟩ := h.append
  obtain ⟨_, blanks, rfl, h, hblanks⟩ := h.append
  obtain ⟨_, _, rfl, h, hequals⟩ := h.append
  obtain ⟨_, _, rfl, hname, htype⟩ := h.append
  refine ⟨blanks, written, after, ?_, hblanks.blank, hwritten, hafter.blank⟩
  have htype : _ = type.toList := Spelled.word htype
  rw [hname.word, htype, hequals.word, hclose.word]
  simp

theorem definition?_found {name type : String} (hname : isPlainName name)
    (htype : isPlainName type) {value : Expr} (hvalue : IsData value) {blanks : List Char}
    (hblank : Blank blanks) (hspelled : Spelled (value.form false).whole text) (rest : List Char) :
    definition? (name.toList ++ (": ".toList ++ (type.toList ++ (" = ".toList ++
      (blanks ++ (text ++ ';' :: rest)))))) = some ((name, value), rest) := by
  have hcolon : ∀ rest, expect? ":" (": ".toList ++ rest) = some ([' '] ++ rest) := fun _ => rfl
  have hequals : ∀ rest, expect? "=" (" = ".toList ++ rest) = some ([' '] ++ rest) := fun _ => rfl
  have hclose : expect? ";" (';' :: rest) = some rest := rfl
  have hword : ∀ rest, NotWord (": ".toList ++ rest) := fun _ => notWord_cons rfl _
  have hword' : ∀ rest, NotWord (" = ".toList ++ rest) := fun _ => notWord_cons rfl _
  have hgap : Blank [' '] := Layout.blank_replicate 1
  -- the value stands behind a blank of the text and those of the layout
  have hdata := data?_found hvalue hspelled (hgap.append hblank)
    (ends_cons (by decide : ';' ∈ closers) rest)
  rw [List.append_assoc] at hdata
  simp only [definition?, name?_append hname (hword _), hcolon,
    name?_blank hgap, name?_append htype (hword' _), hequals, hdata, hclose, Option.bind_eq_bind,
    Option.bind_some]
  rfl

/-- A function spells its name in front of its parameters. -/
theorem spelled_function {definition : Function} (h : Spelled definition.document text) :
    ∃ after, text = (definition.visibility.words ++ "fn ").toList ++
      (definition.name.toList ++ '(' :: after) := by
  simp only [Function.document, List.append_assoc] at h
  obtain ⟨_, later, rfl, hwhole, -⟩ := h.append
  have hname := hwhole.box_start (by simp [word])
  rw [Layout.dropInner_append (by simp [Layout.joint])] at hname
  obtain ⟨_, rfl, hopened⟩ := hname.word_append
  obtain ⟨after, rfl, -⟩ := hopened.word_append
  exact ⟨after ++ later, by simp⟩

/-! ## Readers of single items -/

namespace Item

/-- The name and the value of a constant. -/
def constant? : Item → Option (String × Expr)
  | .constant name _ value => some (name, value)
  | _ => none

/-- The name and the value of a static value. -/
def static? : Item → Option (String × Expr)
  | .static _ name _ value => some (name, value)
  | _ => none

/-- The name of a function that only its own module may use. -/
def functionName? : Item → Option String
  | .function definition =>
    if definition.visibility = .hidden then some definition.name else none
  | _ => none

/-- An item that readers understand: constants and static values are data of a named type, and
names are plain. -/
def Readable : Item → Prop
  | .constant name type value =>
    isPlainName name ∧ (∃ typeName, type = .named typeName ∧ isPlainName typeName) ∧ IsData value
  | .static _ name type value =>
    isPlainName name ∧ (∃ typeName, type = .named typeName ∧ isPlainName typeName) ∧ IsData value
  | .function definition => isPlainName definition.name
  | _ => True

end Item

theorem whole?_found {α : Type} {read? : Reader α} {value : α} {rest : List Char}
    (h : read? text = some (value, rest)) (hrest : Blank rest) : whole? read? text = some value := by
  simp [whole?, h, skip_blank hrest]

/-- A constant is read back, and no other item is taken for one. -/
theorem constant?_text {item : Item} (hitem : item.Readable) (h : Spelled item.document text) :
    Reading.constant? text = item.constant? := by
  obtain ⟨_, -, hexpect⟩ := expect?_start h
  -- no other item starts with the words of a constant
  have hother : item.kind ≠ .constant → Reading.constant? text = none := by
    intro hkind
    have hnone : expect? "pub const " text = none := (hexpect .constant).trans (if_neg hkind)
    simp [Reading.constant?, whole?, hnone]
  cases item with
  | constant name type value =>
    obtain ⟨hname, ⟨type, rfl, htype⟩, hvalue⟩ := hitem
    obtain ⟨blanks, written, after, rfl, hblank, hwritten, hafter⟩ := spelled_definition h
    refine whole?_found ?_ hafter
    rw [expect?_append "pub const " (by decide), Option.bind_some]
    exact definition?_found hname htype hvalue hblank hwritten after
  | _ => exact hother nofun

/-- The words in front of static values are found in front of those only. -/
theorem findSome?_staticWords {kind : ItemKind} {rest : List Char}
    (hexpect : ∀ other : ItemKind,
      expect? other.start text = if kind = other then some rest else none) :
    (staticWords.findSome? fun words => expect? words text) =
      if kind.isStatic then some rest else none := by
  have hwords : staticWords = [Visibility.hidden, .everywhere, .parent, .own, .crate].map
      fun visibility => (ItemKind.static visibility).start := by decide
  -- the words are those of the kinds of static values
  simp only [hwords, List.map_cons, List.map_nil, List.findSome?_cons, List.findSome?_nil, hexpect]
  cases kind with
  | static visibility => cases visibility <;> rfl
  | _ => rfl

/-- A static value is read back, and no other item is taken for one. -/
theorem static?_text {item : Item} (hitem : item.Readable) (h : Spelled item.document text) :
    Reading.static? text = item.static? := by
  obtain ⟨rest, htext, hexpect⟩ := expect?_start h
  have hfind := findSome?_staticWords hexpect
  have hother : (staticWords.findSome? fun words => expect? words text) = none →
      Reading.static? text = none := by
    intro hnone
    simp [Reading.static?, whole?, hnone]
  cases item with
  | static visibility name type value =>
    obtain ⟨hname, ⟨type, rfl, htype⟩, hvalue⟩ := hitem
    obtain ⟨blanks, written, after, hwhole, hblank, hwritten, hafter⟩ := spelled_definition h
    have hrest := List.append_cancel_left (htext.symm.trans hwhole)
    refine whole?_found ?_ hafter
    rw [hfind, hrest]
    exact definition?_found hname htype hvalue hblank hwritten after
  | _ => exact hother hfind

/-- The name of a function is read back, and no other item is taken for one. -/
theorem functionName?_text {item : Item} (hitem : item.Readable)
    (h : Spelled item.document text) : Reading.functionName? text = item.functionName? := by
  obtain ⟨rest, htext, hexpect⟩ := expect?_start h
  have hother : item.kind ≠ .function .hidden → Reading.functionName? text = none := by
    intro hkind
    have hnone : expect? "fn " text = none := (hexpect (.function .hidden)).trans (if_neg hkind)
    simp [Reading.functionName?, hnone]
  cases item with
  | function definition =>
    by_cases hhidden : definition.visibility = .hidden
    · obtain ⟨after, htext⟩ := spelled_function h
      have hword : NotWord ('(' :: after) := notWord_cons rfl after
      have hopened : expect? "(" ('(' :: after) = some after := rfl
      have hfn : expect? "fn " text = some (definition.name.toList ++ '(' :: after) := by
        rw [htext, hhidden]
        exact expect?_append "fn " (by decide) _
      simp only [Reading.functionName?, hfn, name?_append hitem hword, hopened, Item.functionName?,
        hhidden, if_true, Option.bind_eq_bind, Option.bind_some]
      rfl
    -- a function that others may use starts with other words
    · have hnone : (Item.function definition).functionName? = none := if_neg hhidden
      rw [hnone]
      exact hother fun hkind => hhidden (by injection hkind)
  | _ => exact hother nofun

end ParserFoundry.Code

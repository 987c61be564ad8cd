import ParserFoundry.Code.ItemLayout
import ParserFoundry.Proofs.Code.Reading
/-!
# Data Read Back

Expressions that hold data, as tables do, are read back from every spelling of their layout.

Main results:
- `IsData`: the expressions that hold data.
- `IsData.reads`: a reader finds such an expression in all of its spellings.
-/

namespace ParserFoundry.Code

open Layout (Blank Spelled Listed isSpace word listBody inconsistent lineEndBefore dropInner)
open Reading

/-! ## Expressions that hold data -/

/-- An expression that holds data: numbers and texts, and what is made of them under names. -/
inductive IsData : Expr → Prop
  | number (value : Nat) : IsData (.number value)
  | text (value : String) : IsData (.text value)
  | names {first : String} {others : List String} :
      (∀ name ∈ first :: others, isPlainName name) → IsData (.names (first :: others))
  | apply {first : String} {others : List String} {arguments : List Expr} :
      (∀ name ∈ first :: others, isPlainName name) → (∀ argument ∈ arguments, IsData argument) →
      IsData (.apply (first :: others) arguments)
  | array {items : List Expr} : (∀ item ∈ items, IsData item) → IsData (.array items)
  | record {name : String} {fields : List (String × Expr)} :
      isPlainName name → fields ≠ [] → (∀ field ∈ fields, isPlainName field.1) →
      (∀ field ∈ fields, IsData field.2) →
      IsData (.record name (fields.map fun field => .mk field.1 field.2))

theorem expressionDocuments_eq_map (expressions : List Expr) :
    expressionDocuments expressions = expressions.map fun expression =>
      (expression.form false).whole := by
  induction expressions with
  | nil => rfl
  | cons first rest ih => rw [expressionDocuments, ih, List.map_cons]

theorem fieldDocuments_eq_map (fields : List (String × Expr)) :
    fieldDocuments (fields.map fun field => .mk field.1 field.2) = fields.map fun field =>
      word (field.1 ++ ": ") ++ inconsistent 0 (field.2.form false).whole := by
  induction fields with
  | nil => rfl
  | cons first rest ih => rw [List.map_cons, fieldDocuments, ih, List.map_cons]

/-! ## Spellings -/

variable {text : List Char}

/-- What follows the first name of a path. -/
def furtherText (others : List String) : List Char :=
  others.flatMap fun name => "::".toList ++ name.toList

/-- The text of a path of names. -/
def namesText (first : String) (others : List String) : List Char :=
  first.toList ++ furtherText others

theorem spelled_names {first : String} {others : List String}
    (h : Spelled (Path.document (.ofNames (first :: others))) text) :
    text = namesText first others := by
  have hsegments : ∀ (others : List String) (first : String) (text : List Char),
      Spelled (segmentsDocument true ((first :: others).map Segment.plain)) text →
        text = namesText first others := by
    intro others
    -- on the further names; each of them comes behind two colons
    induction others with
    | nil =>
      intro first text h
      simpa [namesText, furtherText] using Spelled.word h
    | cons next rest ih =>
      intro first text h
      rw [List.map_cons, List.map_cons, segmentsDocument] at h
      · obtain ⟨_, later, rfl, h, hlater⟩ := h.append
        obtain ⟨_, _, rfl, hfirst, hcolons⟩ := h.append
        have hfirst : _ = first.toList := Spelled.word hfirst
        have hcolons := Spelled.word hcolons
        have hlater := ih next later (by simpa using hlater)
        simp [hfirst, hcolons, hlater, namesText, furtherText]
      · simp
  exact hsegments others first text h

/-- The arguments of a call are listed within its parentheses. -/
theorem spelled_call {arguments : List Expr}
    (h : Spelled (callDocument arguments (expressionDocuments arguments)) text) :
    ∃ blanks listed, text = '(' :: (blanks ++ (listed ++ [')'])) ∧ Blank blanks ∧
      Listed (expressionDocuments arguments) listed := by
  obtain ⟨_, close, rfl, h, hclose⟩ := h.append
  obtain ⟨opened, inner, rfl, hopened, hinner⟩ := h.append
  -- in either form of the call, the arguments stand as a list
  have hlist : ∀ documents, Spelled (listBody documents) inner →
      ∃ blanks listed, inner = blanks ++ listed ∧ Blank blanks ∧ Listed documents listed :=
    fun documents h => h.listed
  have hbody : ∃ blanks listed, inner = blanks ++ listed ∧ Blank blanks ∧
      Listed (expressionDocuments arguments) listed := by
    split at hinner
    case h_1 argument document hdocuments =>
      split at hinner
      case isTrue =>
        -- an argument that is a list itself stands alone between the parentheses
        rw [hdocuments]
        exact ⟨[], inner ++ [], by simp, Layout.blank_nil, .last hinner Layout.blank_nil⟩
      case isFalse => exact hdocuments ▸ hlist _ hinner
    case h_2 => exact hlist _ hinner
  obtain ⟨blanks, listed, rfl, hblank, hlisted⟩ := hbody
  refine ⟨blanks, listed, ?_, hblank, hlisted⟩
  rw [hopened.word, hclose.word]
  simp

/-- The fields of a record are listed within its braces. -/
theorem spelled_record {name : String} {fields : List FieldValue} {atStart : Bool}
    (hfields : fieldDocuments fields ≠ [])
    (h : Spelled ((Expr.record name fields).form atStart).whole text) :
    ∃ blanks listed, text = name.toList ++ " \x7b".toList ++ (blanks ++ (listed ++ ['\x7d'])) ∧
      Blank blanks ∧ Listed (fieldDocuments fields) listed := by
  obtain ⟨front, hfront, hlisted⟩ :=
    Layout.listed_of_commas fieldLines { blanks := Layout.endless }
      { blanks := Layout.endless, before := "," } (fun _ => rfl) (fun _ _ _ => rfl) ⟨rfl, rfl, rfl⟩
      ⟨rfl, rfl, rfl⟩ hfields
  rw [Expr.form] at h
  obtain ⟨_, close, rfl, h, hclose⟩ := h.append
  rw [hfront] at h
  have h := Spelled.box_outdent h (by simp [word]) rfl
  obtain ⟨_, listed, rfl, h, hfields⟩ := h.append
  obtain ⟨_, blanks, rfl, h, hblanks⟩ := h.append
  obtain ⟨written, opened, rfl, hname, hopened⟩ := h.append
  have hname : Spelled (Layout.box .inconsistent (-Layout.indentation) ([] ++ word name)) written :=
    hname
  have hname : written = name.toList := hname.box_word.word
  refine ⟨blanks, listed, ?_, hblanks.blank, hlisted _ hfields⟩
  rw [hname, hopened.word, hclose.word]
  simp

theorem exists_word_names (first : String) (others : List String) :
    ∃ front written, Path.document (.ofNames (first :: others)) = front ++ word written := by
  have hsegments : ∀ (others : List String) (first : String), ∃ front written,
      segmentsDocument true ((first :: others).map Segment.plain) = front ++ word written := by
    intro others
    induction others with
    | nil => exact fun first => ⟨[], first, rfl⟩
    | cons next rest ih =>
      intro first
      obtain ⟨front, written, hlast⟩ := ih next
      refine ⟨word first ++ word "::" ++ front, written, ?_⟩
      rw [List.append_assoc, ← hlast]
      rfl
  exact hsegments others first

/-- Data ends with ink. -/
theorem IsData.exists_word {value : Expr} (h : IsData value) (atStart : Bool) :
    ∃ front written, (value.form atStart).whole = front ++ word written := by
  -- a call ends with its parenthesis, an array with its bracket, and a record with its brace
  cases h with
  | number value => exact ⟨[], _, rfl⟩
  | text value => exact ⟨[], _, rfl⟩
  | names => exact exists_word_names _ _
  | apply => exact ⟨_, ")", (List.append_assoc ..).symm⟩
  | @array items =>
    cases items with
    | nil => exact ⟨[], _, rfl⟩
    | cons => exact ⟨_, _, rfl⟩
  | record => exact ⟨_, _, rfl⟩

/-- A field of a record is its name and its value. -/
theorem spelled_field {name : String} {value : Expr} (hvalue : IsData value)
    (h : Spelled (word (name ++ ": ") ++ inconsistent 0 (value.form false).whole) text) :
    ∃ written, text = name.toList ++ (": ".toList ++ written) ∧
      Spelled (value.form false).whole written := by
  obtain ⟨_, written, rfl, hname, hwritten⟩ := h.append
  obtain ⟨front, last, hlast⟩ := hvalue.exists_word false
  refine ⟨written, by simp [hname.word], ?_⟩
  rw [hlast] at hwritten ⊢
  exact hwritten.box_word

/-! ## Paths, calls and records -/

variable {blanks rest : List Char}

theorem notWord_furtherText (others : List String) (hrest : NotWord rest) :
    NotWord (furtherText others ++ rest) := by
  cases others with
  | nil => exact hrest
  | cons name others => exact notWord_cons rfl _

/-- The further names of a path are read back. -/
theorem furtherNames?_furtherText {others : List String}
    (hothers : ∀ name ∈ others, isPlainName name) (hrest : NotWord rest)
    (hcolons : expect? "::" rest = none) {steps : Nat} (hsteps : others.length < steps) :
    furtherNames? steps (furtherText others ++ rest) = some (others, rest) := by
  induction others generalizing steps with
  | nil =>
    obtain ⟨steps, rfl⟩ := Nat.exists_eq_add_one_of_ne_zero (Nat.ne_zero_of_lt hsteps)
    simp [furtherNames?, furtherText, hcolons]
  | cons name others ih =>
    rw [List.length_cons] at hsteps
    obtain ⟨steps, rfl⟩ := Nat.exists_eq_add_one_of_ne_zero (Nat.ne_zero_of_lt hsteps)
    have htext : furtherText (name :: others) ++ rest =
        "::".toList ++ (name.toList ++ (furtherText others ++ rest)) := by
      simp [furtherText]
    have hname := name?_append (hothers name (List.mem_cons_self ..))
      (notWord_furtherText others hrest)
    have hothers := ih (fun other hother => hothers other (List.mem_cons_of_mem _ hother))
      (by omega : others.length < steps)
    rw [htext, furtherNames?, expect?_append "::" (by decide)]
    simp only [hname, hothers, Option.bind_eq_bind, Option.bind_some]
    rfl

theorem length_furtherText (others : List String) :
    others.length ≤ (furtherText others).length := by
  induction others with
  | nil => exact Nat.le_refl _
  | cons name others ih =>
    have htext : furtherText (name :: others) = "::".toList ++ name.toList ++ furtherText others := rfl
    simp only [htext, List.length_append, List.length_cons, String.length_toList]
    have : "::".length = 2 := rfl
    omega

/-- The names at the front of an expression are read back. -/
theorem named?_namesText {first : String} {others : List String}
    (hnames : ∀ name ∈ first :: others, isPlainName name) (value? : Reader Expr)
    (hrest : NotWord rest) (hcolons : expect? "::" rest = none) (hne : rest ≠ []) :
    named? value? (namesText first others ++ rest) =
      match expect? "(" rest with
      | some rest =>
        (separated? value? ")" rest.length rest).map fun (arguments, rest) =>
          (.apply (first :: others) arguments, rest)
      | none =>
        match expect? "\x7b" rest with
        | some rest =>
          (separated? (field? value?) "\x7d" rest.length rest).map fun (fields, rest) =>
            (.record first fields, rest)
        | none => some (.names (first :: others), rest) := by
  have hfirst := name?_append (hnames first (List.mem_cons_self ..))
    (notWord_furtherText others hrest)
  have hsteps : others.length < (furtherText others ++ rest).length := by
    have := length_furtherText others
    have := List.length_pos_iff.mpr hne
    rw [List.length_append]
    omega
  have hothers := furtherNames?_furtherText
    (fun name hname => hnames name (List.mem_cons_of_mem _ hname)) hrest hcolons hsteps
  -- the token behind the names tells a call from a record and from the names alone
  cases hparenthesis : expect? "(" rest with
  | some after =>
    simp only [named?, namesText, List.append_assoc, hfirst, hothers, Option.bind_eq_bind,
      Option.bind_some, hparenthesis]
  | none =>
    cases hbrace : expect? "\x7b" rest with
    | some after =>
      simp only [named?, namesText, List.append_assoc, hfirst, hothers, Option.bind_eq_bind,
        Option.bind_some, hparenthesis, hbrace]
    | none =>
      simp only [named?, namesText, List.append_assoc, hfirst, hothers, Option.bind_eq_bind,
        Option.bind_some, hparenthesis, hbrace]

/-- What starts with a letter or a digit is a number, or else starts with a name. -/
theorem expr?_wordChar {c : Char} (hc : isWordChar c = true) (hblank : Blank blanks)
    (steps : Nat) (tail : List Char) :
    expr? (steps + 1) (blanks ++ c :: tail) =
      match number? (c :: tail) with
      | some (value, rest) => some (.number value, rest)
      | none => named? (expr? steps) (c :: tail) := by
  have hmarks : isWordChar '"' = false ∧ isWordChar '[' = false := by decide
  rw [expr?, skip_append hblank, skip_cons (isSpace_of_isWordChar hc)]
  split
  case h_1 heq =>
    obtain ⟨rfl, -⟩ := List.cons.inj heq
    simp [hmarks.1] at hc
  case h_2 heq =>
    obtain ⟨rfl, -⟩ := List.cons.inj heq
    simp [hmarks.2] at hc
  case h_3 => rfl

/-- An expression that starts with a name is no number. -/
theorem expr?_namesText {first : String} {others : List String} (hfirst : isPlainName first)
    (hrest : NotWord rest) (hblank : Blank blanks) (steps : Nat) :
    expr? (steps + 1) (blanks ++ (namesText first others ++ rest)) =
      named? (expr? steps) (namesText first others ++ rest) := by
  obtain ⟨c, tail, htail, -, hword⟩ := isPlainName_spec hfirst
  have hc : isWordChar c = true := hword c (by simp [htail])
  have htext : namesText first others ++ rest = c :: (tail ++ (furtherText others ++ rest)) := by
    simp [namesText, htail]
  have hnumber : number? (c :: (tail ++ (furtherText others ++ rest))) = none := by
    simpa [htail] using number?_name hfirst (notWord_furtherText others hrest)
  rw [htext, expr?_wordChar hc hblank, hnumber]

/-! ## All data -/

/-- A number is read back. -/
theorem reads_number (value steps : Nat) :
    Reads (expr? (steps + 1)) (.number value) (toString value).toList := by
  obtain ⟨c, tail, htext, hdigit⟩ := exists_digit value
  have hc := isWordChar_of_isDigit hdigit
  rw [htext]
  refine ⟨starts_of_isWordChar hc tail, fun blanks rest hblank hrest => ?_⟩
  have hnumber := number?_toString value hrest.notWord
  rw [htext] at hnumber
  rw [List.cons_append, expr?_wordChar hc hblank, ← List.cons_append, hnumber]

/-- A text is read back. -/
theorem reads_text (value : String) (steps : Nat) :
    Reads (expr? (steps + 1)) (.text value) (quoted value).toList := by
  have htext : (quoted value).toList = '"' :: (escapeAll value.toList ++ ['"']) := by
    simp [quoted]
  rw [htext]
  refine ⟨⟨_, _, rfl, rfl, by decide⟩, fun blanks rest hblank _ => ?_⟩
  rw [expr?, skip_append hblank, List.cons_append, skip_cons rfl]
  simp [textFrom?_escapeAll]

theorem starts_namesText {first : String} (hfirst : isPlainName first) (others : List String)
    (tail : List Char) : Starts (namesText first others ++ tail) := by
  rw [namesText, List.append_assoc]
  exact starts_of_isPlainName hfirst _

/-- A path of names is read back. -/
theorem reads_names {first : String} {others : List String}
    (hnames : ∀ name ∈ first :: others, isPlainName name) (steps : Nat) :
    Reads (expr? (steps + 1)) (.names (first :: others)) (namesText first others) := by
  have hfirst := hnames first (List.mem_cons_self ..)
  refine ⟨starts_of_isPlainName hfirst _, fun blanks rest hblank hrest => ?_⟩
  rw [expr?_namesText hfirst hrest.notWord hblank, named?_namesText hnames _ hrest.notWord
    (hrest.expect?_eq_none "::" (by decide)) hrest.ne_nil,
    hrest.expect?_eq_none "(" (by decide), hrest.expect?_eq_none "\x7b" (by decide)]

/-- A field is read back if its value is. -/
theorem reads_field {value? : Reader Expr} {name : String} {value : Expr} (hname : isPlainName name)
    (hvalue : Reads value? value text) :
    Reads (field? value?) (.mk name value) (name.toList ++ (": ".toList ++ text)) := by
  refine ⟨starts_of_isPlainName hname _, fun blanks rest hblank hrest => ?_⟩
  have hword : NotWord (": ".toList ++ (text ++ rest)) := notWord_cons rfl _
  have hcolon : expect? ":" (": ".toList ++ (text ++ rest)) = some ([' '] ++ (text ++ rest)) := rfl
  have hvalue := hvalue.found [' '] rest (Layout.blank_replicate 1) hrest
  simp only [field?, List.append_assoc, name?_blank hblank, name?_append hname hword, hcolon, hvalue,
    Option.bind_eq_bind, Option.bind_some]
  rfl

section Lists

variable {listed listBlanks : List Char} {steps : Nat}

/-- Expressions are read back from a list of them if each of them is. -/
theorem separated?_expressions (close : String) (mark : Char) (hclose : close.toList = [mark])
    (hmark : mark ∈ [')', ']', '\x7d']) {expressions : List Expr}
    (hblanks : Blank listBlanks) (hlisted : Listed (expressionDocuments expressions) listed)
    (hsteps : listed.length ≤ steps)
    (hread : ∀ expression ∈ expressions, ∀ written, written.length ≤ steps →
      Spelled (expression.form false).whole written → Reads (expr? steps) expression written)
    (rest : List Char) :
    separated? (expr? steps) close (listBlanks ++ (listed ++ mark :: rest)).length
      (listBlanks ++ (listed ++ mark :: rest)) = some (expressions, rest) := by
  refine separated?_listed hclose hmark hlisted ?_ hsteps (by simp; omega) hblanks rest
  rw [expressionDocuments_eq_map, List.forall₂_map_left_iff]
  exact List.forall₂_same.mpr hread

/-- A call is read back if its arguments are. -/
theorem reads_apply {first : String} {others : List String} {arguments : List Expr}
    (hnames : ∀ name ∈ first :: others, isPlainName name) (hblanks : Blank listBlanks)
    (hlisted : Listed (expressionDocuments arguments) listed) (hsteps : listed.length ≤ steps)
    (hread : ∀ argument ∈ arguments, ∀ written, written.length ≤ steps →
      Spelled (argument.form false).whole written → Reads (expr? steps) argument written) :
    Reads (expr? (steps + 1)) (.apply (first :: others) arguments)
      (namesText first others ++ '(' :: (listBlanks ++ (listed ++ [')']))) := by
  have hfirst := hnames first (List.mem_cons_self ..)
  refine ⟨starts_namesText hfirst others _, fun blanks rest hblank hrest => ?_⟩
  have htext : namesText first others ++ '(' :: (listBlanks ++ (listed ++ [')'])) ++ rest =
      namesText first others ++ ('(' :: (listBlanks ++ (listed ++ ')' :: rest))) := by simp
  have hword : NotWord ('(' :: (listBlanks ++ (listed ++ ')' :: rest))) := notWord_cons rfl _
  have hopened : expect? "(" ('(' :: (listBlanks ++ (listed ++ ')' :: rest))) =
      some (listBlanks ++ (listed ++ ')' :: rest)) := rfl
  have hlist := separated?_expressions ")" ')' rfl (by decide) hblanks hlisted hsteps hread rest
  rw [htext, expr?_namesText hfirst hword hblank,
    named?_namesText hnames _ hword (expect?_eq_none rfl (by decide)) (by simp), hopened]
  simp only [hlist, Option.map_some]

/-- An array is read back if its items are. -/
theorem reads_array {items : List Expr} (hblanks : Blank listBlanks)
    (hlisted : Listed (expressionDocuments items) listed) (hsteps : listed.length ≤ steps)
    (hread : ∀ item ∈ items, ∀ written, written.length ≤ steps →
      Spelled (item.form false).whole written → Reads (expr? steps) item written) :
    Reads (expr? (steps + 1)) (.array items) ('[' :: (listBlanks ++ (listed ++ [']']))) := by
  refine ⟨⟨_, _, rfl, rfl, by decide⟩, fun blanks rest hblank _ => ?_⟩
  have htext : '[' :: (listBlanks ++ (listed ++ [']'])) ++ rest =
      '[' :: (listBlanks ++ (listed ++ ']' :: rest)) := by simp
  have hlist := separated?_expressions "]" ']' rfl (by decide) hblanks hlisted hsteps hread rest
  rw [htext, expr?, skip_append hblank, skip_cons rfl]
  simp only [hlist, Option.map_some]

/-- A record is read back if the values of its fields are. -/
theorem reads_record {name : String} {fields : List (String × Expr)} (hname : isPlainName name)
    (hnames : ∀ field ∈ fields, isPlainName field.1) (hdata : ∀ field ∈ fields, IsData field.2)
    (hblanks : Blank listBlanks)
    (hlisted : Listed (fieldDocuments (fields.map fun field => .mk field.1 field.2)) listed)
    (hsteps : listed.length ≤ steps)
    (hread : ∀ field ∈ fields, ∀ written, written.length ≤ steps →
      Spelled (field.2.form false).whole written → Reads (expr? steps) field.2 written) :
    Reads (expr? (steps + 1)) (.record name (fields.map fun field => .mk field.1 field.2))
      (name.toList ++ " \x7b".toList ++ (listBlanks ++ (listed ++ ['\x7d']))) := by
  rw [List.append_assoc]
  refine ⟨starts_of_isPlainName hname _, fun blanks rest hblank hrest => ?_⟩
  have htext : name.toList ++ (" \x7b".toList ++ (listBlanks ++ (listed ++ ['\x7d']))) ++ rest =
      namesText name [] ++ (" \x7b".toList ++ (listBlanks ++ (listed ++ '\x7d' :: rest))) := by
    simp [namesText, furtherText]
  have hnames' : ∀ other ∈ [name], isPlainName other := by simpa using hname
  have hword : NotWord (" \x7b".toList ++ (listBlanks ++ (listed ++ '\x7d' :: rest))) :=
    notWord_cons rfl _
  have hopened : expect? "\x7b" (" \x7b".toList ++ (listBlanks ++ (listed ++ '\x7d' :: rest))) =
      some (listBlanks ++ (listed ++ '\x7d' :: rest)) := rfl
  -- the fields stand in step with their documents, and each is read with fewer steps
  have hitems : List.Forall₂ (fun document value => ∀ written, written.length ≤ steps →
      Spelled document written → Reads (field? (expr? steps)) value written)
      (fieldDocuments (fields.map fun field => .mk field.1 field.2))
      (fields.map fun field => .mk field.1 field.2) := by
    rw [fieldDocuments_eq_map, List.forall₂_map_left_iff, List.forall₂_map_right_iff]
    refine List.forall₂_same.mpr fun field hfield written hlength hspelled => ?_
    obtain ⟨value, rfl, hvalue⟩ := spelled_field (hdata field hfield) hspelled
    simp only [List.length_append] at hlength
    exact reads_field (hnames field hfield) (hread field hfield value (by omega) hvalue)
  have hlist : separated? (field? (expr? steps)) "\x7d"
      (listBlanks ++ (listed ++ '\x7d' :: rest)).length
      (listBlanks ++ (listed ++ '\x7d' :: rest)) = some (_, rest) :=
    separated?_listed rfl (by decide) hlisted hitems hsteps (by simp; omega) hblanks rest
  rw [htext, expr?_namesText hname hword hblank, named?_namesText hnames' _ hword rfl (by simp),
    hopened]
  have hcall : expect? "(" (" \x7b".toList ++ (listBlanks ++ (listed ++ '\x7d' :: rest))) = none :=
    rfl
  simp only [hcall, hlist, Option.map_some]

end Lists

/-- An array spells its items between brackets. -/
theorem spelled_array {items : List Expr} {atStart : Bool}
    (h : Spelled ((Expr.array items).form atStart).whole text) :
    ∃ blanks listed, text = '[' :: (blanks ++ (listed ++ [']'])) ∧ Blank blanks ∧
      Listed (expressionDocuments items) listed := by
  -- the empty array is laid out apart
  cases items with
  | nil => exact ⟨[], [], h.word, Layout.blank_nil, .nil⟩
  | cons first others =>
    rw [Expr.form] at h
    · obtain ⟨_, close, rfl, h, hclose⟩ := h.append
      obtain ⟨opened, _, rfl, hopened, hlist⟩ := h.append
      obtain ⟨blanks, listed, rfl, hblank, hlisted⟩ := hlist.listed
      exact ⟨blanks, listed, by simp [hopened.word, hclose.word], hblank, hlisted⟩
    · simp

theorem exists_steps {steps : Nat} (hsteps : text.length ≤ steps) (hne : text ≠ []) :
    ∃ fewer, steps = fewer + 1 :=
  Nat.exists_eq_add_one_of_ne_zero
    (Nat.ne_zero_of_lt (Nat.lt_of_lt_of_le (List.length_pos_iff.mpr hne) hsteps))

/-- **Data is read back.** A reader of enough steps finds an expression that holds data in every
spelling of it. -/
theorem IsData.reads {value : Expr} (h : IsData value) {atStart : Bool}
    (hspelled : Spelled (value.form atStart).whole text) {steps : Nat}
    (hsteps : text.length ≤ steps) : Reads (expr? steps) value text := by
  -- along the constructors of data; each list is shorter than the text around it
  induction h generalizing atStart text steps with
  | number value =>
    obtain ⟨steps, rfl⟩ := exists_steps hsteps (by simp [hspelled.word])
    exact hspelled.word ▸ reads_number value steps
  | text value =>
    obtain ⟨steps, rfl⟩ := exists_steps hsteps (by simp [hspelled.word, quoted])
    exact hspelled.word ▸ reads_text value steps
  | @names first others hnames =>
    obtain rfl := spelled_names hspelled
    have hstarts := (reads_names hnames 0).starts
    obtain ⟨steps, rfl⟩ := exists_steps hsteps (List.length_pos_iff.mp hstarts.length_pos)
    exact reads_names hnames steps
  | apply hnames harguments ih =>
    obtain ⟨_, _, rfl, hpath, hcall⟩ := hspelled.append
    obtain rfl := spelled_names hpath
    obtain ⟨blanks, listed, rfl, hblanks, hlisted⟩ := spelled_call hcall
    obtain ⟨steps, rfl⟩ := exists_steps hsteps (by simp)
    simp only [List.length_append, List.length_cons] at hsteps
    exact reads_apply hnames hblanks hlisted (by omega)
      fun argument hargument written hlength hwritten => ih argument hargument hwritten hlength
  | array hitems ih =>
    obtain ⟨blanks, listed, rfl, hblanks, hlisted⟩ := spelled_array hspelled
    obtain ⟨steps, rfl⟩ := exists_steps hsteps (by simp)
    simp only [List.length_append, List.length_cons] at hsteps
    exact reads_array hblanks hlisted (by omega)
      fun item hitem written hlength hwritten => ih item hitem hwritten hlength
  | @record name fields hname hfields hnames hvalues ih =>
    have hdocuments : fieldDocuments (fields.map fun field => .mk field.1 field.2) ≠ [] := by
      simpa [fieldDocuments_eq_map] using hfields
    obtain ⟨blanks, listed, rfl, hblanks, hlisted⟩ := spelled_record hdocuments hspelled
    obtain ⟨steps, rfl⟩ := exists_steps hsteps (by simp)
    simp only [List.length_append, List.length_cons] at hsteps
    exact reads_record hname hnames hvalues hblanks hlisted (by omega)
      fun field hfield written hlength hwritten => ih field hfield hwritten hlength

end ParserFoundry.Code

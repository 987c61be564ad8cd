import ParserFoundry.Artifact.TypesFile
import ParserFoundry.Proofs.Code.Items
/-!
# Kinds Read Back

Enumerations of kinds and the conversions of numbers into kinds are read back from their texts.

Main results:
- `enumeration?_text`: the variants of an enumeration of kinds have the numbers of their places.
- `conversion?_text`: the conversion of a number is the kind in its place, or an error.
-/

namespace ParserFoundry.Code

open Layout (Blank Spelled Listed isSpace word listBody inconsistent consistent lineEndBefore lineEnd
  outdent cut commaList)
open Reading

variable {text rest : List Char}

/-! ## Passing tokens -/

/-- In front of everything, the tokens are passed in the text, up to blanks at its end. -/
def Passed (marks : List Mark) (text : List Char) : Prop :=
  ∀ rest, ∃ blanks, Blank blanks ∧ expectAll? marks (text ++ rest) = some (blanks ++ rest)

/-- Tokens are passed one after the other. -/
theorem expectAll?_append (first second : List Mark) (input : List Char) :
    expectAll? (first ++ second) input = (expectAll? first input).bind (expectAll? second) := by
  -- along the first tokens, whether they have to be there or not
  induction first generalizing input with
  | nil => rfl
  | cons mark first ih =>
    cases mark with
    | token text =>
      simp only [List.cons_append, expectAll?, Option.bind_assoc]
      exact congrArg _ (funext ih)
    | maybe text => exact ih _

/-- Blanks in front of the tokens make no difference, except that they may stay. -/
theorem expectAll?_blank {blanks : List Char} (hblank : Blank blanks) {marks : List Mark}
    {input output : List Char} (h : expectAll? marks input = some output) :
    ∃ more, Blank more ∧ expectAll? marks (blanks ++ input) = some (more ++ output) := by
  -- up to the first token that has to be there, which takes the blanks
  induction marks with
  | nil => exact ⟨blanks, hblank, by cases h; rfl⟩
  | cons mark marks ih =>
    cases mark with
    | token text => exact ⟨[], Layout.blank_nil, by rwa [expectAll?, expect?_blank hblank]⟩
    | maybe text =>
      rw [expectAll?] at h ⊢
      rw [expect?_blank hblank]
      cases hfound : expect? text input with
      | some rest => exact ⟨[], Layout.blank_nil, by rwa [hfound] at h⟩
      | none =>
        rw [hfound] at h
        exact ih h

namespace Passed

variable {first second : List Mark} {one other blanks : List Char}

/-- Two stretches of tokens; blanks that the first one leaves stand in front of the second. -/
theorem append (h : Passed first one) (h' : Passed second other) :
    Passed (first ++ second) (one ++ other) := by
  intro rest
  obtain ⟨blanks, hblank, hone⟩ := h (other ++ rest)
  obtain ⟨more, hmore, hother⟩ := h' rest
  -- each stretch may leave blanks behind it, and the second one finds those of the first
  obtain ⟨left, hleft, hall⟩ := expectAll?_blank hblank hother
  refine ⟨left ++ more, hleft.append hmore, ?_⟩
  rw [expectAll?_append, List.append_assoc, hone, Option.bind_some, hall, List.append_assoc]

/-- Blanks alone pass no token. -/
theorem blank (hblank : Blank blanks) : Passed [] blanks :=
  fun _ => ⟨blanks, hblank, rfl⟩

/-- Blanks behind what is passed. -/
theorem append_blank (h : Passed first one) (hblank : Blank blanks) :
    Passed first (one ++ blanks) := by
  simpa using h.append (blank hblank)

/-- Blanks in front of what is passed. -/
theorem blank_append (hblank : Blank blanks) (h : Passed first one) :
    Passed first (blanks ++ one) :=
  (blank hblank).append h

/-- A token with ink is passed as it is written. -/
theorem token (text : String)
    (hink : (text.toList.head?.any fun c => !isSpace c) = true) :
    Passed [.token text] text.toList := by
  intro rest
  refine ⟨[], Layout.blank_nil, ?_⟩
  rw [expectAll?, expect?_append text hink]
  rfl

end Passed

/-- The tokens of the items of a list, with commas between them and possibly one at its end. -/
def listMarks : List (List Mark) → List Mark
  | [] => []
  | [item] => item ++ [.maybe ","]
  | item :: rest => item ++ .token "," :: listMarks rest

section Lists

variable {close : String} (hcomma : ∀ rest, expect? "," (close.toList ++ rest) = none)
  (hclose : (close.toList.head?.any fun c => !isSpace c) = true)

include hcomma hclose

/-- There may be a comma in front of the closing token, or none. -/
theorem passed_maybe {blanks : List Char} (hblank : Blank blanks) :
    Passed [.maybe ",", .token close] (blanks ++ close.toList) ∧
      Passed [.maybe ",", .token close] (',' :: (blanks ++ close.toList)) := by
  have hpassed := Passed.blank_append hblank (Passed.token close hclose)
  refine ⟨fun rest => ?_, fun rest => ?_⟩
  · obtain ⟨more, hmore, hfound⟩ := hpassed rest
    refine ⟨more, hmore, ?_⟩
    rw [expectAll?, List.append_assoc, expect?_blank hblank, hcomma, ← List.append_assoc]
    exact hfound
  · obtain ⟨more, hmore, hfound⟩ := hpassed rest
    refine ⟨more, hmore, ?_⟩
    have hpresent : expect? "," (',' :: (blanks ++ close.toList) ++ rest) =
        some (blanks ++ close.toList ++ rest) := rfl
    rw [expectAll?, hpresent]
    exact hfound

/-- The tokens of a list and its closing token are passed in all spellings of the list. -/
theorem passed_listed {items : List (List Mark × Layout.Document)} (hitems : items ≠ [])
    (hpassed : ∀ item ∈ items, ∀ text, Spelled item.2 text → Passed item.1 text)
    (hlisted : Listed (items.map Prod.snd) text) :
    Passed (listMarks (items.map Prod.fst) ++ [.token close]) (text ++ close.toList) := by
  generalize hdocuments : items.map Prod.snd = documents at hlisted
  -- along the spelling of the list: it ends without a comma, or with one
  induction hlisted generalizing items with
  | nil => exact absurd (List.map_eq_nil_iff.mp hdocuments) hitems
  | @last document written blanks hspelled hblank =>
    obtain ⟨item, others, rfl, rfl, hothers⟩ := List.map_eq_cons_iff.mp hdocuments
    obtain rfl := List.map_eq_nil_iff.mp hothers
    have hitem := hpassed item (List.mem_cons_self ..) _ hspelled
    simpa [listMarks] using hitem.append (passed_maybe hcomma hclose hblank).1
  | @cons document rest written blanks others hspelled hblank hrest ih =>
    obtain ⟨item, later, rfl, rfl, hlater⟩ := List.map_eq_cons_iff.mp hdocuments
    have hitem := hpassed item (List.mem_cons_self ..) _ hspelled
    cases later with
    | nil =>
      obtain rfl := hlater
      cases hrest
      simpa [listMarks] using hitem.append (passed_maybe hcomma hclose hblank).2
    | cons next later =>
      have hothers := ih (List.cons_ne_nil _ _)
        (fun item hitem => hpassed item (List.mem_cons_of_mem _ hitem)) hlater
      have hmark := Passed.append_blank (Passed.token "," (by decide)) hblank
      simpa [listMarks] using hitem.append (hmark.append hothers)

/-- The same for the layout of a list. -/
theorem passed_listBox {style : Layout.Style} {indent : Int}
    (items : List (List Mark × Layout.Document)) (hitems : items ≠ [])
    (hpassed : ∀ item ∈ items, ∀ text, Spelled item.2 text → Passed item.1 text)
    (h : Spelled (Layout.box style indent (outdent (cut ++ commaList (items.map Prod.snd))) ++
      word close) text) :
    Passed (listMarks (items.map Prod.fst) ++ [.token close]) text := by
  obtain ⟨_, _, rfl, hlist, hword⟩ := h.append
  obtain rfl := hword.word
  obtain ⟨blanks, others, rfl, hblanks, hlisted⟩ := hlist.listed
  rw [List.append_assoc]
  exact .blank_append hblanks (passed_listed hcomma hclose hitems hpassed hlisted)

end Lists

/-- A word is passed as one token. -/
theorem passed_word {written : String}
    (hink : (written.toList.head?.any fun c => !isSpace c) = true)
    (h : Spelled (word written) text) : Passed [.token written] text := by
  obtain rfl := h.word
  exact .token written hink

/-! ## Heads of conversions -/

/-- A type that is applied to types with names of their own. -/
theorem passed_applied (name first : String) (others : List String)
    (hname : (name.toList.head?.any fun c => !isSpace c) = true)
    (hink : ∀ type ∈ first :: others, (type.toList.head?.any fun c => !isSpace c) = true)
    (h : Spelled (Ty.applied name
      ((first :: others).map fun type => .type (.named type))).document text) :
    Passed ([.token name, .token "<"] ++
      listMarks ((first :: others).map fun type => [.token type]) ++ [.token ">"]) text := by
  -- types with names of their own are single words, so the arguments are a list of words
  have harguments : ∀ types : List String,
      argumentDocuments (types.map fun type => .type (.named type)) = types.map word := by
    intro types
    induction types with
    | nil => rfl
    | cons type rest ih =>
      rw [List.map_cons, argumentDocuments, ih]
      rfl
  let items : List (List Mark × Layout.Document) :=
    (first :: others).map fun type => ([.token type], word type)
  have hwords : Spelled (word name ++ (word "<" ++
      (listBody (items.map Prod.snd) ++ word ">"))) text := by
    have hitems : items.map Prod.snd = word first :: others.map word := by simp [items]
    rw [hitems]
    have hothers := harguments others
    have hfirst : (Argument.type (.named first)).document = word first := rfl
    simpa [hfirst, Ty.applied, Ty.document, segmentsDocument, Segment.document, argumentDocuments,
      hothers] using h
  obtain ⟨_, rfl, hopened⟩ := hwords.word_append
  obtain ⟨_, rfl, hlist⟩ := hopened.word_append
  have hlist := passed_listBox (fun _ => rfl) (by decide) items (List.cons_ne_nil _ _) ?_ hlist
  · have hopened := (Passed.token "<" (by decide)).append hlist
    simpa [items, Function.comp_def] using (Passed.token name hname).append hopened
  · intro item hitem text htext
    obtain ⟨type, htype, rfl⟩ := List.mem_map.mp hitem
    exact passed_word (hink type htype) htext

/-! ## Case distinctions -/

/-- Arms are written line by line, so they end with a line end. -/
theorem exists_lineEnd_arms {arms : List Arm} (harms : arms ≠ []) :
    ∃ front, armsDocument arms = front ++ lineEnd := by
  -- along the arms, the last of which has its line end, too
  induction arms with
  | nil => exact absurd rfl harms
  | cons arm rest ih =>
    cases rest with
    | nil => exact ⟨arm.document, by simp [armsDocument]⟩
    | cons next rest =>
      obtain ⟨front, hfront⟩ := ih (List.cons_ne_nil _ _)
      exact ⟨arm.document ++ lineEnd ++ front, by rw [armsDocument, hfront]; simp⟩

/-- Lines between braces are spelled behind blanks. -/
theorem spelled_blockBody {statements front : Layout.Document}
    (hstatements : statements = front ++ lineEnd) (h : Spelled (blockBody statements) text) :
    ∃ blanks body, text = blanks ++ body ∧ Blank blanks ∧ Spelled statements body := by
  rw [blockBody, hstatements, ← List.append_assoc, ← List.nil_append (outdent _)] at h
  have h := Spelled.box_outdent h (by simp [lineEndBefore]) rfl
  rw [List.nil_append, List.append_assoc] at h
  obtain ⟨blanks, body, rfl, hblanks, hbody⟩ := h.append
  exact ⟨blanks, body, rfl, hblanks.blank, hstatements ▸ hbody⟩

/-- A case distinction spells its arms within its braces. -/
theorem spelled_cases {subject : String} {arms : List Arm} (harms : arms ≠ [])
    (hsubject : (subject.toList.head?.any fun c => !isSpace c) = true)
    (h : Spelled ((Expr.cases (.name subject) arms).document true) text) :
    ∃ head body, text = head ++ (body ++ ['\x7d']) ∧
      Passed ["match ", .token subject, "\x7b"] head ∧ Spelled (armsDocument arms) body := by
  have hbox : Spelled (inconsistent 0 (word "match " ++ consistent 0 (word subject ++ word " ") ++
      word "\x7b" ++ Layout.joint ++ blockBody (armsDocument arms) ++ word "\x7d")) text := h
  obtain ⟨_, _, rfl, hfront, hclose⟩ := hbox.box_word.append
  obtain ⟨_, _, rfl, hfront, hblock⟩ := hfront.append
  obtain ⟨_, joint, rfl, hfront, hjoint⟩ := hfront.append
  obtain ⟨_, _, rfl, hfront, hopened⟩ := hfront.append
  obtain ⟨_, _, rfl, hmatch, hname⟩ := hfront.append
  obtain ⟨_, gap, rfl, hname, hgap⟩ := hname.box_word.append
  obtain ⟨front, hlines⟩ := exists_lineEnd_arms harms
  obtain ⟨blanks, body, rfl, hblanks, hbody⟩ := spelled_blockBody hlines hblock
  have hgap : Blank gap := hgap.word ▸ Layout.blank_replicate 1
  have hhead := ((passed_word (by decide) hmatch).append
    ((passed_word hsubject hname).append_blank hgap)).append
      (((passed_word (by decide) hopened).append_blank hjoint.blank).append_blank hblanks)
  refine ⟨_, body, ?_, hhead, hbody⟩
  simp [hclose.word]

/-! ## Arms -/

/-- The braces of a body are texts of breaks, which are written where the line ends. -/
theorem bracedBody_eq (body : Layout.Document) (comma : String) :
    bracedBody body comma = [.box .consistent Layout.indentation
      ([.brk { before := "\x7b" }] ++ body ++
        [.brk { offset := -Layout.indentation, after := "\x7d", otherwise := comma }])] := by
  rw [bracedBody, consistent, Layout.box]
  · rw [Layout.dropInner_append_brk]
    rfl
  · simp

/-- A body that gets braces when it does not fit: it is spelled without them and with a comma behind
it, or with them. -/
theorem spelled_bracedBody {body : Layout.Document} {comma : String}
    (h : Spelled (bracedBody body comma) text) :
    ∃ written blanks more, Spelled body written ∧ Blank blanks ∧ Blank more ∧
      (text = blanks ++ (written ++ (comma.toList ++ more)) ∨
        text = '\x7b' :: (blanks ++ (written ++ (more ++ ['\x7d'])))) := by
  obtain ⟨mode, h⟩ := h
  rw [bracedBody_eq, Layout.spells_singleton, Layout.Piece.Spells] at h
  -- the two breaks of the box are used in the same way
  rcases h with h | h
  · obtain ⟨_, _, rfl, h, hlast⟩ := Layout.spells_append.mp h
    obtain ⟨_, written, rfl, hfirst, hbody⟩ := Layout.spells_append.mp h
    cases Layout.spells_singleton.mp hfirst with
    | endLine allowed => exact absurd rfl allowed.2
    | goOn _ hblank =>
      cases Layout.spells_singleton.mp hlast with
      | endLine allowed => exact absurd rfl allowed.2
      | goOn _ hmore =>
        exact ⟨written, _, _, ⟨_, hbody⟩, hblank, hmore, .inl (by simp)⟩
  · obtain ⟨_, _, rfl, h, hlast⟩ := Layout.spells_append.mp h
    obtain ⟨_, written, rfl, hfirst, hbody⟩ := Layout.spells_append.mp h
    cases Layout.spells_singleton.mp hfirst with
    | goOn allowed => simp at allowed
    | endLine _ hblank =>
      cases Layout.spells_singleton.mp hlast with
      | goOn allowed => simp at allowed
      | endLine _ hmore =>
        exact ⟨written, _, _, ⟨_, hbody⟩, hblank.lineEnd, hmore.lineEnd, .inr (by simp)⟩

/-- The pattern of an arm for a number, or for all others. -/
def keyPattern : Option Nat → Pat
  | some number => .number number
  | none => .any

/-- The arm that gives data for a number, or for all others. -/
def dataArm (arm : Option Nat × Expr) : Arm :=
  .mk (keyPattern arm.1) [] arm.2

/-- The key of an arm is read back from its pattern. -/
theorem armKey?_found {key : Option Nat} (h : Spelled (keyPattern key).document text)
    (hrest : NotWord rest) {blanks : List Char} (hblank : Blank blanks) :
    Starts text ∧ armKey? (blanks ++ (text ++ rest)) = some (key, rest) := by
  -- a number never starts with the underscore of the other pattern
  cases key with
  | none =>
    obtain rfl : text = ['_'] := Spelled.word h
    refine ⟨⟨'_', [], rfl, rfl, by decide⟩, ?_⟩
    have hfound : expect? "_" (['_'] ++ rest) = some rest := rfl
    rw [armKey?, expect?_blank hblank, hfound]
  | some number =>
    obtain rfl : text = (toString number).toList := Spelled.word h
    obtain ⟨c, tail, htext, hdigit⟩ := exists_digit number
    have hother : c ≠ '_' := by
      rintro rfl
      cases hdigit
    have hnone : expect? "_" (c :: tail ++ rest) = none :=
      expect?_eq_none (isSpace_of_isWordChar (isWordChar_of_isDigit hdigit))
        (by simpa using hother.symm)
    refine ⟨(reads_number number 0).starts, ?_⟩
    rw [armKey?, expect?_blank hblank, htext, hnone, ← htext]
    simp only [number?_blank hblank, number?_toString number hrest, Option.map_some]

/-- The data of an arm is read back, with the braces around it or without them. -/
theorem armValue?_found {value : Expr} (hvalue : IsData value)
    (h : Spelled (bracedBody (value.form true).whole ",") text) {blanks : List Char}
    (hblank : Blank blanks) (rest : List Char) :
    ∃ more, Blank more ∧ armValue? (blanks ++ (text ++ rest)) = some (value, more ++ rest) := by
  obtain ⟨written, inner, more, hwritten, hinner, hmore, rfl | rfl⟩ := spelled_bracedBody h
  · -- without braces, a comma follows the data
    have hstarts := (hvalue.reads hwritten (Nat.le_refl _)).starts
    have hnone : expect? "\x7b" ((blanks ++ inner) ++ (written ++ (',' :: (more ++ rest)))) = none :=
      hstarts.expect?_eq_none rfl (by decide) (hblank.append hinner) _
    have hdata := data?_found hvalue hwritten (hblank.append hinner)
      (ends_cons (by decide : ',' ∈ closers) (more ++ rest))
    have hcomma : expect? "," (',' :: (more ++ rest)) = some (more ++ rest) := rfl
    have htext : blanks ++ (inner ++ (written ++ (",".toList ++ more)) ++ rest) =
        (blanks ++ inner) ++ (written ++ (',' :: (more ++ rest))) := by simp
    refine ⟨more, hmore, ?_⟩
    simp only [htext, armValue?, hnone, hdata, hcomma, Option.bind_eq_bind, Option.bind_some]
    rfl
  · -- within braces, nothing follows the data but blanks
    have hopened : expect? "\x7b"
        (blanks ++ '\x7b' :: (inner ++ (written ++ (more ++ '\x7d' :: rest)))) =
          some (inner ++ (written ++ (more ++ '\x7d' :: rest))) := by
      rw [expect?_blank hblank]
      rfl
    have hdata := data?_found hvalue hwritten hinner
      ((ends_cons (by decide : '\x7d' ∈ closers) rest).append hmore)
    have hclose : expect? "\x7d" (more ++ '\x7d' :: rest) = some rest :=
      expect?_mark rfl (by decide) hmore rest
    have htext : blanks ++ ('\x7b' :: (inner ++ (written ++ (more ++ ['\x7d']))) ++ rest) =
        blanks ++ '\x7b' :: (inner ++ (written ++ (more ++ '\x7d' :: rest))) := by simp
    refine ⟨[], Layout.blank_nil, ?_⟩
    simp only [htext, armValue?, hopened, hdata, hclose, Option.bind_eq_bind, Option.bind_some]
    rfl

/-- An arm is read back. -/
theorem conversionArm?_found {arm : Option Nat × Expr} (hvalue : IsData arm.2)
    (h : Spelled (dataArm arm).document text) {blanks : List Char} (hblank : Blank blanks)
    (rest : List Char) :
    Starts text ∧ ∃ more, Blank more ∧
      conversionArm? (blanks ++ (text ++ rest)) = some (arm, more ++ rest) := by
  obtain ⟨key, value⟩ := arm
  -- the pattern, the arrow and the body are spelled one behind the other
  have hbox : Spelled (inconsistent 0 ((keyPattern key).document ++ word " => " ++ Layout.joint ++
    bracedBody (value.form true).whole ",")) text := h
  rw [bracedBody_eq] at hbox
  obtain ⟨_, braced, rfl, hhead, hbraced⟩ := hbox.box_last.append
  obtain ⟨_, joint, rfl, hhead, hjoint⟩ := hhead.append
  obtain ⟨pattern, _, rfl, hpattern, harrow⟩ := hhead.append
  rw [harrow.word]
  rw [← bracedBody_eq] at hbraced
  have hword : NotWord (" => ".toList ++ (joint ++ (braced ++ rest))) := notWord_cons rfl _
  obtain ⟨hstarts, hkey⟩ := armKey?_found hpattern hword hblank
  have harrow : expect? "=>" (" => ".toList ++ (joint ++ (braced ++ rest))) =
      some (([' '] ++ joint) ++ (braced ++ rest)) := rfl
  have hgap : Blank ([' '] ++ joint) := (Layout.blank_replicate 1).append hjoint.blank
  obtain ⟨more, hmore, hvalue⟩ := armValue?_found hvalue hbraced hgap rest
  refine ⟨?_, more, hmore, ?_⟩
  · obtain ⟨c, tail, rfl, hc⟩ := hstarts
    exact ⟨c, _, rfl, hc⟩
  · simp only [conversionArm?, List.append_assoc] at hkey harrow hvalue ⊢
    simp only [hkey, harrow, hvalue, Option.bind_eq_bind, Option.bind_some]
    rfl

/-- All arms are read back. -/
theorem many?_arms {arms : List (Option Nat × Expr)} (hvalues : ∀ arm ∈ arms, IsData arm.2)
    (h : Spelled (armsDocument (arms.map dataArm)) text) {steps : Nat}
    (hsteps : text.length < steps) {blanks : List Char} (hblank : Blank blanks)
    (rest : List Char) :
    many? conversionArm? "\x7d" steps (blanks ++ (text ++ '\x7d' :: rest)) = some (arms, rest) := by
  obtain ⟨steps, rfl⟩ := Nat.exists_eq_add_one_of_ne_zero (Nat.ne_zero_of_lt hsteps)
  -- along the arms; the blanks in front are those that the arm before has left
  induction arms generalizing text steps blanks with
  | nil =>
    obtain rfl := h.nil
    have hclose : expect? "\x7d" (blanks ++ '\x7d' :: rest) = some rest :=
      expect?_mark rfl (by decide) hblank rest
    simp only [many?, List.nil_append, hclose]
  | cons arm arms ih =>
    rw [List.map_cons, armsDocument] at h
    obtain ⟨_, others, rfl, h, hothers⟩ := h.append
    obtain ⟨written, lineEnd, rfl, hwritten, hline⟩ := h.append
    have hvalue := hvalues arm (List.mem_cons_self ..)
    obtain ⟨hstarts, more, hmore, harm⟩ := conversionArm?_found hvalue hwritten hblank
      (lineEnd ++ (others ++ '\x7d' :: rest))
    -- an arm starts with its pattern, so the list is not over yet
    have hnone :
        expect? "\x7d" (blanks ++ (written ++ (lineEnd ++ (others ++ '\x7d' :: rest)))) = none :=
      hstarts.expect?_eq_none rfl (by decide) hblank _
    have hlength := hstarts.length_pos
    simp only [List.length_append] at hsteps
    obtain ⟨steps, rfl⟩ := Nat.exists_eq_add_one_of_ne_zero (by omega : steps ≠ 0)
    have hothers := ih (fun arm harm => hvalues arm (List.mem_cons_of_mem _ harm)) hothers
      (hmore.append hline.blank) steps (by omega)
    rw [List.append_assoc] at hothers
    rw [many?]
    simp only [List.append_assoc, hnone, harm, hothers, Option.bind_eq_bind, Option.bind_some]
    rfl

/-! ## Conversions -/

/-- The function that converts a number. -/
def tryFrom (arms : List Arm) : Function where
  name := "try_from"
  parameters := [.typed "value" (.named "usize")]
  result? := some (.applied "Result" [.type (.named "Self"), .type (.named "usize")])
  value? := some (.cases (.name "value") arms)

/-- The parameter of the function that converts. -/
theorem passed_parameter
    (h : Spelled (consistent 0 (outdent (cut ++ commaList [word "value: " ++ word "usize"])) ++
      word ")") text) : Passed ["value: ", "usize", .maybe ",", ")"] text := by
  refine passed_listBox (fun _ => rfl) (by decide)
    [(["value: ", "usize"], word "value: " ++ word "usize")] (List.cons_ne_nil _ _) ?_ h
  intro item hitem text htext
  obtain rfl := List.mem_singleton.mp hitem
  obtain ⟨_, _, rfl, hvalue, htype⟩ := htext.append
  exact (passed_word (by decide) hvalue).append (passed_word (by decide) htype)

/-- The type of the results of conversions. -/
def resultDocument : Layout.Document :=
  (Ty.applied "Result" [.type (.named "Self"), .type (.named "usize")]).document

/-- The type of its result. -/
theorem passed_result
    (h : Spelled (consistent (-Layout.indentation) (word " -> " ++ resultDocument)) text) :
    Passed ["->", "Result", "<", "Self", ",", "usize", .maybe ",", ">"] text := by
  let front := word "Result" ++ (word "<" ++ listBody [word "Self", word "usize"])
  have hbox : Spelled (consistent (-Layout.indentation) ((word " -> " ++ front) ++ word ">")) text := h
  obtain ⟨_, rfl, hresult⟩ := (List.append_assoc (word " -> ") front _ ▸ hbox.box_word).word_append
  have harrow : Passed ["->"] " -> ".toList := fun rest => ⟨[' '], Layout.blank_replicate 1, rfl⟩
  exact harrow.append (passed_applied "Result" "Self" ["usize"] (by decide) (by decide) hresult)

/-- The document in front of the case distinction. -/
def signatureDocument : Layout.Document :=
  word "fn try_from" ++ word "(" ++ Layout.joint ++
    (consistent 0 (outdent (cut ++ commaList [word "value: " ++ word "usize"])) ++ word ")") ++
    consistent (-Layout.indentation) (word " -> " ++ resultDocument) ++ word " \x7b"

/-- Its whole signature, up to the brace. -/
theorem passed_signature (h : Spelled signatureDocument text) :
    Passed ["fn try_from", "(", "value: ", "usize", .maybe ",", ")", "->", "Result", "<", "Self",
      ",", "usize", .maybe ",", ">", "\x7b"] text := by
  -- from the brace back to the name, as the document is put together
  obtain ⟨_, _, rfl, h, hopened⟩ := h.append
  obtain ⟨_, _, rfl, h, hresult⟩ := h.append
  obtain ⟨_, _, rfl, h, hparameter⟩ := h.append
  obtain ⟨_, joint, rfl, h, hjoint⟩ := h.append
  obtain ⟨_, _, rfl, hname, hparenthesis⟩ := h.append
  have hbrace : Passed ["\x7b"] " \x7b".toList :=
    .blank_append (Layout.blank_replicate 1) (.token "\x7b" (by decide))
  rw [← hopened.word] at hbrace
  have hfront := (passed_word (by decide) hname).append (passed_word (by decide) hparenthesis)
  have hinner := (hfront.append_blank hjoint.blank).append (passed_parameter hparameter)
  exact (hinner.append (passed_result hresult)).append hbrace

/-- The function spells its arms within the case distinction. -/
theorem spelled_tryFrom {arms : List Arm} (harms : arms ≠ [])
    (h : Spelled (tryFrom arms).document text) :
    ∃ head body tail, text = head ++ (body ++ '\x7d' :: tail) ∧
      Passed ["fn try_from", "(", "value: ", "usize", .maybe ",", ")", "->", "Result", "<", "Self",
        ",", "usize", .maybe ",", ">", "\x7b", "match ", "value", "\x7b"] head ∧
      Spelled (armsDocument arms) body ∧ Passed ["\x7d"] tail := by
  let value : Layout.Document := inconsistent 0 ((Expr.cases (.name "value") arms).document true)
  have hbox : Spelled (consistent Layout.indentation (signatureDocument ++
      outdent ((lineEndBefore ++ value) ++ lineEnd)) ++ word "\x7d" ++ lineEnd) text := h
  -- the outer box first, then the lines in it, then the case distinction
  obtain ⟨_, after, rfl, hinner, hafter⟩ := hbox.append
  obtain ⟨_, _, rfl, hinner, hclose⟩ := hinner.append
  obtain ⟨_, _, rfl, hsignature, hlines⟩ := (hinner.box_outdent (List.cons_ne_nil _ _) rfl).append
  obtain ⟨_, last, rfl, hlines, hlast⟩ := hlines.append
  obtain ⟨first, _, rfl, hfirst, hvalue⟩ := hlines.append
  obtain ⟨head, body, rfl, hhead, hbody⟩ := spelled_cases harms (by decide) hvalue.box_box
  refine ⟨_, body, _, ?_, (passed_signature hsignature).append (.blank_append hfirst.blank hhead),
    hbody, .blank_append hlast.blank ((passed_word (by decide) hclose).append_blank hafter.blank)⟩
  simp

/-- The conversion of numbers into the kinds of an enumeration. -/
def conversionItem (name : String) (arms : List Arm) : Item :=
  .implementation [] (some (.of "TryFrom" (.named "usize"))) (.named name) []
    [.type "Error" (.named "usize"), .function (tryFrom arms)]

/-- The document in front of the name of the enumeration. -/
def traitDocument : Layout.Document :=
  consistent Layout.indentation (word "impl") ++ word " " ++
    ((Ty.of "TryFrom" (.named "usize")).document ++ Layout.gap ++ word "for ")

/-- The head of the implementation, up to the name of the enumeration. -/
theorem passed_trait (h : Spelled traitDocument text) :
    Passed ["impl", "TryFrom", "<", "usize", .maybe ",", ">", "for "] text := by
  obtain ⟨_, _, rfl, hfront, htrait⟩ := h.append
  obtain ⟨_, blanks, rfl, himpl, hblanks⟩ := hfront.append
  obtain ⟨_, _, rfl, htrait, hfor⟩ := htrait.append
  obtain ⟨_, gap, rfl, htype, hgap⟩ := htrait.append
  have himpl : Spelled (consistent Layout.indentation ([] ++ word "impl")) _ := himpl
  have hblanks : Blank blanks := hblanks.word ▸ Layout.blank_replicate 1
  have htype := passed_applied "TryFrom" "usize" [] (by decide) (by decide) htype
  exact ((passed_word (by decide) himpl.box_word).append_blank hblanks).append
    ((htype.append_blank hgap.blank).append (passed_word (by decide) hfor))

/-- The type of the errors of a conversion. -/
theorem passed_errorType
    (h : Spelled (Member.type "Error" (.named "usize")).document text) :
    Passed ["type Error = ", "usize", ";"] text := by
  have hbox : Spelled (consistent Layout.indentation (word "type Error = " ++ Layout.joint ++
    inconsistent (-Layout.indentation) ([] ++ word "usize") ++ word ";") ++ lineEnd) text := h
  obtain ⟨_, after, rfl, hinner, hafter⟩ := hbox.append
  obtain ⟨_, _, rfl, hinner, hclose⟩ := hinner.box_word.append
  obtain ⟨_, _, rfl, hinner, htype⟩ := hinner.append
  obtain ⟨_, joint, rfl, hname, hjoint⟩ := hinner.append
  exact ((((passed_word (by decide) hname).append_blank hjoint.blank).append
    (passed_word (by decide) htype.box_word)).append (passed_word (by decide) hclose)).append_blank
      hafter.blank

/-- A conversion spells its name and its arms between fixed tokens. -/
theorem spelled_conversion {name : String} {arms : List Arm} (harms : arms ≠ [])
    (h : Spelled (conversionItem name arms).document text) :
    ∃ head next body tail,
      text = head ++ (name.toList ++ (next ++ (body ++ '\x7d' :: tail))) ∧
      Passed ["impl", "TryFrom", "<", "usize", .maybe ",", ">", "for "] head ∧
      next.head? = some ' ' ∧ Passed conversionHead next ∧ Spelled (armsDocument arms) body ∧
      Passed ["\x7d", "\x7d"] tail := by
  let errorType := (Member.type "Error" (.named "usize")).document
  obtain ⟨front, hfront⟩ : ∃ front, (tryFrom arms).document = front ++ lineEnd := ⟨_, rfl⟩
  have hbox : Spelled (consistent Layout.indentation
      ((inconsistent (-Layout.indentation) (traitDocument ++ word name) ++ word " " ++ word "\x7b") ++
        outdent ((lineEndBefore ++ (errorType ++ front)) ++ lineEnd)) ++ word "\x7d" ++ lineEnd)
      text := by
    rw [List.append_assoc lineEndBefore, List.append_assoc errorType, ← hfront,
      ← List.append_nil (tryFrom arms).document]
    exact h
  -- from the outside in: the closing brace, then the lines, then the head
  obtain ⟨_, after, rfl, hinner, hafter⟩ := hbox.append
  obtain ⟨_, _, rfl, hinner, hclose⟩ := hinner.append
  obtain ⟨_, lines, rfl, hhead, hlines⟩ :=
    (hinner.box_outdent (List.cons_ne_nil _ _) rfl).append
  obtain ⟨_, _, rfl, hhead, hopened⟩ := hhead.append
  obtain ⟨_, blanks, rfl, hhead, hblanks⟩ := hhead.append
  obtain ⟨_, _, rfl, htrait, hname⟩ := hhead.box_word.append
  have hlines : Spelled (lineEndBefore ++ (errorType ++ (tryFrom arms).document)) lines := by
    rw [hfront, ← List.append_assoc errorType, ← List.append_assoc lineEndBefore]
    exact hlines
  obtain ⟨first, _, rfl, hfirst, hmembers⟩ := hlines.append
  obtain ⟨_, _, rfl, herror, hfunction⟩ := hmembers.append
  obtain ⟨head, body, tail, rfl, hpassed, hbody, htail⟩ := spelled_tryFrom harms hfunction
  obtain rfl : blanks = [' '] := hblanks.word
  have hblanks : Blank [' '] := Layout.blank_replicate 1
  refine ⟨_, _, body, _, ?_, passed_trait htrait, ?_,
    (Passed.blank_append hblanks (passed_word (by decide) hopened)).append
      ((Passed.blank_append hfirst.blank (passed_errorType herror)).append hpassed), hbody,
    htail.append ((passed_word (by decide) hclose).append_blank hafter.blank)⟩
  · simp [hname.word]
  · rfl

/-- A conversion is read back. -/
theorem conversion?_text {name : String} {arms : List (Option Nat × Expr)}
    (hname : isPlainName name) (harms : arms ≠ []) (hvalues : ∀ arm ∈ arms, IsData arm.2)
    (h : Spelled (conversionItem name (arms.map dataArm)).document text) :
    conversion? text = some (name, arms) := by
  have harms : arms.map dataArm ≠ [] := by simpa using harms
  obtain ⟨head, next, body, tail, rfl, hhead, hspace, hnext, hbody, htail⟩ :=
    spelled_conversion harms h
  obtain ⟨first, hfirst, hhead⟩ := hhead (name.toList ++ (next ++ (body ++ '\x7d' :: tail)))
  have hword : NotWord (next ++ (body ++ '\x7d' :: tail)) := by
    obtain ⟨later, rfl⟩ := List.head?_eq_some_iff.mp hspace
    exact notWord_cons rfl _
  have hname := name?_append hname hword
  obtain ⟨second, hsecond, hnext⟩ := hnext (body ++ '\x7d' :: tail)
  have harms := many?_arms hvalues hbody (by simp; omega :
    body.length < (second ++ (body ++ '\x7d' :: tail)).length) hsecond tail
  obtain ⟨third, hthird, htail⟩ := htail []
  simp only [List.append_nil] at htail
  refine whole?_found ?_ hthird
  simp only [hhead, name?_blank hfirst, hname, hnext, harms, htail, Option.bind_eq_bind,
    Option.bind_some]
  rfl

/-! ## Enumerations -/

/-- Lines that end with commas are a list with a comma at its end. -/
theorem listed_lines {documents : List Layout.Document}
    (h : Spelled (documents.map fun document => document ++ word "," ++ lineEnd).flatten text) :
    Listed documents text := by
  -- line by line, each of which ends with a comma
  induction documents generalizing text with
  | nil =>
    obtain rfl := h.nil
    exact .nil
  | cons document rest ih =>
    obtain ⟨_, others, rfl, h, hothers⟩ := h.append
    obtain ⟨_, blanks, rfl, h, hblanks⟩ := h.append
    obtain ⟨written, _, rfl, hwritten, hcomma⟩ := h.append
    obtain rfl := hcomma.word
    simpa using Listed.cons hwritten hblanks.blank (ih hothers)

/-- An enumeration spells its variants within its braces. -/
theorem spelled_enumeration {derived : List String} {name : String} {variants : List Variant}
    (h : Spelled (Item.enumeration derived name variants).document text) :
    ∃ line blanks listed after,
      text = ("#[derive(" ++ ", ".intercalate derived ++ ")]").toList ++ (line ++
        ("pub enum " ++ name ++ " \x7b").toList ++ (blanks ++ (listed ++ '\x7d' :: after))) ∧
      Blank line ∧ Blank blanks ∧ Listed (variants.map Variant.document) listed ∧ Blank after := by
  have hlines : (variants.map fun variant => variant.document ++ word "," ++ lineEnd) =
      (variants.map Variant.document).map fun document => document ++ word "," ++ lineEnd := by
    rw [List.map_map]
    rfl
  simp only [Item.document, hlines] at h
  obtain ⟨_, after, rfl, h, hafter⟩ := h.append
  obtain ⟨_, _, rfl, h, hclose⟩ := h.append
  obtain ⟨_, body, rfl, h, hbody⟩ := h.append
  obtain ⟨_, line, rfl, hderived, hline⟩ := h.append
  have hbody : ∃ blanks listed, body = ("pub enum " ++ name ++ " \x7b").toList ++ (blanks ++ listed) ∧
      Blank blanks ∧ Listed (variants.map Variant.document) listed := by
    -- the last line ends in front of the brace, so a list without lines is spelled apart
    obtain hnil | ⟨front, last, hvariants⟩ := List.eq_nil_or_concat (variants.map Variant.document)
    · rw [hnil] at hbody ⊢
      -- without lines the box has a single break, and spells nothing
      obtain ⟨_, rfl, hrest⟩ := (hbody.box_start (List.cons_ne_nil _ _)).word_append
      obtain rfl := Spelled.nil hrest
      exact ⟨[], [], rfl, Layout.blank_nil, .nil⟩
    · have hend : ((variants.map Variant.document).map fun document =>
          document ++ word "," ++ lineEnd).flatten =
          ((front.map fun document => document ++ word "," ++ lineEnd).flatten ++
            (last ++ word ",")) ++ lineEnd := by
        simp [hvariants]
      rw [hend, ← List.append_assoc] at hbody
      obtain ⟨_, rfl, hrest⟩ := (hbody.box_outdent (List.cons_ne_nil _ _) rfl).word_append
      rw [List.append_assoc] at hrest
      obtain ⟨blanks, listed, rfl, hblanks, hlisted⟩ := hrest.append
      exact ⟨blanks, listed, rfl, hblanks.blank, listed_lines (hend ▸ hlisted)⟩
  obtain ⟨blanks, listed, rfl, hblanks, hlisted⟩ := hbody
  refine ⟨line, blanks, listed, after, ?_, hline.blank, hblanks, hlisted, hafter.blank⟩
  simp [hderived.word, hclose.word]

/-- A variant with its number is read back. -/
theorem reads_numbered {name : String} (hname : isPlainName name) (number : Nat) :
    Reads numbered? (name, number) (name.toList ++ (" = ".toList ++ (toString number).toList)) := by
  refine ⟨starts_of_isPlainName hname _, fun blanks rest hblank hrest => ?_⟩
  have hword : NotWord (" = ".toList ++ ((toString number).toList ++ rest)) := notWord_cons rfl _
  have hequals : expect? "=" (" = ".toList ++ ((toString number).toList ++ rest)) =
      some ([' '] ++ ((toString number).toList ++ rest)) := rfl
  have hgap : Blank [' '] := Layout.blank_replicate 1
  simp only [numbered?, List.append_assoc, name?_blank hblank, name?_append hname hword, hequals,
    number?_blank hgap, number?_toString number hrest.notWord, Option.bind_eq_bind,
    Option.bind_some]
  rfl

/-- The name of an enumeration is found behind what is derived for it. -/
theorem enumerationName?_found {derived : List String} {name : String}
    (hderived : ']' ∉ (", ".intercalate derived).toList) (hname : isPlainName name)
    {line : List Char} (hline : Blank line) (rest : List Char) :
    enumerationName? (("#[derive(" ++ ", ".intercalate derived ++ ")]").toList ++
      (line ++ ("pub enum " ++ name ++ " \x7b").toList ++ rest)) =
        some (name, " \x7b".toList ++ rest) := by
  let later := line ++ ("pub enum ".toList ++ (name.toList ++ (" \x7b".toList ++ rest)))
  let before := (", ".intercalate derived).toList ++ [')']
  have htext : ("#[derive(" ++ ", ".intercalate derived ++ ")]").toList ++
      (line ++ ("pub enum " ++ name ++ " \x7b").toList ++ rest) =
      "#[derive(".toList ++ (before ++ (']' :: later)) := by
    simp [before, later]
  -- what is derived is skipped up to the bracket behind it
  have hstop : ∀ c ∈ before, (c != ']') = true := by
    intro c hc
    rcases List.mem_append.mp hc with hc | hc
    · exact bne_iff_ne.mpr fun heq => hderived (heq ▸ hc)
    · rw [List.mem_singleton.mp hc]
      rfl
  have hdrop : (before ++ (']' :: later)).dropWhile (· != ']') = ']' :: later := by
    rw [List.dropWhile_append_of_pos hstop]
    rfl
  have hclose : expect? "]" (']' :: later) = some later := rfl
  have henum : expect? "pub enum " later = some (name.toList ++ (" \x7b".toList ++ rest)) := by
    rw [expect?_blank hline, expect?_append "pub enum " (by decide)]
  have hword : NotWord (" \x7b".toList ++ rest) := notWord_cons rfl _
  rw [htext, enumerationName?, expect?_append "#[derive(" (by decide)]
  simp only [hdrop, expectAll?, hclose, henum, name?_append hname hword, Option.bind_eq_bind,
    Option.bind_some]

/-- An enumeration of numbered variants is read back. -/
theorem enumeration?_text {derived : List String} {name : String} {variants : List (String × Nat)}
    (hderived : ']' ∉ (", ".intercalate derived).toList) (hname : isPlainName name)
    (hvariants : ∀ variant ∈ variants, isPlainName variant.1)
    (h : Spelled (Item.enumeration derived name
      (variants.map fun variant => ⟨variant.1, .number variant.2⟩)).document text) :
    enumeration? text = some (name, variants) := by
  obtain ⟨line, blanks, listed, after, rfl, hline, hblanks, hlisted, hafter⟩ :=
    spelled_enumeration h
  -- a variant and its number are read alike in every spelling
  have hitems : List.Forall₂ (fun document value => ∀ written, written.length ≤ listed.length →
      Spelled document written → Reads numbered? value written)
      ((variants.map fun variant => (⟨variant.1, .number variant.2⟩ : Variant)).map
        Variant.document) variants := by
    rw [List.map_map, List.forall₂_map_left_iff]
    refine List.forall₂_same.mpr fun variant hvariant written _ hwritten => ?_
    obtain ⟨_, _, rfl, hname, hnumber⟩ := hwritten.append
    rw [hname.word]
    have hnumber := Spelled.word hnumber
    simpa [hnumber] using reads_numbered (hvariants variant hvariant) variant.2
  have hopened : expect? "\x7b" (" \x7b".toList ++ (blanks ++ (listed ++ '\x7d' :: after))) =
      some (blanks ++ (listed ++ '\x7d' :: after)) := rfl
  have hlist : separated? numbered? "\x7d" (blanks ++ (listed ++ '\x7d' :: after)).length
      (blanks ++ (listed ++ '\x7d' :: after)) = some (variants, after) :=
    separated?_listed rfl (by decide) hlisted hitems (Nat.le_refl _) (by simp; omega) hblanks after
  refine whole?_found ?_ hafter
  simp only [enumerationName?_found hderived hname hline, hopened, hlist, Option.bind_eq_bind,
    Option.bind_some]
  rfl

/-- Whatever is read from the text of an enumeration has its name. -/
theorem name_of_enumeration? {derived : List String} {name : String} {variants : List Variant}
    (hderived : ']' ∉ (", ".intercalate derived).toList) (hname : isPlainName name)
    (h : Spelled (Item.enumeration derived name variants).document text)
    {found : String × List (String × Nat)} (hfound : enumeration? text = some found) :
    found.1 = name := by
  obtain ⟨line, blanks, listed, after, rfl, hline, -⟩ := spelled_enumeration h
  simp only [enumeration?, whole?, enumerationName?_found hderived hname hline,
    Option.bind_eq_bind, Option.bind_some, Option.bind_eq_some_iff] at hfound
  obtain ⟨_, ⟨_, -, _, -, hpair⟩, hfound⟩ := hfound
  cases hpair
  split at hfound
  · cases hfound
    rfl
  · cases hfound

/-! ## Other items -/

/-- No other item is taken for an enumeration. -/
theorem enumeration?_other {item : Item} (h : Spelled item.document text)
    (hkind : item.kind ≠ .enumeration) : enumeration? text = none := by
  obtain ⟨_, -, hexpect⟩ := expect?_start h
  have hnone : expect? "#[derive(" text = none := (hexpect .enumeration).trans (if_neg hkind)
  simp [enumeration?, whole?, enumerationName?, hnone]

/-- No other item is taken for a conversion. -/
theorem conversion?_other {item : Item} (h : Spelled item.document text)
    (hkind : item.kind ≠ .implementation) : conversion? text = none := by
  obtain ⟨_, -, hexpect⟩ := expect?_start h
  have hnone : expect? "impl" text = none := (hexpect .implementation).trans (if_neg hkind)
  simp [conversion?, whole?, expectAll?, hnone]

end ParserFoundry.Code

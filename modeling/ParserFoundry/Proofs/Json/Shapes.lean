import ParserFoundry.Json.Shape
import ParserFoundry.Proofs.Checked
import ParserFoundry.Proofs.Json.Reading
/-!
# Forms and Shapes

A form writes data as a value, and a shape finds the data in it again. The two are lossless if what
was written is found, and if whatever is found could have been written. Being lossless is a matter
of the parts: numbers, texts, lists, tuples, records and variants of lossless forms are lossless.

Main results:
- `asCount?_ofNat`: counts below 2^64 are found, and no others.
- `Lossless.list`, `Lossless.pair`, `Lossless.triple`, `Lossless.option`: forms of several parts.
- `fields?_record`: the fields of a record.
- `Lossless.roundTrips`: what is lossless is found in its text.
-/

namespace ParserFoundry.Json

/-- The least number that is no count, 2^64. -/
def countLimit : Nat := 0x10000000000000000

/-- What a form writes is canonical, and is found by the shape; what the shape finds is in range. -/
structure Lossless {α : Type} (form : α → Json) (shape : Json → Option α) (InRange : α → Prop) :
    Prop where
  canonical : ∀ value, Canonical (form value)
  found : ∀ value, InRange value → shape (form value) = some value
  inRange : ∀ json value, shape json = some value → InRange value

variable {α β γ : Type} {form : α → Json} {shape : Json → Option α} {InRange : α → Prop}
  {form' : β → Json} {shape' : Json → Option β} {InRange' : β → Prop}
  {form'' : γ → Json} {shape'' : Json → Option γ} {InRange'' : γ → Prop}

/-! ## Counts and texts -/

/-- A number is read back as a count exactly if it is below the limit. -/
theorem asCount?_ofNat (value : Nat) :
    asCount? (ofNat value) = if value < countLimit then some value else none := by
  -- a number is written with digits only, so that it is taken for a count
  have hall : (Nat.toDigits 10 value).all Char.isDigit = true :=
    List.all_eq_true.mpr fun c hc => Reader.isDigit_of_mem_toDigits hc
  have hvalue : (Nat.toDigits 10 value).foldl (fun value c => value * 10 + (c.toNat - 48)) 0 =
      value := by
    -- this is how the standard library reads decimal digits
    have hread := Nat.ofDigitChars_ten_toDigits (n := value)
    simp only [Nat.ofDigitChars_eq_foldl, Nat.mul_comm 10] at hread
    exact hread
  rw [ofNat, asCount?, if_pos hall]
  simp only [hvalue]
  rfl

/-- Counts are lossless below the limit. -/
theorem Lossless.count : Lossless ofNat asCount? (· < countLimit) where
  canonical := .number
  found value hvalue := by rw [asCount?_ofNat, if_pos hvalue]
  inRange json value h := by
    -- only digits whose value is below the limit are found
    unfold asCount? at h
    split at h
    case h_1 digits =>
      split at h
      case isTrue =>
        dsimp only at h
        split at h
        case isTrue hlt =>
          cases h
          exact hlt
        case isFalse => cases h
      case isFalse => cases h
    case h_2 => cases h

/-- Texts are lossless, whatever characters they have. -/
theorem Lossless.string : Lossless ofString asString? (fun _ => True) where
  canonical value := .text value.toList
  found value _ := by simp [ofString, asString?]
  inRange _ _ _ := trivial

/-- The range may be said in other words. -/
theorem Lossless.of_iff {Range : α → Prop} (h : Lossless form shape InRange)
    (hiff : ∀ value, Range value ↔ InRange value) : Lossless form shape Range where
  canonical := h.canonical
  found value hvalue := h.found value ((hiff value).mp hvalue)
  inRange json value hfound := (hiff value).mpr (h.inRange json value hfound)

/-- The same under another name for the data. -/
theorem Lossless.map (h : Lossless form shape InRange) {wrap : α → β} {unwrap : β → α}
    (hwrap : ∀ value, wrap (unwrap value) = value) (hunwrap : ∀ value, unwrap (wrap value) = value) :
    Lossless (fun value => form (unwrap value)) (fun json => (shape json).map wrap)
      (fun value => InRange (unwrap value)) where
  canonical value := h.canonical (unwrap value)
  found value hvalue := by rw [h.found _ hvalue, Option.map_some, hwrap]
  inRange json value hfound := by
    obtain ⟨inner, hinner, rfl⟩ := Option.map_eq_some_iff.mp hfound
    rw [hunwrap]
    exact h.inRange json inner hinner

/-- What is found inside of a variant is in range. -/
theorem Lossless.of_content (h : Lossless form shape InRange) {wrap : α → β} {json : Json}
    {value : β} (hfound : (shape json >>= fun content => pure (wrap content)) = some value) :
    ∃ content, InRange content ∧ wrap content = value := by
  obtain ⟨content, hcontent, hvalue⟩ := Option.bind_eq_some_iff.mp hfound
  exact ⟨content, h.inRange json content hcontent, Option.some.inj hvalue⟩

/-! ## Lists, tuples and options -/

/-- Lists are lossless if their elements are. -/
theorem Lossless.list (h : Lossless form shape InRange) :
    Lossless (ofList form) (asList? shape) (fun values => ∀ value ∈ values, InRange value) where
  canonical values := .array (List.forall_mem_map.mpr fun value _ => h.canonical value)
  found values hvalues := by
    -- element by element, since every one of them is in range
    have hmap := mapM_map_eq_some (k := id) fun value hvalue => h.found value (hvalues value hvalue)
    rwa [List.map_id] at hmap
  inRange json values hfound := by
    unfold asList? at hfound
    split at hfound
    case h_1 => exact forall_of_mapM_eq_some h.inRange hfound
    case h_2 => cases hfound

/-- A pair is written as an array of its two parts. -/
theorem Lossless.pair (h : Lossless form shape InRange) (h' : Lossless form' shape' InRange') :
    Lossless (fun value : α × β => array [form value.1, form' value.2]) (asPair? shape shape')
      (fun value => InRange value.1 ∧ InRange' value.2) where
  canonical value := by
    refine .array (List.forall_mem_cons.mpr ⟨h.canonical _, ?_⟩)
    exact List.forall_mem_singleton.mpr (h'.canonical _)
  found value hvalue := by simp [asPair?, h.found _ hvalue.1, h'.found _ hvalue.2]
  inRange json value hfound := by
    unfold asPair? at hfound
    split at hfound
    case h_1 =>
      -- two parts are found one after the other
      simp only [Option.bind_eq_bind, Option.bind_eq_some_iff] at hfound
      obtain ⟨first, hfirst, second, hsecond, hvalue⟩ := hfound
      cases hvalue
      exact ⟨h.inRange _ _ hfirst, h'.inRange _ _ hsecond⟩
    case h_2 => cases hfound

/-- A triple is written as an array of its three parts. -/
theorem Lossless.triple (h : Lossless form shape InRange) (h' : Lossless form' shape' InRange')
    (h'' : Lossless form'' shape'' InRange'') :
    Lossless (fun value : α × β × γ => array [form value.1, form' value.2.1, form'' value.2.2])
      (asTriple? shape shape' shape'')
      (fun value => InRange value.1 ∧ InRange' value.2.1 ∧ InRange'' value.2.2) where
  canonical value := by
    refine .array (List.forall_mem_cons.mpr ⟨h.canonical _, ?_⟩)
    refine List.forall_mem_cons.mpr ⟨h'.canonical _, ?_⟩
    exact List.forall_mem_singleton.mpr (h''.canonical _)
  found value hvalue := by
    simp [asTriple?, h.found _ hvalue.1, h'.found _ hvalue.2.1, h''.found _ hvalue.2.2]
  inRange json value hfound := by
    unfold asTriple? at hfound
    split at hfound
    case h_1 =>
      simp only [Option.bind_eq_bind, Option.bind_eq_some_iff] at hfound
      obtain ⟨first, hfirst, second, hsecond, third, hthird, hvalue⟩ := hfound
      cases hvalue
      exact ⟨h.inRange _ _ hfirst, h'.inRange _ _ hsecond, h''.inRange _ _ hthird⟩
    case h_2 => cases hfound

/-- A form that may be left out has to be no null itself. -/
theorem Lossless.option (h : Lossless form shape InRange) (hne : ∀ value, form value ≠ null) :
    Lossless (ofOption form) (asOption? shape) (fun value? => ∀ value ∈ value?, InRange value) where
  canonical value? := by
    cases value? with
    | none => exact .null
    | some value => exact h.canonical value
  found value? hvalue := by
    cases value? with
    | none => rfl
    | some value =>
      -- the null is taken for no value, so the form of a value must be none
      have hform : asOption? shape (form value) = (shape (form value)).map some := by
        unfold asOption?
        split
        case h_1 heq => exact absurd heq (hne value)
        case h_2 => rfl
      rw [ofOption, hform, h.found value (hvalue value rfl), Option.map_some]
  inRange json value? hfound := by
    unfold asOption? at hfound
    split at hfound
    case h_1 =>
      cases hfound
      exact nofun
    case h_2 =>
      obtain ⟨value, hvalue, rfl⟩ := Option.map_eq_some_iff.mp hfound
      intro other hother
      cases hother
      exact h.inRange json value hvalue

theorem Lossless.optionalString :
    Lossless (ofOption ofString) (asOption? asString?) (fun _ => True) := by
  refine (Lossless.string.option fun value => ?_).of_iff fun value? => by simp
  simp [ofString]

/-! ## Records -/

/-- A record of canonical values is canonical. -/
theorem canonical_record {members : List (String × Json)}
    (h : ∀ member ∈ members, Canonical member.2) : Canonical (record members) := by
  -- members of a record are those of an object with other names
  have hobject : Canonical (object (named (members.map fun member =>
      (member.1.toList, member.2)))) :=
    .object (List.forall_mem_map.mpr h)
  rwa [named, List.map_map] at hobject

/-- No other member has the same name. -/
theorem filter_eq_singleton {members : List (String × Json)} (hnodup : (members.map Prod.fst).Nodup)
    {member : String × Json} (hmember : member ∈ members) :
    members.filter (fun other => other.1 = member.1) = [member] := by
  -- the member is the first one, or one of the rest
  induction members with
  | nil => cases hmember
  | cons first rest ih =>
    obtain ⟨hfirst, hrest⟩ := List.nodup_cons.mp hnodup
    rcases List.mem_cons.mp hmember with rfl | hlater
    · have hnone : rest.filter (fun other => other.1 = member.1) = [] := by
        refine List.filter_eq_nil_iff.mpr fun other hother => ?_
        have hne : other.1 ≠ member.1 := fun heq => hfirst (heq ▸ List.mem_map_of_mem hother)
        simpa using hne
      rw [List.filter_cons_of_pos (by simp), hnone]
    · have hne : first.1 ≠ member.1 := fun heq => hfirst (heq ▸ List.mem_map_of_mem hlater)
      rw [List.filter_cons_of_neg (by simpa using hne), ih hrest hlater]

/-- A member whose name occurs once is found. -/
theorem member?_record {members : List (String × Json)} (hnodup : (members.map Prod.fst).Nodup)
    {member : String × Json} (hmember : member ∈ members) :
    member? (members.map fun (name, value) => (some name.toList, value)) member.1 =
      some (some member.2) := by
  have hfilter := filter_eq_singleton hnodup hmember
  simp only [member?, List.filter_map, Function.comp_def, Option.some.injEq, String.toList_inj,
    hfilter]
  rfl

/-- The fields of a record are found. -/
theorem fields?_record {names : List String} (members : List (String × Json))
    (hnames : members.map Prod.fst = names) (hnodup : names.Nodup) :
    fields? names (record members) = some (members.map fun member => some member.2) := by
  subst hnames
  -- every name is looked up for itself
  rw [record, fields?, if_pos (by simp)]
  exact mapM_map_eq_some fun member hmember => member?_record hnodup hmember

/-! ## Variants -/

/-- A variant with content is an object with one member. -/
theorem variant?_fullVariant (name : String) (content : Json) :
    variant? (fullVariant name content) = some (name, some content) := by
  simp [fullVariant, record, variant?]

/-- A variant without content is its name. -/
theorem variant?_plainVariant (name : String) : variant? (plainVariant name) = some (name, none) := by
  simp [plainVariant, ofString, variant?]

theorem canonical_fullVariant (name : String) {content : Json} (h : Canonical content) :
    Canonical (fullVariant name content) :=
  canonical_record (List.forall_mem_singleton.mpr h)

theorem canonical_plainVariant (name : String) : Canonical (plainVariant name) :=
  .text name.toList

/-! ## Texts of values -/

/-- The compact text of data. -/
def encode (form : α → Json) (value : α) : String :=
  String.ofList (form value).print

/-- The data that a text holds. -/
def decode? (shape : Json → Option α) (text : String) : Option α :=
  (read? text.toList).bind shape

/-- What is in range is decoded from its text, and the text of whatever was decoded is decoded to the
same. -/
def RoundTrips (form : α → Json) (shape : Json → Option α) (InRange : α → Prop) : Prop :=
  (∀ value, InRange value → decode? shape (encode form value) = some value) ∧
    ∀ text value, decode? shape text = some value →
      decode? shape (encode form value) = some value

theorem decode?_encode {value : α} (hcanonical : Canonical (form value))
    (hfound : shape (form value) = some value) :
    decode? shape (encode form value) = some value := by
  rw [decode?, encode, String.toList_ofList, read?_print hcanonical, Option.bind_some, hfound]

/-- What is lossless as a value is lossless as a text. -/
theorem Lossless.roundTrips (h : Lossless form shape InRange) : RoundTrips form shape InRange := by
  constructor
  · intro value hvalue
    exact decode?_encode (h.canonical value) (h.found value hvalue)
  · intro text value hdecode
    -- what was found is in range, and so it is found in its own text
    obtain ⟨json, -, hshape⟩ := Option.bind_eq_some_iff.mp hdecode
    exact decode?_encode (h.canonical value) (h.found value (h.inRange json value hshape))

end ParserFoundry.Json

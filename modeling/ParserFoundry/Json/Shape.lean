import ParserFoundry.Json.Value
/-!
# Shapes of JSON Values

How typed data is found in a value: counts, texts, lists, tuples, records and variants. A record
may also be the array of its fields in order; unknown members are ignored, and known ones must not
occur twice. A variant is its name, or an object with its name and content.
-/

namespace ParserFoundry.Json

/-- A number below 2^64 that is written with digits only. -/
def asCount? : Json → Option Nat
  | number digits =>
    if digits.all Char.isDigit then
      let value := digits.foldl (fun value c => value * 10 + (c.toNat - 48)) 0
      if value < 0x10000000000000000 then some value else none
    else none
  | _ => none

def asString? : Json → Option String
  | text value? => value?.map String.ofList
  | _ => none

/-- Nothing, or a value of a shape. -/
def asOption? {α : Type} (shape : Json → Option α) : Json → Option (Option α)
  | null => some none
  | value => (shape value).map some

def asList? {α : Type} (shape : Json → Option α) : Json → Option (List α)
  | array items => items.mapM shape
  | _ => none

def asPair? {α β : Type} (first : Json → Option α) (second : Json → Option β) :
    Json → Option (α × β)
  | array [a, b] => do return (← first a, ← second b)
  | _ => none

def asTriple? {α β γ : Type} (first : Json → Option α) (second : Json → Option β)
    (third : Json → Option γ) : Json → Option (α × β × γ)
  | array [a, b, c] => do return (← first a, ← second b, ← third c)
  | _ => none

/-! ## Records -/

/-- The only value of the member `name`, if it is there; no answer if there are several. -/
def member? (members : List (Option (List Char) × Json)) (name : String) : Option (Option Json) :=
  match (members.filter fun entry => entry.1 = some name.toList).map Prod.snd with
  | [] => some none
  | [value] => some (some value)
  | _ => none

/-- The values of the fields `names` of a record, in that order. -/
def fields? (names : List String) : Json → Option (List (Option Json))
  | array items => if items.length = names.length then some (items.map some) else none
  | object members =>
    if members.all fun entry => entry.1.isSome then names.mapM (member? members) else none
  | _ => none

/-- A field that may be left out. -/
def optionalField? {α : Type} (shape : Json → Option α) : Option Json → Option (Option α)
  | none => some none
  | some value => asOption? shape value

/-! ## Variants -/

/-- The name of a variant and its content, if it has any. -/
def variant? : Json → Option (String × Option Json)
  | text (some name) => some (String.ofList name, none)
  | object [(some name, content)] => some (String.ofList name, some content)
  | _ => none

/-- Whether a variant has no content. -/
def hasNoContent : Option Json → Bool
  | none => true
  | some null => true
  | _ => false

/-- A variant without content. -/
def plainVariant (name : String) : Json :=
  ofString name

/-- A variant with content. -/
def fullVariant (name : String) (content : Json) : Json :=
  record [(name, content)]

end ParserFoundry.Json

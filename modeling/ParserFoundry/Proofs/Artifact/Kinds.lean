import ParserFoundry.Proofs.Code.Kinds
import ParserFoundry.Proofs.Code.Names
/-!
# Kinds of the Types File

The enumerations of kinds in a types file number their variants by their places, and the conversions
of numbers give the variants back.

Main results:
- `holdsKinds_typesFile`: the three enumerations of kinds, read back from the texts of the items.
-/

namespace ParserFoundry.Artifact

open Code
open Code.Reading (isPlainName enumeration? conversion? convert?)
open Layout (Spelled)

variable {blueprint : Blueprint}

/-! ## Conversions -/

/-- What the conversion of a number into a kind gives. -/
def converted (name : String) (kinds : List String) (number : Nat) : Expr :=
  match kinds[number]? with
  | some kind => .apply ["Ok"] [.names [name, kind]]
  | none => .apply ["Err"] [.name "value"]

/-- The arms of the conversion of numbers into kinds; the first kind has the number `first`. -/
def conversionArms (name : String) (first : Nat) (kinds : List String) :
    List (Option Nat × Expr) :=
  ((kinds.zipIdx first).map fun kind => (some kind.2, .apply ["Ok"] [.names [name, kind.1]])) ++
    [(none, .apply ["Err"] [.name "value"])]

/-- A number within the range of the kinds is converted into the kind in its place, and all other
numbers are errors. -/
theorem convert?_conversionArms (name : String) (first : Nat) (kinds : List String) (number : Nat) :
    convert? (conversionArms name first kinds) (first + number) =
      some (converted name kinds number) := by
  -- the first number grows along the kinds, and the arm in front is passed over for each
  induction kinds generalizing first number with
  | nil => rfl
  | cons kind rest ih =>
    have harms : conversionArms name first (kind :: rest) =
        (some first, .apply ["Ok"] [.names [name, kind]]) :: conversionArms name (first + 1) rest :=
      rfl
    cases number with
    | zero => simp [harms, convert?, converted]
    | succ number =>
      have hother : (first == first + (number + 1)) = false := by simp
      have hrest := ih (first + 1) number
      rw [show first + 1 + number = first + (number + 1) by omega] at hrest
      rw [harms, convert?, List.find?_cons, Option.all_some, hother]
      exact hrest

/-! ## Enumerations and their conversions -/

/-- The texts of items hold an enumeration of the kinds, numbered by their places, and the conversion
of numbers into them, and nothing else under its name. -/
structure HoldsKinds (texts : List (List Char)) (name : String) (kinds : List String) : Prop where
  enumeration : ((texts.filterMap enumeration?).filter fun found => found.1 = name) =
    [(name, kinds.zipIdx)]
  conversion : ∃ arms,
    ((texts.filterMap conversion?).filter fun found => found.1 = name) = [(name, arms)] ∧
      ∀ number, convert? arms number = some (converted name kinds number)

theorem HoldsKinds.of_arms {texts : List (List Char)} {name : String} {kinds : List String}
    (henumeration : ((texts.filterMap enumeration?).filter fun found => found.1 = name) =
      [(name, kinds.zipIdx)])
    (hconversion : ((texts.filterMap conversion?).filter fun found => found.1 = name) =
      [(name, conversionArms name 0 kinds)]) : HoldsKinds texts name kinds where
  enumeration := henumeration
  conversion := by
    refine ⟨_, hconversion, fun number => ?_⟩
    simpa using convert?_conversionArms name 0 kinds number

theorem kindItems_eq (name : String) (kinds : List String) :
    kindItems name kinds =
      [.enumeration ["Clone", "Copy", "Debug", "Eq", "Hash", "PartialEq"] name
          (kinds.zipIdx.map fun kind => ⟨kind.1, .number kind.2⟩),
        conversionItem name ((conversionArms name 0 kinds).map dataArm)] := by
  simp only [kindItems, conversionItem, tryFrom, conversionArms, List.mapIdx_eq_zipIdx_map,
    List.map_append, List.map_map]
  rfl

theorem isData_conversionArms {name : String} {kinds : List String} (hname : isPlainName name)
    (hkinds : ∀ kind ∈ kinds, isPlainName kind) :
    ∀ arm ∈ conversionArms name 0 kinds, IsData arm.2 := by
  -- the arm for all other numbers is data whatever the kinds are
  have hvalue : IsData (.apply ["Err"] [.name "value"]) :=
    .apply (by decide) (List.forall_mem_singleton.mpr (.names (by decide)))
  simp only [conversionArms, List.forall_mem_append, List.mem_map, List.forall_mem_cons]
  refine ⟨?_, hvalue, nofun⟩
  rintro _ ⟨⟨kind, number⟩, hmem, rfl⟩
  have hkind := hkinds kind (List.fst_mem_of_mem_zipIdx hmem)
  refine .apply (by decide) ?_
  rw [List.forall_mem_singleton]
  exact .names (by simpa using ⟨hname, hkind⟩)

/-- What is read from the texts of an enumeration of kinds and of its conversion. -/
theorem kindItems_texts {name : String} {kinds : List String} {items : List Item}
    {texts : List (List Char)} (hname : isPlainName name)
    (hkinds : ∀ kind ∈ kinds, isPlainName kind)
    (h : List.Forall₂ (fun item text => Spelled item.document text) (kindItems name kinds ++ items)
      texts) :
    ∃ more, texts.filterMap enumeration? = (name, kinds.zipIdx) :: more.filterMap enumeration? ∧
      texts.filterMap conversion? = (name, conversionArms name 0 kinds) :: more.filterMap conversion? ∧
      List.Forall₂ (fun item text => Spelled item.document text) items more := by
  rw [kindItems_eq] at h
  cases h with
  | cons henumeration h =>
    cases h with
    | @cons _ _ _ more hconversion hmore =>
      have hvariants : ∀ variant ∈ kinds.zipIdx, isPlainName variant.1 := fun variant hvariant =>
        hkinds _ (List.fst_mem_of_mem_zipIdx hvariant)
      have hread := enumeration?_text (by decide) hname hvariants henumeration
      have hconvert := conversion?_text hname (by simp [conversionArms])
        (isData_conversionArms hname hkinds) hconversion
      -- neither of the two items is taken for the other one
      have hnone := conversion?_other henumeration nofun
      have hnone' := enumeration?_other hconversion nofun
      exact ⟨more, by simp [hread, hnone'], by simp [hconvert, hnone], hmore⟩

/-- The values of symbols are no kinds. -/
theorem valueItems_texts {texts : List (List Char)}
    (h : List.Forall₂ (fun item text => Spelled item.document text) (valueItems blueprint) texts) :
    (∀ found ∈ texts.filterMap enumeration?, found.1 ∈ ["Symbol", "Terminal", "NonTerminal"]) ∧
      texts.filterMap conversion? = [] := by
  have hname : ∀ name variants text, isPlainName name →
      Spelled (Item.enumeration ["Debug"] name variants).document text →
      ∀ found, enumeration? text = some found → found.1 = name :=
    fun name variants text hname h found hfound =>
      name_of_enumeration? (by decide) hname h hfound
  -- three enumerations, one for each kind of value
  cases h with
  | cons hsymbol h =>
    cases h with
    | cons hterminal h =>
      cases h with
      | cons hnonterminal h =>
        cases h
        refine ⟨fun found hfound => ?_, ?_⟩
        · obtain ⟨text, hmem, hread⟩ := List.mem_filterMap.mp hfound
          simp only [List.mem_cons, List.not_mem_nil, or_false] at hmem
          rcases hmem with rfl | rfl | rfl
          · simp [hname _ _ _ (by decide) hsymbol found hread]
          · simp [hname _ _ _ (by decide) hterminal found hread]
          · simp [hname _ _ _ (by decide) hnonterminal found hread]
        · simp [conversion?_other hsymbol nofun, conversion?_other hterminal nofun,
            conversion?_other hnonterminal nofun]

/-- **The kinds of a types file**: each of the three enumerations, read back from the texts of the
items, numbers its variants by their places, and numbers are converted back. -/
theorem holdsKinds_typesFile {texts : List (List Char)}
    (hterminals : ∀ kind ∈ blueprint.names.terminalKinds, isPlainName kind)
    (hnonterminals : ∀ kind ∈ blueprint.names.nonterminalKinds, isPlainName kind)
    (hproductions : ∀ kind ∈ blueprint.names.productionKinds, isPlainName kind)
    (h : List.Forall₂ (fun item text => Spelled item.document text) (typesFile blueprint) texts) :
    HoldsKinds texts "TermKind" blueprint.names.terminalKinds ∧
      HoldsKinds texts "NonTermKind" blueprint.names.nonterminalKinds ∧
      HoldsKinds texts "ProdKind" blueprint.names.productionKinds := by
  simp only [typesFile, List.append_assoc] at h
  obtain ⟨afterTerminals, henumerations, hconversions, h⟩ :=
    kindItems_texts (by decide) hterminals h
  obtain ⟨afterNonterminals, henumerations', hconversions', h⟩ :=
    kindItems_texts (by decide) hnonterminals h
  obtain ⟨values, henumerations'', hconversions'', h⟩ :=
    kindItems_texts (by decide) hproductions h
  obtain ⟨hothers, hnone⟩ := valueItems_texts h
  -- each kind of item is read in the order in which the enumerations stand
  rw [henumerations', henumerations''] at henumerations
  rw [hconversions', hconversions'', hnone] at hconversions
  -- the enumerations of values have other names than those of kinds
  have hvalues : ∀ name ∈ ["TermKind", "NonTermKind", "ProdKind"],
      ((values.filterMap enumeration?).filter fun found => found.1 = name) = [] := by
    intro name hname
    refine List.filter_eq_nil_iff.mpr fun found hfound => ?_
    have hdiffer : ∀ kind ∈ ["TermKind", "NonTermKind", "ProdKind"],
        ∀ value ∈ ["Symbol", "Terminal", "NonTerminal"], value ≠ kind := by decide
    simpa using hdiffer name hname found.1 (hothers found hfound)
  refine ⟨.of_arms ?_ ?_, .of_arms ?_ ?_, .of_arms ?_ ?_⟩
  · simp [henumerations, hvalues]
  · simp [hconversions]
  · simp [henumerations, hvalues]
  · simp [hconversions]
  · simp [henumerations, hvalues]
  · simp [hconversions]

end ParserFoundry.Artifact

import Mathlib.Data.List.Forall2
import ParserFoundry.Journal
/-!
# Checked Computations

How computations that may fail come to a result: a sequence of two succeeds when both do, and a
check of every element of a list succeeds when every element passes. Computations that also leave
notes come to their results in the same way. Two computations are compared up to errors of one kind.
-/

namespace ParserFoundry

/-! ## Results and errors -/

variable {ε α β : Type}

/-- A sequence succeeds when both parts do, the second one on the value of the first. -/
theorem bind_eq_ok_iff {first : Except ε α} {next : α → Except ε β} {result : β} :
    (first >>= next) = .ok result ↔ ∃ value, first = .ok value ∧ next value = .ok result := by
  cases first with
  | error cause => simp [bind, Except.bind]
  | ok value => simp [bind, Except.bind]

theorem throw_eq_error (cause : ε) : (throw cause : Except ε α) = .error cause :=
  rfl

theorem error_bind (cause : ε) (next : α → Except ε β) :
    ((.error cause : Except ε α) >>= next) = .error cause :=
  rfl

theorem ok_bind (value : α) (next : α → Except ε β) :
    ((.ok value : Except ε α) >>= next) = next value :=
  rfl

theorem pure_eq_ok (value : α) : (pure value : Except ε α) = .ok value :=
  rfl

/-- What is made of the result is made behind the second part. -/
theorem map_bind_eq {γ : Type} (f : β → γ) (first : Except ε α) (next : α → Except ε β) :
    (first >>= next).map f = first >>= fun value => (next value).map f := by
  cases first <;> rfl

/-- A check that passes exactly the elements with `P`, and makes `f` of them, makes the list of all
`f` exactly when all elements have `P`. -/
theorem mapM_eq_ok_iff {check : α → Except ε β} {P : α → Prop} {f : α → β}
    (hcheck : ∀ value result, check value = .ok result ↔ P value ∧ result = f value)
    (values : List α) (results : List β) :
    values.mapM check = .ok results ↔ (∀ value ∈ values, P value) ∧ results = values.map f := by
  -- along the list: the first element is checked before the others
  induction values generalizing results with
  | nil => simp [pure, Except.pure, eq_comm]
  | cons value rest ih =>
    simp only [List.mapM_cons, bind_eq_ok_iff, pure, Except.pure, Except.ok.injEq, hcheck, ih,
      List.mem_cons, forall_eq_or_imp, List.map_cons]
    -- every element has to pass, and the results are made one by one
    constructor
    · rintro ⟨_, ⟨hvalue, rfl⟩, _, ⟨hrest, rfl⟩, rfl⟩
      exact ⟨⟨hvalue, hrest⟩, rfl⟩
    · rintro ⟨⟨hvalue, hrest⟩, rfl⟩
      exact ⟨_, ⟨hvalue, rfl⟩, _, ⟨hrest, rfl⟩, rfl⟩

/-- A list that is made has one result for each element, in order. -/
theorem forall₂_of_mapM_eq_ok {make : α → Except ε β} {values : List α} {results : List β}
    (h : values.mapM make = .ok results) :
    List.Forall₂ (fun value result => make value = .ok result) values results := by
  induction values generalizing results with
  | nil =>
    cases h
    exact .nil
  | cons value rest ih =>
    simp only [List.mapM_cons, bind_eq_ok_iff, pure, Except.pure, Except.ok.injEq] at h
    obtain ⟨result, hresult, others, hothers, rfl⟩ := h
    exact .cons hresult (ih hothers)

/-- A list can be made exactly if something can be made of each element. -/
theorem exists_mapM_eq_ok_iff {make : α → Except ε β} {values : List α} :
    (∃ results, values.mapM make = .ok results) ↔
      ∀ value ∈ values, ∃ result, make value = .ok result := by
  induction values with
  | nil => exact iff_of_true ⟨[], rfl⟩ nofun
  | cons value rest ih =>
    simp only [List.mapM_cons, bind_eq_ok_iff, pure, Except.pure, Except.ok.injEq,
      List.forall_mem_cons, ← ih]
    constructor
    · rintro ⟨_, result, hresult, others, hothers, -⟩
      exact ⟨⟨result, hresult⟩, others, hothers⟩
    · rintro ⟨⟨result, hresult⟩, others, hothers⟩
      exact ⟨_, result, hresult, others, hothers, rfl⟩

/-- A computation that is known to succeed has its value for a result. -/
theorem eq_ok_of_isOk [Inhabited α] {result : Except ε α} (h : result.isOk = true) :
    result = .ok (result.toOption.getD default) := by
  cases result with
  | error cause => cases h
  | ok value => rfl

/-! ## Errors of a kind -/

/-- All errors that the computation breaks off with are of the kind. -/
def ErrorsIn (kind : ε → Prop) (computation : Except ε α) : Prop :=
  ∀ cause, computation = .error cause → kind cause

namespace ErrorsIn

variable {kind : ε → Prop}

/-- A computation that succeeds breaks off with no error. -/
theorem of_ok (value : α) : ErrorsIn kind (.ok value) := by
  intro cause hcause
  cases hcause

/-- The error of a fault is its own cause. -/
theorem of_error {cause : ε} (hcause : kind cause) :
    ErrorsIn kind (.error cause : Except ε α) := by
  intro _ h
  cases h
  exact hcause

/-- A sequence breaks off in its first part or in its second. -/
theorem bind {first : Except ε α} {next : α → Except ε β} (hfirst : ErrorsIn kind first)
    (hnext : ∀ value, ErrorsIn kind (next value)) : ErrorsIn kind (first >>= next) := by
  cases first with
  | error cause => exact of_error (hfirst cause rfl)
  | ok value => exact hnext value

/-- A check of a list breaks off at one of its elements. -/
theorem mapM {check : α → Except ε β} (hcheck : ∀ value, ErrorsIn kind (check value))
    (values : List α) : ErrorsIn kind (values.mapM check) := by
  -- the first element, then the others, then the result, which is no fault
  induction values with
  | nil => exact of_ok _
  | cons value rest ih =>
    rw [List.mapM_cons]
    exact (hcheck value).bind fun _ => ih.bind fun _ => of_ok _

end ErrorsIn

/-- `first` comes to what `second` comes to, unless it breaks off with an error of the kind. -/
def EqualUnless (kind : ε → Prop) (first second : Except ε α) : Prop :=
  first = second ∨ ∃ cause, first = .error cause ∧ kind cause

namespace EqualUnless

variable {kind : ε → Prop}

/-- A computation compares to itself, whether it succeeds or fails. -/
theorem refl (first : Except ε α) : EqualUnless kind first first :=
  .inl rfl

/-- An error of the kind excuses any difference. -/
theorem of_error {cause : ε} (hcause : kind cause) (second : Except ε α) :
    EqualUnless kind (.error cause) second :=
  .inr ⟨cause, rfl, hcause⟩

/-- Sequences compare if their parts do, value by value. -/
theorem bind {first second : Except ε α} {next other : α → Except ε β}
    (hfirst : EqualUnless kind first second)
    (hnext : ∀ value, EqualUnless kind (next value) (other value)) :
    EqualUnless kind (first >>= next) (second >>= other) := by
  -- an error of the kind in the first part breaks the whole sequence off
  rcases hfirst with rfl | ⟨cause, rfl, hcause⟩
  · cases first with
    | error cause => exact refl _
    | ok value => exact hnext value
  · exact of_error hcause _

/-- The checks of a list compare to those of the elements that are kept, if the others break off. -/
theorem mapM_filter {check other : α → Except ε β} {keep : α → Bool} {values : List α}
    (hkept : ∀ value ∈ values, keep value = true → EqualUnless kind (check value) (other value))
    (hdropped : ∀ value ∈ values, keep value = false →
      ∃ cause, check value = .error cause ∧ kind cause) :
    EqualUnless kind (values.mapM check) ((values.filter keep).mapM other) := by
  induction values with
  | nil => exact refl _
  | cons value rest ih =>
    obtain ⟨hvalue, hrest⟩ := List.forall_mem_cons.mp hkept
    obtain ⟨hvalue', hrest'⟩ := List.forall_mem_cons.mp hdropped
    -- an element that is dropped breaks the first check off before any other one
    cases hkeep : keep value with
    | false =>
      obtain ⟨cause, hcheck, hcause⟩ := hvalue' hkeep
      simp only [List.mapM_cons, hcheck]
      exact of_error hcause _
    | true =>
      simp only [List.filter_cons, hkeep, if_true, List.mapM_cons]
      exact (hvalue hkeep).bind fun _ => (ih hrest hrest').bind fun _ => refl _

/-- Where the first computation succeeds, so does the second one. -/
theorem eq_ok {first second : Except ε α} {value : α} (h : EqualUnless kind first second)
    (hfirst : first = .ok value) : second = .ok value := by
  rcases h with rfl | ⟨cause, hcause, -⟩
  · exact hfirst
  · cases hcause.symm.trans hfirst

/-- Where the first computation fails, it does so in the way of the kind or so does the second. -/
theorem eq_error {first second : Except ε α} {cause : ε} (h : EqualUnless kind first second)
    (hfirst : first = .error cause) : kind cause ∨ second = .error cause := by
  rcases h with rfl | ⟨other, hother, hkind⟩
  · exact .inr hfirst
  · cases hother.symm.trans hfirst
    exact .inl hkind

end EqualUnless

/-! ## Computations in step -/

/-- Where the first computation comes to a value, the second one comes to a value in relation to
it. -/
def Follows {η : Type} (related : α → β → Prop) (first : Except ε α) (second : Except η β) : Prop :=
  ∀ value, first = .ok value → ∃ other, second = .ok other ∧ related value other

namespace Follows

variable {η γ δ : Type} {related : α → β → Prop} {further : γ → δ → Prop}

/-- Two values in relation, whatever the errors of the two computations look like. -/
theorem of_ok {value : α} {other : β} (h : related value other) :
    Follows related (.ok value : Except ε α) (.ok other : Except η β) := by
  rintro _ ⟨⟩
  exact ⟨other, rfl, h⟩

/-- Where the first computation fails, nothing is asked of the second one. -/
theorem of_error (cause : ε) (second : Except η β) :
    Follows related (.error cause : Except ε α) second := by
  rintro _ ⟨⟩

/-- Sequences stay in step: the values that are passed on are in relation. -/
theorem bind {first : Except ε α} {second : Except η β} {next : α → Except ε γ}
    {other : β → Except η δ} (h : Follows related first second)
    (hnext : ∀ value value', related value value' → Follows further (next value) (other value')) :
    Follows further (first >>= next) (second >>= other) := by
  intro result hresult
  obtain ⟨value, hvalue, hresult⟩ := bind_eq_ok_iff.mp hresult
  obtain ⟨value', hvalue', hrelated⟩ := h value hvalue
  obtain ⟨result', hresult', hfurther⟩ := hnext value value' hrelated result hresult
  exact ⟨result', bind_eq_ok_iff.mpr ⟨value', hvalue', hresult'⟩, hfurther⟩

/-- Both computations take the same branch. -/
theorem ite {p q : Prop} [Decidable p] [Decidable q] {first first' : Except ε α}
    {second second' : Except η β} (hpq : p ↔ q) (hpos : p → Follows related first second)
    (hneg : ¬ p → Follows related first' second') :
    Follows related (if p then first else first') (if q then second else second') := by
  by_cases hp : p
  · rw [if_pos hp, if_pos (hpq.mp hp)]
    exact hpos hp
  · rw [if_neg hp, if_neg fun hq => hp (hpq.mpr hq)]
    exact hneg hp

/-- The first computation fails in a branch that the second one does not take. -/
theorem guard {p q : Prop} [Decidable p] [Decidable q] {cause : ε} {cause' : η}
    {first : Except ε α} {second : Except η β} (hpq : q → p)
    (h : ¬ p → Follows related first second) :
    Follows related (if p then .error cause else first) (if q then .error cause' else second) := by
  by_cases hp : p
  · rw [if_pos hp]
    exact of_error _ _
  · rw [if_neg hp, if_neg fun hq => hp (hpq hq)]
    exact h hp

end Follows

/-! ## Answers for all elements -/

/-- If something is found for each element, it is found for all of them. -/
theorem mapM_map_eq_some {α β γ : Type} {f : α → β} {read? : β → Option γ} {k : α → γ}
    {values : List α} (h : ∀ value ∈ values, read? (f value) = some (k value)) :
    (values.map f).mapM read? = some (values.map k) := by
  induction values with
  | nil => rfl
  | cons value rest ih =>
    obtain ⟨hvalue, hrest⟩ := List.forall_mem_cons.mp h
    simp [hvalue, ih hrest]

/-- What is found for a list is found for its elements. -/
theorem forall_of_mapM_eq_some {α β : Type} {read? : α → Option β} {P : β → Prop}
    (hread : ∀ value found, read? value = some found → P found) {values : List α}
    {results : List β} (h : values.mapM read? = some results) : ∀ result ∈ results, P result := by
  induction values generalizing results with
  | nil =>
    cases h
    exact fun _ hmem => absurd hmem List.not_mem_nil
  | cons value rest ih =>
    simp only [List.mapM_cons, Option.bind_eq_bind, Option.bind_eq_some_iff] at h
    obtain ⟨found, hfound, others, hothers, hresults⟩ := h
    cases hresults
    exact List.forall_mem_cons.mpr ⟨hread value found hfound, ih hothers⟩

/-! ## Computations that leave notes -/

namespace Journaled

variable {η : Type}

/-- The computation comes to the value, whatever notes it leaves. -/
def Returns (computation : Journaled ε α) (value : α) : Prop :=
  ∃ before after, (computation.run.run before : Except ε α × List Note) = (.ok value, after)

/-- A result is come to without notes before it. -/
theorem returns_of_result {computation : Journaled ε α} {value : α}
    (h : computation.result.1 = .ok value) : computation.Returns value :=
  ⟨[], _, Prod.ext h rfl⟩

/-- The second part of a sequence runs on the notes that the first one leaves, and only if that has
a value. -/
theorem run_bind {first : Journaled ε α} {next : α → Journaled ε β} {before between : List Note}
    {outcome : Except ε α}
    (hfirst : (first.run.run before : Except ε α × List Note) = (outcome, between)) :
    ((first >>= next).run.run before : Except ε β × List Note) =
      (ExceptT.bindCont next outcome).run between := by
  -- a sequence is run by its first part, and what it leaves decides how to go on
  change ((first.run >>= ExceptT.bindCont next).run before : Except ε β × List Note) = _
  rw [StateT.run_bind, hfirst]
  rfl

/-- A sequence comes to a value when both parts do. -/
theorem Returns.of_bind {first : Journaled ε α} {next : α → Journaled ε β} {result : β}
    (h : (first >>= next).Returns result) :
    ∃ value, first.Returns value ∧ (next value).Returns result := by
  obtain ⟨before, after, hrun⟩ := h
  cases hfirst : (first.run.run before : Except ε α × List Note) with
  | mk outcome between =>
    rw [run_bind hfirst] at hrun
    cases outcome with
    | error cause => cases hrun
    | ok value => exact ⟨value, ⟨before, between, hfirst⟩, between, after, hrun⟩

/-- A value that is given leaves no notes and comes to itself. -/
theorem eq_of_returns_pure {found value : α} (h : (pure found : Journaled ε α).Returns value) :
    found = value := by
  obtain ⟨before, after, hrun⟩ := h
  cases hrun
  rfl

/-- A check within the computation passed where the computation came to a value. -/
theorem eq_ok_of_returns_ofExcept {wrap : η → ε} {checked : Except η α} {value : α}
    (h : (ofExcept wrap checked : Journaled ε α).Returns value) : checked = .ok value := by
  cases checked with
  -- a check that failed has no value to come to
  | error cause =>
    obtain ⟨before, after, hrun⟩ := h
    cases hrun
  | ok found => rw [eq_of_returns_pure h]

/-- The computation fails with the error, whatever notes it leaves. -/
def Fails (computation : Journaled ε α) (cause : ε) : Prop :=
  ∃ before after, (computation.run.run before : Except ε α × List Note) = (.error cause, after)

/-- An error that is reported is failed with, without notes before it. -/
theorem fails_of_result {computation : Journaled ε α} {cause : ε}
    (h : computation.result.1 = .error cause) : computation.Fails cause :=
  ⟨[], _, Prod.ext h rfl⟩

/-- A sequence fails where its first part does, or where the second one does behind its value. -/
theorem Fails.of_bind {first : Journaled ε α} {next : α → Journaled ε β} {cause : ε}
    (h : (first >>= next).Fails cause) :
    first.Fails cause ∨ ∃ value, first.Returns value ∧ (next value).Fails cause := by
  obtain ⟨before, after, hrun⟩ := h
  cases hfirst : (first.run.run before : Except ε α × List Note) with
  | mk outcome between =>
    rw [run_bind hfirst] at hrun
    cases outcome with
    | error other =>
      cases hrun
      exact .inl ⟨before, _, hfirst⟩
    | ok value => exact .inr ⟨value, ⟨before, between, hfirst⟩, between, after, hrun⟩

/-- All errors that the computation fails with are of the kind. -/
def FailsIn (kind : ε → Prop) (computation : Journaled ε α) : Prop :=
  ∀ cause, computation.Fails cause → kind cause

namespace FailsIn

variable {kind : ε → Prop}

/-- A value that is given is no failure. -/
theorem pure (value : α) : FailsIn kind (Pure.pure value : Journaled ε α) := by
  rintro cause ⟨before, after, hrun⟩
  cases hrun

/-- Leaving a note is no failure. -/
theorem note (level : Level) (text : String) : FailsIn kind (Journaled.note level text) := by
  rintro cause ⟨before, after, hrun⟩
  cases hrun

/-- Nor is leaving several of them. -/
theorem notes (more : List Note) : FailsIn kind (Journaled.notes more) := by
  rintro cause ⟨before, after, hrun⟩
  cases hrun

/-- A check fails with the errors of its own, wrapped. -/
theorem ofExcept {wrap : η → ε} {checked : Except η α}
    (h : ∀ cause, checked = .error cause → kind (wrap cause)) :
    FailsIn kind (Journaled.ofExcept wrap checked) := by
  rintro cause ⟨before, after, hrun⟩
  cases checked with
  | error inner =>
    cases hrun
    exact h inner rfl
  | ok value => cases hrun

/-- A sequence fails within its first part or behind it. -/
theorem bind {first : Journaled ε α} {next : α → Journaled ε β} (hfirst : FailsIn kind first)
    (hnext : ∀ value, FailsIn kind (next value)) : FailsIn kind (first >>= next) := by
  -- the error comes from the one part or from the other
  intro cause h
  rcases h.of_bind with hfails | ⟨value, -, hfails⟩
  · exact hfirst cause hfails
  · exact hnext value cause hfails

/-- An error of another kind comes from behind a part whose errors are of the kind. -/
theorem exists_of_fails {first : Journaled ε α} {next : α → Journaled ε β} {cause : ε}
    (hfirst : FailsIn kind first) (hcause : ¬ kind cause) (h : (first >>= next).Fails cause) :
    ∃ value, first.Returns value ∧ (next value).Fails cause := by
  rcases h.of_bind with hfails | hlater
  · exact absurd (hfirst cause hfails) hcause
  · exact hlater

end FailsIn

end Journaled

end ParserFoundry

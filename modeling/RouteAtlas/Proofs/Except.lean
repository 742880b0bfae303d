import Mathlib.Data.List.Forall2

/-! # Steps that may fail

A sequence of steps has an outcome if and only if each of them has one.
-/

namespace RouteAtlas

variable {α β ε : Type}

theorem bind_eq_ok_iff {first : Except ε α} {next : α → Except ε β} {result : β} :
    first >>= next = .ok result ↔ ∃ value, first = .ok value ∧ next value = .ok result := by
  cases first <;> simp [bind, Except.bind]

theorem map_eq_ok_iff {outcome : Except ε α} {f : α → β} {result : β} :
    outcome.map f = .ok result ↔ ∃ value, outcome = .ok value ∧ f value = result := by
  cases outcome <;> simp [Except.map]

theorem map_eq_error_iff {outcome : Except ε α} {f : α → β} {failure : ε} :
    outcome.map f = .error failure ↔ outcome = .error failure := by
  cases outcome <;> simp [Except.map]

theorem toOption_eq_some_iff {outcome : Except ε α} {result : α} :
    outcome.toOption = some result ↔ outcome = .ok result := by
  cases outcome <;> simp [Except.toOption]

theorem mapM_eq_ok_iff {f : α → Except ε β} {inputs : List α} {results : List β} :
    inputs.mapM f = .ok results ↔ List.Forall₂ (fun a b => f a = .ok b) inputs results := by
  induction inputs generalizing results with
  | nil => cases results <;> simp [pure, Except.pure]
  | cons input rest ih =>
      rw [List.mapM_cons]
      cases first : f input with
      | error => cases results <;> simp [bind, Except.bind, first]
      | ok result =>
          cases others : rest.mapM f with
          | error =>
              cases results with
              | nil => simp [bind, Except.bind]
              | cons => simp [bind, Except.bind, ← ih, others]
          | ok _ =>
              cases results with
              | nil => simp [bind, Except.bind, pure, Except.pure]
              | cons => simp [bind, Except.bind, pure, Except.pure, ← ih, others, first]

theorem forM_eq_ok_iff {check : α → Except ε Unit} {inputs : List α} :
    inputs.forM check = .ok () ↔ ∀ input ∈ inputs, check input = .ok () := by
  induction inputs with
  | nil => simp [pure, Except.pure]
  | cons input rest ih =>
      cases first : check input with
      | error => simp [bind, Except.bind, first]
      | ok => simp [bind, Except.bind, first, ← ih]

/-- Steps that are taken one after another come to their outcomes if each of them has one. -/
theorem toOption_mapM (f : α → Except ε β) (inputs : List α) :
    (inputs.mapM f).toOption =
      if inputs.all fun input => (f input).toOption.isSome then
        some (inputs.filterMap fun input => (f input).toOption)
      else none := by
  induction inputs with
  | nil => rfl
  | cons input rest ih =>
      rw [List.mapM_cons, List.all_cons, List.filterMap_cons]
      cases f input with
      | error => rfl
      | ok result =>
          cases others : rest.mapM f with
          | error =>
              rw [others] at ih
              simp only [Except.toOption, Option.isSome_some, Bool.true_and]
              split at ih <;> simp_all [bind, Except.bind, Except.toOption]
          | ok results =>
              rw [others] at ih
              simp only [Except.toOption, Option.isSome_some, Bool.true_and]
              split at ih <;> simp_all [bind, Except.bind, pure, Except.pure, Except.toOption]

theorem foldlM_cons_eq_ok_iff {step : β → α → Except ε β} {input : α} {rest : List α}
    {start result : β} : (input :: rest).foldlM step start = .ok result ↔
      ∃ next, step start input = .ok next ∧ rest.foldlM step next = .ok result := by
  rw [List.foldlM_cons, bind_eq_ok_iff]

theorem mapM_map_eq_some {γ : Type} {f : β → Option γ} {g : α → β} {h : α → γ} {inputs : List α}
    (each : ∀ input ∈ inputs, f (g input) = some (h input)) :
    (inputs.map g).mapM f = some (inputs.map h) := by
  induction inputs with
  | nil => rfl
  | cons input rest ih =>
      have others := ih fun later known => each later (List.mem_cons_of_mem _ known)
      rw [List.map_cons, List.mapM_cons, each input List.mem_cons_self, others]
      rfl

/-- Two outcomes fail alike, or are related. -/
inductive Matched (rel : α → α → Prop) : Except ε α → Except ε α → Prop
  | ok {first second : α} : rel first second → Matched rel (.ok first) (.ok second)
  | error (failure : ε) : Matched rel (.error failure) (.error failure)

/-- What follows one step may depend on more than its outcome. -/
theorem Matched.bind {rel : β → β → Prop} (outcome : Except ε α) {first second : α → Except ε β}
    (next : ∀ value, Matched rel (first value) (second value)) :
    Matched rel (outcome >>= first) (outcome >>= second) := by
  cases outcome with
  | error failure => exact .error failure
  | ok value => exact next value

theorem matched_eq_iff {first second : Except ε α} : Matched Eq first second ↔ first = second := by
  constructor
  · rintro (⟨rfl⟩ | ⟨failure⟩) <;> rfl
  · rintro rfl
    cases first with
    | error failure => exact .error failure
    | ok value => exact .ok rfl

end RouteAtlas

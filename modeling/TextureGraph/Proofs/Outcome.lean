import Mathlib.Data.List.Forall2

/-!
# Computations that can fail

Laws of sequencing in `Except`: what a step contributes when it succeeds, and what
the success of a whole says about its parts.
-/

namespace TextureGraph.Outcome

variable {ε α β : Type}

@[simp]
theorem pure_eq_ok (value : α) : (pure value : Except ε α) = .ok value := rfl

@[simp]
theorem ok_bind (value : α) (next : α → Except ε β) : (Except.ok value >>= next) = next value := rfl

@[simp]
theorem error_bind (error : ε) (next : α → Except ε β) :
    (Except.error error >>= next) = .error error := rfl

@[simp]
theorem throw_eq_error (error : ε) : (throw error : Except ε α) = .error error := rfl

@[simp]
theorem map_ok (f : α → β) (value : α) : (Except.ok value : Except ε α).map f = .ok (f value) := rfl

@[simp]
theorem map_error (f : α → β) (error : ε) : (Except.error error).map f = .error error := rfl

@[simp]
theorem map_eq_map (f : α → β) (outcome : Except ε α) : f <$> outcome = outcome.map f := by
  cases outcome <;> rfl

@[simp]
theorem mapError_eq_ok_iff {δ : Type} {f : ε → δ} {outcome : Except ε α} {value : α} :
    outcome.mapError f = .ok value ↔ outcome = .ok value := by
  cases outcome <;> simp [Except.mapError]

theorem bind_eq_ok_iff {outcome : Except ε α} {next : α → Except ε β} {result : β} :
    (outcome >>= next) = .ok result ↔ ∃ value, outcome = .ok value ∧ next value = .ok result := by
  cases outcome with
  | error e => simp
  | ok value => simp

theorem map_eq_ok_iff {f : α → β} {outcome : Except ε α} {result : β} :
    outcome.map f = .ok result ↔ ∃ value, outcome = .ok value ∧ f value = result := by
  cases outcome with
  | error e => simp
  | ok value => simp

/-- A check, then the rest. -/
theorem check_bind_eq_ok_iff {check : Except ε Unit} {next : Unit → Except ε α} {result : α} :
    (check >>= next) = .ok result ↔ check = .ok () ∧ next () = .ok result := by
  rw [bind_eq_ok_iff]
  exact ⟨fun ⟨(), passes, rest⟩ => ⟨passes, rest⟩, fun ⟨passes, rest⟩ => ⟨(), passes, rest⟩⟩

/-- A list of computations succeeds when each of them does. -/
theorem mapM_eq_ok_iff {f : α → Except ε β} {inputs : List α} {results : List β} :
    inputs.mapM f = .ok results ↔
      List.Forall₂ (fun input result => f input = .ok result) inputs results := by
  induction inputs generalizing results with
  | nil => simp [eq_comm]
  | cons input rest ih =>
      simp only [List.mapM_cons, bind_eq_ok_iff, List.forall₂_cons_left_iff, ih, pure_eq_ok,
        Except.ok.injEq]
      constructor
      · rintro ⟨first, head, others, tail, rfl⟩
        exact ⟨first, others, head, tail, rfl⟩
      · rintro ⟨first, others, head, tail, rfl⟩
        exact ⟨first, head, others, tail, rfl⟩

theorem exists_forall₂ {related : α → β → Prop} {inputs : List α}
    (each : ∀ input ∈ inputs, ∃ result, related input result) :
    ∃ results, List.Forall₂ related inputs results := by
  induction inputs with
  | nil => exact ⟨[], .nil⟩
  | cons input rest ih =>
      rcases each input List.mem_cons_self with ⟨first, head⟩
      rcases ih fun other member => each other (List.mem_cons_of_mem _ member) with ⟨others, tail⟩
      exact ⟨first :: others, .cons head tail⟩

/-- Related lists are related position by position. -/
theorem exists_getElem?_of_forall₂ {related : α → β → Prop} {inputs : List α} {results : List β}
    (each : List.Forall₂ related inputs results) {position : Nat} {input : α}
    (found : inputs[position]? = some input) :
    ∃ result, results[position]? = some result ∧ related input result := by
  induction each generalizing position with
  | nil => cases found
  | cons head _ ih =>
      cases position with
      | zero =>
          cases found
          exact ⟨_, rfl, head⟩
      | succ position => exact ih found

theorem exists_mem_of_forall₂ {related : α → β → Prop} {inputs : List α} {results : List β}
    (each : List.Forall₂ related inputs results) {input : α} (member : input ∈ inputs) :
    ∃ result ∈ results, related input result := by
  rcases List.mem_iff_getElem?.mp member with ⟨position, standing⟩
  rcases exists_getElem?_of_forall₂ each standing with ⟨result, found, holds⟩
  exact ⟨result, List.mem_of_getElem? found, holds⟩

/-- Lists whose elements have the same images, one by one, have the same image. -/
theorem map_eq_map_of_forall₂ {γ : Type} {f : α → γ} {g : β → γ} {inputs : List α}
    {results : List β}
    (each : List.Forall₂ (fun input result => f input = g result) inputs results) :
    inputs.map f = results.map g := by
  induction each with
  | nil => rfl
  | cons head _ ih => rw [List.map_cons, List.map_cons, head, ih]

/-! ## Failures -/

/-- The error of a computation that fails. -/
def failure? : Except ε α → Option ε
  | .ok _ => none
  | .error error => some error

theorem failure?_eq_none_iff {outcome : Except ε α} :
    failure? outcome = none ↔ ∃ value, outcome = .ok value := by
  cases outcome <;> simp [failure?]

theorem failure?_eq_some_iff {outcome : Except ε α} {error : ε} :
    failure? outcome = some error ↔ outcome = .error error := by
  cases outcome <;> simp [failure?]

@[simp]
theorem failure?_map (f : α → β) (outcome : Except ε α) :
    failure? (outcome.map f) = failure? outcome := by
  cases outcome <;> rfl

/-- A computation fails where its first part does, or else where the rest does. -/
theorem failure?_bind {outcome : Except ε α} {next : α → Except ε β} {rest : Option ε}
    (same : ∀ value, failure? (next value) = rest) :
    failure? (outcome >>= next) = (failure? outcome).or rest := by
  cases outcome with
  | error e => rfl
  | ok value => exact same value

theorem failure?_bind_pure (f : α → β) (outcome : Except ε α) :
    failure? (outcome >>= fun value => pure (f value)) = failure? outcome := by
  cases outcome <;> rfl

/-- Several computations fail where the first one of them does that fails. -/
theorem failure?_mapM {f : α → Except ε β} (inputs : List α) :
    failure? (inputs.mapM f) = inputs.findSome? fun input => failure? (f input) := by
  induction inputs with
  | nil => rfl
  | cons input rest ih =>
      have tail (value : β) : failure? (do return value :: (← rest.mapM f)) =
          rest.findSome? fun input => failure? (f input) := by
        rw [failure?_bind_pure, ih]
      rw [List.mapM_cons, failure?_bind tail, List.findSome?_cons]
      cases failure? (f input) <;> rfl

theorem findSome?_congr {f g : α → Option β} {inputs : List α}
    (same : ∀ input ∈ inputs, f input = g input) : inputs.findSome? f = inputs.findSome? g := by
  rw [← List.head?_filterMap, List.filterMap_congr same, List.head?_filterMap]

theorem findSome?_flatMap {γ : Type} {f : β → Option γ} {g : α → List β} (inputs : List α) :
    (inputs.flatMap g).findSome? f = inputs.findSome? fun input => (g input).findSome? f := by
  rw [← List.head?_filterMap, List.filterMap_flatMap, List.head?_flatMap]
  simp only [List.head?_filterMap]

/-! ## Two computations side by side -/

/-- Two computations that succeed together, with related results. -/
inductive Agree {δ : Type} (related : α → β → Prop) : Except ε α → Except δ β → Prop where
  | error (first : ε) (second : δ) : Agree related (.error first) (.error second)
  | ok {first : α} {second : β} (holds : related first second) :
      Agree related (.ok first) (.ok second)

namespace Agree

variable {δ α' β' : Type} {related : α → β → Prop} {related' : α' → β' → Prop}
  {first : Except ε α} {second : Except δ β}

theorem bind {next : α → Except ε α'} {next' : β → Except δ β'} (agree : Agree related first second)
    (rest : ∀ a b, related a b → Agree related' (next a) (next' b)) :
    Agree related' (first >>= next) (second >>= next') := by
  cases agree with
  | error e e' => exact .error e e'
  | ok holds => exact rest _ _ holds

theorem mapM {ι : Type} {f : ι → Except ε α} {g : ι → Except δ β} (inputs : List ι)
    (each : ∀ input ∈ inputs, Agree related (f input) (g input)) :
    Agree (List.Forall₂ related) (inputs.mapM f) (inputs.mapM g) := by
  induction inputs with
  | nil => exact .ok .nil
  | cons input rest ih =>
      rw [List.mapM_cons, List.mapM_cons]
      refine (each input List.mem_cons_self).bind fun a b head => ?_
      refine (ih fun other member => each other (List.mem_cons_of_mem _ member)).bind ?_
      intro as bs tail
      exact .ok (.cons head tail)

/-- Where the second computation succeeds, so does the first. -/
theorem exists_of_eq_ok (agree : Agree related first second) {b : β} (succeeds : second = .ok b) :
    ∃ a, first = .ok a ∧ related a b := by
  subst succeeds
  cases agree with
  | ok holds => exact ⟨_, rfl, holds⟩

end Agree

end TextureGraph.Outcome

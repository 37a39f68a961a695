/-!
# Steps that may fail

When a sequence of steps that may fail comes to a value, and when to an error.
A list of parts is gathered by a step for each item; the first error among them
is the error of all.
-/

namespace OpenApiGate.Fallible

variable {ε α β γ : Type}

/-- A conversion does not fail. -/
theorem map_eq_ok_iff
    {first : Except ε α}
    {convert : α → β}
    {value : β} :
    first.map convert = .ok value ↔ ∃ before, first = .ok before ∧ convert before = value := by
  cases first <;> simp [Except.map]

/-- A sequence comes to a value if both of its steps do. -/
theorem bind_eq_ok_iff
    {first : Except ε α}
    {second : α → Except ε β}
    {value : β} :
    first >>= second = .ok value ↔ ∃ before, first = .ok before ∧ second before = .ok value := by
  cases first <;> simp [bind, Except.bind]

theorem map_eq_error_iff
    {first : Except ε α}
    {convert : α → β}
    {error : ε} :
    first.map convert = .error error ↔ first = .error error := by
  cases first <;> simp [Except.map]

/-- A sequence ends in the error of its first step, or else of its second. -/
theorem bind_eq_error_iff
    {first : Except ε α}
    {second : α → Except ε β}
    {error : ε} :
    first >>= second = .error error ↔
      first = .error error ∨ ∃ before, first = .ok before ∧ second before = .error error := by
  cases first <;> simp [bind, Except.bind]

/-- A step ends in an error. -/
def Fails (step : Except ε α) : Prop :=
  ∃ error, step = .error error

@[simp]
theorem fails_error (error : ε) :
    Fails (.error error : Except ε α) :=
  ⟨error, rfl⟩

@[simp]
theorem not_fails_ok (value : α) :
    ¬ Fails (.ok value : Except ε α) := by
  rintro ⟨error, failure⟩
  cases failure

theorem fails_iff_not_ok (step : Except ε α) :
    Fails step ↔ ¬ ∃ value, step = .ok value := by
  cases step <;> simp

@[simp]
theorem fails_map_iff
    (step : Except ε α)
    (convert : α → β) :
    Fails (step.map convert) ↔ Fails step := by
  cases step <;> simp [Except.map]

/-! ## Lists of steps -/

/-- A list of steps comes to the list of their values. -/
theorem mapM_eq_ok_iff
    {step : α → Except ε β}
    {items : List α}
    {results : List β} :
    items.mapM step = .ok results ↔ items.map step = results.map .ok := by
  induction items generalizing results with
  | nil => cases results <;> simp [pure, Except.pure]
  | cons item rest ih =>
      rw [List.mapM_cons, bind_eq_ok_iff]
      simp only [bind_eq_ok_iff, ih]
      cases results with
      | nil => simp [pure, Except.pure]
      | cons result others =>
          simp only [List.map_cons, List.cons.injEq]
          constructor
          · rintro ⟨_, given, _, restGiven, ⟨⟩⟩
            exact ⟨given, restGiven⟩
          · rintro ⟨given, restGiven⟩
            exact ⟨result, given, others, restGiven, rfl⟩

/-- A list of steps comes to values if no step fails. -/
theorem exists_mapM_eq_ok_iff
    {step : α → Except ε β}
    {items : List α} :
    (∃ results, items.mapM step = .ok results) ↔ ∀ item ∈ items, ¬ Fails (step item) := by
  simp only [mapM_eq_ok_iff]
  constructor
  · rintro ⟨results, given⟩ item within
    have own := List.mem_map_of_mem (f := step) within
    rw [given] at own
    rcases List.mem_map.mp own with ⟨result, -, same⟩
    rw [← same]
    exact not_fails_ok result
  · intro each
    induction items with
    | nil => exact ⟨[], rfl⟩
    | cons item rest ih =>
        rcases ih fun other within => each other (List.mem_cons_of_mem item within) with
          ⟨results, given⟩
        cases own : step item with
        | error error => exact absurd ⟨error, own⟩ (each item List.mem_cons_self)
        | ok result => exact ⟨result :: results, by rw [List.map_cons, own, given, List.map_cons]⟩

/-! ## Gathering parts -/

/-- The parts that the items of a list give, one after another. -/
def gather
    (parts : α → Except ε (List β))
    (items : List α) :
    Except ε (List β) :=
  (items.mapM parts).map List.flatten

@[simp]
theorem gather_nil (parts : α → Except ε (List β)) :
    gather parts [] = .ok [] :=
  rfl

theorem gather_cons
    (parts : α → Except ε (List β))
    (item : α)
    (rest : List α) :
    gather parts (item :: rest) =
      (parts item).bind fun own => (gather parts rest).map (own ++ ·) := by
  unfold gather
  rw [List.mapM_cons]
  cases parts item with
  | error => rfl
  | ok own => cases rest.mapM parts <;> rfl

theorem gather_cons_eq_ok_iff
    {parts : α → Except ε (List β)}
    {item : α}
    {rest : List α}
    {gathered : List β} :
    gather parts (item :: rest) = .ok gathered ↔
      ∃ own others,
        parts item = .ok own ∧ gather parts rest = .ok others ∧ own ++ others = gathered := by
  rw [gather_cons]
  cases parts item with
  | error => simp [Except.bind]
  | ok own => simp [Except.bind, map_eq_ok_iff]

/-- Gathering fails exactly if an item of the list fails. -/
theorem fails_gather_iff
    (parts : α → Except ε (List β))
    (items : List α) :
    Fails (gather parts items) ↔ ∃ item ∈ items, Fails (parts item) := by
  induction items with
  | nil => simp
  | cons item rest ih =>
      simp only [List.mem_cons, exists_eq_or_imp, ← ih, gather_cons]
      cases parts item with
      | error => simp [Except.bind]
      | ok own => simp [Except.bind]

/-- Where no step fails, the parts are strung together. -/
theorem gather_ok
    (give : α → List β)
    (items : List α) :
    gather (fun item => (.ok (give item) : Except ε (List β))) items =
      .ok (items.flatMap give) := by
  induction items with
  | nil => rfl
  | cons item rest ih =>
      rw [gather_cons, ih]
      rfl

/-- Items that are left out give no parts. -/
theorem gather_filterMap
    (keep : γ → Option α)
    (parts : α → Except ε (List β))
    (items : List γ) :
    gather parts (items.filterMap keep) =
      gather (fun item => (keep item).elim (.ok []) parts) items := by
  induction items with
  | nil => rfl
  | cons item rest ih =>
      rw [gather_cons, ← ih]
      cases kept : keep item with
      | none =>
          rw [List.filterMap_cons_none kept]
          cases gather parts (rest.filterMap keep) <;> rfl
      | some own => rw [List.filterMap_cons_some kept, gather_cons]; rfl

theorem gather_map
    (convert : γ → α)
    (parts : α → Except ε (List β))
    (items : List γ) :
    gather parts (items.map convert) = gather (fun item => parts (convert item)) items := by
  unfold gather
  rw [List.mapM_map]
  rfl

/-- What is gathered depends on what the items give only. -/
theorem gather_eq_of_map_eq
    {parts : α → Except ε (List β)}
    {otherParts : γ → Except ε (List β)}
    {items : List α}
    {others : List γ}
    (same : items.map parts = others.map otherParts) :
    gather parts items = gather otherParts others := by
  have whole := congrArg (gather id) same
  rwa [gather_map, gather_map] at whole

/-- Results in another order are gathered to the same parts in another order. -/
theorem gather_perm
    {first second : List (Except ε (List β))}
    (permuted : first.Perm second)
    {gathered : List β}
    (success : gather id first = .ok gathered) :
    ∃ others, gather id second = .ok others ∧ gathered.Perm others := by
  induction permuted generalizing gathered with
  | nil => exact ⟨gathered, success, .refl gathered⟩
  | cons result _ ih =>
      rcases gather_cons_eq_ok_iff.mp success with ⟨own, rest, given, tail, rfl⟩
      rcases ih tail with ⟨others, success, permuted⟩
      exact
        ⟨own ++ others, gather_cons_eq_ok_iff.mpr ⟨own, others, given, success, rfl⟩,
          permuted.append_left own⟩
  | swap result next results =>
      rcases gather_cons_eq_ok_iff.mp success with ⟨own, after, given, remaining, rfl⟩
      rcases gather_cons_eq_ok_iff.mp remaining with ⟨other, rest, otherGiven, tail, rfl⟩
      have swapped := gather_cons_eq_ok_iff.mpr ⟨own, rest, given, tail, rfl⟩
      exact
        ⟨other ++ (own ++ rest),
          gather_cons_eq_ok_iff.mpr ⟨other, own ++ rest, otherGiven, swapped, rfl⟩,
          List.perm_append_comm_assoc own other rest⟩
  | trans _ _ ih ihSecond =>
      rcases ih success with ⟨between, success, permuted⟩
      rcases ihSecond success with ⟨others, success, permutedAgain⟩
      exact ⟨others, success, permuted.trans permutedAgain⟩

end OpenApiGate.Fallible

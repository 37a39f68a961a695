import Mathlib.Data.List.Forall2
import Mathlib.Data.List.Perm.Basic
import OpenApiGate.Proofs.Chains

/-!
# Rearranged values

Two values are rearrangements of each other if they differ only in the order in
which objects hold their members, at any depth.  A decoded object holds each key
once, so that values correspond if they stand under the same key.

Nothing that is asked of a value depends on that order: what stands under a key,
whether the value counts as present, where a reference leads to, and where a
chain of references ends.  References that mislead do so in all rearrangements.
-/

namespace OpenApiGate.Json

/-- Two values differ at most in the order of the members of objects, at any depth. -/
inductive Rearranged : Value → Value → Prop where
  | null : Rearranged .null .null
  | bool (value : Bool) : Rearranged (.bool value) (.bool value)
  | integer (value : Int) : Rearranged (.integer value) (.integer value)
  | double (value : Float) : Rearranged (.double value) (.double value)
  | string (text : Text) : Rearranged (.string text) (.string text)
  | array
      {items others : List Value}
      (length : items.length = others.length)
      (each :
        ∀ (index : Nat) (item other : Value),
          items[index]? = some item → others[index]? = some other → Rearranged item other) :
      Rearranged (.array items) (.array others)
  | object
      {members others : Members}
      (keys : (members.map Prod.fst).Perm (others.map Prod.fst))
      (each :
        ∀ name value other,
          (name, value) ∈ members → (name, other) ∈ others → Rearranged value other) :
      Rearranged (.object members) (.object others)

/-- The value is an array or an object. -/
def Value.isContainer : Value → Bool
  | .array _ | .object _ => true
  | _ => false

theorem exists_lookup_of_mem_keys
    {members : Members}
    {name : Text}
    (within : name ∈ members.map Prod.fst) :
    ∃ value, members.lookup name = some value := by
  rcases List.mem_map.mp within with ⟨member, inside, rfl⟩
  exact Option.isSome_iff_exists.mp (List.lookup_isSome_iff.mpr ⟨member, inside, by simp⟩)

theorem mem_keys_of_lookup
    {members : Members}
    {name : Text}
    {value : Value}
    (found : members.lookup name = some value) :
    name ∈ members.map Prod.fst :=
  List.mem_map.mpr ⟨(name, value), Reference.mem_of_lookup found, rfl⟩

/-- Members that go together have the same keys in the same order. -/
theorem keys_eq_of_forall₂
    {members others : Members}
    {alike : Text × Value → Text × Value → Prop}
    (sameKey : ∀ member other, alike member other → member.1 = other.1)
    (pairs : List.Forall₂ alike members others) :
    members.map Prod.fst = others.map Prod.fst := by
  rw [← List.forall₂_eq_eq_eq, List.forall₂_map_left_iff, List.forall₂_map_right_iff]
  exact pairs.imp sameKey

namespace Rearranged

variable {left right : Value}

/-- Two members have the same key and rearranged values. -/
def Member (member other : Text × Value) : Prop :=
  member.1 = other.1 ∧ Rearranged member.2 other.2

/-- Distinct keys pair each member with no other than its counterpart. -/
theorem of_mem_of_forall₂
    {members others : Members}
    {name : Text}
    {value other : Value}
    (pairs : List.Forall₂ Member members others)
    (distinct : (members.map Prod.fst).Nodup)
    (within : (name, value) ∈ members)
    (inside : (name, other) ∈ others) :
    Rearranged value other := by
  induction pairs with
  | nil => cases within
  | @cons first second rest seconds pair pairs ih =>
      have sameKeys := keys_eq_of_forall₂ (fun _ _ pair => pair.1) pairs
      rw [List.map_cons, List.nodup_cons] at distinct
      rcases List.mem_cons.mp within with rfl | later
      · rcases List.mem_cons.mp inside with rfl | laterOther
        · exact pair.2
        · have again := List.mem_map_of_mem (f := Prod.fst) laterOther
          rw [← sameKeys] at again
          exact absurd again distinct.1
      · rcases List.mem_cons.mp inside with rfl | laterOther
        · have again := List.mem_map_of_mem (f := Prod.fst) later
          rw [pair.1] at distinct
          exact absurd again distinct.1
        · exact ih distinct.2 later laterOther

/-- An array is rearranged by rearranging its items where they stand. -/
theorem of_forall₂
    {items others : List Value}
    (pairs : List.Forall₂ Rearranged items others) :
    Rearranged (.array items) (.array others) := by
  refine .array pairs.length_eq ?_
  intro index item other atIndex atOther
  rcases List.getElem?_eq_some_iff.mp atIndex with ⟨within, rfl⟩
  rcases List.getElem?_eq_some_iff.mp atOther with ⟨withinOthers, rfl⟩
  exact pairs.get within withinOthers

/--
An object with distinct keys is rearranged by bringing its members into another
order and rearranging the value under each key.
-/
theorem of_perm
    {members ordered others : Members}
    (distinct : (members.map Prod.fst).Nodup)
    (pairs : List.Forall₂ Member members ordered)
    (permuted : ordered.Perm others) :
    Rearranged (.object members) (.object others) := by
  have sameKeys := keys_eq_of_forall₂ (fun _ _ pair => pair.1) pairs
  refine .object (sameKeys ▸ permuted.map Prod.fst) ?_
  intro name value other within inside
  exact of_mem_of_forall₂ pairs distinct within (permuted.mem_iff.mpr inside)

/-! ## What stands under a key -/

/-- The same names are found in members that are rearranged, with values that are. -/
theorem lookup
    {members others : Members}
    (keys : (members.map Prod.fst).Perm (others.map Prod.fst))
    (each :
      ∀ name value other,
        (name, value) ∈ members → (name, other) ∈ others → Rearranged value other)
    (name : Text) :
    Option.Rel Rearranged (members.lookup name) (others.lookup name) := by
  cases found : members.lookup name with
  | none =>
      cases foundOther : others.lookup name with
      | none => exact .none
      | some other =>
          have within := keys.mem_iff.mpr (mem_keys_of_lookup foundOther)
          rcases exists_lookup_of_mem_keys within with ⟨value, foundValue⟩
          rw [found] at foundValue
          cases foundValue
  | some value =>
      have within := keys.mem_iff.mp (mem_keys_of_lookup found)
      rcases exists_lookup_of_mem_keys within with ⟨other, foundOther⟩
      rw [foundOther]
      exact
        .some
          (each name value other (Reference.mem_of_lookup found)
            (Reference.mem_of_lookup foundOther))

theorem get?
    (rearranged : Rearranged left right)
    (name : Text) :
    Option.Rel Rearranged (left.get? name) (right.get? name) := by
  cases rearranged with
  | object keys each => exact lookup keys each name
  | _ => exact .none

theorem isObject
    (rearranged : Rearranged left right) :
    left.isObject = right.isObject := by
  cases rearranged <;> rfl

theorem object?
    (rearranged : Rearranged left right)
    (name : Text) :
    Option.Rel Rearranged (left.object? name) (right.object? name) := by
  have alike := rearranged.get? name
  unfold Value.object?
  generalize left.get? name = found at alike
  generalize right.get? name = foundOther at alike
  cases alike with
  | none => exact .none
  | some alike =>
      cases alike with
      | object keys each => exact .some (.object keys each)
      | _ => exact .none

/-- The items of arrays are not rearranged, so that the same indices lead to them. -/
theorem getElem?
    {items others : List Value}
    (length : items.length = others.length)
    (each :
      ∀ (index : Nat) (item other : Value),
        items[index]? = some item → others[index]? = some other → Rearranged item other)
    (index : Nat) :
    Option.Rel Rearranged items[index]? others[index]? := by
  by_cases within : index < items.length
  · have withinOthers : index < others.length := length ▸ within
    rw [List.getElem?_eq_getElem within, List.getElem?_eq_getElem withinOthers]
    apply Option.Rel.some
    apply each index
    · exact List.getElem?_eq_getElem within
    · exact List.getElem?_eq_getElem withinOthers
  · have beyond : items.length ≤ index := Nat.not_lt.mp within
    rw [List.getElem?_eq_none beyond, List.getElem?_eq_none (length ▸ beyond)]
    exact .none

/-! ## What counts as present -/

theorem isEmpty_eq_of_length_eq
    {α β : Type}
    {items : List α}
    {others : List β}
    (length : items.length = others.length) :
    items.isEmpty = others.isEmpty := by
  cases items <;> cases others <;> simp_all

/-- Whether a value counts as true depends on what it holds and not on the order. -/
theorem isTruthy
    (rearranged : Rearranged left right) :
    left.isTruthy = right.isTruthy := by
  cases rearranged with
  | array length each => exact congrArg not (isEmpty_eq_of_length_eq length)
  | object keys each =>
      have length := keys.length_eq
      rw [List.length_map, List.length_map] at length
      exact congrArg not (isEmpty_eq_of_length_eq length)
  | _ => rfl

theorem hasTruthy
    (rearranged : Rearranged left right)
    (name : Text) :
    left.hasTruthy name = right.hasTruthy name := by
  have alike := rearranged.get? name
  unfold Value.hasTruthy
  generalize left.get? name = found at alike
  generalize right.get? name = foundOther at alike
  cases alike with
  | none => rfl
  | some alike => exact alike.isTruthy

/-- A value that is no container has no other rearrangement. -/
theorem eq_of_not_isContainer
    (rearranged : Rearranged left right)
    (plain : left.isContainer = false) :
    left = right := by
  cases rearranged with
  | array length each => cases plain
  | object keys each => cases plain
  | _ => rfl

theorem isContainer
    (rearranged : Rearranged left right) :
    left.isContainer = right.isContainer := by
  cases rearranged <;> rfl

end Rearranged

end OpenApiGate.Json

namespace OpenApiGate.Reference

open Json (Value Rearranged)

/-! ## References -/

/-- Two outcomes are the same error, or they find rearranged values, or both find nothing. -/
inductive Alike : Outcome → Outcome → Prop where
  | error (error : Decimal.IntegerError) : Alike (.error error) (.error error)
  | ok {found other : Option Value} (alike : Option.Rel Rearranged found other) :
      Alike (.ok found) (.ok other)

variable {left right : Value}

theorem step_alike
    (rearranged : Rearranged left right)
    (key : Text) :
    Alike (step left key) (step right key) := by
  cases rearranged with
  | object keys each => exact .ok (Rearranged.lookup keys each key)
  | @array items others length each =>
      simp only [step]
      split
      · exact .ok .none
      · cases Decimal.naturalOf key with
        | error error => exact .error error
        | ok index =>
            exact .ok (Rearranged.getElem? length each index)
  | _ => exact .ok .none

/-- A pointer leads through rearranged values to rearranged values, or nowhere in both. -/
theorem walk_alike
    (rearranged : Rearranged left right)
    (keys : List Text) :
    Alike (walk left keys) (walk right keys) := by
  induction keys generalizing left right with
  | nil => exact .ok (.some rearranged)
  | cons key rest ih =>
      have alike := step_alike rearranged key
      unfold walk
      generalize step left key = found at alike
      generalize step right key = foundOther at alike
      cases alike with
      | error error => exact .error error
      | ok alike =>
          cases alike with
          | none => exact .ok .none
          | some alike => exact ih alike

theorem resolve_alike
    (rearranged : Rearranged left right)
    (reference : Value) :
    Alike (resolve left reference) (resolve right reference) := by
  unfold resolve
  split
  · next text =>
      cases keys? text with
      | none => exact .ok .none
      | some keys => exact walk_alike rearranged keys
  · exact .ok .none

/-- A chain of references is followed alike; the induction is on the rounds that are left. -/
theorem followFrom_alike
    {value other : Value}
    (documents : Rearranged left right)
    (rearranged : Rearranged value other)
    (fuel : Nat)
    (seen : List Text) :
    Alike (followFrom left fuel seen value) (followFrom right fuel seen other) := by
  induction fuel generalizing seen value other with
  | zero => exact .ok .none
  | succ fuel ih =>
      have alike := rearranged.get? key
      unfold followFrom
      generalize value.get? key = found at alike
      generalize other.get? key = foundOther at alike
      cases alike with
      | none => exact .ok (.some rearranged)
      | some alike =>
          cases alike with
          | string text =>
              have alike := resolve_alike documents (.string text)
              dsimp only
              split
              · exact .ok .none
              · generalize resolve left (.string text) = place at alike
                generalize resolve right (.string text) = otherPlace at alike
                cases alike with
                | error error => exact .error error
                | ok alike =>
                    cases alike with
                    | none => exact .ok .none
                    | some alike => exact ih alike (text :: seen)
          | _ => exact .ok .none

/-- Chains through rearranged documents come to rearranged values. -/
theorem follow_alike
    {value other : Value}
    (documents : Rearranged left right)
    (rearranged : Rearranged value other) :
    Alike (follow left value) (follow right other) := by
  rw [follow_eq_followFrom left value (rounds right),
    follow_eq_followFrom right other (rounds left), Nat.add_comm (rounds right)]
  exact followFrom_alike documents rearranged _ []

end OpenApiGate.Reference

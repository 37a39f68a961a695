import Mathlib.Data.List.Nodup
import OpenApiGate.Json.Decoder
import OpenApiGate.Proofs.Rearrangements

/-!
# Distinct keys

A text may spell an object that repeats a key.  The members that it stands for
hold each key once: a repeated key keeps its first place and its last value.
So the objects of a decoded value hold each key once, at any depth.
-/

namespace OpenApiGate.Json

/-- The objects in a value hold each key once, at any depth. -/
inductive Value.DistinctKeys : Value → Prop where
  | plain
      {value : Value}
      (plain : value.isContainer = false) :
      DistinctKeys value
  | array
      {items : List Value}
      (each : ∀ item ∈ items, DistinctKeys item) :
      DistinctKeys (.array items)
  | object
      {members : Members}
      (distinct : (members.map Prod.fst).Nodup)
      (each : ∀ member ∈ members, DistinctKeys member.2) :
      DistinctKeys (.object members)

open Value (DistinctKeys)

/-- What stands under a key of such a value is such a value again. -/
theorem Value.DistinctKeys.get?
    {value found : Value}
    {name : Text}
    (distinct : DistinctKeys value)
    (under : value.get? name = some found) :
    DistinctKeys found := by
  cases distinct with
  | plain plain =>
      cases value with
      | array items => cases plain
      | object members => cases plain
      | _ => cases under
  | array each => cases under
  | object distinct each => exact each _ (Reference.mem_of_lookup under)

theorem Value.DistinctKeys.nodup_keys
    {members : Members}
    (distinct : DistinctKeys (.object members)) :
    (members.map Prod.fst).Nodup := by
  cases distinct with
  | plain plain => cases plain
  | object distinct each => exact distinct

/-! ## The members that pairs stand for -/

/-- A member that is replaced keeps its key and its place. -/
theorem Members.keys_replace
    (members : Members)
    (key : Text)
    (value : Value) :
    (members.map fun member => if member.1 == key then (key, value) else member).map Prod.fst =
      members.map Prod.fst := by
  rw [List.map_map]
  apply List.map_congr_left
  intro member _
  rw [Function.comp_apply]
  split
  · next same => exact (eq_of_beq same).symm
  · rfl

/-- A key that is there already is not put in a second time. -/
theorem Members.nodup_prepend
    {members : Members}
    (distinct : (members.map Prod.fst).Nodup)
    (key : Text)
    (value : Value) :
    ((members.prepend key value).map Prod.fst).Nodup := by
  unfold prepend
  split
  · rw [keys_replace]
    exact distinct
  · next new =>
      rw [List.map_cons, List.nodup_cons]
      refine ⟨?_, distinct⟩
      intro occurs
      rcases List.mem_map.mp occurs with ⟨member, within, same⟩
      exact new (List.any_eq_true.mpr ⟨member, within, beq_iff_eq.mpr same⟩)

theorem Members.mem_prepend
    {members : Members}
    {key : Text}
    {value : Value}
    {member : Text × Value}
    (within : member ∈ members.prepend key value) :
    member = (key, value) ∨ member ∈ members := by
  unfold prepend at within
  split at within
  · rcases List.mem_map.mp within with ⟨before, inside, given⟩
    split at given
    · exact Or.inl given.symm
    · exact Or.inr (given ▸ inside)
  · exact List.mem_cons.mp within

/-- Members that are put in one after another have distinct keys, and bring in no others. -/
theorem Members.foldl_prepend_spec
    {members : Members}
    (distinct : (members.map Prod.fst).Nodup)
    (pairs : Members) :
    ((pairs.foldl (fun members pair => members.prepend pair.1 pair.2) members).map
        Prod.fst).Nodup ∧
      ∀ member ∈ pairs.foldl (fun members pair => members.prepend pair.1 pair.2) members,
        member ∈ members ∨ member ∈ pairs := by
  induction pairs generalizing members with
  | nil => exact ⟨distinct, fun member within => Or.inl within⟩
  | cons pair rest ih =>
      rcases ih (nodup_prepend distinct pair.1 pair.2) with ⟨nodup, origin⟩
      refine ⟨nodup, fun member within => ?_⟩
      rcases origin member within with early | late
      · rcases mem_prepend early with rfl | before
        · exact Or.inr List.mem_cons_self
        · exact Or.inl before
      · exact Or.inr (List.mem_cons_of_mem pair late)

/-- The members hold each key once, and each of them is one of the pairs. -/
theorem Members.ofPairs_spec (pairs : Members) :
    ((Members.ofPairs pairs).map Prod.fst).Nodup ∧
      ∀ member ∈ Members.ofPairs pairs, member ∈ pairs := by
  have none : (([] : Members).map Prod.fst).Nodup := List.nodup_nil
  rcases foldl_prepend_spec none pairs with ⟨nodup, origin⟩
  constructor
  · rw [Members.ofPairs, List.map_reverse, List.nodup_reverse]
    exact nodup
  · intro member within
    exact (origin member (List.mem_reverse.mp within)).resolve_left List.not_mem_nil

/-! ## What readers return -/

/-- Every part that a reader returns has a property. -/
def Returns
    {α : Type}
    (reader : Reader α)
    (property : α → Prop) :
    Prop :=
  ∀ text part rest, reader text = .ok (part, rest) → property part

section Containers

variable {α : Type} {reader : Reader α} {property : α → Prop} {closing : Char}

/-- What holds of every part that is read holds of all parts; the induction is on the bound. -/
theorem returns_readParts
    (returns : Returns reader property)
    (bound : Text)
    {reversed : List α}
    (before : ∀ part ∈ reversed, property part) :
    Returns (readParts closing reader bound reversed) fun parts =>
      ∀ part ∈ parts, property part := by
  intro text parts rest read
  induction bound generalizing reversed text with
  | nil => cases read
  | cons _ shorter ih =>
      rw [readParts] at read
      split at read
      · cases read
      · next part afterPart partRead =>
          have all : ∀ other ∈ part :: reversed, property other :=
            List.forall_mem_cons.mpr ⟨returns _ _ _ partRead, before⟩
          split at read
          · cases read
          · split at read
            · cases read
              intro other within
              exact all other (List.mem_reverse.mp within)
            · split at read
              · exact ih all _ read
              · cases read

theorem returns_readContainer
    (returns : Returns reader property) :
    Returns (readContainer closing reader) fun parts => ∀ part ∈ parts, property part := by
  intro text parts rest read
  unfold readContainer at read
  split at read
  · split at read <;> cases read
  · split at read
    · cases read
      exact List.forall_mem_nil property
    · exact returns_readParts returns _ (List.forall_mem_nil property) _ _ _ read

end Containers

theorem returns_readMember
    {reader : Reader Value}
    {property : Value → Prop}
    (returns : Returns reader property) :
    Returns (readMember reader) fun member => property member.2 := by
  intro text member rest read
  unfold readMember at read
  split at read
  · cases read
  · split at read
    · split at read
      · cases read
      · split at read
        · cases read
        · split at read
          · split at read
            · cases read
            · next valueRead =>
                cases read
                exact returns _ _ _ valueRead
          · cases read
    · cases read

theorem returns_readNumber
    (whole : Text)
    (negative : Bool) :
    Returns (readNumber whole negative) fun value => value.isContainer = false := by
  intro text value rest read
  unfold readNumber at read
  dsimp only at read
  split at read
  · cases read
  · split at read
    · split at read <;> cases read
      rfl
    · cases read
      rfl

theorem isContainer_of_mem_words
    {word : String}
    {value : Value}
    (within : (word, value) ∈ words) :
    value.isContainer = false := by
  have plain : (words.map fun entry => entry.2.isContainer) = words.map fun _ => false := rfl
  exact List.map_inj_left.mp plain (word, value) within

/-- A scalar is no container. -/
theorem returns_readScalar :
    Returns readScalar fun value => value.isContainer = false := by
  intro text value rest read
  unfold readScalar at read
  split at read
  · cases read
  · split at read
    · split at read <;> cases read
      rfl
    · dsimp only at read
      split at read
      · next found =>
          cases read
          rcases List.exists_of_findSome?_eq_some found with ⟨⟨word, value⟩, within, spelled⟩
          rcases Option.map_eq_some_iff.mp spelled with ⟨after, -, ⟨⟩⟩
          exact isContainer_of_mem_words within
      · split at read
        · exact returns_readNumber _ _ _ _ _ read
        · exact returns_readNumber _ _ _ _ _ read

/-- Values are read with distinct keys, however deeply their containers are nested. -/
theorem returns_readValue (depth : Nat) :
    Returns (readValue depth) DistinctKeys := by
  have scalar : Returns readScalar DistinctKeys := fun text value rest read =>
    .plain (returns_readScalar text value rest read)
  induction depth with
  | zero =>
      intro text value rest read
      cases text with
      | nil => cases read
      | cons point text =>
          rw [readValue] at read
          split at read
          · cases read
          · split at read
            · cases read
            · exact scalar _ _ _ read
  | succ depth ih =>
      intro text value rest read
      cases text with
      | nil => cases read
      | cons point text =>
          rw [readValue] at read
          split at read
          · split at read
            · cases read
            · next itemsRead =>
                cases read
                exact .array (returns_readContainer ih _ _ _ itemsRead)
          · split at read
            · split at read
              · cases read
              · next pairs after pairsRead =>
                  cases read
                  rcases Members.ofPairs_spec pairs with ⟨distinct, origin⟩
                  have each := returns_readContainer (returns_readMember ih) _ _ _ pairsRead
                  exact .object distinct fun member within => each member (origin member within)
            · exact scalar _ _ _ read

/-- A decoded value holds each key of an object once. -/
theorem distinctKeys_of_decode
    {text : Text}
    {value : Value}
    (decoded : decode text = .ok value) :
    DistinctKeys value := by
  unfold decode at decoded
  split at decoded
  · next read =>
      cases decoded
      unfold readDocument at read
      split at read
      · cases read
      · split at read
        · cases read
        · next valueRead =>
            dsimp only at read
            split at read <;> cases read
            exact returns_readValue _ _ _ _ valueRead
  · cases decoded

end OpenApiGate.Json

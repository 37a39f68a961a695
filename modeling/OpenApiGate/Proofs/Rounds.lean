import Mathlib.Data.List.Dedup
import OpenApiGate.Proofs.Chains
import OpenApiGate.Proofs.Fallible

/-!
# How long a chain is followed

Following a chain is a loop: as long as the value is a reference, the value that
it names takes its place.  The loop gives up at a reference that is no text and
at one that it has followed before.  This module states the loop without any
bound on its rounds, together with the number of rounds that it runs.

The loop always ends.  It runs at most one round more than there are different
references in the value and in the document.  It gives up only on a chain that
has no end, so that it finds the end of every chain that has one.
-/

namespace OpenApiGate.Reference

open Json (Value)
open Decimal (IntegerError)

/-- The value at the end of a chain, and null for a chain that comes to nothing. -/
def destination (document value : Value) : Except IntegerError Value :=
  (follow document value).map fun found => found.getD .null

/-! ## Chains that may come to null -/

/-- A reference passes on to the value that it names, and to null if it names none. -/
def Passes (document value next : Value) : Prop :=
  ∃ text place,
    value.get? key = some (.string text) ∧ resolve document (.string text) = .ok place ∧
      place.getD .null = next

/-- The chain of a value reaches another value. -/
abbrev Reaches (document : Value) : Value → Value → Prop :=
  Relation.ReflTransGen (Passes document)

/-- The chain of a value stops at a reference that is no text. -/
def StopsShort (document value : Value) : Prop :=
  ∃ last reference,
    Reaches document value last ∧ last.get? key = some reference ∧
      ∀ text, reference ≠ .string text

/-- The chain of a value never stops. -/
def Endless (document value : Value) : Prop :=
  ∃ chain : Nat → Value,
    chain 0 = value ∧ ∀ index, Passes document (chain index) (chain (index + 1))

section Passing

variable {document value next : Value}

theorem Passes.unique
    {other : Value}
    (passes : Passes document value next)
    (again : Passes document value other) :
    next = other := by
  rcases passes with ⟨text, place, isReference, resolved, rfl⟩
  rcases again with ⟨same, otherPlace, isSame, resolvedSame, rfl⟩
  cases isReference.symm.trans isSame
  cases resolved.symm.trans resolvedSame
  rfl

theorem Passes.get?_ne_none
    (passes : Passes document value next) :
    value.get? key ≠ none := by
  rcases passes with ⟨text, place, isReference, -, -⟩
  rw [isReference]
  exact Option.some_ne_none _

theorem Link.passes
    (link : Link document value next) :
    Passes document value next := by
  rcases link with ⟨text, isReference, denotes⟩
  exact ⟨text, some next, isReference, (resolve_eq_some_iff document next text).mpr denotes, rfl⟩

/-- A reference passes on along a link, or it names no place. -/
theorem Passes.link_or_lost
    (passes : Passes document value next) :
    Link document value next ∨ (halt? document value = some (.ok none) ∧ next = .null) := by
  rcases passes with ⟨text, place, isReference, resolved, rfl⟩
  cases place with
  | none => exact Or.inr ⟨by simp [halt?, isReference, resolved], rfl⟩
  | some found =>
      exact Or.inl ⟨text, isReference, (resolve_eq_some_iff document found text).mp resolved⟩

/-- Nothing comes after null. -/
theorem Reaches.eq_null
    {target : Value}
    (reaches : Reaches document .null target) :
    target = .null := by
  rcases Relation.ReflTransGen.cases_head reaches with same | ⟨next, passes, -⟩
  · exact same.symm
  · exact absurd rfl passes.get?_ne_none

/-- A chain leads on by links, until it may come to null at a reference that names no place. -/
theorem Reaches.leads_or_lost
    {target : Value}
    (reaches : Reaches document value target) :
    Leads document value target ∨
      (target = .null ∧
        ∃ last, Leads document value last ∧ halt? document last = some (.ok none)) := by
  induction reaches using Relation.ReflTransGen.head_induction_on with
  | refl => exact Or.inl .refl
  | head passes reaches ih =>
      rcases passes.link_or_lost with link | ⟨lost, rfl⟩
      · rcases ih with leads | ⟨isNull, last, leads, halted⟩
        · exact Or.inl (.head link leads)
        · exact Or.inr ⟨isNull, last, .head link leads, halted⟩
      · exact Or.inr ⟨Reaches.eq_null reaches, _, .refl, lost⟩

end Passing

/-! ## Where chains come to -/

section Destinations

variable {document value : Value}

theorem destination_of_follow
    {outcome : Outcome}
    (followed : follow document value = outcome) :
    destination document value = outcome.map fun found => found.getD .null := by
  rw [destination, followed]

/-- A chain that reaches a value which is no reference comes to this value. -/
theorem destination_of_reaches
    {target : Value}
    (reaches : Reaches document value target)
    (plain : target.get? key = none) :
    destination document value = .ok target := by
  rcases reaches.leads_or_lost with leads | ⟨rfl, last, leads, halted⟩
  · exact destination_of_follow ((follow_eq_some_iff document value target).mpr ⟨leads, plain⟩)
  · exact destination_of_follow (follow_of_leads leads halted)

theorem destination_of_stopsShort
    (stops : StopsShort document value) :
    destination document value = .ok .null := by
  rcases stops with ⟨last, reference, reaches, isReference, noText⟩
  rcases Reaches.leads_or_lost reaches with leads | ⟨rfl, -⟩
  · have halted : halt? document last = some (.ok none) := by
      cases reference with
      | string text => exact absurd rfl (noText text)
      | _ => simp [halt?, isReference]
    exact destination_of_follow (follow_of_leads leads halted)
  · cases isReference

/-- Every value to which a chain leads is one of the values that it passes. -/
theorem exists_index_of_leads
    {chain : Nat → Value}
    {last : Value}
    (passing : ∀ index, Passes document (chain index) (chain (index + 1)))
    (leads : Leads document (chain 0) last) :
    ∃ index, chain index = last := by
  induction leads with
  | refl => exact ⟨0, rfl⟩
  | tail _ link ih =>
      rcases ih with ⟨index, rfl⟩
      exact ⟨index + 1, (passing index).unique link.passes⟩

theorem destination_of_endless
    (endless : Endless document value) :
    destination document value = .ok .null := by
  rcases endless with ⟨chain, rfl, passing⟩
  cases followed : follow document (chain 0) with
  | error error =>
      -- A chain that derails has a last reference, which passes on to no value.
      rcases (follow_eq_error_iff document (chain 0)).mp ⟨error, followed⟩ with
        ⟨last, text, leads, isReference, misleads⟩
      rcases exists_index_of_leads passing leads with ⟨index, rfl⟩
      rcases passing index with ⟨same, place, isSame, resolved, -⟩
      cases isReference.symm.trans isSame
      rcases (resolve_eq_error_iff document text).mpr misleads with ⟨found, failure⟩
      rw [resolved] at failure
      cases failure
  | ok found =>
      cases found with
      | none => exact destination_of_follow followed
      | some target =>
          rcases (follow_eq_some_iff document (chain 0) target).mp followed with ⟨leads, plain⟩
          rcases exists_index_of_leads passing leads with ⟨index, rfl⟩
          exact absurd plain (passing index).get?_ne_none

/-- A chain never comes to a reference. -/
theorem get?_destination
    {result : Value}
    (reached : destination document value = .ok result) :
    result.get? key = none := by
  cases followed : follow document value with
  | error error =>
      rw [destination_of_follow followed] at reached
      cases reached
  | ok found =>
      rw [destination_of_follow followed] at reached
      cases found with
      | none =>
          cases reached
          rfl
      | some target =>
          cases reached
          exact ((follow_eq_some_iff document value target).mp followed).2

end Destinations

/-! ## The loop -/

/--
The loop that follows a chain, with the references followed so far, the number of
rounds that it still runs, and its result.
-/
inductive Loop (document : Value) :
    List Text → Value → Nat → Except IntegerError Value → Prop where
  | arrived
      {seen : List Text} {value : Value}
      (plain : value.get? key = none) :
      Loop document seen value 0 (.ok value)
  | noText
      {seen : List Text} {value reference : Value}
      (isReference : value.get? key = some reference)
      (noText : ∀ text, reference ≠ .string text) :
      Loop document seen value 1 (.ok .null)
  | repeated
      {seen : List Text} {value : Value} {text : Text}
      (isReference : value.get? key = some (.string text))
      (known : text ∈ seen) :
      Loop document seen value 1 (.ok .null)
  | misled
      {seen : List Text} {value : Value} {text : Text} {error : IntegerError}
      (isReference : value.get? key = some (.string text))
      (fresh : text ∉ seen)
      (failure : resolve document (.string text) = .error error) :
      Loop document seen value 1 (.error error)
  | onward
      {seen : List Text} {value : Value} {text : Text} {place : Option Value}
      {rounds : Nat} {outcome : Except IntegerError Value}
      (isReference : value.get? key = some (.string text))
      (fresh : text ∉ seen)
      (resolved : resolve document (.string text) = .ok place)
      (tail : Loop document (text :: seen) (place.getD .null) rounds outcome) :
      Loop document seen value (rounds + 1) outcome

/-- One more reference is followed, be it to a value of the document or to null. -/
theorem Covers.passes
    {document value : Value}
    {seen known : List Text}
    {text : Text}
    {place : Option Value}
    (covers : Covers document value seen known)
    (isReference : value.get? key = some (.string text))
    (resolved : resolve document (.string text) = .ok place)
    (fresh : text ∉ seen) :
    Covers document (place.getD .null) (text :: seen) known := by
  cases place with
  | none =>
      exact
        { distinct := List.nodup_cons.mpr ⟨fresh, covers.distinct⟩
          within := List.cons_subset.mpr ⟨covers.own text isReference, covers.within⟩
          own := fun later isLater => by cases isLater
          inside := covers.inside }
  | some next =>
      have denotes := (resolve_eq_some_iff document next text).mp resolved
      exact covers.onward isReference denotes fresh

namespace Loop

variable {document value : Value} {seen known : List Text}

/-- The loop runs one number of rounds only, and has one result. -/
theorem unique
    {rounds others : Nat}
    {outcome other : Except IntegerError Value}
    (loop : Loop document seen value rounds outcome)
    (again : Loop document seen value others other) :
    rounds = others ∧ outcome = other := by
  induction loop generalizing others with
  | arrived plain => cases again <;> simp_all
  | noText isReference noText =>
      cases again with
      | arrived plain => simp_all
      | noText => exact ⟨rfl, rfl⟩
      | repeated isSame | misled isSame | onward isSame =>
          exact absurd (Option.some.inj (isReference.symm.trans isSame)) (noText _)
  | repeated isReference member => cases again <;> simp_all
  | misled isReference fresh failure => cases again <;> simp_all
  | onward isReference fresh resolved tail ih =>
      cases again with
      | onward isSame freshSame resolvedSame tailSame =>
          cases isReference.symm.trans isSame
          cases resolved.symm.trans resolvedSame
          rcases ih tailSame with ⟨rfl, same⟩
          exact ⟨rfl, same⟩
      | _ => simp_all

/-- Each round follows another one of the known references; only the last may follow none. -/
theorem rounds_le
    {rounds : Nat}
    {outcome : Except IntegerError Value}
    (loop : Loop document seen value rounds outcome)
    (covers : Covers document value seen known) :
    rounds + seen.length ≤ known.length + 1 := by
  induction loop with
  | arrived | noText | repeated | misled =>
      have few := covers.length_le
      omega
  | onward isReference fresh resolved tail ih =>
      have fewer := ih (covers.passes isReference resolved fresh)
      rw [List.length_cons] at fewer
      omega

/-- The loop ends, with what `followFrom` finds in rounds enough for all references. -/
theorem exists_followFrom
    {fuel : Nat}
    (covers : Covers document value seen known)
    (enough : known.length < fuel + seen.length) :
    ∃ rounds,
      Loop document seen value rounds
        ((followFrom document fuel seen value).map fun found => found.getD .null) := by
  induction fuel generalizing seen value with
  | zero =>
      have few := covers.length_le
      omega
  | succ fuel ih =>
      rw [followFrom]
      split
      · next plain => exact ⟨0, .arrived plain⟩
      · next text isReference =>
          by_cases member : text ∈ seen
          · rw [if_pos (List.contains_iff_mem.mpr member)]
            exact ⟨1, .repeated isReference member⟩
          · rw [if_neg (mt List.contains_iff_mem.mp member)]
            split
            · next error failure => exact ⟨1, .misled isReference member failure⟩
            · next lost => exact ⟨1, .onward isReference member lost (.arrived rfl)⟩
            · next found resolved =>
                have left : known.length < fuel + (text :: seen).length := by
                  rw [List.length_cons]
                  omega
                rcases ih (covers.passes isReference resolved member) left with ⟨rounds, tail⟩
                exact ⟨rounds + 1, .onward isReference member resolved tail⟩
      · next reference noText isReference => exact ⟨1, .noText isReference noText⟩

end Loop

/-! ## Following to the end -/

/-- The different references in a value and in the document. -/
def knownReferences (document value : Value) : List Text :=
  (referenceTexts value ++ referenceTexts document).dedup

theorem covers_knownReferences (document value : Value) :
    Covers document value [] (knownReferences document value) where
  distinct := List.nodup_nil
  within := List.nil_subset _
  own := by
    intro text isReference
    have held := mem_referenceTexts_of_get? isReference
    exact List.mem_dedup.mpr (List.mem_append_left _ held)
  inside := by
    intro text held
    exact List.mem_dedup.mpr (List.mem_append_right _ held)

/-- The loop comes to the destination of the chain. -/
theorem exists_loop (document value : Value) :
    ∃ rounds, Loop document [] value rounds (destination document value) := by
  have enough :
      (knownReferences document value).length <
        rounds document + (referenceTexts value).length + ([] : List Text).length := by
    have distinct := (List.dedup_sublist (referenceTexts value ++ referenceTexts document)).length_le
    have few := length_referenceTexts_le document
    rw [List.length_append] at distinct
    simp only [knownReferences, rounds, List.length_nil]
    omega
  rw [destination, follow_eq_followFrom document value (referenceTexts value).length]
  exact Loop.exists_followFrom (covers_knownReferences document value) enough

/-- A value is what a chain is followed to, in some rounds of the loop. -/
structure FollowsChain (document value result : Value) (rounds : Nat) : Prop where
  /-- The loop runs exactly these rounds and ends with the value. -/
  loop :
    ∀ count outcome,
      Loop document [] value count outcome ↔ count = rounds ∧ outcome = .ok result
  /-- There is at most one round more than there are different references. -/
  bounded : rounds ≤ (knownReferences document value).length + 1
  /-- The value is no reference. -/
  plain : result.get? key = none
  /-- It is the end of the chain, if the chain has one. -/
  ends : ∀ target, Reaches document value target → target.get? key = none → result = target
  /-- It is null for a chain that stops at a reference which is no text. -/
  stopsShort : StopsShort document value → result = .null
  /-- It is null for a chain that never stops. -/
  endless : Endless document value → result = .null

/--
A chain that meets no reference which misleads is followed to its end, however
long it is, and is given up only if it has no end.
-/
theorem chain_is_followed_to_its_end
    {document value : Value}
    (straight : ¬ Derails document value) :
    ∃ result rounds,
      destination document value = .ok result ∧ FollowsChain document value result rounds := by
  rcases exists_loop document value with ⟨rounds, loop⟩
  cases reached : destination document value with
  | error error =>
      have failed : follow document value = .error error := by
        simpa [destination, Fallible.map_eq_error_iff] using reached
      exact absurd ((follow_eq_error_iff document value).mp ⟨error, failed⟩) straight
  | ok result =>
      have same : ∀ other, destination document value = .ok other → result = other := by
        intro other otherReached
        exact Except.ok.inj (reached.symm.trans otherReached)
      rw [reached] at loop
      refine ⟨result, rounds, rfl, ?_⟩
      exact
        { loop := by
            intro count outcome
            constructor
            · exact fun again => again.unique loop
            · rintro ⟨rfl, rfl⟩
              exact loop
          bounded := loop.rounds_le (covers_knownReferences document value)
          plain := get?_destination reached
          ends := fun target reaches plain => same target (destination_of_reaches reaches plain)
          stopsShort := fun stops => same .null (destination_of_stopsShort stops)
          endless := fun endless => same .null (destination_of_endless endless) }

/-- Two references that name each other. -/
def ringed : Value :=
  .object
    [("a", .object [("$ref", .string "#/b")]), ("b", .object [("$ref", .string "#/a")])]

theorem ring_is_followed_to_null :
    ¬ Derails ringed (.object [("$ref", .string "#/a")]) ∧
      ∃ rounds, FollowsChain ringed (.object [("$ref", .string "#/a")]) .null rounds := by
  have straight : ¬ Derails ringed (.object [("$ref", .string "#/a")]) := by
    rw [← follow_eq_error_iff]
    rintro ⟨error, failure⟩
    cases failure
  obtain ⟨result, rounds, reached, follows⟩ := chain_is_followed_to_its_end straight
  cases reached
  exact ⟨straight, rounds, follows⟩

end OpenApiGate.Reference

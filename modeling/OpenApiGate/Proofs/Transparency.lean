import OpenApiGate.Compatibility
import OpenApiGate.Proofs.Numerals
import OpenApiGate.Proofs.Rounds

/-!
# References are transparent

A parameter may stand in a list of parameters itself, or be at the end of a
chain of references that starts there.  The warnings about the list are the
same: they are about the value at the end and name the place where the chain
starts.  An entry whose chain comes to nothing counts, and there is no warning
about it.

The end of a chain is no reference, so that following a chain twice is the same
as following it once.
-/

namespace OpenApiGate

namespace Reference

open Json (Value)

theorem destination_of_plain
    {document value : Value}
    (plain : value.get? key = none) :
    destination document value = .ok value :=
  destination_of_reaches .refl plain

/-- To follow a chain from its end on leads nowhere else. -/
theorem destination_bind_destination (document value : Value) :
    (destination document value).bind (destination document) = destination document value := by
  cases reached : destination document value with
  | error error => rfl
  | ok target => exact destination_of_plain (get?_destination reached)

theorem fails_destination_iff (document value : Value) :
    Fallible.Fails (destination document value) ↔ Derails document value :=
  (Fallible.fails_map_iff _ _).trans (follow_eq_error_iff document value)

theorem destination_of_ends
    {document value target : Value}
    (ends : Ends document value target) :
    destination document value = .ok target :=
  destination_of_follow ((follow_eq_some_iff document value target).mpr ends)

theorem destination_of_no_end
    {document value target : Value}
    (noEnd : ∀ last, ¬ Ends document value last)
    (reached : destination document value = .ok target) :
    target = .null := by
  rcases Fallible.map_eq_ok_iff.mp reached with ⟨found, followed, rfl⟩
  cases found with
  | none => rfl
  | some last => exact absurd ((follow_eq_some_iff document value last).mp followed) (noEnd last)

end Reference

namespace Compatibility

open Json (Value)
open Reference (destination)
open Fallible

/-! ## The warnings about a list of parameters -/

/-- The place of the entry at an index of a list of parameters that is declared at a place. -/
def entryPlace
    (place : Text)
    (index : Nat) :
    Text :=
  place ++ ".parameters." ++ Text.ofNat index

theorem entryPlace_injective (place : Text) : Function.Injective (entryPlace place) := by
  intro index other same
  exact Decimal.ofNat_injective (List.append_cancel_left same)

/-- The warnings about a value in place of a parameter. -/
def valueWarnings (place : Text) : Value → List Finding
  | .object members => parameterWarnings place (.object members)
  | _ => []

theorem path_of_mem_parameterWarnings
    {place : Text}
    {parameter : Value}
    {finding : Finding}
    (within : finding ∈ parameterWarnings place parameter) :
    finding.path = place := by
  rcases List.mem_append.mp within with cookie | reserved
  · rw [List.mem_ite_nil_right, List.mem_singleton] at cookie
    rw [cookie.2]
    rfl
  · rw [List.mem_ite_nil_right, List.mem_singleton] at reserved
    rw [reserved.2]
    rfl

theorem path_of_mem_valueWarnings
    {place : Text}
    {value : Value}
    {finding : Finding}
    (within : finding ∈ valueWarnings place value) :
    finding.path = place := by
  cases value with
  | object members => exact path_of_mem_parameterWarnings within
  | _ => cases within

variable {document : Value} {entries targets : List Value} {place : Text}

/-- What an entry gives depends on the destination of its chain only. -/
theorem entryWarnings_eq_map_destination
    (document : Value)
    (place : Text)
    (entry : Value) :
    entryWarnings (Reference.follow document) place entry =
      (destination document entry).map (valueWarnings place) := by
  unfold entryWarnings destination
  cases Reference.follow document entry with
  | error error => rfl
  | ok found =>
      cases found with
      | none => rfl
      | some target => cases target <;> rfl

theorem parametersWarnings_eq_gather
    (document : Value)
    (place : Text)
    (entries : List Value) :
    parametersWarnings (Reference.follow document) place (some (.array entries)) =
      gather (fun outcome => outcome.1.map (valueWarnings (entryPlace place outcome.2)))
        (entries.map (destination document)).zipIdx := by
  rw [List.zipIdx_map, gather_map]
  show gather (fun entry : Value × Nat =>
    entryWarnings (Reference.follow document) (entryPlace place entry.2) entry.1) _ = _
  simp only [entryWarnings_eq_map_destination]
  rfl

/-- The warnings about a list of values, each at the place of its index. -/
def listWarnings
    (place : Text)
    (values : List Value) :
    List Finding :=
  values.zipIdx.flatMap fun value => valueWarnings (entryPlace place value.2) value.1

theorem parametersWarnings_of_destinations
    (reached : entries.map (destination document) = targets.map .ok)
    (place : Text) :
    parametersWarnings (Reference.follow document) place (some (.array entries)) =
      .ok (listWarnings place targets) := by
  rw [parametersWarnings_eq_gather, reached, List.zipIdx_map, gather_map]
  exact gather_ok _ _

theorem path_ne_of_no_warning
    {index : Nat}
    {value : Value}
    (atIndex : targets[index]? = some value)
    (noWarning : valueWarnings (entryPlace place index) value = []) :
    ∀ finding ∈ listWarnings place targets, finding.path ≠ entryPlace place index := by
  intro finding within same
  rcases List.mem_flatMap.mp within with ⟨⟨other, position⟩, atPosition, about⟩
  have sameIndex := (path_of_mem_valueWarnings about).symm.trans same
  cases entryPlace_injective place sameIndex
  have found := List.mem_zipIdx_iff_getElem?.mp atPosition
  cases found.symm.trans atIndex
  rw [noWarning] at about
  cases about

/-! ## Replacing entries -/

/-- What it comes to that the entries of a list of parameters are replaced by other values. -/
structure Replaces
    (document : Value)
    (place : Text)
    (entries targets : List Value)
    (findings : List Finding) :
    Prop where
  /-- The warnings are those about the entries. -/
  before :
    parametersWarnings (Reference.follow document) place (some (.array entries)) = .ok findings
  /-- They are those about the values that replace them. -/
  after :
    parametersWarnings (Reference.follow document) place (some (.array targets)) = .ok findings
  /-- They are about these values in order, each at the place of the entry that it replaces. -/
  listed : findings = listWarnings place targets
  /-- They stay the same however the entries are written. -/
  rewritten :
    ∀ others : List Value,
      others.map (destination document) = entries.map (destination document) →
        parametersWarnings (Reference.follow document) place (some (.array others)) = .ok findings
  /-- An entry is replaced by the end of its chain, however long the chain is. -/
  ended :
    ∀ (index : Nat) (entry target : Value),
      entries[index]? = some entry → Reference.Ends document entry target →
        targets[index]? = some target
  /-- An entry whose chain has no end keeps its index, and no warning is at its place. -/
  lost :
    ∀ (index : Nat) (entry : Value),
      entries[index]? = some entry → (∀ target, ¬ Reference.Ends document entry target) →
        targets[index]? = some .null ∧
          ∀ finding ∈ findings, finding.path ≠ entryPlace place index

theorem getElem?_of_destinations
    (reached : entries.map (destination document) = targets.map .ok)
    {index : Nat}
    {entry : Value}
    (atIndex : entries[index]? = some entry) :
    ∃ target, targets[index]? = some target ∧ destination document entry = .ok target := by
  have alike := congrArg (fun outcomes => outcomes[index]?) reached
  simp only [List.getElem?_map, atIndex, Option.map_some] at alike
  rcases Option.map_eq_some_iff.mp alike.symm with ⟨target, atTarget, given⟩
  exact ⟨target, atTarget, given.symm⟩

/-- The destinations of chains are their own destinations. -/
theorem destinations_of_destinations
    (reached : entries.map (destination document) = targets.map .ok) :
    targets.map (destination document) = targets.map .ok := by
  apply List.map_congr_left
  intro target within
  have isDestination :
      (.ok target : Except Decimal.IntegerError Value) ∈ targets.map .ok :=
    List.mem_map_of_mem within
  rw [← reached] at isDestination
  rcases List.mem_map.mp isDestination with ⟨entry, -, given⟩
  exact Reference.destination_of_plain (Reference.get?_destination given)

theorem replaces_of_destinations
    (reached : entries.map (destination document) = targets.map .ok)
    (place : Text) :
    Replaces document place entries targets (listWarnings place targets) where
  before := parametersWarnings_of_destinations reached place
  after := parametersWarnings_of_destinations (destinations_of_destinations reached) place
  listed := rfl
  rewritten := fun others same => parametersWarnings_of_destinations (same.trans reached) place
  ended := by
    intro index entry target atIndex ends
    rcases getElem?_of_destinations reached atIndex with ⟨other, atOther, given⟩
    cases given.symm.trans (Reference.destination_of_ends ends)
    exact atOther
  lost := by
    intro index entry atIndex noEnd
    rcases getElem?_of_destinations reached atIndex with ⟨target, atTarget, given⟩
    cases Reference.destination_of_no_end noEnd given
    exact ⟨atTarget, path_ne_of_no_warning atTarget rfl⟩

/--
The entries of a list of parameters may be replaced by the ends of their chains:
the warnings are the same, at the same places and in the same order.  To replace
them again changes nothing.
-/
theorem references_are_transparent (document : Value) :
    (∀ (entries : List Value) (place : Text),
      (∀ entry ∈ entries, ¬ Reference.Derails document entry) →
        ∃ targets findings,
          entries.mapM (destination document) = .ok targets ∧
            Replaces document place entries targets findings) ∧
      ∀ value : Value,
        (destination document value).bind (destination document) =
          destination document value := by
  refine ⟨?_, Reference.destination_bind_destination document⟩
  intro entries place straight
  simp only [← Reference.fails_destination_iff] at straight
  rcases exists_mapM_eq_ok_iff.mpr straight with ⟨targets, given⟩
  have reached := mapM_eq_ok_iff.mp given
  exact ⟨targets, listWarnings place targets, given, replaces_of_destinations reached place⟩

/-- A cookie behind a reference, and a reference to itself. -/
def chainedDocument : Value :=
  .object
    [("first", .object [("$ref", .string "#/cookie")]),
      ("cookie", .object [("name", .string "sid"), ("in", .string "cookie")]),
      ("circle", .object [("$ref", .string "#/circle")])]

/-- References into another document, round in a circle, and to the cookie by a detour. -/
def chainedEntries : List Value :=
  [.object [("$ref", .string "common.yaml#/Limit")], .object [("$ref", .string "#/circle")],
    .object [("$ref", .string "#/first")]]

theorem chained_entries_are_transparent :
    ∃ targets findings,
      chainedEntries.mapM (destination chainedDocument) = .ok targets ∧
        targets = [.null, .null, .object [("name", .string "sid"), ("in", .string "cookie")]] ∧
        Replaces chainedDocument "paths./a" chainedEntries targets findings ∧
        findings = [cookieWarning "paths./a.parameters.2" (.string "sid")] := by
  have straight : ∀ entry ∈ chainedEntries, ¬ Reference.Derails chainedDocument entry := by
    simp only [← Reference.fails_destination_iff]
    exact exists_mapM_eq_ok_iff.mp ⟨_, rfl⟩
  obtain ⟨targets, findings, given, replaces⟩ :=
    (references_are_transparent chainedDocument).1 chainedEntries "paths./a" straight
  cases given
  exact ⟨_, findings, rfl, rfl, replaces, replaces.listed⟩

end Compatibility

end OpenApiGate

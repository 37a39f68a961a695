import OpenApiGate.Proofs.Incompatibilities

/-!
# When the compatibility check gives no answer

A chain of references from an entry of a list of parameters may end, may come to
nothing, or may derail.  An entry whose chain comes to nothing is skipped.  A
single entry whose chain derails leaves the whole document without an answer, and
nothing else does.
-/

namespace OpenApiGate.Compatibility

open Json (Value)
open Decimal (IntegerError)
open Fallible

/-- The object lists a parameter whose chain of references derails. -/
def ListsDerailing
    (document owner : Value) :
    Prop :=
  ∃ (index : Nat) (entries : List Value) (entry : Value),
    owner.get? "parameters" = some (.array entries) ∧ entries[index]? = some entry ∧
      Reference.Derails document entry

theorem fails_entryWarnings_iff
    (document entry : Value)
    (place : Text) :
    Fails (entryWarnings (Reference.follow document) place entry) ↔
      Reference.Derails document entry :=
  (fails_map_iff _ _).trans (Reference.follow_eq_error_iff document entry)

theorem fails_parametersWarnings_iff
    (document owner : Value)
    (place : Text) :
    Fails (parametersWarnings (Reference.follow document) place (owner.get? "parameters")) ↔
      ListsDerailing document owner := by
  unfold parametersWarnings
  split
  · next entries declared =>
      refine (fails_gather_iff _ _).trans ?_
      simp only [fails_entryWarnings_iff]
      constructor
      · rintro ⟨⟨entry, index⟩, within, derails⟩
        exact ⟨index, entries, entry, declared, List.mem_zipIdx_iff_getElem?.mp within, derails⟩
      · rintro ⟨index, others, entry, otherDeclared, within, derails⟩
        cases declared.symm.trans otherDeclared
        exact ⟨(entry, index), List.mem_zipIdx_iff_getElem?.mpr within, derails⟩
  · next noList =>
      refine iff_of_false (not_fails_ok _) ?_
      rintro ⟨index, entries, entry, declared, -⟩
      exact noList entries declared

theorem fails_operationWarnings_iff
    (document : Value)
    (operation : Operation) :
    Fails (operationWarnings (Reference.follow document) operation) ↔
      ListsDerailing document operation.body :=
  (fails_map_iff _ _).trans (fails_parametersWarnings_iff document operation.body operation.place)

theorem mem_operations_iff
    (place : Text)
    (pathItem : Value)
    (operation : Operation) :
    operation ∈ operations place pathItem ↔
      ∃ method ∈ methods,
        pathItem.get? method = some operation.body ∧ operation.body.isObject = true ∧
          operation.place = place ++ "." ++ method := by
  rcases operation with ⟨operationPlace, body⟩
  simp only [operations, List.mem_filterMap, Option.map_eq_some_iff, object?_eq_some_iff,
    Operation.mk.injEq]
  constructor
  · rintro ⟨method, within, found, ⟨declared, isObject⟩, rfl, rfl⟩
    exact ⟨method, within, declared, isObject, rfl⟩
  · rintro ⟨method, within, declared, isObject, rfl⟩
    exact ⟨method, within, body, ⟨declared, isObject⟩, rfl, rfl⟩

theorem fails_operations_iff
    (document pathItem : Value)
    (place : Text) :
    Fails ((operations place pathItem).mapM (operationWarnings (Reference.follow document))) ↔
      ∃ method ∈ methods, ∃ body,
        pathItem.get? method = some body ∧ body.isObject = true ∧
          ListsDerailing document body := by
  refine (fails_map_iff _ List.flatten).symm.trans ((fails_gather_iff _ _).trans ?_)
  simp only [fails_operationWarnings_iff, mem_operations_iff]
  constructor
  · rintro ⟨operation, ⟨method, within, declared, isObject, -⟩, derails⟩
    exact ⟨method, within, operation.body, declared, isObject, derails⟩
  · rintro ⟨method, within, body, declared, isObject, derails⟩
    exact ⟨⟨_, body⟩, ⟨method, within, declared, isObject, rfl⟩, derails⟩

theorem fails_pathItemWarnings_iff
    (document pathItem : Value)
    (place : Text) :
    Fails (pathItemWarnings (Reference.follow document) place pathItem) ↔
      ListsDerailing document pathItem ∨
        ∃ method ∈ methods, ∃ body,
          pathItem.get? method = some body ∧ body.isObject = true ∧
            ListsDerailing document body := by
  rw [← fails_operations_iff document pathItem place,
    ← fails_parametersWarnings_iff document pathItem place]
  unfold pathItemWarnings
  cases parametersWarnings (Reference.follow document) place (pathItem.get? "parameters") with
  | error error => simp [bind, Except.bind]
  | ok shared =>
      cases (operations place pathItem).mapM (operationWarnings (Reference.follow document)) <;>
        simp [bind, Except.bind, pure, Except.pure]

/-- The objects at the sites of a document are the path items and their operations. -/
theorem exists_owner_iff
    (document owner : Value) :
    (∃ site : Site, site.Owner document owner) ↔
      ∃ member ∈ pathMembers document, member.2.isObject = true ∧
        (owner = member.2 ∨
          ∃ method ∈ methods, member.2.get? method = some owner ∧ owner.isObject = true) := by
  constructor
  · rintro ⟨⟨position, path, method⟩, paths, pathItem, declared, inside, isObject, isOwner, owned⟩
    have atPosition := (mem_pathMembers_iff _ _ _).mpr ⟨paths, declared, inside⟩
    refine ⟨(path, pathItem), List.mem_of_getElem? atPosition, isObject, ?_⟩
    cases method with
    | none => exact Or.inl owned
    | some method => exact Or.inr ⟨methods[method], List.getElem_mem _, owned, isOwner⟩
  · rintro ⟨⟨path, pathItem⟩, within, isObject, kind⟩
    rcases List.mem_iff_getElem?.mp within with ⟨position, atPosition⟩
    rcases (mem_pathMembers_iff _ _ _).mp atPosition with ⟨paths, declared, inside⟩
    rcases kind with rfl | ⟨method, isMethod, owned, isOwner⟩
    · exact
        ⟨⟨position, path, none⟩, paths, owner, declared, inside, isObject, isObject, rfl⟩
    · rcases List.getElem_of_mem isMethod with ⟨number, bound, rfl⟩
      exact
        ⟨⟨position, path, some ⟨number, bound⟩⟩, paths, pathItem, declared, inside, isObject,
          isOwner, owned⟩

theorem exists_derailing_entry_iff (document : Value) :
    (∃ (site : Site) (index : Nat) (entry : Value),
        site.Entry document index entry ∧ Reference.Derails document entry) ↔
      ∃ owner, (∃ site : Site, site.Owner document owner) ∧ ListsDerailing document owner := by
  constructor
  · rintro ⟨site, index, entry, ⟨owner, entries, owned, listed, atIndex⟩, derails⟩
    exact ⟨owner, ⟨site, owned⟩, index, entries, entry, listed, atIndex, derails⟩
  · rintro ⟨owner, ⟨site, owned⟩, index, entries, entry, listed, atIndex, derails⟩
    exact ⟨site, index, entry, ⟨owner, entries, owned, listed, atIndex⟩, derails⟩

/-- The check fails exactly if the entry of some site derails. -/
theorem fails_warnings_iff (document : Value) :
    Fails (warnings document ((pathItems? document).getD [])) ↔
      ∃ (site : Site) (index : Nat) (entry : Value),
        site.Entry document index entry ∧ Reference.Derails document entry := by
  rw [warnings_pathItems?, fails_gather_iff, exists_derailing_entry_iff]
  simp only [exists_owner_iff]
  constructor
  · rintro ⟨member, within, fails⟩
    by_cases isObject : member.2.isObject = true
    · rw [if_pos isObject] at fails
      rcases (fails_pathItemWarnings_iff _ _ _).mp fails with
        lists | ⟨method, isMethod, body, owned, isOwner, lists⟩
      · exact ⟨member.2, ⟨member, within, isObject, Or.inl rfl⟩, lists⟩
      · exact
          ⟨body, ⟨member, within, isObject, Or.inr ⟨method, isMethod, owned, isOwner⟩⟩, lists⟩
    · rw [if_neg isObject] at fails
      exact absurd fails (not_fails_ok _)
  · rintro ⟨owner, ⟨member, within, isObject, kind⟩, lists⟩
    refine ⟨member, within, ?_⟩
    rw [if_pos isObject, fails_pathItemWarnings_iff]
    rcases kind with rfl | ⟨method, isMethod, owned, isOwner⟩
    · exact Or.inl lists
    · exact Or.inr ⟨method, isMethod, owner, owned, isOwner, lists⟩

/--
The check answers exactly for the documents in which no entry derails.  There,
an entry is skipped if its chain comes to a reference that names no place.
-/
theorem check_answers_iff_no_entry_derails (document : Value) :
    ((∃ findings, (check document).result = .ok findings) ↔
        ∀ (site : Site) (index : Nat) (entry : Value),
          site.Entry document index entry → ¬ Reference.Derails document entry) ∧
      ∀ (site : Site) (index : Nat) (entry last : Value) (text : Text),
        Reference.Leads document entry last →
          last.get? Reference.key = some (.string text) →
          (∀ target, ¬ Reference.Denotes document text target) →
          ¬ Reference.Misleads document text →
          entryWarnings (Reference.follow document) (site.parameterPlace index) entry = .ok [] := by
  constructor
  · have answers : (∃ findings, (check document).result = .ok findings) ↔
        ∃ found, warnings document ((pathItems? document).getD []) = .ok found := by
      simp [result_check, map_eq_ok_iff]
    rw [answers, ← not_iff_not, ← fails_iff_not_ok, fails_warnings_iff]
    push Not
    rfl
  · intro site index entry last text leads isReference elsewhere straight
    unfold entryWarnings
    rw [Reference.follow_eq_none_of_leads leads isReference elsewhere straight]
    rfl

/-- A document whose only parameter is the given reference. -/
def soleReference (text : Text) : Value :=
  .object
    [("paths", .object
        [("/a", .object [("parameters", .array [.object [("$ref", .string text)]])])]),
      ("servers", .array [])]

theorem check_skips_dangling_reference :
    entryWarnings (Reference.follow (soleReference "#/servers/x"))
      (Site.parameterPlace ⟨0, "/a", none⟩ 0) (.object [("$ref", .string "#/servers/x")]) =
        .ok [] := by
  have resolved :
      Reference.resolve (soleReference "#/servers/x") (.string "#/servers/x") = .ok none := rfl
  refine
    (check_answers_iff_no_entry_derails (soleReference "#/servers/x")).2 _ _ _ _ "#/servers/x"
      .refl rfl ?_ ?_
  · intro target denotes
    rw [← Reference.resolve_eq_some_iff, resolved] at denotes
    cases denotes
  · intro misleads
    rcases (Reference.resolve_eq_error_iff _ _).mpr misleads with ⟨error, failure⟩
    rw [resolved] at failure
    cases failure

/-- A superscript digit passes for an index and spells no integer: the check fails. -/
theorem check_fails_for_superscript_index :
    (∀ target, ¬ Reference.Denotes (soleReference "#/servers/²") "#/servers/²" target) ∧
      (check (soleReference "#/servers/²")).result = .error (.notDecimal "²") := by
  refine ⟨?_, rfl⟩
  intro target denotes
  rw [← Reference.resolve_eq_some_iff] at denotes
  cases denotes

end OpenApiGate.Compatibility

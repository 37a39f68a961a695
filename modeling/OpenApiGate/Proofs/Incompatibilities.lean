import OpenApiGate.Compatibility
import OpenApiGate.Proofs.Chains
import OpenApiGate.Proofs.Fallible

/-!
# What the compatibility check reports

An incompatibility is found at a site, which is a path item or one of its
operations, and says something about the site or about one of the parameters
declared there.  This module states which incompatibilities a document has,
without following the check, and in which order they come.  The check reports
exactly these, each once and in this order.  It gives no answer only for a
document that declares a parameter whose references mislead.
-/

namespace OpenApiGate.Compatibility

open Json (Value)
open Decimal (IntegerError)
open Fallible

/-! ## The incompatibilities of a document -/

/-- A path item, or the operation under one of the methods of a path item. -/
structure Site where
  /-- The position of the path item among the members of `paths`. -/
  position : Nat
  /-- The key of the path item. -/
  path : Text
  /-- The method of the operation, or none for the path item itself. -/
  method : Option (Fin methods.length)

/-- The place that warnings about a site name. -/
def Site.place (site : Site) : Text :=
  let pathItem : Text := "paths." ++ site.path
  match site.method with
  | none => pathItem
  | some method => pathItem ++ "." ++ methods[method]

/-- The place that warnings about the parameter at an index name. -/
def Site.parameterPlace (site : Site) (index : Nat) : Text :=
  site.place ++ ".parameters." ++ Text.ofNat index

/-- The object that a document has at a site. -/
def Site.Owner
    (document : Value)
    (site : Site)
    (owner : Value) :
    Prop :=
  ∃ paths pathItem,
    document.get? "paths" = some (.object paths) ∧
      paths[site.position]? = some (site.path, pathItem) ∧
      pathItem.isObject = true ∧ owner.isObject = true ∧
      match site.method with
      | none => owner = pathItem
      | some method => pathItem.get? methods[method] = some owner

/-- An entry of the list of parameters at a site. -/
def Site.Entry
    (document : Value)
    (site : Site)
    (index : Nat)
    (entry : Value) :
    Prop :=
  ∃ owner entries,
    site.Owner document owner ∧ owner.get? "parameters" = some (.array entries) ∧
      entries[index]? = some entry

/-- A parameter at a site: the object at which the chain from an entry ends. -/
def Site.Parameter
    (document : Value)
    (site : Site)
    (index : Nat)
    (parameter : Value) :
    Prop :=
  ∃ entry, site.Entry document index entry ∧ Reference.Ends document entry parameter ∧
    parameter.isObject = true

/-- What is wrong at a site; the last two concern the parameter at an index. -/
inductive Complaint where
  | unnamed
  | deprecated
  | cookie (index : Nat) (name : Value)
  | reserved (index : Nat) (name : Value)

namespace Complaint

/-- The complaint is justified by an operation itself. -/
def FitsOperation (operation : Value) : Complaint → Prop
  | .unnamed =>
    operation.hasTruthy "summary" = false ∧ operation.hasTruthy "operationId" = false
  | .deprecated => operation.get? "deprecated" = some (.bool true)
  | .cookie _ _ | .reserved _ _ => False

/-- The complaint is justified by the parameter at an index. -/
def FitsParameter (index : Nat) (parameter : Value) : Complaint → Prop
  | .unnamed | .deprecated => False
  | .cookie place name =>
    place = index ∧ parameter.get? "in" = some (.string "cookie") ∧
      name = (parameter.get? "name").getD .null
  | .reserved place name =>
    place = index ∧ parameter.get? "name" = some name ∧
      ∃ text, name = .string text ∧ text.toLower ∈ reservedNames

/-- The order of complaints about one site, compared number by number. -/
def rank : Complaint → List Nat
  | .unnamed => [0]
  | .deprecated => [1]
  | .cookie index _ => [2, index, 0]
  | .reserved index _ => [2, index, 1]

end Complaint

/-- Something at a site that the platform does not support. -/
structure Incompatibility where
  site : Site
  complaint : Complaint

namespace Incompatibility

/-- The warning about an incompatibility. -/
def warning (found : Incompatibility) : Finding :=
  match found.complaint with
  | .unnamed => unnamedWarning found.site.place
  | .deprecated => deprecatedWarning found.site.place
  | .cookie index name => cookieWarning (found.site.parameterPlace index) name
  | .reserved index name => reservedWarning (found.site.parameterPlace index) name

/-- A document has an incompatibility. -/
def Holds
    (document : Value)
    (found : Incompatibility) :
    Prop :=
  (found.site.method ≠ none ∧
    ∃ operation, found.site.Owner document operation ∧
      found.complaint.FitsOperation operation) ∨
    ∃ index parameter, found.site.Parameter document index parameter ∧
      found.complaint.FitsParameter index parameter

/--
The order of the report, compared number by number: path items in document
order; in each, what it declares itself before its operations, and these in the
order of the methods; then the complaints about one site.
-/
def rank (found : Incompatibility) : List Nat :=
  found.site.position :: found.site.method.elim 0 (fun method => method.val + 1) ::
    found.complaint.rank

theorem rank_lt_of_position
    {earlier later : Incompatibility}
    (less : earlier.site.position < later.site.position) :
    earlier.rank < later.rank :=
  List.cons_lt_cons_iff.mpr (Or.inl less)

theorem rank_lt_of_method
    {earlier later : Incompatibility}
    (same : earlier.site.position = later.site.position)
    (less :
      earlier.site.method.elim 0 (fun method => method.val + 1) <
        later.site.method.elim 0 fun method => method.val + 1) :
    earlier.rank < later.rank :=
  List.cons_lt_cons_iff.mpr (Or.inr ⟨same, List.cons_lt_cons_iff.mpr (Or.inl less)⟩)

theorem rank_lt_of_complaint
    {earlier later : Incompatibility}
    (same : earlier.site = later.site)
    (less : earlier.complaint.rank < later.complaint.rank) :
    earlier.rank < later.rank := by
  unfold rank
  rw [same]
  exact
    List.cons_lt_cons_iff.mpr
      (Or.inr ⟨rfl, List.cons_lt_cons_iff.mpr (Or.inr ⟨rfl, less⟩)⟩)

end Incompatibility

theorem Complaint.rank_lt_of_fitsParameter
    {earlier later : Complaint}
    {before after : Nat}
    {first second : Value}
    (fits : earlier.FitsParameter before first)
    (fitsLater : later.FitsParameter after second)
    (less : before < after) :
    earlier.rank < later.rank := by
  cases earlier <;> cases later <;>
    simp_all [Complaint.FitsParameter, Complaint.rank, List.cons_lt_cons_iff]

theorem Complaint.rank_lt_of_fitsOperation
    {earlier later : Complaint}
    {index : Nat}
    {operation parameter : Value}
    (fits : earlier.FitsOperation operation)
    (fitsLater : later.FitsParameter index parameter) :
    earlier.rank < later.rank := by
  cases earlier <;> cases later <;>
    simp_all [Complaint.FitsOperation, Complaint.FitsParameter, Complaint.rank,
      List.cons_lt_cons_iff]

/-- Findings are the warnings about the incompatibilities of a kind, each once and in order. -/
def Reports
    (kind : Incompatibility → Prop)
    (findings : List Finding) :
    Prop :=
  ∃ reported : List Incompatibility,
    findings = reported.map Incompatibility.warning ∧
      reported.Pairwise (fun earlier later => earlier.rank < later.rank) ∧
      ∀ found, found ∈ reported ↔ kind found

namespace Reports

variable {kind other : Incompatibility → Prop} {findings more : List Finding}

theorem congr
    (reports : Reports kind findings)
    (same : ∀ found, kind found ↔ other found) :
    Reports other findings := by
  rcases reports with ⟨reported, rfl, ordered, complete⟩
  exact ⟨reported, rfl, ordered, fun found => (complete found).trans (same found)⟩

theorem nil
    (absent : ∀ found, ¬ kind found) :
    Reports kind [] :=
  ⟨[], rfl, List.Pairwise.nil, fun found => by simpa using absent found⟩

theorem single (found : Incompatibility) :
    Reports (· = found) [found.warning] :=
  ⟨[found], rfl, List.pairwise_singleton _ _, fun _ => List.mem_singleton⟩

/-- One warning under a condition, and otherwise none. -/
theorem when
    {condition : Prop}
    [Decidable condition]
    (found : Incompatibility) :
    Reports (fun reported => condition ∧ reported = found)
      (if condition then [found.warning] else []) := by
  by_cases holds : condition
  · rw [if_pos holds]
    exact (single found).congr fun reported => by simp [holds]
  · rw [if_neg holds]
    exact nil fun reported => by simp [holds]

theorem append
    (first : Reports kind findings)
    (second : Reports other more)
    (ordered :
      ∀ earlier later, kind earlier → other later → earlier.rank < later.rank) :
    Reports (fun found => kind found ∨ other found) (findings ++ more) := by
  rcases first with ⟨earlier, rfl, firstOrdered, firstExact⟩
  rcases second with ⟨later, rfl, secondOrdered, secondExact⟩
  refine ⟨earlier ++ later, (List.map_append ..).symm, ?_, fun found => ?_⟩
  · refine List.pairwise_append.mpr ⟨firstOrdered, secondOrdered, fun before within => ?_⟩
    intro after inside
    exact ordered before after ((firstExact before).mp within) ((secondExact after).mp inside)
  · rw [List.mem_append, firstExact, secondExact]

/-- What is gathered from a list reports what its items report, if that comes in order. -/
theorem gather
    {α : Type}
    {parts : α → Except IntegerError (List Finding)}
    {items : List α}
    (kinds : Nat → Incompatibility → Prop)
    (each :
      ∀ index item part,
        items[index]? = some item → parts item = .ok part → Reports (kinds index) part)
    (within : ∀ index found, kinds index found → index < items.length)
    (ordered :
      ∀ before after, before < after → ∀ earlier later,
        kinds before earlier → kinds after later → earlier.rank < later.rank)
    (gathered : Fallible.gather parts items = .ok findings) :
    Reports (fun found => ∃ index, kinds index found) findings := by
  induction items generalizing kinds findings with
  | nil =>
      cases gathered
      refine nil ?_
      rintro found ⟨index, member⟩
      exact absurd (within index found member) (Nat.not_lt_zero index)
  | cons item rest ih =>
      rcases gather_cons_eq_ok_iff.mp gathered with ⟨own, others, ownPart, otherParts, rfl⟩
      have first := each 0 item own rfl ownPart
      -- The kinds of the rest start one index later.
      have second :=
        ih (fun index => kinds (index + 1)) (fun index => each (index + 1))
          (fun index found member => Nat.lt_of_succ_lt_succ (within (index + 1) found member))
          (fun before after less => ordered (before + 1) (after + 1) (Nat.succ_lt_succ less))
          otherParts
      have both := first.append second fun earlier later isFirst => by
        rintro ⟨index, isLater⟩
        exact ordered 0 (index + 1) (Nat.succ_pos index) earlier later isFirst isLater
      refine both.congr fun found => ?_
      constructor
      · rintro (isFirst | ⟨index, isLater⟩)
        · exact ⟨0, isFirst⟩
        · exact ⟨index + 1, isLater⟩
      · rintro ⟨index, member⟩
        cases index with
        | zero => exact Or.inl member
        | succ index => exact Or.inr ⟨index, member⟩

end Reports

/-! ## The check, from a parameter up to the document -/

theorem any_isText_iff
    (found : Option Value)
    (expected : Text) :
    found.any (isText expected) = true ↔ found = some (.string expected) := by
  cases found with
  | none => simp
  | some value => cases value <;> simp [isText]

theorem isReservedName_iff (name : Value) :
    isReservedName name = true ↔ ∃ text, name = .string text ∧ text.toLower ∈ reservedNames := by
  cases name <;> simp [isReservedName]

theorem getD_null_eq_string_iff
    (found : Option Value)
    (text : Text) :
    found.getD .null = .string text ↔ found = some (.string text) := by
  cases found <;> simp

theorem reports_parameterWarnings
    (site : Site)
    (index : Nat)
    (parameter : Value) :
    Reports
      (fun found => found.site = site ∧ found.complaint.FitsParameter index parameter)
      (parameterWarnings (site.parameterPlace index) parameter) := by
  refine
    ((Reports.when ⟨site, .cookie index ((parameter.get? "name").getD .null)⟩).append
      (Reports.when ⟨site, .reserved index ((parameter.get? "name").getD .null)⟩) ?_).congr ?_
  · rintro earlier later ⟨-, rfl⟩ ⟨-, rfl⟩
    exact
      Incompatibility.rank_lt_of_complaint rfl
        (by simp [Complaint.rank, List.cons_lt_cons_iff])
  · rintro ⟨other, complaint⟩
    rw [any_isText_iff, isReservedName_iff]
    cases complaint with
    | unnamed => simp [Complaint.FitsParameter]
    | deprecated => simp [Complaint.FitsParameter]
    | cookie place name =>
        simp only [Complaint.FitsParameter, Incompatibility.mk.injEq, Complaint.cookie.injEq,
          reduceCtorEq, and_false, or_false]
        tauto
    | reserved place name =>
        simp only [Complaint.FitsParameter, Incompatibility.mk.injEq, Complaint.reserved.injEq,
          reduceCtorEq, and_false, false_or, getD_null_eq_string_iff]
        constructor
        · rintro ⟨⟨text, named, reserved⟩, rfl, rfl, rfl⟩
          exact ⟨rfl, rfl, by simp [named], text, by simp [named], reserved⟩
        · rintro ⟨rfl, rfl, named, text, rfl, reserved⟩
          exact ⟨⟨text, named, reserved⟩, rfl, rfl, by simp [named]⟩

/-- The warnings about an entry are those about the parameter that it leads to, if any. -/
theorem reports_entryWarnings
    {document entry : Value}
    {site : Site}
    {index : Nat}
    {findings : List Finding}
    (checked :
      entryWarnings (Reference.follow document) (site.parameterPlace index) entry =
        .ok findings) :
    Reports
      (fun found => found.site = site ∧
        ∃ parameter, Reference.Ends document entry parameter ∧ parameter.isObject = true ∧
          found.complaint.FitsParameter index parameter)
      findings := by
  rcases map_eq_ok_iff.mp checked with ⟨place, followed, rfl⟩
  simp only [← Reference.follow_eq_some_iff, followed]
  cases place with
  | none => exact .nil fun found => by simp
  | some target =>
      cases target with
      | object members =>
          exact
            (reports_parameterWarnings site index (.object members)).congr fun found => by
              simp [Value.isObject]
      | _ => exact .nil fun found => by simp [Value.isObject]

/-- The complaints about the parameters that an object declares. -/
def FitsParameters
    (document owner : Value)
    (complaint : Complaint) :
    Prop :=
  ∃ index entries entry parameter,
    owner.get? "parameters" = some (.array entries) ∧ entries[index]? = some entry ∧
      Reference.Ends document entry parameter ∧ parameter.isObject = true ∧
      complaint.FitsParameter index parameter

theorem reports_parametersWarnings
    {document owner : Value}
    {site : Site}
    {findings : List Finding}
    (checked :
      parametersWarnings (Reference.follow document) site.place (owner.get? "parameters") =
        .ok findings) :
    Reports (fun found => found.site = site ∧ FitsParameters document owner found.complaint)
      findings := by
  unfold parametersWarnings at checked
  split at checked
  · next entries declared =>
      refine
        (Reports.gather
          (fun index found => found.site = site ∧
            ∃ entry parameter, entries[index]? = some entry ∧
              Reference.Ends document entry parameter ∧ parameter.isObject = true ∧
              found.complaint.FitsParameter index parameter)
          ?_ ?_ ?_ checked).congr ?_
      · rintro index ⟨entry, position⟩ part within given
        obtain ⟨_, atIndex, rfl, rfl⟩ : ∃ found, entries[index]? = some found ∧
            found = entry ∧ index = position := by
          simpa [List.getElem?_zipIdx] using within
        exact
          (reports_entryWarnings given).congr fun found => by
            simp [atIndex]
      · rintro index found ⟨-, entry, parameter, within, -⟩
        rw [List.length_zipIdx]
        exact (List.getElem?_eq_some_iff.mp within).1
      · rintro before after less earlier later ⟨atSite, _, _, -, -, -, fits⟩
          ⟨laterAtSite, _, _, -, -, -, fitsLater⟩
        exact
          Incompatibility.rank_lt_of_complaint (atSite.trans laterAtSite.symm)
            (Complaint.rank_lt_of_fitsParameter fits fitsLater less)
      · intro found
        simp [FitsParameters, declared]
  · next noList =>
      cases checked
      refine .nil ?_
      rintro found ⟨-, index, entries, entry, parameter, declared, -⟩
      exact noList entries declared

/-- What is wrong with an operation, or with one of the parameters that it declares. -/
def FitsOperationBody
    (document body : Value)
    (complaint : Complaint) :
    Prop :=
  complaint.FitsOperation body ∨ FitsParameters document body complaint

theorem reports_operationItself
    (body : Value)
    (site : Site) :
    Reports (fun found => found.site = site ∧ found.complaint.FitsOperation body)
      ((if body.hasTruthy "summary" || body.hasTruthy "operationId" then []
          else [unnamedWarning site.place]) ++
        if (match body.get? "deprecated" with
              | some (.bool true) => true
              | _ => false) = true then [deprecatedWarning site.place] else []) := by
  rw [← ite_not]
  refine
    ((Reports.when ⟨site, .unnamed⟩).append (Reports.when ⟨site, .deprecated⟩) ?_).congr ?_
  · rintro earlier later ⟨-, rfl⟩ ⟨-, rfl⟩
    exact
      Incompatibility.rank_lt_of_complaint rfl
        (by simp [Complaint.rank, List.cons_lt_cons_iff])
  · rintro ⟨other, complaint⟩
    cases complaint with
    | unnamed => simp [Complaint.FitsOperation, and_comm]
    | deprecated =>
        have marked : ∀ found : Option Value,
            (match found with
              | some (.bool true) => true
              | _ => false) = true ↔ found = some (.bool true) := by
          intro found
          split <;> simp_all
        simp [Complaint.FitsOperation, marked, and_comm]
    | cookie place name => simp [Complaint.FitsOperation]
    | reserved place name => simp [Complaint.FitsOperation]

theorem reports_operationWarnings
    {document body : Value}
    {site : Site}
    {findings : List Finding}
    (checked :
      operationWarnings (Reference.follow document) ⟨site.place, body⟩ = .ok findings) :
    Reports (fun found => found.site = site ∧ FitsOperationBody document body found.complaint)
      findings := by
  rcases map_eq_ok_iff.mp checked with ⟨parameters, parametersChecked, rfl⟩
  have own := reports_operationItself body site
  refine
    (own.append (reports_parametersWarnings parametersChecked) ?_).congr fun found => ?_
  · rintro earlier later ⟨atSite, fits⟩ ⟨laterAtSite, _, _, _, _, -, -, -, -, fitsLater⟩
    exact
      Incompatibility.rank_lt_of_complaint (atSite.trans laterAtSite.symm)
        (Complaint.rank_lt_of_fitsOperation fits fitsLater)
  · simp only [FitsOperationBody]
    tauto

theorem object?_eq_some_iff
    (value body : Value)
    (name : Text) :
    value.object? name = some body ↔ value.get? name = some body ∧ body.isObject = true := by
  unfold Value.object?
  split
  · next members found =>
      rw [found]
      constructor
      · rintro ⟨⟩
        exact ⟨rfl, rfl⟩
      · rintro ⟨same, -⟩
        exact same
  · next noObject =>
      constructor
      · rintro ⟨⟩
      · rintro ⟨found, isObject⟩
        cases body with
        | object members => exact absurd found (noObject members)
        | _ => cases isObject

/-- What is wrong at a path item and at the operations that it declares. -/
def FitsPathItem
    (document pathItem : Value)
    (position : Nat)
    (path : Text)
    (found : Incompatibility) :
    Prop :=
  found.site.position = position ∧ found.site.path = path ∧
    match found.site.method with
    | none => FitsParameters document pathItem found.complaint
    | some method =>
      ∃ body, pathItem.get? methods[method] = some body ∧ body.isObject = true ∧
        FitsOperationBody document body found.complaint

theorem reports_operations
    {document pathItem : Value}
    {path : Text}
    {findings : List Finding}
    (position : Nat)
    (gathered :
      Fallible.gather (operationWarnings (Reference.follow document))
        (operations ("paths." ++ path) pathItem) = .ok findings) :
    Reports
      (fun found => found.site.method ≠ none ∧ FitsPathItem document pathItem position path found)
      findings := by
  rw [operations, gather_filterMap] at gathered
  refine
    (Reports.gather
      (fun index found =>
        ∃ within : index < methods.length,
          found.site = ⟨position, path, some ⟨index, within⟩⟩ ∧
            ∃ body, pathItem.get? methods[index] = some body ∧ body.isObject = true ∧
              FitsOperationBody document body found.complaint)
      ?_ ?_ ?_ gathered).congr ?_
  · intro index method part atIndex given
    rcases List.getElem?_eq_some_iff.mp atIndex with ⟨within, rfl⟩
    cases declared : pathItem.object? methods[index] with
    | none =>
        rw [declared] at given
        cases given
        refine .nil ?_
        rintro found ⟨_, -, body, isBody, isObject, -⟩
        rw [(object?_eq_some_iff _ _ _).mpr ⟨isBody, isObject⟩] at declared
        cases declared
    | some body =>
        rw [declared] at given
        have isBody := (object?_eq_some_iff _ _ _).mp declared
        have reports :
            Reports
              (fun found => found.site = (⟨position, path, some ⟨index, within⟩⟩ : Site) ∧
                FitsOperationBody document body found.complaint)
              part :=
          reports_operationWarnings given
        exact reports.congr fun found => by simp [within, isBody]
  · rintro index found ⟨within, -⟩
    exact within
  · rintro before after less earlier later ⟨_, atSite, -⟩ ⟨_, laterAtSite, -⟩
    apply Incompatibility.rank_lt_of_method
    · rw [atSite, laterAtSite]
    · rw [atSite, laterAtSite]
      exact Nat.succ_lt_succ less
  · rintro ⟨⟨itemPosition, itemPath, method⟩, complaint⟩
    cases method with
    | none => simp
    | some method =>
        simp only [FitsPathItem, ne_eq, reduceCtorEq, not_false_eq_true, true_and]
        constructor
        · rintro ⟨index, within, ⟨⟩, fits⟩
          exact ⟨rfl, rfl, fits⟩
        · rintro ⟨rfl, rfl, fits⟩
          exact ⟨method.val, method.isLt, rfl, fits⟩

theorem reports_pathItemWarnings
    {document pathItem : Value}
    {path : Text}
    {findings : List Finding}
    (position : Nat)
    (checked :
      pathItemWarnings (Reference.follow document) ("paths." ++ path) pathItem =
        .ok findings) :
    Reports (FitsPathItem document pathItem position path) findings := by
  rcases bind_eq_ok_iff.mp checked with ⟨shared, sharedChecked, checked⟩
  rcases bind_eq_ok_iff.mp checked with ⟨own, ownChecked, ⟨⟩⟩
  have declared :
      Reports
        (fun found => found.site = (⟨position, path, none⟩ : Site) ∧
          FitsParameters document pathItem found.complaint)
        shared :=
    reports_parametersWarnings sharedChecked
  have operations := reports_operations position (map_eq_ok_iff.mpr ⟨own, ownChecked, rfl⟩)
  refine (declared.append operations ?_).congr ?_
  · rintro earlier later ⟨atSite, -⟩ ⟨isOperation, samePosition, -⟩
    apply Incompatibility.rank_lt_of_method
    · rw [atSite, samePosition]
    · rw [atSite]
      cases isMethod : later.site.method with
      | none => exact absurd isMethod isOperation
      | some method => exact Nat.succ_pos _
  · rintro ⟨⟨itemPosition, itemPath, method⟩, complaint⟩
    cases method with
    | none => simp [FitsPathItem, and_assoc]
    | some method => simp [FitsPathItem]

theorem Incompatibility.holds_iff_owner
    (document : Value)
    (found : Incompatibility) :
    found.Holds document ↔
      ∃ owner, found.site.Owner document owner ∧
        ((found.site.method ≠ none ∧ found.complaint.FitsOperation owner) ∨
          FitsParameters document owner found.complaint) := by
  constructor
  · rintro (⟨isOperation, owner, owned, fits⟩ |
      ⟨index, parameter, ⟨entry, ⟨owner, entries, owned, declared, within⟩, ends, isObject⟩,
        fits⟩)
    · exact ⟨owner, owned, Or.inl ⟨isOperation, fits⟩⟩
    · exact
        ⟨owner, owned,
          Or.inr ⟨index, entries, entry, parameter, declared, within, ends, isObject, fits⟩⟩
  · rintro ⟨owner, owned, ⟨isOperation, fits⟩ |
      ⟨index, entries, entry, parameter, declared, within, ends, isObject, fits⟩⟩
    · exact Or.inl ⟨isOperation, owner, owned, fits⟩
    · exact
        Or.inr
          ⟨index, parameter, ⟨entry, ⟨owner, entries, owned, declared, within⟩, ends, isObject⟩,
            fits⟩

/-- An incompatibility of a document is one of a path item at some position. -/
theorem Incompatibility.holds_iff_position
    (document : Value)
    (found : Incompatibility) :
    found.Holds document ↔
      ∃ position paths path pathItem,
        document.get? "paths" = some (.object paths) ∧
          paths[position]? = some (path, pathItem) ∧ pathItem.isObject = true ∧
          FitsPathItem document pathItem position path found := by
  rw [holds_iff_owner]
  rcases found with ⟨⟨position, path, method⟩, complaint⟩
  constructor
  · rintro ⟨owner, ⟨paths, pathItem, declared, within, isObject, isOwner, owned⟩, fits⟩
    refine ⟨position, paths, path, pathItem, declared, within, isObject, rfl, rfl, ?_⟩
    cases method with
    | none =>
        cases owned
        exact fits.resolve_left fun isOperation => isOperation.1 rfl
    | some method => exact ⟨owner, owned, isOwner, fits.imp_left And.right⟩
  · rintro ⟨_, paths, _, pathItem, declared, within, isObject, rfl, rfl, fits⟩
    cases method with
    | none =>
        exact
          ⟨pathItem, ⟨paths, pathItem, declared, within, isObject, isObject, rfl⟩, Or.inr fits⟩
    | some method =>
        rcases fits with ⟨body, isBody, bodyIsObject, bodyFits⟩
        exact
          ⟨body, ⟨paths, pathItem, declared, within, isObject, bodyIsObject, isBody⟩,
            bodyFits.imp_left fun complains => ⟨Option.some_ne_none method, complains⟩⟩

theorem result_check (document : Value) :
    (check document).result =
      (warnings document ((pathItems? document).getD [])).map Findings.ofWarnings := by
  unfold check
  cases pathItems? document with
  | none => rfl
  | some items =>
      show Traced.result (Traced.ofExcept (warnings document items) >>= _) = _
      rw [Option.getD_some]
      cases given : warnings document items with
      | error error => exact Traced.result_bind_of_error rfl _
      | ok found => rfl

/-- The members of `paths`, if that is an object. -/
def pathMembers (document : Value) : List (Text × Value) :=
  (document.object? "paths").elim [] Value.members

theorem pathItems?_getD (document : Value) :
    (pathItems? document).getD [] =
      (pathMembers document).filterMap fun member =>
        if member.2.isObject then some ("paths." ++ member.1, member.2) else none := by
  unfold pathItems? pathMembers
  cases document.object? "paths" with
  | none => rfl
  | some paths =>
      show (paths.members.filter _).map _ = _
      rw [← List.filterMap_eq_map, List.filterMap_filter]
      rfl

/-- The path items that the check goes through are the object members of `paths`. -/
theorem warnings_pathItems?
    (document : Value) :
    warnings document ((pathItems? document).getD []) =
      gather
        (fun member : Text × Value =>
          if member.2.isObject then
            pathItemWarnings (Reference.follow document) ("paths." ++ member.1) member.2
          else .ok [])
        (pathMembers document) := by
  show gather (fun item : Text × Value =>
    pathItemWarnings (Reference.follow document) item.1 item.2) _ = _
  rw [pathItems?_getD, gather_filterMap]
  congr 1
  funext member
  cases member.2.isObject <;> rfl

theorem mem_pathMembers_iff
    (document : Value)
    (position : Nat)
    (member : Text × Value) :
    (pathMembers document)[position]? = some member ↔
      ∃ paths, document.get? "paths" = some (.object paths) ∧
        paths[position]? = some member := by
  unfold pathMembers
  constructor
  · intro within
    cases declared : document.object? "paths" with
    | none => rw [declared] at within; cases within
    | some value =>
        rw [declared] at within
        rcases (object?_eq_some_iff _ _ _).mp declared with ⟨found, isObject⟩
        cases value with
        | object paths => exact ⟨paths, found, within⟩
        | _ => cases isObject
  · rintro ⟨paths, found, within⟩
    rw [(object?_eq_some_iff _ _ _).mpr ⟨found, rfl⟩]
    exact within

theorem reports_warnings
    {document : Value}
    {findings : List Finding}
    (checked : warnings document ((pathItems? document).getD []) = .ok findings) :
    Reports (Incompatibility.Holds document) findings := by
  rw [warnings_pathItems?] at checked
  refine
    (Reports.gather
      (fun position found =>
        ∃ paths path pathItem, document.get? "paths" = some (.object paths) ∧
          paths[position]? = some (path, pathItem) ∧ pathItem.isObject = true ∧
          FitsPathItem document pathItem position path found)
      ?_ ?_ ?_ checked).congr fun found => (found.holds_iff_position document).symm
  · rintro position ⟨path, pathItem⟩ part atPosition given
    rcases (mem_pathMembers_iff _ _ _).mp atPosition with ⟨paths, declared, within⟩
    by_cases isObject : pathItem.isObject = true
    · rw [if_pos isObject] at given
      refine (reports_pathItemWarnings position given).congr fun found => ?_
      constructor
      · intro fits
        exact ⟨paths, path, pathItem, declared, within, isObject, fits⟩
      · rintro ⟨otherPaths, otherPath, other, otherDeclared, otherWithin, -, fits⟩
        cases declared.symm.trans otherDeclared
        cases within.symm.trans otherWithin
        exact fits
    · rw [if_neg isObject] at given
      cases given
      refine .nil ?_
      rintro found ⟨otherPaths, otherPath, other, otherDeclared, otherWithin, otherIsObject, -⟩
      cases declared.symm.trans otherDeclared
      cases within.symm.trans otherWithin
      exact isObject otherIsObject
  · rintro position found ⟨paths, path, pathItem, declared, within, -⟩
    have atPosition := (mem_pathMembers_iff _ _ _).mpr ⟨paths, declared, within⟩
    exact (List.getElem?_eq_some_iff.mp atPosition).1
  · rintro before after less earlier later ⟨_, _, _, -, -, -, atPosition, -⟩
      ⟨_, _, _, -, -, -, laterAtPosition, -⟩
    apply Incompatibility.rank_lt_of_position
    rw [atPosition, laterAtPosition]
    exact less

/-- A report of the check is the list of all incompatibilities, each once and in order. -/
theorem check_reports_exactly_the_incompatibilities
    {document : Value}
    {findings : Findings}
    (checked : (check document).result = .ok findings) :
    findings.errors = [] ∧
      ∃ reported : List Incompatibility,
        findings.warnings = reported.map Incompatibility.warning ∧
          reported.Pairwise (fun earlier later => earlier.rank < later.rank) ∧
          ∀ found, found ∈ reported ↔ found.Holds document := by
  rw [result_check] at checked
  rcases map_eq_ok_iff.mp checked with ⟨warned, given, rfl⟩
  exact ⟨rfl, reports_warnings given⟩

/-- A path item that shares a parameter by reference, and a deprecated operation on it. -/
def sharedCookie : Value :=
  .object
    [("paths", .object
        [("/a", .object
            [("parameters", .array [.object [("$ref", .string "#/shared/0")]]),
              ("get", .object [("summary", .string "List"), ("deprecated", .bool true)])])]),
      ("shared", .array
        [.object [("name", .string "Limit"), ("in", .string "cookie")]])]

theorem check_reports_sharedCookie :
    ∃ findings, (check sharedCookie).result = .ok findings ∧
      findings.warnings =
        [cookieWarning "paths./a.parameters.0" (.string "Limit"),
          reservedWarning "paths./a.parameters.0" (.string "Limit"),
          deprecatedWarning "paths./a.get"] ∧
      ∃ reported : List Incompatibility,
        findings.warnings = reported.map Incompatibility.warning ∧
          ∀ found, found ∈ reported ↔ found.Holds sharedCookie := by
  refine ⟨_, rfl, rfl, ?_⟩
  obtain ⟨-, reported, warned, -, exactly⟩ :=
    check_reports_exactly_the_incompatibilities (rfl : (check sharedCookie).result = .ok _)
  exact ⟨reported, warned, exactly⟩

end OpenApiGate.Compatibility

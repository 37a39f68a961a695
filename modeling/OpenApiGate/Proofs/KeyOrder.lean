import OpenApiGate.Proofs.Derailments
import OpenApiGate.Proofs.Rearrangements
import OpenApiGate.RequiredFields

/-!
# The order of keys does not matter

The check for required fields finds the same in all rearrangements of a document.
The compatibility check reports the same warnings, and the order in which it
reports them only depends on the order in which `paths` holds its members.

A message shows the name of a cookie parameter, and it shows a name that is an
array or an object with its members in order.  Documents with such names are left
out for that reason.
-/

namespace OpenApiGate

open Json (Value Rearranged)
open Fallible

/-! ## Required fields -/

theorem RequiredFields.check_rearranged
    {left right : Value}
    (rearranged : Rearranged left right) :
    RequiredFields.check left = RequiredFields.check right := by
  have version : hasVersion left = hasVersion right := rearranged.hasTruthy "openapi"
  have title : hasTitle left = hasTitle right := by
    have alike := rearranged.get? "info"
    unfold hasTitle
    generalize left.get? "info" = found at alike
    generalize right.get? "info" = foundOther at alike
    cases alike with
    | none => rfl
    | some alike => exact alike.hasTruthy "title"
  rw [RequiredFields.check, RequiredFields.check, version, title]

namespace Compatibility

/-! ## Parameters -/

/-- The name of a parameter; without one it counts as null. -/
def nameOf (parameter : Value) : Value :=
  (parameter.get? "name").getD .null

/-- A parameter is no cookie, or its name is neither an array nor an object. -/
def PlainCookie (parameter : Value) : Prop :=
  parameter.get? "in" = some (.string "cookie") → (nameOf parameter).isContainer = false

theorem nameOf_rearranged
    {parameter other : Value}
    (rearranged : Rearranged parameter other) :
    Rearranged (nameOf parameter) (nameOf other) := by
  have alike := rearranged.get? "name"
  unfold nameOf
  generalize parameter.get? "name" = found at alike
  generalize other.get? "name" = foundOther at alike
  cases alike with
  | none => exact .null
  | some alike => exact alike

theorem isReservedName_of_isContainer
    {name : Value}
    (container : name.isContainer = true) :
    isReservedName name = false := by
  cases name with
  | string text => cases container
  | _ => rfl

theorem any_isText_rearranged
    {parameter other : Value}
    (rearranged : Rearranged parameter other)
    (name expected : Text) :
    (parameter.get? name).any (isText expected) = (other.get? name).any (isText expected) := by
  have alike := rearranged.get? name
  generalize parameter.get? name = found at alike
  generalize other.get? name = foundOther at alike
  cases alike with
  | none => rfl
  | some alike => cases alike <;> rfl

theorem parameterWarnings_eq
    (place : Text)
    (parameter : Value) :
    parameterWarnings place parameter =
      (if (parameter.get? "in").any (isText "cookie") then
          [cookieWarning place (nameOf parameter)]
        else []) ++
        if isReservedName (nameOf parameter) then [reservedWarning place (nameOf parameter)]
        else [] :=
  rfl

theorem parameterWarnings_rearranged
    {parameter other : Value}
    (rearranged : Rearranged parameter other)
    (plain : PlainCookie parameter)
    (place : Text) :
    parameterWarnings place parameter = parameterWarnings place other := by
  have isCookie := any_isText_rearranged rearranged "in" "cookie"
  have names := nameOf_rearranged rearranged
  rw [parameterWarnings_eq, parameterWarnings_eq]
  cases container : (nameOf parameter).isContainer with
  | false => rw [isCookie, names.eq_of_not_isContainer container]
  | true =>
      -- Neither of the two shows its name, since it is no cookie and the name is no text.
      have noCookie : (parameter.get? "in").any (isText "cookie") = false := by
        rw [Bool.eq_false_iff, ne_eq, any_isText_iff]
        intro cookie
        rw [plain cookie] at container
        cases container
      have otherContainer : (nameOf other).isContainer = true := names.isContainer ▸ container
      rw [← isCookie, noCookie, isReservedName_of_isContainer container,
        isReservedName_of_isContainer otherContainer]
      rfl

/-! ## Lists of parameters -/

section Documents

variable {left right : Value}

/-- The cookie parameters that an object declares have plain names. -/
def DeclaresPlainCookies (document owner : Value) : Prop :=
  ∀ (index : Nat) (entries : List Value) (entry parameter : Value),
    owner.get? "parameters" = some (.array entries) → entries[index]? = some entry →
      Reference.Ends document entry parameter → parameter.isObject = true →
        PlainCookie parameter

theorem entryWarnings_rearranged
    {entry other : Value}
    (documents : Rearranged left right)
    (rearranged : Rearranged entry other)
    (plain :
      ∀ parameter, Reference.Ends left entry parameter → parameter.isObject = true →
        PlainCookie parameter)
    (place : Text) :
    entryWarnings (Reference.follow left) place entry =
      entryWarnings (Reference.follow right) place other := by
  have alike := Reference.follow_alike documents rearranged
  simp only [← Reference.follow_eq_some_iff] at plain
  unfold entryWarnings
  generalize Reference.follow left entry = found at alike plain
  generalize Reference.follow right other = foundOther at alike
  cases alike with
  | error error => rfl
  | ok alike =>
      cases alike with
      | none => rfl
      | some alike =>
          cases alike with
          | object keys each =>
              have same := parameterWarnings_rearranged (.object keys each) (plain _ rfl rfl) place
              exact congrArg Except.ok same
          | _ => rfl

theorem parametersWarnings_rearranged
    {owner other : Value}
    (documents : Rearranged left right)
    (rearranged : Rearranged owner other)
    (plain : DeclaresPlainCookies left owner)
    (place : Text) :
    parametersWarnings (Reference.follow left) place (owner.get? "parameters") =
      parametersWarnings (Reference.follow right) place (other.get? "parameters") := by
  have alike := rearranged.get? "parameters"
  unfold DeclaresPlainCookies at plain
  generalize owner.get? "parameters" = found at alike plain
  generalize other.get? "parameters" = foundOther at alike
  cases alike with
  | none => rfl
  | some alike =>
      cases alike with
      | @array entries others length each =>
          apply gather_eq_of_map_eq
          apply List.ext_getElem
          · simpa using length
          · intro index within withinOthers
            simp only [List.length_map, List.length_zipIdx] at within withinOthers
            simp only [List.getElem_map, List.getElem_zipIdx, Nat.zero_add]
            have atIndex := List.getElem?_eq_getElem within
            have atOther := List.getElem?_eq_getElem withinOthers
            apply entryWarnings_rearranged documents (each index _ _ atIndex atOther)
            intro parameter
            exact plain index entries _ parameter rfl atIndex
      | _ => rfl

/-! ## Operations and path items -/

theorem operationWarnings_rearranged
    {body other : Value}
    (documents : Rearranged left right)
    (rearranged : Rearranged body other)
    (plain : DeclaresPlainCookies left body)
    (place : Text) :
    operationWarnings (Reference.follow left) ⟨place, body⟩ =
      operationWarnings (Reference.follow right) ⟨place, other⟩ := by
  have parameters := parametersWarnings_rearranged documents rearranged plain place
  have summaries := rearranged.hasTruthy "summary"
  have identifiers := rearranged.hasTruthy "operationId"
  have alike := rearranged.get? "deprecated"
  simp only [operationWarnings, parameters, summaries, identifiers]
  generalize body.get? "deprecated" = found at alike
  generalize other.get? "deprecated" = foundOther at alike
  cases alike with
  | none => rfl
  | some alike => cases alike <;> rfl

/-- What a path item gives, as a sequence of what it declares itself and its operations. -/
theorem pathItemWarnings_eq_bind
    (follow : Value → Except Decimal.IntegerError (Option Value))
    (place : Text)
    (pathItem : Value) :
    pathItemWarnings follow place pathItem =
      (parametersWarnings follow place (pathItem.get? "parameters")).bind fun shared =>
        (gather (operationWarnings follow) (operations place pathItem)).map (shared ++ ·) := by
  unfold pathItemWarnings gather
  cases parametersWarnings follow place (pathItem.get? "parameters") with
  | error error => rfl
  | ok shared =>
      cases (operations place pathItem).mapM (operationWarnings follow) <;> rfl

theorem pathItemWarnings_rearranged
    {pathItem other : Value}
    (documents : Rearranged left right)
    (rearranged : Rearranged pathItem other)
    (plain : DeclaresPlainCookies left pathItem)
    (plainBodies :
      ∀ method ∈ methods, ∀ body, pathItem.get? method = some body → body.isObject = true →
        DeclaresPlainCookies left body)
    (place : Text) :
    pathItemWarnings (Reference.follow left) place pathItem =
      pathItemWarnings (Reference.follow right) place other := by
  have shared := parametersWarnings_rearranged documents rearranged plain place
  have own :
      gather (operationWarnings (Reference.follow left)) (operations place pathItem) =
        gather (operationWarnings (Reference.follow right)) (operations place other) := by
    rw [operations, operations, gather_filterMap, gather_filterMap]
    apply gather_eq_of_map_eq
    apply List.map_congr_left
    intro method isMethod
    have alike := rearranged.object? method
    have bodies := plainBodies method isMethod
    simp only [← and_imp, ← object?_eq_some_iff] at bodies
    generalize pathItem.object? method = found at alike bodies
    generalize other.object? method = foundOther at alike
    cases alike with
    | none => rfl
    | some alike => exact operationWarnings_rearranged documents alike (bodies _ rfl) _
  rw [pathItemWarnings_eq_bind, pathItemWarnings_eq_bind, shared, own]

/-! ## Members in another order -/

/-- Members can be brought into any order of their keys. -/
theorem exists_perm_of_keys
    {first second : Json.Members}
    (keys : (first.map Prod.fst).Perm (second.map Prod.fst)) :
    ∃ ordered : Json.Members,
      ordered.Perm second ∧ first.map Prod.fst = ordered.map Prod.fst := by
  have paired :
      List.Forall₂ (fun key (member : Text × Value) => key = member.1)
        (second.map Prod.fst) second :=
    List.forall₂_map_left_iff.mpr (List.forall₂_same.mpr fun member _ => rfl)
  rcases List.perm_comp_forall₂ keys paired with ⟨ordered, matching, permuted⟩
  refine ⟨ordered, permuted, ?_⟩
  rw [← List.forall₂_eq_eq_eq, List.forall₂_map_right_iff]
  exact matching

/-- Members under the same keys give the same, if each key gives the same. -/
theorem map_eq_of_keys_eq
    {α : Type}
    {first second : Json.Members}
    {give giveOther : Text × Value → α}
    (keys : first.map Prod.fst = second.map Prod.fst)
    (same :
      ∀ name value other,
        (name, value) ∈ first → (name, other) ∈ second →
          give (name, value) = giveOther (name, other)) :
    first.map give = second.map giveOther := by
  induction first generalizing second with
  | nil =>
      cases second with
      | nil => rfl
      | cons member rest => cases keys
  | cons member rest ih =>
      cases second with
      | nil => cases keys
      | cons other others =>
          rcases member with ⟨name, value⟩
          rcases other with ⟨otherName, other⟩
          simp only [List.map_cons, List.cons.injEq] at keys
          rcases keys with ⟨rfl, keys⟩
          have head := same name value other List.mem_cons_self List.mem_cons_self
          have tail :=
            ih keys fun name value other within inside =>
              same name value other (List.mem_cons_of_mem _ within)
                (List.mem_cons_of_mem _ inside)
          rw [List.map_cons, List.map_cons, head, tail]

theorem pathMembers_rearranged
    (rearranged : Rearranged left right) :
    ((pathMembers left).map Prod.fst).Perm ((pathMembers right).map Prod.fst) ∧
      ∀ name value other,
        (name, value) ∈ pathMembers left → (name, other) ∈ pathMembers right →
          Rearranged value other := by
  have alike := rearranged.object? "paths"
  unfold pathMembers
  generalize left.object? "paths" = found at alike
  generalize right.object? "paths" = foundOther at alike
  cases alike with
  | none => exact ⟨.nil, fun name value other within => by cases within⟩
  | some alike =>
      cases alike with
      | object keys each => exact ⟨keys, each⟩
      | _ => exact ⟨.nil, fun name value other within => by cases within⟩

/-! ## Documents -/

/-- The cookie parameters of a document have plain names. -/
def NamesCookiesPlainly (document : Value) : Prop :=
  ∀ (site : Site) (index : Nat) (parameter : Value),
    site.Parameter document index parameter → PlainCookie parameter

theorem declaresPlainCookies_of_owner
    {site : Site}
    {owner : Value}
    (plain : NamesCookiesPlainly left)
    (owned : site.Owner left owner) :
    DeclaresPlainCookies left owner := by
  intro index entries entry parameter declared atIndex ends isObject
  exact
    plain site index parameter
      ⟨entry, ⟨owner, entries, owned, declared, atIndex⟩, ends, isObject⟩

/-- The warnings about a member of `paths`, if it is a path item. -/
def memberWarnings (document : Value) (member : Text × Value) :
    Except Decimal.IntegerError (List Finding) :=
  if member.2.isObject then
    pathItemWarnings (Reference.follow document) ("paths." ++ member.1) member.2
  else .ok []

theorem memberWarnings_rearranged
    {name : Text}
    {value other : Value}
    (documents : Rearranged left right)
    (plain : NamesCookiesPlainly left)
    (within : (name, value) ∈ pathMembers left)
    (rearranged : Rearranged value other) :
    memberWarnings left (name, value) = memberWarnings right (name, other) := by
  unfold memberWarnings
  rw [← rearranged.isObject]
  split
  · next isObject =>
      apply pathItemWarnings_rearranged documents rearranged
      · rcases (exists_owner_iff left value).mpr ⟨(name, value), within, isObject, Or.inl rfl⟩ with
          ⟨site, owned⟩
        exact declaresPlainCookies_of_owner plain owned
      · intro method isMethod body declared bodyIsObject
        rcases
            (exists_owner_iff left body).mpr
              ⟨(name, value), within, isObject,
                Or.inr ⟨method, isMethod, declared, bodyIsObject⟩⟩ with
          ⟨site, owned⟩
        exact declaresPlainCookies_of_owner plain owned
  · rfl

theorem result_check_eq_gather (document : Value) :
    (check document).result =
      (gather id ((pathMembers document).map (memberWarnings document))).map
        Findings.ofWarnings := by
  rw [result_check, warnings_pathItems?, gather_map]
  rfl

/-- The results of rearranged documents, path item by path item, in the order of either. -/
theorem memberWarnings_perm
    (documents : Rearranged left right)
    (plain : NamesCookiesPlainly left) :
    ((pathMembers left).map (memberWarnings left)).Perm
      ((pathMembers right).map (memberWarnings right)) := by
  rcases pathMembers_rearranged documents with ⟨keys, each⟩
  rcases exists_perm_of_keys keys with ⟨ordered, permuted, sameKeys⟩
  have same :
      (pathMembers left).map (memberWarnings left) = ordered.map (memberWarnings right) := by
    apply map_eq_of_keys_eq sameKeys
    intro name value other within inside
    have rearranged := each name value other within (permuted.mem_iff.mp inside)
    exact memberWarnings_rearranged documents plain within rearranged
  rw [same]
  exact permuted.map (memberWarnings right)

/-- The report of one document, given that of the other. -/
theorem exists_report_of_perm
    {findings : Findings}
    (permuted :
      ((pathMembers left).map (memberWarnings left)).Perm
        ((pathMembers right).map (memberWarnings right)))
    (checked : (check left).result = .ok findings) :
    ∃ others, (check right).result = .ok others ∧
      findings.errors = others.errors ∧ findings.warnings.Perm others.warnings := by
  rw [result_check_eq_gather] at checked
  rcases map_eq_ok_iff.mp checked with ⟨warned, gathered, rfl⟩
  rcases gather_perm permuted gathered with ⟨others, gatheredOthers, permutedWarnings⟩
  refine ⟨Findings.ofWarnings others, ?_, rfl, permutedWarnings⟩
  rw [result_check_eq_gather, gatheredOthers]
  rfl

/-- Two documents are reported alike, up to the order of their path items. -/
structure ReportsAlike (left right : Value) : Prop where
  /-- If the check answers for one of them, it answers for the other. -/
  answers :
    (∃ findings, (check left).result = .ok findings) ↔
      ∃ findings, (check right).result = .ok findings
  /-- The warnings are the same up to their order. -/
  sameWarnings :
    ∀ findings others,
      (check left).result = .ok findings → (check right).result = .ok others →
        findings.errors = others.errors ∧ findings.warnings.Perm others.warnings
  /-- They come in the same order, if the path items do. -/
  sameOrder :
    (pathMembers left).map Prod.fst = (pathMembers right).map Prod.fst →
      (check left).result = (check right).result

/--
In rearranged documents the same required fields are missing, and, unless a
message shows members of the document, the same warnings are reported.
-/
theorem key_order_does_not_matter
    (rearranged : Rearranged left right) :
    RequiredFields.check left = RequiredFields.check right ∧
      (NamesCookiesPlainly left → ReportsAlike left right) := by
  refine ⟨RequiredFields.check_rearranged rearranged, fun plain => ?_⟩
  have permuted := memberWarnings_perm rearranged plain
  exact
    { answers := by
        constructor
        · rintro ⟨findings, checked⟩
          rcases exists_report_of_perm permuted checked with ⟨others, checkedOthers, -⟩
          exact ⟨others, checkedOthers⟩
        · rintro ⟨findings, checked⟩
          rcases exists_report_of_perm permuted.symm checked with ⟨others, checkedOthers, -⟩
          exact ⟨others, checkedOthers⟩
      sameWarnings := by
        intro findings others checked checkedOthers
        rcases exists_report_of_perm permuted checked with ⟨same, checkedSame, reported⟩
        cases checkedOthers.symm.trans checkedSame
        exact reported
      sameOrder := by
        intro keys
        rw [result_check_eq_gather, result_check_eq_gather]
        apply congrArg (fun results => (gather id results).map Findings.ofWarnings)
        apply map_eq_of_keys_eq keys
        intro name value other within inside
        have alike := (pathMembers_rearranged rearranged).2 name value other within inside
        exact memberWarnings_rearranged rearranged plain within alike }

end Documents

/-- The member of `paths` with a reference to a cookie parameter. -/
def asking : Text × Value :=
  ("/b", .object [("parameters", .array [.object [("$ref", .string "#/session")]])])

/-- The member of `paths` with an operation that has neither summary nor identifier. -/
def nameless : Text × Value :=
  ("/a", .object [("get", .object [])])

/-- A document with the two members, and the parameter. -/
def sessionDocument : Value :=
  .object
    [("paths", .object [asking, nameless]),
      ("session", .object [("in", .string "cookie"), ("name", .string "sid")])]

/-- The document with its members in another order. -/
def turnedDocument : Value :=
  .object
    [("session", .object [("name", .string "sid"), ("in", .string "cookie")]),
      ("paths", .object [nameless, asking])]

theorem rearranged_turnedDocument :
    Rearranged sessionDocument turnedDocument := by
  have reference :
      Rearranged (.object [("$ref", .string "#/session")])
        (.object [("$ref", .string "#/session")]) :=
    .of_perm (by decide) (.cons ⟨rfl, .string _⟩ .nil) (.refl _)
  have askingValue : Rearranged asking.2 asking.2 :=
    .of_perm (by decide) (.cons ⟨rfl, .of_forall₂ (.cons reference .nil)⟩ .nil) (.refl _)
  have namelessValue : Rearranged nameless.2 nameless.2 :=
    .of_perm (by decide) (.cons ⟨rfl, .of_perm (by decide) .nil (.refl _)⟩ .nil) (.refl _)
  have paths : Rearranged (.object [asking, nameless]) (.object [nameless, asking]) :=
    .of_perm (by decide) (.cons ⟨rfl, askingValue⟩ (.cons ⟨rfl, namelessValue⟩ .nil))
      (.swap _ _ _)
  have cookie :
      Rearranged (.object [("in", .string "cookie"), ("name", .string "sid")])
        (.object [("name", .string "sid"), ("in", .string "cookie")]) :=
    .of_perm (by decide) (.cons ⟨rfl, .string _⟩ (.cons ⟨rfl, .string _⟩ .nil)) (.swap _ _ _)
  refine .of_perm (by decide) ?_ (List.Perm.swap _ _ _)
  exact .cons ⟨rfl, paths⟩ (.cons ⟨rfl, cookie⟩ .nil)

theorem namesCookiesPlainly_sessionDocument :
    NamesCookiesPlainly sessionDocument := by
  rintro site index parameter ⟨entry, ⟨owner, entries, owned, declared, atIndex⟩, ends, -⟩ -
  rcases (exists_owner_iff _ _).mp ⟨site, owned⟩ with ⟨member, within, -, kind⟩
  have isMember : member = asking ∨ member = nameless := by
    simpa using (show member ∈ [asking, nameless] from within)
  have isEntry : entry = .object [("$ref", .string "#/session")] := by
    rcases isMember with rfl | rfl
    · rcases kind with rfl | ⟨method, isMethod, body, -⟩
      · cases declared
        simpa using List.mem_of_getElem? atIndex
      · have noMethod : ∀ method ∈ methods, asking.2.get? method = none := by decide
        rw [noMethod method isMethod] at body
        cases body
    · rcases kind with rfl | ⟨method, isMethod, body, -⟩
      · cases declared
      · have isGet := List.mem_singleton.mp (Reference.mem_of_lookup body)
        cases isGet
        cases declared
  subst isEntry
  have followed := (Reference.follow_eq_some_iff _ _ _).mpr ends
  cases followed
  rfl

theorem turned_document_is_reported_alike :
    Rearranged sessionDocument turnedDocument ∧ NamesCookiesPlainly sessionDocument ∧
      RequiredFields.check sessionDocument = RequiredFields.check turnedDocument ∧
      ReportsAlike sessionDocument turnedDocument := by
  have plain := namesCookiesPlainly_sessionDocument
  have alike := key_order_does_not_matter rearranged_turnedDocument
  exact ⟨rearranged_turnedDocument, plain, alike.1, alike.2 plain⟩

end Compatibility

end OpenApiGate

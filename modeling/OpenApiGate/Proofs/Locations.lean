import OpenApiGate.Proofs.DistinctKeys
import OpenApiGate.Proofs.Incompatibilities
import OpenApiGate.Proofs.Numerals
import OpenApiGate.Proofs.ReadingBack

/-!
# Which declaration a warning is about

A warning names a place: dots join the key of a path item, a method, the word
`parameters` and an index.  The key may hold dots, words and digits of its own.
Nevertheless the place tells the declaration, if no key is another key followed
by a dot and a method.  A place is read from its right end: what stands behind
the last dot is a method or an index, and these look different.

Two warnings about one declaration differ in what they say.
-/

namespace OpenApiGate.Compatibility

open Json (Value)

/-! ## Declarations -/

/-- What a warning is about: an operation, or the entry at an index of a list of parameters. -/
inductive Declaration where
  | operation (site : Site)
  | parameter (site : Site) (index : Nat)

namespace Declaration

/-- The place of a declaration. -/
def place : Declaration → Text
  | .operation site => site.place
  | .parameter site index => site.parameterPlace index

/-- A document holds a declaration. -/
def In (document : Value) : Declaration → Prop
  | .operation site => site.method ≠ none ∧ ∃ owner, site.Owner document owner
  | .parameter site index => ∃ entry, site.Entry document index entry

end Declaration

namespace Incompatibility

/-- The declaration that an incompatibility is about. -/
def declaration (found : Incompatibility) : Declaration :=
  match found.complaint with
  | .unnamed | .deprecated => .operation found.site
  | .cookie index _ | .reserved index _ => .parameter found.site index

theorem path_warning (found : Incompatibility) :
    found.warning.path = found.declaration.place := by
  rcases found with ⟨site, complaint⟩
  cases complaint <;> rfl

theorem Holds.declaration_in
    {document : Value}
    {found : Incompatibility}
    (holds : found.Holds document) :
    found.declaration.In document := by
  rcases found with ⟨site, complaint⟩
  rcases holds with ⟨isOperation, owner, owned, fits⟩ |
    ⟨index, parameter, ⟨entry, listed, -⟩, fits⟩
  · cases complaint with
    | unnamed => exact ⟨isOperation, owner, owned⟩
    | deprecated => exact ⟨isOperation, owner, owned⟩
    | cookie place name => cases fits
    | reserved place name => cases fits
  · cases complaint with
    | unnamed => cases fits
    | deprecated => cases fits
    | cookie place name =>
        cases fits.1
        exact ⟨entry, listed⟩
    | reserved place name =>
        cases fits.1
        exact ⟨entry, listed⟩

end Incompatibility

/-! ## The right end of a place -/

theorem eq_nil_of_split_at_last
    {α : Type}
    {mark : α}
    {between after rest : List α}
    (last : mark ∉ after)
    (split : mark :: after = between ++ mark :: rest) :
    between = [] ∧ after = rest := by
  cases between with
  | nil =>
      cases split
      exact ⟨rfl, rfl⟩
  | cons first more =>
      rw [List.cons_append, List.cons.injEq] at split
      rw [split.2] at last
      exact absurd (List.mem_append_right more List.mem_cons_self) last

/-- A list is split in one way only at a mark that does not occur behind it. -/
theorem split_at_last_unique
    {α : Type}
    {mark : α}
    {before after otherBefore otherAfter : List α}
    (last : mark ∉ after)
    (otherLast : mark ∉ otherAfter)
    (same : before ++ mark :: after = otherBefore ++ mark :: otherAfter) :
    before = otherBefore ∧ after = otherAfter := by
  rcases List.append_eq_append_iff.mp same with ⟨between, rfl, split⟩ | ⟨between, rfl, split⟩
  · rcases eq_nil_of_split_at_last last split with ⟨rfl, rest⟩
    exact ⟨(List.append_nil before).symm, rest⟩
  · rcases eq_nil_of_split_at_last otherLast split with ⟨rfl, rest⟩
    exact ⟨List.append_nil otherBefore, rest.symm⟩

theorem dot_not_mem_methods : ∀ method ∈ methods, CodePoint.ofChar '.' ∉ method := by
  decide

theorem dot_not_mem_ofNat (index : Nat) : CodePoint.ofChar '.' ∉ Text.ofNat index := by
  intro within
  cases Decimal.isDigit_of_mem_ofNat within

/-- A method is no index. -/
theorem ofNat_not_mem_methods (index : Nat) : Text.ofNat index ∉ methods := by
  have letters : ∀ method ∈ methods, ∃ point ∈ method, point.isDigit = false := by decide
  intro isMethod
  rcases letters _ isMethod with ⟨point, within, noDigit⟩
  rw [Decimal.isDigit_of_mem_ofNat within] at noDigit
  cases noDigit

theorem nodup_methods : methods.Nodup := by
  decide

theorem Site.place_of_no_method
    {site : Site}
    (noMethod : site.method = none) :
    site.place = "paths." ++ site.path := by
  unfold place
  rw [noMethod]

theorem Site.place_of_method
    {site : Site}
    {method : Fin methods.length}
    (isMethod : site.method = some method) :
    site.place = "paths." ++ site.path ++ CodePoint.ofChar '.' :: methods.get method := by
  unfold place
  rw [isMethod]
  exact List.append_assoc _ (Text.ofString ".") _

theorem Site.parameterPlace_eq
    (site : Site)
    (index : Nat) :
    site.parameterPlace index =
      site.place ++ ".parameters" ++ CodePoint.ofChar '.' :: Text.ofNat index := by
  simp [parameterPlace, Text.ofString]

/-! ## Places tell declarations -/

/-- No key of `paths` is a key of `paths` followed by a dot and a method. -/
def SeparatePaths (document : Value) : Prop :=
  ∀ path ∈ (pathMembers document).map Prod.fst,
    ∀ other ∈ (pathMembers document).map Prod.fst,
      ∀ method ∈ methods, path ≠ other ++ "." ++ method

section Places

variable {document : Value}

theorem Site.Owner.path_at
    {site : Site}
    {owner : Value}
    (owned : site.Owner document owner) :
    ((pathMembers document).map Prod.fst)[site.position]? = some site.path := by
  rcases owned with ⟨paths, pathItem, declared, within, -⟩
  have atPosition := (mem_pathMembers_iff _ _ _).mpr ⟨paths, declared, within⟩
  rw [List.getElem?_map, atPosition]
  rfl

theorem nodup_pathMembers
    (distinct : document.DistinctKeys) :
    ((pathMembers document).map Prod.fst).Nodup := by
  unfold pathMembers
  cases declared : document.object? "paths" with
  | none => exact List.nodup_nil
  | some paths =>
      rcases (object?_eq_some_iff _ _ _).mp declared with ⟨found, isObject⟩
      cases paths with
      | object members => exact (distinct.get? found).nodup_keys
      | _ => cases isObject

/-- The site of an object is told by its path and its method. -/
theorem Site.Owner.unique
    {first second : Site}
    {owner other : Value}
    (distinct : document.DistinctKeys)
    (owned : first.Owner document owner)
    (otherOwned : second.Owner document other)
    (samePath : first.path = second.path)
    (sameMethod : first.method = second.method) :
    first = second := by
  have position : first.position = second.position := by
    have within := (List.getElem?_eq_some_iff.mp owned.path_at).1
    apply (List.getElem?_inj within (nodup_pathMembers distinct)).mp
    rw [owned.path_at, otherOwned.path_at, samePath]
  cases first
  cases second
  cases position
  cases samePath
  cases sameMethod
  rfl

/-- The place of a path item is not the place of an operation. -/
theorem SeparatePaths.place_ne
    {first second : Site}
    {owner other : Value}
    (separate : SeparatePaths document)
    (owned : first.Owner document owner)
    (otherOwned : second.Owner document other)
    (noMethod : first.method = none)
    {method : Fin methods.length}
    (isMethod : second.method = some method) :
    first.place ≠ second.place := by
  intro same
  rw [Site.place_of_no_method noMethod, Site.place_of_method isMethod, List.append_assoc,
    List.append_cancel_left_eq] at same
  refine
    separate first.path (List.mem_of_getElem? owned.path_at) second.path
      (List.mem_of_getElem? otherOwned.path_at) (methods.get method) (List.get_mem _ _) ?_
  rw [same]
  exact (List.append_assoc _ (Text.ofString ".") _).symm

theorem SeparatePaths.site_eq_of_place_eq
    {first second : Site}
    {owner other : Value}
    (separate : SeparatePaths document)
    (distinct : document.DistinctKeys)
    (owned : first.Owner document owner)
    (otherOwned : second.Owner document other)
    (same : first.place = second.place) :
    first = second := by
  cases isMethod : first.method with
  | none =>
      cases isOther : second.method with
      | none =>
          rw [Site.place_of_no_method isMethod, Site.place_of_no_method isOther] at same
          exact
            owned.unique distinct otherOwned (List.append_cancel_left same)
              (isMethod.trans isOther.symm)
      | some method => exact absurd same (separate.place_ne owned otherOwned isMethod isOther)
  | some method =>
      cases isOther : second.method with
      | none => exact absurd same.symm (separate.place_ne otherOwned owned isOther isMethod)
      | some otherMethod =>
          rw [Site.place_of_method isMethod, Site.place_of_method isOther] at same
          rcases split_at_last_unique (dot_not_mem_methods _ (List.get_mem _ _))
            (dot_not_mem_methods _ (List.get_mem _ _)) same with ⟨paths, names⟩
          have sameMethod : first.method = second.method := by
            rw [isMethod, isOther, List.nodup_iff_injective_get.mp nodup_methods names]
          exact owned.unique distinct otherOwned (List.append_cancel_left paths) sameMethod

/-- A path item under a key that runs into another one shares the place of an operation. -/
example : (Site.mk 0 "/a" (some ⟨0, by decide⟩)).place = (Site.mk 1 "/a.get" none).place := by
  decide

/-- An operation is never at the place of a parameter. -/
theorem Site.place_ne_parameterPlace
    {first second : Site}
    (isOperation : first.method ≠ none)
    (index : Nat) :
    first.place ≠ second.parameterPlace index := by
  intro same
  rcases Option.ne_none_iff_exists'.mp isOperation with ⟨method, isMethod⟩
  rw [Site.place_of_method isMethod, Site.parameterPlace_eq] at same
  have isMember : methods.get method ∈ methods := List.get_mem _ _
  have names :=
    (split_at_last_unique (dot_not_mem_methods _ isMember) (dot_not_mem_ofNat index) same).2
  rw [names] at isMember
  exact ofNat_not_mem_methods index isMember

/-- The declarations of a document have places of their own. -/
theorem SeparatePaths.declaration_eq_of_place_eq
    {first second : Declaration}
    (separate : SeparatePaths document)
    (distinct : document.DistinctKeys)
    (within : first.In document)
    (inside : second.In document)
    (same : first.place = second.place) :
    first = second := by
  cases first with
  | operation site =>
      rcases within with ⟨isOperation, owner, owned⟩
      cases second with
      | operation otherSite =>
          rcases inside with ⟨-, other, otherOwned⟩
          rw [separate.site_eq_of_place_eq distinct owned otherOwned same]
      | parameter otherSite index =>
          exact absurd same (Site.place_ne_parameterPlace isOperation index)
  | parameter site index =>
      rcases within with ⟨entry, owner, entries, owned, -⟩
      cases second with
      | operation otherSite =>
          exact absurd same.symm (Site.place_ne_parameterPlace inside.1 index)
      | parameter otherSite otherIndex =>
          rcases inside with ⟨otherEntry, other, otherEntries, otherOwned, -⟩
          change site.parameterPlace index = otherSite.parameterPlace otherIndex at same
          rw [Site.parameterPlace_eq, Site.parameterPlace_eq] at same
          rcases split_at_last_unique (dot_not_mem_ofNat index) (dot_not_mem_ofNat otherIndex)
            same with ⟨places, indices⟩
          cases Decimal.ofNat_injective indices
          rw [separate.site_eq_of_place_eq distinct owned otherOwned
            (List.append_cancel_right places)]

end Places

/-! ## Warnings about one declaration -/

/-- The letter that the message of a complaint starts with. -/
def Complaint.initial : Complaint → CodePoint
  | .unnamed => 'O'
  | .deprecated => 'D'
  | .cookie _ _ => 'C'
  | .reserved _ _ => 'P'

namespace Incompatibility

theorem head?_message_warning (found : Incompatibility) :
    found.warning.message.head? = some found.complaint.initial := by
  rcases found with ⟨site, complaint⟩
  cases complaint <;> rfl

/-- A declaration has one complaint of a kind only. -/
theorem rank_eq_of_initial_eq
    {first second : Incompatibility}
    (sameDeclaration : first.declaration = second.declaration)
    (sameInitial : first.complaint.initial = second.complaint.initial) :
    first.rank = second.rank := by
  have operations : CodePoint.ofChar 'O' ≠ CodePoint.ofChar 'D' := by decide
  have parameters : CodePoint.ofChar 'C' ≠ CodePoint.ofChar 'P' := by decide
  rcases first with ⟨site, complaint⟩
  rcases second with ⟨otherSite, other⟩
  cases complaint with
  | unnamed =>
      cases other with
      | unnamed => cases sameDeclaration; rfl
      | deprecated => exact absurd sameInitial operations
      | cookie | reserved => cases sameDeclaration
  | deprecated =>
      cases other with
      | unnamed => exact absurd sameInitial.symm operations
      | deprecated => cases sameDeclaration; rfl
      | cookie | reserved => cases sameDeclaration
  | cookie index name =>
      cases other with
      | unnamed | deprecated => cases sameDeclaration
      | cookie => cases sameDeclaration; rfl
      | reserved => exact absurd sameInitial parameters
  | reserved index name =>
      cases other with
      | unnamed | deprecated => cases sameDeclaration
      | cookie => exact absurd sameInitial.symm parameters
      | reserved => cases sameDeclaration; rfl

theorem rank_eq_of_warning_eq
    {first second : Incompatibility}
    (sameDeclaration : first.declaration = second.declaration)
    (sameWarning : first.warning = second.warning) :
    first.rank = second.rank := by
  apply rank_eq_of_initial_eq sameDeclaration
  have heads := first.head?_message_warning
  rw [sameWarning, second.head?_message_warning] at heads
  exact (Option.some.inj heads).symm

end Incompatibility

/--
In a decoded document whose path keys do not run into each other, warnings are at
the same place exactly if they are about the same declaration, and no warning
comes twice.
-/
theorem locations_are_unambiguous
    {text : Text}
    {document : Value}
    {findings : Findings}
    (decoded : Json.decode text = .ok document)
    (separate : SeparatePaths document)
    (checked : (check document).result = .ok findings) :
    findings.warnings.Nodup ∧
      ∃ reported : List Incompatibility,
        findings.warnings = reported.map Incompatibility.warning ∧
          (∀ found, found ∈ reported ↔ found.Holds document) ∧
          ∀ first ∈ reported, ∀ second ∈ reported,
            first.warning.path = second.warning.path ↔
              first.declaration = second.declaration := by
  have distinct := Json.distinctKeys_of_decode decoded
  rw [result_check] at checked
  rcases Fallible.map_eq_ok_iff.mp checked with ⟨warned, given, rfl⟩
  rcases reports_warnings given with ⟨reported, rfl, ordered, exactly⟩
  have unambiguous :
      ∀ first ∈ reported, ∀ second ∈ reported,
        first.warning.path = second.warning.path ↔
          first.declaration = second.declaration := by
    intro first within second inside
    rw [Incompatibility.path_warning, Incompatibility.path_warning]
    constructor
    · intro same
      have holds := (exactly first).mp within
      have otherHolds := (exactly second).mp inside
      exact
        separate.declaration_eq_of_place_eq distinct holds.declaration_in
          otherHolds.declaration_in same
    · intro same
      rw [same]
  refine ⟨?_, reported, rfl, exactly, unambiguous⟩
  -- The report is in strict order, and equal warnings would have the same rank.
  apply List.pairwise_map.mpr
  refine ordered.imp_of_mem ?_
  intro first second within inside less sameWarning
  have sameDeclaration :=
    (unambiguous first within second inside).mp (congrArg Finding.path sameWarning)
  rw [Incompatibility.rank_eq_of_warning_eq sameDeclaration sameWarning] at less
  exact List.lt_irrefl _ less

/-- A cookie parameter. -/
def sidCookie : Value :=
  .object [("name", .string "sid"), ("in", .string "cookie")]

/-- An operation that takes the cookie. -/
def sidOperation : Value :=
  .object [("summary", .string "List"), ("parameters", .array [sidCookie])]

/-- A nameless operation at a path that imitates the place of the cookie. -/
def imitatingDocument : Value :=
  .object
    [("paths", .object
        [("/a", .object [("get", sidOperation)]),
          ("/a.get.parameters.0", .object [("get", .object [])])])]

theorem legible_imitatingDocument : imitatingDocument.Legible Json.nestingLimit := by
  have cookie : sidCookie.Legible 985 :=
    .object (List.forall_mem_cons.mpr ⟨.string _ _, List.forall_mem_singleton.mpr (.string _ _)⟩)
      (by decide)
  have parameters := Value.Legible.array (List.forall_mem_singleton.mpr cookie)
  have operation : sidOperation.Legible 987 :=
    .object (List.forall_mem_cons.mpr ⟨.string _ _, List.forall_mem_singleton.mpr parameters⟩)
      (by decide)
  have nameless : (Value.object []).Legible 987 :=
    .object (List.forall_mem_nil _) (by decide)
  refine .object (List.forall_mem_singleton.mpr (.object ?_ (by decide))) (by decide)
  refine List.forall_mem_cons.mpr ⟨?_, List.forall_mem_singleton.mpr ?_⟩
  · exact .object (List.forall_mem_singleton.mpr operation) (by decide)
  · exact .object (List.forall_mem_singleton.mpr nameless) (by decide)

theorem imitated_location_is_unambiguous :
    ∃ findings,
      Json.decode (imitatingDocument.written 0) = .ok imitatingDocument ∧
        SeparatePaths imitatingDocument ∧
        (check imitatingDocument).result = .ok findings ∧
        findings.warnings =
          [cookieWarning "paths./a.get.parameters.0" (.string "sid"),
            unnamedWarning "paths./a.get.parameters.0.get"] ∧
        findings.warnings.Nodup := by
  have decoded : Json.decode (imitatingDocument.written 0) = .ok imitatingDocument :=
    Json.decode_written legible_imitatingDocument
  have separate : SeparatePaths imitatingDocument := by
    show ∀ path ∈ (["/a", "/a.get.parameters.0"] : List Text),
      ∀ other ∈ (["/a", "/a.get.parameters.0"] : List Text),
        ∀ method ∈ methods, path ≠ other ++ "." ++ method
    decide
  obtain ⟨distinct, -⟩ := locations_are_unambiguous decoded separate rfl
  exact ⟨_, decoded, separate, rfl, rfl, distinct⟩

end OpenApiGate.Compatibility

import Mathlib.Data.List.Perm.Subperm
import Mathlib.Logic.Relation
import OpenApiGate.Proofs.Places

/-!
# Chains of references

A chain goes from a reference to the value that it names, as long as that value
is a reference again.  Two things stop `follow` besides the end of the chain:
it gives up at a reference that it has followed before, and after a number of
rounds that only depends on the document.  Neither is ever felt.  A chain that
comes back to a reference has no end, and the number of rounds exceeds the
number of different references that a chain can meet.  So `follow` finds the end
of every chain that has one, and it ends in an error exactly for the chains that
meet a reference which misleads.
-/

namespace OpenApiGate.Reference

open Json (Value)
open Decimal (IntegerError)

/-! ## The references inside a value -/

/-- The text of a string. -/
def textOf : Value → List Text
  | .string text => [text]
  | _ => []

mutual

/-- The texts of all references inside a value. -/
def referenceTexts : Value → List Text
  | .array items => referenceTextsOfItems items
  | .object members => referenceTextsOfMembers members
  | _ => []

/-- The texts of all references inside the items of an array. -/
def referenceTextsOfItems : List Value → List Text
  | [] => []
  | item :: rest => referenceTexts item ++ referenceTextsOfItems rest

/-- The texts of all references inside the members of an object. -/
def referenceTextsOfMembers : List (Text × Value) → List Text
  | [] => []
  | (name, value) :: rest =>
    (if name = key then textOf value else []) ++ referenceTexts value ++
      referenceTextsOfMembers rest

end

theorem length_textOf_le (value : Value) : (textOf value).length ≤ 1 := by
  cases value <;> simp [textOf]

mutual

/-- There are no more texts of references than there are references. -/
theorem length_referenceTexts_le :
    ∀ value : Value, (referenceTexts value).length ≤ count value
  | .array items => by
      simpa [referenceTexts, count] using length_referenceTextsOfItems_le items
  | .object members => by
      simpa [referenceTexts, count] using length_referenceTextsOfMembers_le members
  | .null | .bool _ | .integer _ | .double _ | .string _ => by simp [referenceTexts]

theorem length_referenceTextsOfItems_le :
    ∀ items : List Value, (referenceTextsOfItems items).length ≤ countItems items
  | [] => by simp [referenceTextsOfItems]
  | item :: rest => by
      have head := length_referenceTexts_le item
      have tail := length_referenceTextsOfItems_le rest
      simp only [referenceTextsOfItems, countItems, List.length_append]
      omega

theorem length_referenceTextsOfMembers_le :
    ∀ members : List (Text × Value),
      (referenceTextsOfMembers members).length ≤ countMembers members
  | [] => by simp [referenceTextsOfMembers]
  | (name, value) :: rest => by
      have own := length_textOf_le value
      have head := length_referenceTexts_le value
      have tail := length_referenceTextsOfMembers_le rest
      simp only [referenceTextsOfMembers, countMembers, List.length_append]
      split
      · omega
      · simp only [List.length_nil]
        omega

end

theorem referenceTexts_subset_of_mem_items
    {items : List Value}
    {item : Value}
    (within : item ∈ items) :
    referenceTexts item ⊆ referenceTextsOfItems items := by
  induction items with
  | nil => cases within
  | cons first rest ih =>
      rcases List.mem_cons.mp within with rfl | later
      · exact List.subset_append_left _ _
      · exact List.Subset.trans (ih later) (List.subset_append_right _ _)

theorem referenceTexts_subset_of_mem_members
    {members : List (Text × Value)}
    {name : Text}
    {value : Value}
    (within : (name, value) ∈ members) :
    (if name = key then textOf value else []) ++ referenceTexts value ⊆
      referenceTextsOfMembers members := by
  induction members with
  | nil => cases within
  | cons first rest ih =>
      rcases List.mem_cons.mp within with rfl | later
      · exact List.subset_append_left _ _
      · exact List.Subset.trans (ih later) (List.subset_append_right _ _)

theorem mem_of_lookup
    {members : Json.Members}
    {name : Text}
    {value : Value}
    (found : members.lookup name = some value) :
    (name, value) ∈ members := by
  rcases List.lookup_eq_some_iff.mp found with ⟨front, rest, rfl, -⟩
  exact List.mem_append_right front List.mem_cons_self

/-- A reference is one of the references inside itself. -/
theorem mem_referenceTexts_of_get?
    {value : Value}
    {text : Text}
    (isReference : value.get? key = some (.string text)) :
    text ∈ referenceTexts value := by
  cases value with
  | object members =>
      apply referenceTexts_subset_of_mem_members (mem_of_lookup isReference)
      simp [textOf]
  | _ => simp [Value.get?, Value.members] at isReference

/-- A place inside a value holds no references that the value does not hold. -/
theorem Locates.referenceTexts_subset
    {value target : Value}
    {keys : List Text}
    (located : Locates value keys target) :
    referenceTexts target ⊆ referenceTexts value := by
  induction located with
  | here => exact List.Subset.refl _
  | member found _ ih =>
      refine List.Subset.trans ih fun text member => ?_
      exact
        referenceTexts_subset_of_mem_members (mem_of_lookup found)
          (List.mem_append_right _ member)
  | item _ _ found _ ih =>
      exact List.Subset.trans ih (referenceTexts_subset_of_mem_items (List.mem_of_getElem? found))

/-! ## Links and ends -/

/-- What `follow` and its parts give. -/
abbrev Outcome := Except IntegerError (Option Value)

/-- A value is a reference to the next value. -/
def Link (document value next : Value) : Prop :=
  ∃ text, value.get? key = some (.string text) ∧ Denotes document text next

/-- A chain leads from a value to another one. -/
abbrev Leads (document : Value) : Value → Value → Prop :=
  Relation.ReflTransGen (Link document)

/-- A chain ends at a value that is no reference. -/
def Ends (document value target : Value) : Prop :=
  Leads document value target ∧ target.get? key = none

/-- A chain meets a reference that misleads. -/
def Derails (document value : Value) : Prop :=
  ∃ last text,
    Leads document value last ∧ last.get? key = some (.string text) ∧ Misleads document text

/-- What a chain comes to at a value from which it leads no further. -/
def halt? (document value : Value) : Option Outcome :=
  match value.get? key with
  | none => some (.ok (some value))
  | some (.string text) =>
    match resolve document (.string text) with
    | .error error => some (.error error)
    | .ok none => some (.ok none)
    | .ok (some _) => none
  | some _ => some (.ok none)

/-- A chain leads from a value in some steps to one where it comes to an outcome. -/
def HaltsIn (document : Value) : Nat → Value → Outcome → Prop
  | 0, value, outcome => halt? document value = some outcome
  | steps + 1, value, outcome =>
    ∃ next, Link document value next ∧ HaltsIn document steps next outcome

theorem Link.unique
    {document value next other : Value}
    (link : Link document value next)
    (second : Link document value other) :
    next = other := by
  rcases link with ⟨text, isReference, denotes⟩
  rcases second with ⟨same, isSame, denotesOther⟩
  rw [isReference] at isSame
  cases isSame
  rw [← resolve_eq_some_iff] at denotes denotesOther
  rw [denotes] at denotesOther
  cases denotesOther
  rfl

theorem Link.halt?_eq_none
    {document value next : Value}
    (link : Link document value next) :
    halt? document value = none := by
  rcases link with ⟨text, isReference, denotes⟩
  simp [halt?, isReference, (resolve_eq_some_iff document next text).mpr denotes]

/-- A chain halts after one number of steps only. -/
theorem HaltsIn.steps_unique
    {document value : Value}
    {first second : Nat}
    {outcome other : Outcome}
    (halts : HaltsIn document first value outcome)
    (again : HaltsIn document second value other) :
    first = second := by
  induction first generalizing value second with
  | zero =>
      cases second with
      | zero => rfl
      | succ second =>
          rcases again with ⟨next, link, -⟩
          rw [HaltsIn, link.halt?_eq_none] at halts
          cases halts
  | succ first ih =>
      rcases halts with ⟨next, link, tail⟩
      cases second with
      | zero =>
          rw [HaltsIn, link.halt?_eq_none] at again
          cases again
      | succ second =>
          rcases again with ⟨same, sameLink, sameTail⟩
          cases link.unique sameLink
          exact congrArg Nat.succ (ih tail sameTail)

theorem exists_haltsIn_iff
    (document value : Value)
    (outcome : Outcome) :
    (∃ steps, HaltsIn document steps value outcome) ↔
      ∃ last, Leads document value last ∧ halt? document last = some outcome := by
  constructor
  · rintro ⟨steps, halts⟩
    induction steps generalizing value with
    | zero => exact ⟨value, .refl, halts⟩
    | succ steps ih =>
        rcases halts with ⟨next, link, tail⟩
        rcases ih next tail with ⟨last, leads, halted⟩
        exact ⟨last, .head link leads, halted⟩
  · rintro ⟨last, leads, halted⟩
    induction leads using Relation.ReflTransGen.head_induction_on with
    | refl => exact ⟨0, halted⟩
    | head link _ ih =>
        rcases ih with ⟨steps, tail⟩
        exact ⟨steps + 1, _, link, tail⟩

theorem ends_iff
    (document value target : Value) :
    Ends document value target ↔
      ∃ steps, HaltsIn document steps value (.ok (some target)) := by
  rw [exists_haltsIn_iff]
  constructor
  · rintro ⟨leads, plain⟩
    exact ⟨target, leads, by simp [halt?, plain]⟩
  · rintro ⟨last, leads, halted⟩
    have atTarget : last = target ∧ last.get? key = none := by
      unfold halt? at halted
      split at halted
      · next plain => exact ⟨by simpa using halted, plain⟩
      · split at halted <;> simp at halted
      · simp at halted
    rcases atTarget with ⟨rfl, plain⟩
    exact ⟨leads, plain⟩

theorem derails_iff
    (document value : Value) :
    Derails document value ↔
      ∃ error steps, HaltsIn document steps value (.error error) := by
  simp only [exists_haltsIn_iff]
  constructor
  · rintro ⟨last, text, leads, isReference, misleads⟩
    rcases (resolve_eq_error_iff document text).mpr misleads with ⟨error, failure⟩
    exact ⟨error, last, leads, by simp [halt?, isReference, failure]⟩
  · rintro ⟨error, last, leads, halted⟩
    unfold halt? at halted
    split at halted
    · simp at halted
    · next text isReference =>
        split at halted
        · next found failure =>
            exact
              ⟨last, text, leads, isReference,
                (resolve_eq_error_iff document text).mp ⟨found, failure⟩⟩
        · simp at halted
        · simp at halted
    · simp at halted

/-! ## Following a chain -/

theorem followFrom_of_halt?
    {document value : Value}
    {seen : List Text}
    {outcome : Outcome}
    (halted : halt? document value = some outcome)
    (unseen : ∀ text ∈ seen, value.get? key ≠ some (.string text))
    (more : Nat) :
    followFrom document (more + 1) seen value = outcome := by
  rw [followFrom]
  unfold halt? at halted
  split at halted
  · next plain => simpa [plain] using halted
  · next text isReference =>
      have fresh : text ∉ seen := fun member => unseen text member isReference
      split at halted
      · next failure => simpa [isReference, fresh, failure] using halted
      · next lost => simpa [isReference, fresh, lost] using halted
      · cases halted
  · next other notText isReference =>
      simpa [isReference] using halted

theorem followFrom_of_link
    {document value next : Value}
    {seen : List Text}
    {text : Text}
    (isReference : value.get? key = some (.string text))
    (denotes : Denotes document text next)
    (fresh : text ∉ seen)
    (more : Nat) :
    followFrom document (more + 1) seen value =
      followFrom document more (text :: seen) next := by
  have resolved := (resolve_eq_some_iff document next text).mpr denotes
  simp [followFrom, isReference, resolved, fresh]

/-- Apart from `none`, whatever `follow` gives is what the chain comes to. -/
theorem haltsIn_of_followFrom
    {document value : Value}
    {seen : List Text}
    {fuel : Nat}
    {outcome : Outcome}
    (followed : followFrom document fuel seen value = outcome)
    (telling : outcome ≠ .ok none) :
    ∃ steps, HaltsIn document steps value outcome := by
  induction fuel generalizing seen value with
  | zero => exact absurd followed.symm telling
  | succ more ih =>
      rw [followFrom] at followed
      split at followed
      · next plain => exact ⟨0, by simpa [HaltsIn, halt?, plain] using followed⟩
      · next text isReference =>
          split at followed
          · exact absurd followed.symm telling
          · split at followed
            · next failure =>
                exact ⟨0, by simpa [HaltsIn, halt?, isReference, failure] using followed⟩
            · exact absurd followed.symm telling
            · next resolved =>
                rcases ih followed with ⟨steps, halts⟩
                exact
                  ⟨steps + 1, _,
                    ⟨text, isReference, (resolve_eq_some_iff _ _ _).mp resolved⟩, halts⟩
      · exact absurd followed.symm telling

/-- The references followed so far lead to values that are at least so many steps from the end. -/
def Behind
    (document : Value)
    (steps : Nat)
    (outcome : Outcome)
    (seen : List Text) :
    Prop :=
  ∀ text ∈ seen, ∃ next more,
    Denotes document text next ∧ steps ≤ more ∧ HaltsIn document more next outcome

/-- With enough rounds, what a chain comes to is found. -/
theorem followFrom_of_haltsIn
    {document value : Value}
    {seen : List Text}
    {steps fuel : Nat}
    {outcome : Outcome}
    (halts : HaltsIn document steps value outcome)
    (enough : steps < fuel)
    (behind : Behind document steps outcome seen) :
    followFrom document fuel seen value = outcome := by
  induction steps generalizing seen fuel value with
  | zero =>
      rcases Nat.exists_eq_add_of_lt enough with ⟨more, rfl⟩
      rw [Nat.zero_add]
      refine followFrom_of_halt? halts (fun text member isReference => ?_) more
      rcases behind text member with ⟨next, _, denotes, -, -⟩
      have going := Link.halt?_eq_none ⟨text, isReference, denotes⟩
      rw [HaltsIn, going] at halts
      cases halts
  | succ steps ih =>
      rcases Nat.exists_eq_succ_of_ne_zero (Nat.ne_of_gt (Nat.zero_lt_of_lt enough)) with
        ⟨more, rfl⟩
      rcases halts with ⟨next, ⟨text, isReference, denotes⟩, tail⟩
      -- A reference met before would be farther from the end than it is now.
      have fresh : text ∉ seen := by
        intro member
        rcases behind text member with ⟨other, far, denotesOther, farther, haltsOther⟩
        cases Link.unique ⟨text, isReference, denotes⟩ ⟨text, isReference, denotesOther⟩
        have same := tail.steps_unique haltsOther
        omega
      rw [followFrom_of_link isReference denotes fresh]
      refine ih tail (Nat.lt_of_succ_lt_succ enough) fun earlier member => ?_
      rcases List.mem_cons.mp member with rfl | before
      · exact ⟨next, steps, denotes, Nat.le_refl _, tail⟩
      · rcases behind earlier before with ⟨other, far, denotesOther, farther, haltsOther⟩
        exact ⟨other, far, denotesOther, Nat.le_of_succ_le farther, haltsOther⟩

/--
The references followed so far are different from each other, and all that a chain
from a value can meet are known.
-/
structure Covers
    (document value : Value)
    (seen known : List Text) :
    Prop where
  distinct : seen.Nodup
  within : seen ⊆ known
  own : ∀ text, value.get? key = some (.string text) → text ∈ known
  inside : referenceTexts document ⊆ known

theorem Covers.length_le
    {document value : Value}
    {seen known : List Text}
    (covers : Covers document value seen known) :
    seen.length ≤ known.length :=
  (covers.distinct.subperm covers.within).length_le

/-- Following one more reference stays within the known ones. -/
theorem Covers.onward
    {document value next : Value}
    {seen known : List Text}
    {text : Text}
    (covers : Covers document value seen known)
    (isReference : value.get? key = some (.string text))
    (denotes : Denotes document text next)
    (fresh : text ∉ seen) :
    Covers document next (text :: seen) known where
  distinct := List.nodup_cons.mpr ⟨fresh, covers.distinct⟩
  within := List.cons_subset.mpr ⟨covers.own text isReference, covers.within⟩
  own := by
    intro later isLater
    rcases denotes with ⟨keys, -, located⟩
    have held := mem_referenceTexts_of_get? isLater
    exact covers.inside (located.referenceTexts_subset held)
  inside := covers.inside

/--
More rounds change nothing once the rounds left and the references followed
outnumber the references that a chain can meet.
-/
theorem followFrom_succ
    {document value : Value}
    {seen known : List Text}
    {fuel : Nat}
    (covers : Covers document value seen known)
    (enough : known.length < fuel + seen.length) :
    followFrom document (fuel + 1) seen value = followFrom document fuel seen value := by
  induction fuel generalizing seen value with
  | zero =>
      -- More references would have been followed than there are.
      have few := covers.length_le
      omega
  | succ fuel ih =>
      cases isReference : value.get? key with
      | none => simp [followFrom, isReference]
      | some found =>
          cases found with
          | string text =>
              by_cases member : text ∈ seen
              · simp [followFrom, isReference, member]
              · cases resolved : resolve document (.string text) with
                | error error => simp [followFrom, isReference, member, resolved]
                | ok place =>
                    cases place with
                    | none => simp [followFrom, isReference, member, resolved]
                    | some after =>
                        have denotes := (resolve_eq_some_iff document after text).mp resolved
                        rw [followFrom_of_link isReference denotes member,
                          followFrom_of_link isReference denotes member]
                        apply ih (covers.onward isReference denotes member)
                        rw [List.length_cons]
                        omega
          | _ => simp [followFrom, isReference]

/-- The number of rounds is large enough for every chain through the document. -/
theorem follow_eq_followFrom
    (document value : Value)
    (extra : Nat) :
    follow document value = followFrom document (rounds document + extra) [] value := by
  induction extra with
  | zero => rfl
  | succ extra ih =>
      rw [ih, ← Nat.add_assoc]
      let own : List Text := (value.get? key).elim [] textOf
      have ownShort : own.length ≤ 1 := by
        cases isReference : value.get? key with
        | none => simp [own, isReference]
        | some found => simpa [own, isReference] using length_textOf_le found
      have documentShort := length_referenceTexts_le document
      have covers : Covers document value [] (own ++ referenceTexts document) :=
        { distinct := List.nodup_nil
          within := List.nil_subset _
          own := fun text isReference =>
            List.mem_append_left _ (by simp [own, isReference, textOf])
          inside := List.subset_append_right _ _ }
      symm
      apply followFrom_succ covers
      simp only [List.length_append, List.length_nil, rounds]
      omega

/-! ## What `follow` finds -/

theorem follow_of_haltsIn
    {document value : Value}
    {steps : Nat}
    {outcome : Outcome}
    (halts : HaltsIn document steps value outcome) :
    follow document value = outcome := by
  rw [follow_eq_followFrom document value (steps + 1)]
  exact followFrom_of_haltsIn halts (by omega) (fun text member => by cases member)

/-- `follow` finds the end of a chain, if the chain has one. -/
theorem follow_eq_some_iff
    (document value target : Value) :
    follow document value = .ok (some target) ↔ Ends document value target := by
  rw [ends_iff]
  constructor
  · intro followed
    exact haltsIn_of_followFrom followed (by simp)
  · rintro ⟨steps, halts⟩
    exact follow_of_haltsIn halts

/-- `follow` gives what a chain comes to at a value from which it leads no further. -/
theorem follow_of_leads
    {document value last : Value}
    {outcome : Outcome}
    (leads : Leads document value last)
    (halted : halt? document last = some outcome) :
    follow document value = outcome := by
  rcases (exists_haltsIn_iff _ _ _).mpr ⟨last, leads, halted⟩ with ⟨steps, halts⟩
  exact follow_of_haltsIn halts

/-- A chain comes to nothing at a reference that names no place and misleads nowhere. -/
theorem follow_eq_none_of_leads
    {document value last : Value}
    {text : Text}
    (leads : Leads document value last)
    (isReference : last.get? key = some (.string text))
    (elsewhere : ∀ target, ¬ Denotes document text target)
    (straight : ¬ Misleads document text) :
    follow document value = .ok none := by
  apply follow_of_leads leads
  simp [halt?, isReference, resolve_eq_none_of_not_denotes elsewhere straight]

/-- `follow` ends in an error exactly for the chains that meet a reference which misleads. -/
theorem follow_eq_error_iff
    (document value : Value) :
    (∃ error, follow document value = .error error) ↔ Derails document value := by
  rw [derails_iff]
  constructor
  · rintro ⟨error, followed⟩
    exact ⟨error, haltsIn_of_followFrom followed (by simp)⟩
  · rintro ⟨error, steps, halts⟩
    exact ⟨error, follow_of_haltsIn halts⟩

end OpenApiGate.Reference

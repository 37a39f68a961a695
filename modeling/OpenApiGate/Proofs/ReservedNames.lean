import OpenApiGate.Compatibility

/-!
# Reserved names up to the case of ASCII letters

The lower case of a text is taken over the whole of Unicode, and some of its
letters come from far away: the Kelvin sign becomes a `k`, and U+0130 becomes an
`i` with a mark behind it.  A text of ASCII code points among which there is no
`k` is nevertheless the lower case of those texts only that differ from it in
the case of ASCII letters.  Every reserved name is such a text.
-/

namespace OpenApiGate

namespace CodePoint

/-- An ASCII code point. -/
def IsAscii (point : CodePoint) : Prop :=
  point.value < 0x80

instance (point : CodePoint) : Decidable point.IsAscii :=
  inferInstanceAs (Decidable (_ < _))

/-- An ASCII code point other than `k`, to which the Kelvin sign is lowered. -/
structure IsLoweredFromAscii (point : CodePoint) : Prop where
  ascii : point.IsAscii
  notK : point.value ≠ 0x6B

theorem isAscii_of_asciiLower
    {point : CodePoint}
    (ascii : (Decimal.asciiLower point).IsAscii) :
    point.IsAscii := by
  unfold Decimal.asciiLower at ascii
  split at ascii
  · next upper =>
      simp only [inRange, Bool.and_eq_true, decide_eq_true_eq] at upper
      unfold IsAscii
      omega
  · exact ascii

end CodePoint

open CodePoint (IsAscii IsLoweredFromAscii)

/-! ## The table of lower case -/

/-- The run of the ASCII capitals. -/
def asciiCapitals : CaseRun :=
  ⟨0x41, 0x5A, 1, 32⟩

/-- A run of letters beyond ASCII whose counterparts are beyond ASCII too, the Kelvin sign apart. -/
def CaseRun.IsForeign (run : CaseRun) : Prop :=
  0x80 ≤ run.first ∧
    (0x80 ≤ run.first + run.distance ∨
      run.first = run.last ∧ run.first + run.distance = 0x6B)

instance (run : CaseRun) : Decidable run.IsForeign :=
  inferInstanceAs (Decidable (_ ∧ _))

theorem isForeign_of_mem_tail : ∀ run ∈ lowerCaseRuns.tail, run.IsForeign := by
  decide +kernel

/-- The run in which a counterpart was found. -/
theorem CaseRun.counterpart?_eq_some
    {runs : List CaseRun}
    {point lowered : CodePoint}
    (found : counterpart? runs point = some lowered) :
    ∃ run ∈ runs, run.first ≤ point.value ∧ point.value ≤ run.last ∧
      lowered = CodePoint.ofNat ((point.value : Int) + run.distance).toNat := by
  rcases Option.map_eq_some_iff.mp found with ⟨run, holds, rfl⟩
  have within := List.find?_some holds
  simp only [CodePoint.inRange, Bool.and_eq_true, decide_eq_true_eq] at within
  exact ⟨run, List.mem_of_find?_eq_some holds, within.1.1, within.1.2, rfl⟩

variable {point : CodePoint}

theorem CaseRun.counterpart?_of_isAscii (ascii : point.IsAscii) :
    counterpart? lowerCaseRuns point = counterpart? [asciiCapitals] point := by
  have foreign : counterpart? lowerCaseRuns.tail point = none := by
    rw [Option.eq_none_iff_forall_ne_some]
    intro lowered found
    rcases counterpart?_eq_some found with ⟨run, member, above, -⟩
    have beyond := (isForeign_of_mem_tail run member).1
    unfold IsAscii at ascii
    omega
  have split : lowerCaseRuns = asciiCapitals :: lowerCaseRuns.tail := rfl
  rw [split]
  simp only [counterpart?, Option.map_eq_none_iff] at foreign ⊢
  rw [List.find?_cons, List.find?_cons, foreign, List.find?_nil]

/-- The counterpart of a code point beyond ASCII is beyond ASCII, or a `k`. -/
theorem CaseRun.not_isLoweredFromAscii_of_counterpart
    {lowered : CodePoint}
    (foreign : ¬ point.IsAscii)
    (found : counterpart? lowerCaseRuns point = some lowered) :
    ¬ lowered.IsLoweredFromAscii := by
  rintro ⟨ascii, notK⟩
  rcases counterpart?_eq_some found with ⟨run, member, above, below, rfl⟩
  have valid : point.value < 0x110000 := point.value_lt
  unfold IsAscii at ascii foreign
  rcases List.mem_cons.mp (show run ∈ asciiCapitals :: lowerCaseRuns.tail from member) with
    rfl | within
  · change point.value ≤ 0x5A at below
    omega
  · rcases isForeign_of_mem_tail run within with ⟨-, beyond | ⟨single, isK⟩⟩
    · unfold CodePoint.ofNat at ascii
      split at ascii <;> dsimp only at ascii <;> omega
    · apply notK
      have same : ((point.value : Int) + run.distance).toNat = 0x6B := by omega
      rw [same]
      rfl

namespace Text

/-! ## The lower case of one code point -/

theorem lowerBetween_of_isAscii
    (ascii : point.IsAscii)
    (before after : Text) :
    lowerBetween before point after = [Decimal.asciiLower point] := by
  unfold IsAscii at ascii
  have noSigma : decide (point.value = 0x3A3) = false := decide_eq_false (by omega)
  have noDottedI : point.value ≠ 0x130 := by omega
  unfold lowerBetween CodePoint.toLower
  rw [noSigma, CaseRun.counterpart?_of_isAscii ascii, if_neg noDottedI]
  simp only [Bool.false_and, Bool.false_eq_true, if_false, CaseRun.counterpart?,
    Decimal.asciiLower, asciiCapitals, List.find?_cons, List.find?_nil, Nat.mod_one,
    beq_self_eq_true, Bool.and_true]
  cases point.inRange 0x41 0x5A <;> rfl

/-- Wherever a code point beyond ASCII stands, its lower case is not all ASCII, or it is a `k`. -/
theorem exists_mem_lowerBetween
    (foreign : ¬ point.IsAscii)
    (before after : Text) :
    ∃ lowered ∈ lowerBetween before point after, ¬ lowered.IsLoweredFromAscii := by
  unfold lowerBetween CodePoint.toLower
  split
  · refine ⟨_, List.mem_singleton_self _, ?_⟩
    exact fun lowered => absurd lowered.ascii (by decide)
  · split
    · refine ⟨CodePoint.ofNat 0x307, by simp, ?_⟩
      exact fun lowered => absurd lowered.ascii (by decide)
    · refine ⟨_, List.mem_singleton_self _, ?_⟩
      cases found : CaseRun.counterpart? lowerCaseRuns point with
      | none => exact fun lowered => foreign lowered.ascii
      | some lowered => exact CaseRun.not_isLoweredFromAscii_of_counterpart foreign found

/-! ## The lower case of a text -/

theorem lowerFrom_of_isAscii
    {text : Text}
    (ascii : ∀ point ∈ text, point.IsAscii)
    (before lowered : Text) :
    lowerFrom before lowered text = lowered.reverse ++ text.map Decimal.asciiLower := by
  induction text generalizing before lowered with
  | nil => simp [lowerFrom]
  | cons point after ih =>
      rw [lowerFrom, lowerBetween_of_isAscii (ascii point List.mem_cons_self),
        ih fun other member => ascii other (List.mem_cons_of_mem point member)]
      simp

/-- What has been lowered stays. -/
theorem subset_lowerFrom (before lowered text : Text) :
    lowered ⊆ lowerFrom before lowered text := by
  induction text generalizing before lowered with
  | nil => exact (List.reverse_perm lowered).symm.subset
  | cons point after ih =>
      intro other member
      exact ih _ _ (List.mem_append_right _ member)

theorem isAscii_of_lowerFrom
    {before lowered text : Text}
    (plain : ∀ point ∈ lowerFrom before lowered text, point.IsLoweredFromAscii) :
    ∀ point ∈ text, point.IsAscii := by
  induction text generalizing before lowered with
  | nil => exact List.forall_mem_nil _
  | cons point after ih =>
      rw [lowerFrom] at plain
      refine List.forall_mem_cons.mpr ⟨?_, ih plain⟩
      apply Decidable.byContradiction
      intro foreign
      rcases exists_mem_lowerBetween foreign before after with ⟨other, member, notPlain⟩
      apply notPlain
      apply plain
      apply subset_lowerFrom
      exact List.mem_append_left _ (List.mem_reverse.mpr member)

/-- Only the case of ASCII letters is lost on the way to a text without `k` of ASCII code points. -/
theorem toLower_eq_iff
    {target : Text}
    (plain : ∀ point ∈ target, point.IsLoweredFromAscii)
    (text : Text) :
    text.toLower = target ↔ text.map Decimal.asciiLower = target := by
  constructor
  · rintro rfl
    exact (lowerFrom_of_isAscii (isAscii_of_lowerFrom plain) [] []).symm
  · rintro rfl
    apply lowerFrom_of_isAscii
    intro point member
    exact CodePoint.isAscii_of_asciiLower (plain _ (List.mem_map_of_mem member)).ascii

/-- A `k` has a spelling more: the Kelvin sign. -/
example : toLower [CodePoint.ofNat 0x212A] = Text.ofString "k" := by
  decide

end Text

namespace Compatibility

open Json (Value)

theorem isLoweredFromAscii_of_mem_reservedNames :
    ∀ reserved ∈ reservedNames, ∀ point ∈ reserved, point.IsLoweredFromAscii := by
  have plain :
      ∀ reserved ∈ reservedNames, ∀ point ∈ reserved, point.value < 0x80 ∧ point.value ≠ 0x6B := by
    decide
  intro reserved member point within
  rcases plain reserved member point within with ⟨ascii, notK⟩
  exact ⟨ascii, notK⟩

/--
A name is reserved exactly if it is as long as some reserved name and differs
from it in the case of ASCII letters only.
-/
theorem names_are_reserved_up_to_ascii_case (name : Text) :
    isReservedName (.string name) = true ↔
      ∃ reserved ∈ reservedNames, name.length = reserved.length ∧
        name.map Decimal.asciiLower = reserved := by
  have reserved_iff : isReservedName (.string name) = true ↔ name.toLower ∈ reservedNames :=
    List.contains_iff_mem
  rw [reserved_iff]
  constructor
  · intro member
    have same :=
      (Text.toLower_eq_iff (isLoweredFromAscii_of_mem_reservedNames _ member) name).mp rfl
    refine ⟨name.toLower, member, ?_, same⟩
    rw [← same, List.length_map]
  · rintro ⟨reserved, member, -, same⟩
    rwa [(Text.toLower_eq_iff (isLoweredFromAscii_of_mem_reservedNames _ member) name).mpr same]

end Compatibility

end OpenApiGate

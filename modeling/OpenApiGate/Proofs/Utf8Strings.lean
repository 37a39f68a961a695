import Mathlib.Tactic.SplitIfs
import OpenApiGate.Text.Utf8

/-!
# Bytes that are the UTF-8 form of a string

The decoder takes bytes apart into sequences of one to four bytes, each of which
is the UTF-8 form of one character.  Hence bytes are decoded exactly if they are
the UTF-8 form of a string, and what they are decoded into is that string.
-/

namespace OpenApiGate.Utf8

/-- A byte behind the first one of a sequence. -/
def IsTail (byte : UInt8) : Prop :=
  0x80 ≤ byte.toNat ∧ byte.toNat ≤ 0xBF

/-- The bytes of one character and its number: the shortest form, and no surrogate. -/
inductive Sequence : Bytes → Nat → Prop where
  | one
      {first : UInt8}
      {number : Nat}
      (lead : first.toNat < 0x80)
      (spelled : number = first.toNat) :
      Sequence [first] number
  | two
      {first second : UInt8}
      {number : Nat}
      (lead : 0xC2 ≤ first.toNat ∧ first.toNat < 0xE0)
      (tail : IsTail second)
      (spelled : number = (first.toNat - 0xC0) * 0x40 + (second.toNat - 0x80)) :
      Sequence [first, second] number
  | three
      {first second third : UInt8}
      {number : Nat}
      (lead : 0xE0 ≤ first.toNat ∧ first.toNat < 0xF0)
      (notOverlong : first.toNat = 0xE0 → 0xA0 ≤ second.toNat)
      (noSurrogate : first.toNat = 0xED → second.toNat < 0xA0)
      (tail : IsTail second)
      (last : IsTail third)
      (spelled :
        number =
          ((first.toNat - 0xE0) * 0x40 + (second.toNat - 0x80)) * 0x40 + (third.toNat - 0x80)) :
      Sequence [first, second, third] number
  | four
      {first second third fourth : UInt8}
      {number : Nat}
      (lead : 0xF0 ≤ first.toNat ∧ first.toNat < 0xF5)
      (notOverlong : first.toNat = 0xF0 → 0x90 ≤ second.toNat)
      (notBeyond : first.toNat = 0xF4 → second.toNat < 0x90)
      (tail : IsTail second)
      (next : IsTail third)
      (last : IsTail fourth)
      (spelled :
        number =
          (((first.toNat - 0xF0) * 0x40 + (second.toNat - 0x80)) * 0x40 +
            (third.toNat - 0x80)) * 0x40 + (fourth.toNat - 0x80)) :
      Sequence [first, second, third, fourth] number

/-! ## Sequences and characters -/

/-- A character is encoded as one of the rows of the encoding. -/
theorem sequence_utf8EncodeChar (char : Char) :
    Sequence (String.utf8EncodeChar char) char.toNat := by
  have valid : char.val.toNat.isValidChar := char.valid
  unfold Nat.isValidChar at valid
  unfold Char.toNat
  fun_cases String.utf8EncodeChar char with
  | case1 value small =>
      apply Sequence.one <;> simp only [UInt8.toNat_ofNat'] <;> omega
  | case2 value large small =>
      apply Sequence.two <;> simp only [IsTail, UInt8.toNat_ofNat'] <;> omega
  | case3 value _ large small =>
      apply Sequence.three <;> simp only [IsTail, UInt8.toNat_ofNat'] <;> omega
  | case4 value _ _ large =>
      apply Sequence.four <;> simp only [IsTail, UInt8.toNat_ofNat'] <;> omega

theorem Sequence.isValidChar
    {bytes : Bytes}
    {number : Nat}
    (sequence : Sequence bytes number) :
    number.isValidChar := by
  unfold Nat.isValidChar
  cases sequence with
  | one lead spelled => omega
  | two lead tail spelled =>
      unfold IsTail at tail
      omega
  | three lead notOverlong noSurrogate tail last spelled =>
      unfold IsTail at tail last
      omega
  | four lead notOverlong notBeyond tail next last spelled =>
      unfold IsTail at tail next last
      omega

/-- A byte is given by its number. -/
theorem ofNat_eq_of_toNat_eq
    {number : Nat}
    (byte : UInt8)
    (same : number = byte.toNat) :
    UInt8.ofNat number = byte := by
  rw [same, UInt8.ofNat_toNat]

/-- Every sequence is the UTF-8 form of a character. -/
theorem Sequence.exists_char
    {bytes : Bytes}
    {number : Nat}
    (sequence : Sequence bytes number) :
    ∃ char : Char, char.toNat = number ∧ String.utf8EncodeChar char = bytes := by
  have exists_char : ∃ char : Char, char.val.toNat = number :=
    ⟨Char.ofNatAux number sequence.isValidChar, rfl⟩
  rcases exists_char with ⟨char, value⟩
  refine ⟨char, value, ?_⟩
  unfold String.utf8EncodeChar
  simp only [value]
  cases sequence with
  | one lead spelled =>
      rw [if_pos (by omega), ofNat_eq_of_toNat_eq _ spelled]
  | @two first second _ lead tail spelled =>
      unfold IsTail at tail
      have below : second.toNat < 256 := second.toNat_lt
      rw [if_neg (by omega), if_pos (by omega), ofNat_eq_of_toNat_eq first (by omega),
        ofNat_eq_of_toNat_eq second (by omega)]
  | @three first second third _ lead notOverlong noSurrogate tail last spelled =>
      unfold IsTail at tail last
      rw [if_neg (by omega), if_neg (by omega), if_pos (by omega),
        ofNat_eq_of_toNat_eq first (by omega),
        ofNat_eq_of_toNat_eq second (by omega),
        ofNat_eq_of_toNat_eq third (by omega)]
  | @four first second third fourth _ lead notOverlong notBeyond tail next last spelled =>
      unfold IsTail at tail next last
      rw [if_neg (by omega), if_neg (by omega), if_neg (by omega),
        ofNat_eq_of_toNat_eq first (by omega),
        ofNat_eq_of_toNat_eq second (by omega),
        ofNat_eq_of_toNat_eq third (by omega),
        ofNat_eq_of_toNat_eq fourth (by omega)]

/-! ## Sequences and the decoder -/

section Decoder

variable {position length bits : Nat} {decoded text : Text} {first low high : UInt8} {bytes : Bytes}

theorem IsTail.inside
    {byte : UInt8}
    (tail : IsTail byte) :
    (0x80 : UInt8).toNat ≤ byte.toNat ∧ byte.toNat ≤ (0xBF : UInt8).toNat := by
  simp only [UInt8.reduceToNat]
  exact tail

/-- A byte outside the range that is due ends a character too early. -/
theorem next?_of_outside
    (character : Unfinished)
    {byte : UInt8}
    (outside : ¬ (character.low.toNat ≤ byte.toNat ∧ byte.toNat ≤ character.high.toNat)) :
    character.next? byte = none := by
  have refused : (byte < character.low || character.high < byte) = true := by
    simp only [UInt8.lt_iff_toNat_lt, Bool.or_eq_true, decide_eq_true_eq]
    omega
  unfold Unfinished.next?
  exact if_pos refused

theorem next?_of_inside
    (character : Unfinished)
    {byte : UInt8}
    (inside : character.low.toNat ≤ byte.toNat ∧ byte.toNat ≤ character.high.toNat) :
    character.next? byte =
      match character.remaining with
      | 0 => some (.inl (CodePoint.ofNat (character.bits * 0x40 + (byte.toNat - 0x80))))
      | remaining + 1 =>
        some (.inr ⟨character.first, character.length + 1, remaining, 0x80, 0xBF,
          character.bits * 0x40 + (byte.toNat - 0x80)⟩) := by
  have notRefused : ¬ (byte < character.low || character.high < byte) = true := by
    simp only [UInt8.lt_iff_toNat_lt, Bool.or_eq_true, decide_eq_true_eq]
    omega
  unfold Unfinished.next?
  exact if_neg notRefused

/-- An unfinished character is gone on with by a byte that it expects, and by nothing else. -/
theorem exists_byte_of_decodeFrom
    {character : Unfinished}
    (finished : decodeFrom position (some character) decoded bytes = .ok text) :
    ∃ byte rest, bytes = byte :: rest ∧
      (character.low.toNat ≤ byte.toNat ∧ byte.toNat ≤ character.high.toNat) := by
  cases bytes with
  | nil => cases finished
  | cons byte rest =>
      refine ⟨byte, rest, rfl, ?_⟩
      apply Decidable.byContradiction
      intro outside
      simp only [decodeFrom, next?_of_outside character outside] at finished
      cases finished

theorem decodeFrom_last
    {byte : UInt8}
    (inside : low.toNat ≤ byte.toNat ∧ byte.toNat ≤ high.toNat)
    (rest : Bytes) :
    decodeFrom position (some ⟨first, length, 0, low, high, bits⟩) decoded (byte :: rest) =
      decodeFrom (position + 1) none
        (CodePoint.ofNat (bits * 0x40 + (byte.toNat - 0x80)) :: decoded) rest := by
  simp only [decodeFrom, next?_of_inside ⟨first, length, 0, low, high, bits⟩ inside]

theorem decodeFrom_next
    {remaining : Nat}
    {byte : UInt8}
    (inside : low.toNat ≤ byte.toNat ∧ byte.toNat ≤ high.toNat)
    (rest : Bytes) :
    decodeFrom position (some ⟨first, length, remaining + 1, low, high, bits⟩) decoded
        (byte :: rest) =
      decodeFrom (position + 1)
        (some ⟨first, length + 1, remaining, 0x80, 0xBF, bits * 0x40 + (byte.toNat - 0x80)⟩)
        decoded rest := by
  simp only [decodeFrom,
    next?_of_inside ⟨first, length, remaining + 1, low, high, bits⟩ inside]

theorem start?_one (lead : first.toNat < 0x80) :
    start? first = some (.inl (CodePoint.ofNat first.toNat)) :=
  if_pos (UInt8.lt_iff_toNat_lt.mpr lead)

theorem start?_two (lead : 0xC2 ≤ first.toNat ∧ first.toNat < 0xE0) :
    start? first = some (.inr ⟨first, 1, 0, 0x80, 0xBF, first.toNat - 0xC0⟩) := by
  unfold start?
  simp only [UInt8.lt_iff_toNat_lt, UInt8.reduceToNat]
  rw [if_neg (by omega), if_neg (by omega), if_pos (by omega)]

/-- Which second bytes are expected in a sequence of three bytes. -/
theorem start?_three (lead : 0xE0 ≤ first.toNat ∧ first.toNat < 0xF0) :
    ∃ low high, start? first = some (.inr ⟨first, 1, 1, low, high, first.toNat - 0xE0⟩) ∧
      ∀ second : UInt8, (low.toNat ≤ second.toNat ∧ second.toNat ≤ high.toNat) ↔
        IsTail second ∧ (first.toNat = 0xE0 → 0xA0 ≤ second.toNat) ∧
          (first.toNat = 0xED → second.toNat < 0xA0) := by
  unfold start? IsTail
  simp only [UInt8.lt_iff_toNat_lt, ← UInt8.toNat_inj, UInt8.reduceToNat]
  rw [if_neg (by omega), if_neg (by omega), if_neg (by omega), if_pos lead.2]
  split_ifs
  all_goals
    refine ⟨_, _, rfl, fun second => ?_⟩
    simp only [UInt8.reduceToNat]
    omega

/-- Which second bytes are expected in a sequence of four bytes. -/
theorem start?_four (lead : 0xF0 ≤ first.toNat ∧ first.toNat < 0xF5) :
    ∃ low high, start? first = some (.inr ⟨first, 1, 2, low, high, first.toNat - 0xF0⟩) ∧
      ∀ second : UInt8, (low.toNat ≤ second.toNat ∧ second.toNat ≤ high.toNat) ↔
        IsTail second ∧ (first.toNat = 0xF0 → 0x90 ≤ second.toNat) ∧
          (first.toNat = 0xF4 → second.toNat < 0x90) := by
  unfold start? IsTail
  simp only [UInt8.lt_iff_toNat_lt, ← UInt8.toNat_inj, UInt8.reduceToNat]
  rw [if_neg (by omega), if_neg (by omega), if_neg (by omega), if_neg (by omega),
    if_neg (by omega), if_neg (by omega)]
  split_ifs
  case neg => omega
  all_goals
    refine ⟨_, _, rfl, fun second => ?_⟩
    simp only [UInt8.reduceToNat]
    omega

theorem start?_none
    (noLead : 0x80 ≤ first.toNat ∧ first.toNat < 0xC2 ∨ 0xF5 ≤ first.toNat) :
    start? first = none := by
  unfold start?
  simp only [UInt8.lt_iff_toNat_lt, ← UInt8.toNat_inj, UInt8.reduceToNat]
  split_ifs <;> first | omega | rfl

/-- A row is decoded to its number, whatever follows it. -/
theorem decodeFrom_sequence
    {sequence : Bytes}
    {number : Nat}
    (isSequence : Sequence sequence number)
    (position : Nat)
    (decoded : Text)
    (rest : Bytes) :
    decodeFrom position none decoded (sequence ++ rest) =
      decodeFrom (position + sequence.length) none (CodePoint.ofNat number :: decoded) rest := by
  cases isSequence with
  | one lead spelled =>
      rw [spelled]
      simp only [List.cons_append, List.nil_append, decodeFrom, start?_one lead]
      rfl
  | two lead tail spelled =>
      rw [spelled]
      rw [List.cons_append, decodeFrom]
      simp only [start?_two lead]
      exact decodeFrom_last tail.inside rest
  | three lead notOverlong noSurrogate tail last spelled =>
      rw [spelled]
      rcases start?_three lead with ⟨low, high, starts, expects⟩
      rw [List.cons_append, decodeFrom]
      simp only [starts, List.cons_append]
      rw [decodeFrom_next ((expects _).mpr ⟨tail, notOverlong, noSurrogate⟩)]
      exact decodeFrom_last last.inside rest
  | four lead notOverlong notBeyond tail next last spelled =>
      rw [spelled]
      rcases start?_four lead with ⟨low, high, starts, expects⟩
      rw [List.cons_append, decodeFrom]
      simp only [starts, List.cons_append]
      rw [decodeFrom_next ((expects _).mpr ⟨tail, notOverlong, notBeyond⟩),
        decodeFrom_next next.inside]
      exact decodeFrom_last last.inside rest

/-- Decoded bytes start with a sequence, if there are any. -/
theorem exists_sequence_of_decodeFrom
    (finished : decodeFrom position none decoded (first :: bytes) = .ok text) :
    ∃ sequence number rest, Sequence sequence number ∧ first :: bytes = sequence ++ rest := by
  rw [decodeFrom] at finished
  by_cases isOne : first.toNat < 0x80
  · exact ⟨_, _, bytes, .one isOne rfl, rfl⟩
  by_cases isTwo : 0xC2 ≤ first.toNat ∧ first.toNat < 0xE0
  · simp only [start?_two isTwo] at finished
    rcases exists_byte_of_decodeFrom finished with ⟨second, rest, rfl, tail⟩
    exact ⟨_, _, rest, .two isTwo tail rfl, rfl⟩
  by_cases isThree : 0xE0 ≤ first.toNat ∧ first.toNat < 0xF0
  · rcases start?_three isThree with ⟨low, high, starts, expects⟩
    simp only [starts] at finished
    rcases exists_byte_of_decodeFrom finished with ⟨second, rest, rfl, inside⟩
    rw [decodeFrom_next inside] at finished
    rcases exists_byte_of_decodeFrom finished with ⟨third, rest, rfl, last⟩
    rcases (expects second).mp inside with ⟨tail, notOverlong, noSurrogate⟩
    exact ⟨_, _, rest, .three isThree notOverlong noSurrogate tail last rfl, rfl⟩
  by_cases isFour : 0xF0 ≤ first.toNat ∧ first.toNat < 0xF5
  · rcases start?_four isFour with ⟨low, high, starts, expects⟩
    simp only [starts] at finished
    rcases exists_byte_of_decodeFrom finished with ⟨second, rest, rfl, inside⟩
    rw [decodeFrom_next inside] at finished
    rcases exists_byte_of_decodeFrom finished with ⟨third, rest, rfl, next⟩
    rw [decodeFrom_next next] at finished
    rcases exists_byte_of_decodeFrom finished with ⟨fourth, rest, rfl, last⟩
    rcases (expects second).mp inside with ⟨tail, notOverlong, notBeyond⟩
    exact ⟨_, _, rest, .four isFour notOverlong notBeyond tail next last rfl, rfl⟩
  · have noLead : start? first = none := start?_none (by omega)
    simp only [noLead] at finished
    cases finished

end Decoder

/-! ## Whole byte sequences -/

theorem ofNat_toNat (char : Char) : CodePoint.ofNat char.toNat = CodePoint.ofChar char :=
  dif_pos (CodePoint.ofChar char).value_lt

theorem decodeFrom_chars
    (chars : List Char)
    (position : Nat)
    (decoded : Text) :
    decodeFrom position none decoded (chars.flatMap String.utf8EncodeChar) =
      .ok (decoded.reverse ++ chars.map CodePoint.ofChar) := by
  induction chars generalizing position decoded with
  | nil => simp [decodeFrom]
  | cons char rest ih =>
      rw [List.flatMap_cons, decodeFrom_sequence (sequence_utf8EncodeChar char), ih, ofNat_toNat]
      simp

/-- Bytes that are decoded are the encoding of characters; the induction is on the bytes. -/
theorem exists_chars_of_decodeFrom
    {position : Nat}
    {decoded text : Text}
    {bytes : Bytes}
    (finished : decodeFrom position none decoded bytes = .ok text) :
    ∃ chars : List Char, chars.flatMap String.utf8EncodeChar = bytes := by
  -- Each round takes a sequence off the front of the bytes.
  induction length : bytes.length using Nat.strongRecOn generalizing position decoded bytes with
  | ind count ih =>
      cases bytes with
      | nil => exact ⟨[], rfl⟩
      | cons first others =>
          rcases exists_sequence_of_decodeFrom finished with
            ⟨sequence, number, rest, isSequence, split⟩
          rw [split] at finished length ⊢
          rw [decodeFrom_sequence isSequence] at finished
          rcases isSequence.exists_char with ⟨char, rfl, rfl⟩
          have shorter : rest.length < count := by
            have nonempty := List.length_pos_iff.mpr (String.utf8EncodeChar_ne_nil (c := char))
            rw [List.length_append] at length
            omega
          rcases ih rest.length shorter finished rfl with ⟨chars, spelled⟩
          exact ⟨char :: chars, by rw [List.flatMap_cons, spelled]⟩

/-- Bytes are decoded exactly if they are the UTF-8 form of a string, and into that string. -/
theorem decode_eq_ok_iff
    (bytes : Bytes)
    (text : Text) :
    decode bytes = .ok text ↔
      ∃ string : String, string.toUTF8 = bytes.toByteArray ∧ Text.ofString string = text := by
  have form_iff (chars : List Char) :
      (String.ofList chars).toUTF8 = bytes.toByteArray ↔
        chars.flatMap String.utf8EncodeChar = bytes := by
    rw [String.toUTF8_eq_toByteArray, String.toByteArray_ofList, List.utf8Encode,
      List.toByteArray_inj]
  constructor
  · intro decoded
    rcases exists_chars_of_decodeFrom decoded with ⟨chars, rfl⟩
    refine ⟨String.ofList chars, (form_iff chars).mpr rfl, ?_⟩
    rw [decode, decodeFrom_chars] at decoded
    rw [Text.ofString, String.toList_ofList]
    exact Except.ok.inj decoded
  · rintro ⟨string, form, rfl⟩
    rw [← String.ofList_toList (s := string), form_iff] at form
    rw [← form, decode, decodeFrom_chars]
    rfl

end OpenApiGate.Utf8

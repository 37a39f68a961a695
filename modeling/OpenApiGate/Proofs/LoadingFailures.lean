import OpenApiGate.Proofs.Loading
import OpenApiGate.Proofs.Decoding

/-!
# When loading a document breaks down

Loading foresees that there is no file, that a file cannot be read, that it is no
JSON text, and that the text is nested too deeply.  Three things are left: a path
that is too long to be looked up, a fault of reading that does not come from the
operating system, and an integer with more digits than the decoder takes.  The
last one is met by documents that are JSON in every other respect.
-/

namespace OpenApiGate

namespace Document

open Json (Value)
open Traced

/-! ## The steps that break down -/

/-- Opening a file breaks down for a path that is too long, and for nothing else. -/
theorem openFile_breaksDown_iff
    (files : FileTree)
    (given : Text) :
    (openFile files given).BreaksDown ↔
      files.find (Path.ofText given).text = .error .tooLong := by
  simp only [BreaksDown, openFile]
  split
  · next found => simp [found]
  · next found => simp [found, abort, fail]
  · next notFile notLong => simpa [reject, fail] using notLong

theorem checkSize_not_breaksDown (limit sizeKb : Float) :
    ¬ (checkSize (some (.real limit)) sizeKb).BreaksDown := by
  rintro ⟨failure, broken⟩
  rw [result_checkSize] at broken
  cases broken

/-- Faults of the operating system are foreseen, and no others. -/
theorem checkFault_breaksDown_iff
    (given : Text)
    (sizeKb : Float)
    (readFault : Option Fault) :
    (checkFault given sizeKb readFault).BreaksDown ↔
      ∃ fault, readFault = some fault ∧ fault.kind.isSystem = false := by
  cases readFault with
  | none => simp [checkFault, not_breaksDown_pure]
  | some fault =>
      cases isSystem : fault.kind.isSystem <;>
        simp [checkFault, BreaksDown, isSystem, reject, abort, fail]

theorem rejectContent_not_breaksDown
    {α : Type}
    (path : Path)
    (sizeKb : Float)
    (detail : Text) :
    ¬ (rejectContent path sizeKb detail : Loading α).BreaksDown := by
  rintro ⟨failure, broken⟩
  cases broken

theorem readText_not_breaksDown
    (path : Path)
    (sizeKb : Float)
    (content : Bytes) :
    ¬ (readText path sizeKb content).BreaksDown := by
  unfold readText
  split
  · exact not_breaksDown_pure _
  · exact rejectContent_not_breaksDown _ _ _

/-- Of all faults in a text, only an integer of too many digits is not foreseen. -/
theorem readValue_breaksDown_iff
    (path : Path)
    (sizeKb : Float)
    (text : Text) :
    (readValue path sizeKb text).BreaksDown ↔
      ∃ error, Json.decode text = .error (.integer error) := by
  unfold readValue
  split
  · next value decoded => simp [decoded, not_breaksDown_pure]
  · next error refused => simp [refused, BreaksDown, abort, fail]
  · next container refused => simp [refused, BreaksDown, reject, fail]
  · next error notInteger notNested refused =>
      refine iff_of_false (rejectContent_not_breaksDown _ _ _) ?_
      rintro ⟨integer, otherwise⟩
      exact notInteger integer (Except.error.inj (refused.symm.trans otherwise))

/-! ## Loading as a whole -/

/-- What loading a document does not foresee. -/
inductive Derails
    (files : FileTree)
    (given : Text) :
    Prop where
  /-- The path is too long to be looked up. -/
  | longPath
      (tooLong : files.find (Path.ofText given).text = .error .tooLong)
  /-- Reading the file ends in a fault that does not come from the operating system. -/
  | foreignFault
      {bytes : Bytes}
      {fault : Fault}
      (found : files.find (Path.ofText given).text = .ok (.file bytes (some fault)))
      (foreign : fault.kind.isSystem = false)
  /-- The text of the file holds an integer of too many digits. -/
  | longInteger
      {bytes : Bytes}
      {text : Text}
      {error : Decimal.IntegerError}
      (found : files.find (Path.ofText given).text = .ok (.file bytes none))
      (spelled : Utf8.decode bytes = .ok text)
      (refused : Json.decode text.unifyLineEnds = .error (.integer error))

/-- A loading breaks down in the step that is not prepared for its input. -/
theorem load_breaksDown_iff
    (files : FileTree)
    (given : Text)
    (limit : Float) :
    (load files given (some (.real limit))).BreaksDown ↔ Derails files given := by
  simp only [load, breaksDown_bind_iff, Prod.exists, openFile_breaksDown_iff, openFile_eq_ok_iff,
    checkSize_not_breaksDown, checkFault_breaksDown_iff, checkFault_eq_ok_iff,
    readText_not_breaksDown, readText_eq_ok_iff, readValue_breaksDown_iff, not_breaksDown_pure,
    false_or, and_false, exists_false, or_false]
  constructor
  · rintro (tooLong | ⟨bytes, readFault, found, sizeFindings, -, ⟨fault, rfl, foreign⟩ |
      ⟨-, rfl, text, ⟨spelled, decoded, rfl⟩, error, refused⟩⟩)
    · exact .longPath tooLong
    · exact .foreignFault found foreign
    · exact .longInteger found decoded refused
  · rintro (tooLong | ⟨found, foreign⟩ | ⟨found, spelled, refused⟩)
    · exact Or.inl tooLong
    · exact Or.inr ⟨_, _, found, _, result_checkSize _ _, Or.inl ⟨_, rfl, foreign⟩⟩
    · exact
        Or.inr
          ⟨_, _, found, _, result_checkSize _ _,
            Or.inr ⟨(), rfl, _, ⟨_, spelled, rfl⟩, _, refused⟩⟩

/-! ## What becomes of a file that can be read -/

/-- The bytes spell no JSON text, for a fault of encoding or of syntax. -/
inductive Misspells (bytes : Bytes) : Prop where
  | encoding
      {error : Utf8.DecodeError}
      (refused : Utf8.decode bytes = .error error)
  | syntaxFault
      {text : Text}
      {fault : Json.SyntaxFault}
      {position : Json.Position}
      (spelled : Utf8.decode bytes = .ok text)
      (refused : Json.decode text.unifyLineEnds = .error (.syntaxFault fault position))

/-- The bytes spell a JSON text that is nested too deeply. -/
def NestsTooDeeply (bytes : Bytes) : Prop :=
  ∃ text container, Utf8.decode bytes = .ok text ∧
    Json.decode text.unifyLineEnds = .error (.nestedTooDeeply container)

variable {files : FileTree} {given : Text} {limit : Float} {bytes : Bytes}

/-- Once a file is open and can be read, only its bytes decide. -/
theorem result_load_of_readable
    (found : files.find (Path.ofText given).text = .ok (.file bytes none)) :
    (load files given (some (.real limit))).result =
      (do
        let path := Path.ofText given
        let sizeKb := kilobytes bytes.length
        let text ← readText path sizeKb bytes
        let value ← readValue path sizeKb text
        pure ⟨path, sizeKb, value, .ofErrors (sizeErrors limit sizeKb)⟩ :
        Loading Document).result := by
  have opened := (openFile_eq_ok_iff files given bytes none).mpr found
  simp only [load]
  rw [result_bind_of_ok opened, result_bind_of_ok (result_checkSize _ _), result_bind_of_ok rfl]

/-- Once the text is spelled, the loading fails as reading its value does. -/
theorem result_load_of_spelled
    {text : Text}
    {stop : Stop LoadError}
    (found : files.find (Path.ofText given).text = .ok (.file bytes none))
    (spelled : Utf8.decode bytes = .ok text)
    (failure :
      (readValue (Path.ofText given) (kilobytes bytes.length) text.unifyLineEnds).result =
        .error stop) :
    (load files given (some (.real limit))).result = .error stop := by
  rw [result_load_of_readable found,
    result_bind_of_ok ((readText_eq_ok_iff _ _ _ _).mpr ⟨text, spelled, rfl⟩),
    result_bind_of_error failure]

theorem load_of_misspelled
    (found : files.find (Path.ofText given).text = .ok (.file bytes none))
    (misspells : Misspells bytes) :
    (load files given (some (.real limit))).result =
      .error (.foreseen ⟨.notJson, some (kilobytes bytes.length)⟩) := by
  cases misspells with
  | encoding refused =>
      rw [result_load_of_readable found]
      apply result_bind_of_error
      simp only [readText, refused]
      rfl
  | syntaxFault spelled refused =>
      apply result_load_of_spelled found spelled
      simp only [readValue, refused]
      rfl

theorem load_of_nested
    (found : files.find (Path.ofText given).text = .ok (.file bytes none))
    (nests : NestsTooDeeply bytes) :
    (load files given (some (.real limit))).result =
      .error (.foreseen ⟨.tooDeep, some (kilobytes bytes.length)⟩) := by
  rcases nests with ⟨text, container, spelled, refused⟩
  apply result_load_of_spelled found spelled
  simp only [readValue, refused]
  rfl

/--
Loading gives a document or a reason exactly if it does not derail.  For a file
the reason comes with its size; bytes that spell no JSON text have one reason
with a fixed wording, and text that is nested too deeply has a reason of its own.
-/
theorem load_gives_document_or_reason_iff
    (files : FileTree)
    (given : Text)
    (limit : Float) :
    (((∃ document, (load files given (some (.real limit))).result = .ok document) ∨
          ∃ error, (load files given (some (.real limit))).result = .error (.foreseen error)) ↔
        ¬ Derails files given) ∧
      (∀ bytes readFault, files.find (Path.ofText given).text = .ok (.file bytes readFault) →
        (∀ error, (load files given (some (.real limit))).result = .error (.foreseen error) →
            error.sizeKb = some (kilobytes bytes.length)) ∧
          (readFault = none → Misspells bytes →
            (load files given (some (.real limit))).result =
              .error (.foreseen ⟨.notJson, some (kilobytes bytes.length)⟩)) ∧
          (readFault = none → NestsTooDeeply bytes →
            (load files given (some (.real limit))).result =
              .error (.foreseen ⟨.tooDeep, some (kilobytes bytes.length)⟩))) ∧
      LoadCause.notJson.message =
        Text.ofString
          "The OpenAPI document is not valid JSON. Please correct the document and try again." := by
  refine ⟨?_, ?_, rfl⟩
  · rw [settles_iff_not_breaksDown, load_breaksDown_iff]
  · intro bytes readFault found
    refine ⟨?_, ?_, ?_⟩
    · intro error failure
      have known := (sizeKb_of_load_foreseen failure).1
      simpa only [sizeAt?, found] using known
    · rintro rfl misspells
      exact load_of_misspelled found misspells
    · rintro rfl nests
      exact load_of_nested found nests

/-- A working directory with one file in it. -/
def soleFile (content : Bytes) : FileTree :=
  ⟨[], [([Text.nameBytes "d.json"], .file content none)]⟩

theorem load_rejects_open_brace :
    Misspells [0x7B] ∧
      (load (soleFile [0x7B]) "d.json" (some (.real 500))).result =
        .error (.foreseen ⟨.notJson, some (kilobytes 1)⟩) := by
  have found :
      (soleFile [0x7B]).find (Path.ofText "d.json").text = .ok (.file [0x7B] none) := rfl
  have misspells : Misspells [0x7B] :=
    .syntaxFault (rfl : Utf8.decode [0x7B] = .ok "\x7b") rfl
  exact
    ⟨misspells,
      ((load_gives_document_or_reason_iff _ "d.json" 500).2.1 _ _ found).2.1 rfl misspells⟩

/-- A document that is one integer of too many digits ends loading without a reason. -/
theorem result_load_of_nines
    {count : Nat}
    (many : Decimal.integerDigitLimit < count)
    (limit : Float) :
    (load (soleFile (List.replicate count 0x39)) "d.json" (some (.real limit))).result =
      .error (.unforeseen (.integer (.tooLong count))) := by
  have spelled :
      Utf8.decode (List.replicate count 0x39) = .ok (List.replicate count (.ofChar '9')) := by
    rw [Utf8.decode_of_ascii fun byte member => by rw [List.eq_of_mem_replicate member]; decide,
      List.map_replicate]
    rfl
  have digits : ∀ point ∈ List.replicate count (CodePoint.ofChar '9'), point.isDigit = true := by
    intro point member
    rw [List.eq_of_mem_replicate member]
    rfl
  have refused :
      Json.decode (List.replicate count (CodePoint.ofChar '9')) =
        .error (.integer (.tooLong count)) := by
    cases count with
    | zero => cases many
    | succ before =>
        have length : (CodePoint.ofChar '9' :: List.replicate before (.ofChar '9')).length =
            before + 1 := by
          rw [List.length_cons, List.length_replicate]
        rw [← length] at many
        have long := Json.decode_of_digits digits rfl many
        rwa [length] at long
  apply result_load_of_spelled rfl spelled
  rw [Text.unifyLineEnds_of_digits digits]
  simp only [readValue, refused]
  rfl

theorem load_breaks_down_on_many_digits :
    (load (soleFile (List.replicate 4301 0x39)) "d.json" (some (.real 500))).result =
        .error (.unforeseen (.integer (.tooLong 4301))) ∧
      ¬ ((∃ document,
            (load (soleFile (List.replicate 4301 0x39)) "d.json" (some (.real 500))).result =
              .ok document) ∨
          ∃ error,
            (load (soleFile (List.replicate 4301 0x39)) "d.json" (some (.real 500))).result =
              .error (.foreseen error)) := by
  have many : Decimal.integerDigitLimit < 4301 := Nat.lt_succ_self 4300
  have broken := result_load_of_nines many 500
  refine ⟨broken, ?_⟩
  rw [settles_iff_not_breaksDown]
  exact not_not_intro ⟨_, broken⟩

end Document

end OpenApiGate

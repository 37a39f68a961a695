import OpenApiGate.Proofs.DocumentReading
import OpenApiGate.Proofs.LineEnds
import OpenApiGate.Proofs.LoadingFailures
import OpenApiGate.Proofs.NumberWords
import OpenApiGate.Proofs.Utf8Strings

/-!
# Which files are loaded

The files that are loaded are the encoded documents of the decoder.  These are
documents of the standard, but for those that have a word for a number outside of
their strings, which the standard does not know.
-/

namespace OpenApiGate.Document

open Json (IsDocument admittedWords standardWords namesNumber)

/-! ## What bytes spell -/

/-- The bytes are the encoding of a document in which the words stand for values. -/
def Encodes (words : List Text) (bytes : Bytes) : Prop :=
  ∃ string : String, string.toUTF8 = bytes.toByteArray ∧ IsDocument words (Text.ofString string)

/-- The bytes are the encoding of a string with a word for a number outside of its literals. -/
def EncodesNumberWord (bytes : Bytes) : Prop :=
  ∃ string : String, string.toUTF8 = bytes.toByteArray ∧ namesNumber (Text.ofString string) = true

/-- Decoding the bytes comes to a limit of the decoder. -/
def ExceedsLimits (bytes : Bytes) : Prop :=
  ∃ text error, Utf8.decode bytes = .ok text ∧
    Json.decode text.unifyLineEnds = .error error ∧ error.IsLimit

variable {bytes : Bytes}

/-- Bytes are the encoding of one string at most, whose code points they decode to. -/
theorem exists_string_iff
    {text : Text}
    (decoded : Utf8.decode bytes = .ok text)
    (property : Text → Prop) :
    (∃ string : String, string.toUTF8 = bytes.toByteArray ∧ property (Text.ofString string)) ↔
      property text := by
  constructor
  · rintro ⟨string, encoded, holds⟩
    have same := (Utf8.decode_eq_ok_iff bytes _).mpr ⟨string, encoded, rfl⟩
    rw [decoded, Except.ok.injEq] at same
    rwa [same]
  · intro holds
    rcases (Utf8.decode_eq_ok_iff bytes text).mp decoded with ⟨string, encoded, rfl⟩
    exact ⟨string, encoded, holds⟩

/-- What keeps an encoded document from being one of the standard is a word for a number. -/
theorem encodes_standardWords_iff :
    Encodes standardWords bytes ↔ Encodes admittedWords bytes ∧ ¬EncodesNumberWord bytes := by
  cases decoded : Utf8.decode bytes with
  | ok text =>
      unfold Encodes EncodesNumberWord
      rw [exists_string_iff decoded, exists_string_iff decoded,
        exists_string_iff decoded fun text => namesNumber text = true, Bool.not_eq_true]
      exact Json.isDocument_standardWords_iff text
  | error error =>
      have noString (words : List Text) : ¬Encodes words bytes := by
        rintro ⟨string, encoded, -⟩
        have spelled := (Utf8.decode_eq_ok_iff bytes _).mpr ⟨string, encoded, rfl⟩
        rw [decoded] at spelled
        cases spelled
      exact iff_of_false (noString _) fun both => noString _ both.1

/-- As long as no limit stands in the way, documents are decoded and nothing else is. -/
theorem decodes_iff
    (within : ¬ExceedsLimits bytes)
    {text : Text}
    (decoded : Utf8.decode bytes = .ok text) :
    (∃ value, Json.decode text.unifyLineEnds = .ok value) ↔ Encodes admittedWords bytes := by
  have inLine : ∀ letters ∈ admittedWords, ∀ point ∈ letters, Json.Production.IsInLine point := by
    decide
  unfold Encodes
  rw [exists_string_iff decoded, ← Json.isDocument_unifyLineEnds_iff inLine]
  apply Json.decode_eq_ok_iff
  intro error refused isLimit
  exact within ⟨text, error, decoded, refused, isLimit⟩

/-! ## What is loaded -/

variable {files : FileTree} {given : Text}

/-- Once a file can be read, it is loaded if its bytes are decoded. -/
theorem loads_iff_decodes
    (found : files.find (Path.ofText given).text = .ok (.file bytes none))
    (limit : Float) :
    (∃ document, (load files given (some (.real limit))).result = .ok document) ↔
      ∃ text, Utf8.decode bytes = .ok text ∧
        ∃ value, Json.decode text.unifyLineEnds = .ok value := by
  simp only [load_eq_ok_iff]
  constructor
  · rintro ⟨document, loaded⟩
    rcases loaded.content with ⟨foundBytes, text, foundAgain, decoded, spelled⟩
    rw [found] at foundAgain
    cases foundAgain
    exact ⟨text, decoded, _, spelled⟩
  · rintro ⟨text, decoded, value, spelled⟩
    refine
      ⟨⟨Path.ofText given, kilobytes bytes.length, value,
        .ofErrors (sizeErrors limit (kilobytes bytes.length))⟩, rfl, ?_, rfl, ?_⟩
    · simp only [sizeAt?, found]
    · exact ⟨bytes, text, found, decoded, spelled⟩

theorem loads_iff_encodes
    (found : files.find (Path.ofText given).text = .ok (.file bytes none))
    (within : ¬ExceedsLimits bytes)
    (limit : Float) :
    (∃ document, (load files given (some (.real limit))).result = .ok document) ↔
      Encodes admittedWords bytes := by
  rw [loads_iff_decodes found limit]
  constructor
  · rintro ⟨text, decoded, spelled⟩
    exact (decodes_iff within decoded).mp spelled
  · intro encodes
    rcases encodes with ⟨string, encoded, document⟩
    have decoded := (Utf8.decode_eq_ok_iff bytes _).mpr ⟨string, encoded, rfl⟩
    exact ⟨_, decoded, (decodes_iff within decoded).mpr ⟨string, encoded, document⟩⟩

theorem misspells_of_not_encodes
    (within : ¬ExceedsLimits bytes)
    (other : ¬Encodes admittedWords bytes) :
    Misspells bytes := by
  cases decoded : Utf8.decode bytes with
  | error error => exact .encoding decoded
  | ok text =>
      cases spelled : Json.decode text.unifyLineEnds with
      | ok value => exact absurd ((decodes_iff within decoded).mp ⟨value, spelled⟩) other
      | error error =>
          cases error with
          | syntaxFault fault position => exact .syntaxFault decoded spelled
          | integer error => exact absurd ⟨text, _, decoded, spelled, .integer error⟩ within
          | nestedTooDeeply container =>
              exact absurd ⟨text, _, decoded, spelled, .nesting container⟩ within

/--
The file with these bytes is loaded exactly if they are the encoding of a document
in which the words stand for values, and refused as no JSON text otherwise.
-/
def LoadsExactly
    (words : List Text)
    (files : FileTree)
    (given : Text)
    (limit : Float)
    (bytes : Bytes) :
    Prop :=
  ((∃ document, (load files given (some (.real limit))).result = .ok document) ↔
      Encodes words bytes) ∧
    (¬Encodes words bytes →
      (load files given (some (.real limit))).result =
        .error (.foreseen ⟨.notJson, some (kilobytes bytes.length)⟩))

theorem not_exceedsLimits_of_decode
    {text : Text}
    {value : Json.Value}
    (decoded : Utf8.decode bytes = .ok text)
    (spelled : Json.decode text.unifyLineEnds = .ok value) :
    ¬ExceedsLimits bytes := by
  rintro ⟨other, error, decodedOther, refused, -⟩
  rw [decoded] at decodedOther
  cases decodedOther
  rw [spelled] at refused
  cases refused

/--
Within the limits the documents of the decoder are loaded and nothing else is.
For the documents of the standard this holds just as well, unless the file is a
document of the decoder that has a word for a number outside of its strings.
-/
theorem loads_standard_documents_iff_no_number_word
    (found : files.find (Path.ofText given).text = .ok (.file bytes none))
    (within : ¬ExceedsLimits bytes)
    (limit : Float) :
    LoadsExactly admittedWords files given limit bytes ∧
      (LoadsExactly standardWords files given limit bytes ↔
        ¬(Encodes admittedWords bytes ∧ EncodesNumberWord bytes)) ∧
      LoadCause.notJson.message =
        Text.ofString
          "The OpenAPI document is not valid JSON. Please correct the document and try again." := by
  have loads := loads_iff_encodes found within limit
  have refused (other : ¬Encodes admittedWords bytes) :
      (load files given (some (.real limit))).result =
        .error (.foreseen ⟨.notJson, some (kilobytes bytes.length)⟩) :=
    load_of_misspelled found (misspells_of_not_encodes within other)
  refine ⟨⟨loads, refused⟩, ?_, rfl⟩
  unfold LoadsExactly
  rw [loads, encodes_standardWords_iff]
  constructor
  · rintro ⟨same, -⟩ ⟨encodes, number⟩
    exact (same.mp encodes).2 number
  · intro noNumber
    have same : Encodes admittedWords bytes ↔
        Encodes admittedWords bytes ∧ ¬EncodesNumberWord bytes :=
      ⟨fun encodes => ⟨encodes, fun number => noNumber ⟨encodes, number⟩⟩, And.left⟩
    exact ⟨same, fun other => refused (mt same.mp other)⟩

/-- In a string a word for a number is a word like any other. -/
theorem quoted_number_word_is_loaded :
    (soleFile [0x22, 0x4E, 0x61, 0x4E, 0x22]).find (Path.ofText "d.json").text =
        .ok (.file [0x22, 0x4E, 0x61, 0x4E, 0x22] none) ∧
      ¬ExceedsLimits [0x22, 0x4E, 0x61, 0x4E, 0x22] ∧
      Encodes standardWords [0x22, 0x4E, 0x61, 0x4E, 0x22] ∧
      LoadsExactly standardWords (soleFile [0x22, 0x4E, 0x61, 0x4E, 0x22]) "d.json" 500
        [0x22, 0x4E, 0x61, 0x4E, 0x22] := by
  have found :
      (soleFile [0x22, 0x4E, 0x61, 0x4E, 0x22]).find (Path.ofText "d.json").text =
        .ok (.file [0x22, 0x4E, 0x61, 0x4E, 0x22] none) := rfl
  have decoded : Utf8.decode [0x22, 0x4E, 0x61, 0x4E, 0x22] = .ok "\"NaN\"" := rfl
  have spelled : Json.decode (Text.unifyLineEnds "\"NaN\"") = .ok (.string "NaN") := rfl
  have within := not_exceedsLimits_of_decode decoded spelled
  have noNumber : ¬EncodesNumberWord [0x22, 0x4E, 0x61, 0x4E, 0x22] := by
    unfold EncodesNumberWord
    rw [exists_string_iff decoded fun text => namesNumber text = true]
    decide
  have encodes := (decodes_iff within decoded).mp ⟨_, spelled⟩
  exact
    ⟨found, within, encodes_standardWords_iff.mpr ⟨encodes, noNumber⟩,
      (loads_standard_documents_iff_no_number_word found within 500).2.1.mpr
        fun both => noNumber both.2⟩

/-- A word for a number is loaded, though it is no document of the standard. -/
theorem number_word_is_loaded :
    ¬ExceedsLimits [0x4E, 0x61, 0x4E] ∧
      (∃ document,
        (load (soleFile [0x4E, 0x61, 0x4E]) "d.json" (some (.real 500))).result = .ok document) ∧
      ¬Encodes standardWords [0x4E, 0x61, 0x4E] ∧
      ¬LoadsExactly standardWords (soleFile [0x4E, 0x61, 0x4E]) "d.json" 500
        [0x4E, 0x61, 0x4E] := by
  have decoded : Utf8.decode [0x4E, 0x61, 0x4E] = .ok "NaN" := rfl
  have spelled : Json.decode (Text.unifyLineEnds "NaN") = .ok (.double (0.0 / 0.0)) := rfl
  have found :
      (soleFile [0x4E, 0x61, 0x4E]).find (Path.ofText "d.json").text =
        .ok (.file [0x4E, 0x61, 0x4E] none) := rfl
  have loads := (loads_iff_decodes found 500).mpr ⟨_, decoded, _, spelled⟩
  have other : ¬Encodes standardWords [0x4E, 0x61, 0x4E] := by
    rw [encodes_standardWords_iff]
    rintro ⟨-, noNumber⟩
    apply noNumber
    unfold EncodesNumberWord
    rw [exists_string_iff decoded fun text => namesNumber text = true]
    decide
  exact
    ⟨not_exceedsLimits_of_decode decoded spelled, loads, other,
      fun exactly => other (exactly.1.mp loads)⟩

end OpenApiGate.Document

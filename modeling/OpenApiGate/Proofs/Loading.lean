import OpenApiGate.Document
import OpenApiGate.Proofs.Traces

/-!
# What loading a document comes to

A document is loaded exactly if its path leads to a file that can be read to its
end and whose bytes spell a JSON text.  The size of a file is known before it is
read, so that every error knows the size but the one for a path without a file.
-/

namespace OpenApiGate.Document

open Json (Value)
open Traced

/-- The size of the file that a path leads to, if it leads to one. -/
def sizeAt?
    (files : FileTree)
    (given : Text) :
    Option Float :=
  match files.find (Path.ofText given).text with
  | .ok (.file content _) => some (kilobytes content.length)
  | _ => none

/-- The errors about the size of a document: at most one. -/
def sizeErrors (limit sizeKb : Float) : List Finding :=
  if limit < sizeKb then [oversized (Decimal.plain sizeKb) (Decimal.limit limit)] else []

theorem length_sizeErrors_le (limit sizeKb : Float) :
    (sizeErrors limit sizeKb).length ≤ 1 := by
  unfold sizeErrors
  split
  · exact Nat.le_refl 1
  · exact Nat.zero_le 1

/-! ## The steps of loading -/

/-- A file is opened if the path leads to one. -/
theorem openFile_eq_ok_iff
    (files : FileTree)
    (given : Text)
    (content : Bytes)
    (readFault : Option Fault) :
    (openFile files given).result = .ok (content, readFault) ↔
      files.find (Path.ofText given).text = .ok (.file content readFault) := by
  simp only [openFile]
  split
  · next foundContent foundFault found => simp [found]
  · next found => simp [abort, fail, found]
  · next noFile _ =>
      refine iff_of_false (by simp [reject, fail]) ?_
      intro found
      exact noFile content readFault found

/-- The only condition that opening a file foresees is that there is no file. -/
theorem openFile_foreseen
    {files : FileTree}
    {given : Text}
    {error : LoadError}
    (failure : (openFile files given).result = .error (.foreseen error)) :
    error = ⟨.notFound given, none⟩ ∧ sizeAt? files given = none := by
  simp only [openFile] at failure
  split at failure
  · cases failure
  · cases failure
  · next noFile _ =>
      cases failure
      refine ⟨rfl, ?_⟩
      unfold sizeAt?
      split
      · next content fault found => exact absurd found (noFile content fault)
      · rfl

/-- The size is checked against a double, and that gives an answer. -/
theorem result_checkSize (limit sizeKb : Float) :
    (checkSize (some (.real limit)) sizeKb).result = .ok (.ofErrors (sizeErrors limit sizeKb)) := by
  unfold checkSize sizeErrors
  by_cases exceeds : limit < sizeKb
  · have isExceeded : (Quantity.real limit).isExceededBy sizeKb = true := decide_eq_true exceeds
    simp only [isExceeded, if_true, if_pos exceeds]
    rfl
  · have notExceeded : (Quantity.real limit).isExceededBy sizeKb = false := decide_eq_false exceeds
    simp only [notExceeded, if_neg exceeds]
    rfl

theorem checkFault_eq_ok_iff
    (given : Text)
    (sizeKb : Float)
    (readFault : Option Fault)
    (done : Unit) :
    (checkFault given sizeKb readFault).result = .ok done ↔ readFault = none := by
  cases readFault with
  | none => exact iff_of_true rfl rfl
  | some fault =>
      refine iff_of_false ?_ (Option.some_ne_none fault)
      simp only [checkFault]
      by_cases isSystem : fault.kind.isSystem = true
      · simp [isSystem, reject, fail]
      · simp [isSystem, abort, fail]

/-- The text of a file is what its bytes spell, with one kind of line ends. -/
theorem readText_eq_ok_iff
    (path : Path)
    (sizeKb : Float)
    (content : Bytes)
    (text : Text) :
    (readText path sizeKb content).result = .ok text ↔
      ∃ spelled, Utf8.decode content = .ok spelled ∧ spelled.unifyLineEnds = text := by
  unfold readText
  cases Utf8.decode content with
  | ok spelled => simp
  | error error => simp [rejectContent, reject, fail, result_bind_eq_ok_iff]

theorem readValue_eq_ok_iff
    (path : Path)
    (sizeKb : Float)
    (text : Text)
    (value : Value) :
    (readValue path sizeKb text).result = .ok value ↔ Json.decode text = .ok value := by
  unfold readValue
  split <;> simp_all [abort, rejectContent, reject, fail, result_bind_eq_ok_iff]

/-- The error of a file that is there: it knows the size. -/
def LoadError.KnowsSize
    (error : LoadError)
    (sizeKb : Float) :
    Prop :=
  error.sizeKb = some sizeKb ∧ ∀ path, error.cause ≠ .notFound path

theorem checkFault_foreseen
    {given : Text}
    {sizeKb : Float}
    {readFault : Option Fault}
    {error : LoadError}
    (failure : (checkFault given sizeKb readFault).result = .error (.foreseen error)) :
    error.KnowsSize sizeKb := by
  cases readFault with
  | none => cases failure
  | some fault =>
      simp only [checkFault] at failure
      split at failure
      · cases failure
        exact ⟨rfl, fun path => LoadCause.noConfusion⟩
      · cases failure

theorem rejectContent_foreseen
    {α : Type}
    {path : Path}
    {sizeKb : Float}
    {detail : Text}
    {error : LoadError}
    (failure :
      (rejectContent path sizeKb detail : Loading α).result = .error (.foreseen error)) :
    error.KnowsSize sizeKb := by
  cases failure
  exact ⟨rfl, fun path => LoadCause.noConfusion⟩

theorem readText_foreseen
    {path : Path}
    {sizeKb : Float}
    {content : Bytes}
    {error : LoadError}
    (failure : (readText path sizeKb content).result = .error (.foreseen error)) :
    error.KnowsSize sizeKb := by
  unfold readText at failure
  split at failure
  · cases failure
  · exact rejectContent_foreseen failure

/-- What is foreseen after the file was opened comes with its size. -/
theorem readValue_foreseen
    {path : Path}
    {sizeKb : Float}
    {text : Text}
    {error : LoadError}
    (failure : (readValue path sizeKb text).result = .error (.foreseen error)) :
    error.KnowsSize sizeKb := by
  unfold readValue at failure
  split at failure
  · cases failure
  · cases failure
  · cases failure
    exact ⟨rfl, fun path => LoadCause.noConfusion⟩
  · exact rejectContent_foreseen failure

/-! ## Loading -/

/-- A document that is loaded from a path under a limit. -/
structure IsLoaded
    (files : FileTree)
    (given : Text)
    (limit : Float)
    (document : Document) :
    Prop where
  path : document.path = Path.ofText given
  size : sizeAt? files given = some document.sizeKb
  sizeFindings : document.sizeFindings = .ofErrors (sizeErrors limit document.sizeKb)
  content :
    ∃ bytes text, files.find (Path.ofText given).text = .ok (.file bytes none) ∧
      Utf8.decode bytes = .ok text ∧ Json.decode text.unifyLineEnds = .ok document.content

/-- A document is loaded exactly if the path leads to a file whose bytes spell it. -/
theorem load_eq_ok_iff
    (files : FileTree)
    (given : Text)
    (limit : Float)
    (document : Document) :
    (load files given (some (.real limit))).result = .ok document ↔
      IsLoaded files given limit document := by
  simp only [load, result_bind_eq_ok_iff, Prod.exists, openFile_eq_ok_iff, result_checkSize,
    checkFault_eq_ok_iff, readText_eq_ok_iff, readValue_eq_ok_iff]
  constructor
  · rintro ⟨bytes, readFault, found, sizeFindings, ⟨⟩, ⟨⟩, rfl, _, ⟨text, spelled, rfl⟩, content,
      decoded, ⟨⟩⟩
    exact
      { path := rfl
        size := by simp only [sizeAt?, found]
        sizeFindings := rfl
        content := ⟨bytes, text, found, spelled, decoded⟩ }
  · rintro ⟨path, size, sizeFindings, bytes, text, found, spelled, decoded⟩
    simp only [sizeAt?, found, Option.some.injEq] at size
    refine
      ⟨bytes, none, found, _, rfl, (), rfl, _, ⟨text, spelled, rfl⟩, document.content, decoded, ?_⟩
    rcases document with ⟨documentPath, sizeKb, content, findings⟩
    simp_all

/-- Every error knows the size of the file, unless there is no file. -/
theorem sizeKb_of_load_foreseen
    {files : FileTree}
    {given : Text}
    {limit : Float}
    {error : LoadError}
    (failure : (load files given (some (.real limit))).result = .error (.foreseen error)) :
    error.sizeKb = sizeAt? files given ∧
      (error.cause = .notFound given ↔ error.sizeKb = none) := by
  rcases result_bind_eq_error_iff.mp failure with noFile | ⟨⟨bytes, readFault⟩, opened, failure⟩
  · rcases openFile_foreseen noFile with ⟨rfl, noSize⟩
    exact ⟨noSize.symm, iff_of_true rfl rfl⟩
  · have found := (openFile_eq_ok_iff _ _ _ _).mp opened
    -- From here on the size is known, and every step that stops passes it on.
    have knows : error.KnowsSize (kilobytes bytes.length) := by
      rcases result_bind_eq_error_iff.mp failure with tooLarge | ⟨_, -, failure⟩
      · rw [result_checkSize] at tooLarge
        cases tooLarge
      rcases result_bind_eq_error_iff.mp failure with fault | ⟨_, -, failure⟩
      · exact checkFault_foreseen fault
      rcases result_bind_eq_error_iff.mp failure with noText | ⟨_, -, failure⟩
      · exact readText_foreseen noText
      rcases result_bind_eq_error_iff.mp failure with noValue | ⟨_, -, failure⟩
      · exact readValue_foreseen noValue
      · cases failure
    rcases knows with ⟨known, noSuchCause⟩
    constructor
    · simp only [known, sizeAt?, found]
    · exact iff_of_false (noSuchCause given) (by simp [known])

/-! ## The events of loading -/

/-- None of the steps of a loading does more than write records. -/
theorem onlyRecords_openFile
    (files : FileTree)
    (given : Text) :
    OnlyRecords (openFile files given).events := by
  simp only [openFile]
  split <;> exact .nil

theorem onlyRecords_checkSize
    (limit : Option Quantity)
    (sizeKb : Float) :
    OnlyRecords (checkSize limit sizeKb).events := by
  cases limit with
  | none => exact .nil
  | some limit =>
      simp only [checkSize]
      split
      · refine onlyRecords_bind (onlyRecords_log _ _ _) fun _ => ?_
        split <;> exact .nil
      · exact .nil

theorem onlyRecords_checkFault
    (given : Text)
    (sizeKb : Float)
    (readFault : Option Fault) :
    OnlyRecords (checkFault given sizeKb readFault).events := by
  unfold checkFault
  split
  · exact .nil
  · split <;> exact .nil

theorem onlyRecords_rejectContent
    {α : Type}
    (path : Path)
    (sizeKb : Float)
    (detail : Text) :
    OnlyRecords (rejectContent path sizeKb detail : Loading α).events :=
  onlyRecords_bind (onlyRecords_log _ _ _) fun _ => .nil

theorem onlyRecords_readText
    (path : Path)
    (sizeKb : Float)
    (content : Bytes) :
    OnlyRecords (readText path sizeKb content).events := by
  unfold readText
  split
  · exact .nil
  · exact onlyRecords_rejectContent _ _ _

theorem onlyRecords_readValue
    (path : Path)
    (sizeKb : Float)
    (text : Text) :
    OnlyRecords (readValue path sizeKb text).events := by
  unfold readValue
  split
  · exact .nil
  · exact .nil
  · exact .nil
  · exact onlyRecords_rejectContent _ _ _

/-- Loading does nothing but write log records. -/
theorem onlyRecords_load
    (files : FileTree)
    (given : Text)
    (limit : Option Quantity) :
    OnlyRecords (load files given limit).events := by
  apply onlyRecords_bind (onlyRecords_openFile files given)
  rintro ⟨content, readFault⟩
  apply onlyRecords_bind (onlyRecords_checkSize _ _)
  intro sizeFindings
  apply onlyRecords_bind (onlyRecords_checkFault _ _ _)
  intro readable
  apply onlyRecords_bind (onlyRecords_readText _ _ _)
  intro text
  apply onlyRecords_bind (onlyRecords_readValue _ _ _)
  intro value
  exact .nil

end OpenApiGate.Document

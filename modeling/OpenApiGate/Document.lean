import OpenApiGate.Failure
import OpenApiGate.Files.Kilobytes
import OpenApiGate.Files.Tree
import OpenApiGate.Json.Decoder
import OpenApiGate.Text.Newline
import OpenApiGate.Trace

/-!
# Loading a document

A document is a file whose bytes spell a JSON text.  A file larger than the
limit is an error in the document and not a reason to stop: it is read and
decoded like any other.
-/

namespace OpenApiGate

open Json (Value)

/-- A decoded document. -/
structure Document where
  /-- Where the document was found. -/
  path : Path
  /-- Its size in kilobytes. -/
  sizeKb : Float
  /-- What the document says. -/
  content : Value
  /-- An error if the document is larger than the limit. -/
  sizeFindings : Findings

namespace Document

/-- Why there is no document at a path. -/
inductive LoadCause where
  /-- The path leads to no file. -/
  | notFound (path : Text)
  /-- The file cannot be read. -/
  | unreadable (path : Text) (fault : Fault)
  /-- The file is no JSON text. -/
  | notJson
  /-- The JSON text is nested too deeply. -/
  | tooDeep
deriving DecidableEq

/-- The wording of a cause. -/
def LoadCause.message : LoadCause → Text
  | .notFound path => "File not found: " ++ path
  | .unreadable path fault => "Could not read " ++ path ++ ": " ++ fault.message
  | .notJson =>
    "The OpenAPI document is not valid JSON. Please correct the document and try again."
  | .tooDeep => "The OpenAPI document is nested too deeply to be parsed."

/-- Why a document is not loaded, and the size of the file if there is one. -/
structure LoadError where
  cause : LoadCause
  sizeKb : Option Float

/-- Steps of loading. -/
abbrev Loading := Traced (Stop LoadError)

/-- Loading ends for a cause. -/
def reject
    {α : Type}
    (cause : LoadCause)
    (sizeKb : Option Float) :
    Loading α :=
  Traced.fail (.foreseen ⟨cause, sizeKb⟩)

/-- Loading ends in a failure. -/
def abort {α : Type} (failure : Failure) : Loading α :=
  Traced.fail (.unforeseen failure)

/-- The error for a document of a size that exceeds a limit. -/
def oversized (size limit : Text) : Finding :=
  Finding.error []
    ("File size " ++ size ++ "KB exceeds the ~" ++ limit ++
      "KB upload limit. Reduce the document (for example with a subset of its paths) " ++
      "before uploading.")

/-- The findings about the size of a document; without a limit there is no answer. -/
def checkSize
    (limit : Option Quantity)
    (sizeKb : Float) :
    Loading Findings :=
  match limit with
  | none => abort (.noLimit .comparison)
  | some limit =>
    if limit.isExceededBy sizeKb then do
      let size := Decimal.plain sizeKb
      Traced.log .debug .loading
        ("Document is " ++ size ++ "KB, limit is " ++ limit.plain ++ "KB")
      match limit.limit? with
      | none => abort .limitTooLarge
      | some shown => pure (.ofErrors [oversized size shown])
    else pure .empty

/-- The bytes of the file that a path leads to, and the fault of reading it. -/
def openFile
    (files : FileTree)
    (given : Text) :
    Loading (Bytes × Option Fault) :=
  let path := (Path.ofText given).text
  match files.find path with
  | .ok (.file content readFault) => pure (content, readFault)
  | .error .tooLong => abort (.pathTooLong path)
  | _ => reject (.notFound given) none

/-- A fault of reading ends the loading. -/
def checkFault
    (given : Text)
    (sizeKb : Float) :
    Option Fault → Loading Unit
  | none => pure ()
  | some fault =>
    if fault.kind.isSystem then reject (.unreadable given fault) (some sizeKb)
    else abort (.fault fault)

/-- Loading ends because the file is no JSON text; the record says where it is not. -/
def rejectContent
    {α : Type}
    (path : Path)
    (sizeKb : Float)
    (detail : Text) :
    Loading α := do
  Traced.log .debug .loading ("Failed to decode " ++ path.text ++ ": " ++ detail)
  reject .notJson (some sizeKb)

/-- The text that the bytes of a file spell. -/
def readText
    (path : Path)
    (sizeKb : Float)
    (content : Bytes) :
    Loading Text :=
  match Utf8.decode content with
  | .ok text => pure text.unifyLineEnds
  | .error error => rejectContent path sizeKb error.message

/-- The value that the text of a file spells. -/
def readValue
    (path : Path)
    (sizeKb : Float)
    (text : Text) :
    Loading Value :=
  match Json.decode text with
  | .ok value => pure value
  | .error (.integer error) => abort (.integer error)
  | .error (.nestedTooDeeply _) => reject .tooDeep (some sizeKb)
  | .error error => rejectContent path sizeKb error.message

/-- Loads the document at a path, given the largest size that is accepted. -/
def load
    (files : FileTree)
    (given : Text)
    (limit : Option Quantity) :
    Loading Document := do
  let path := Path.ofText given
  let (content, readFault) ← openFile files given
  let sizeKb := kilobytes content.length
  let sizeFindings ← checkSize limit sizeKb
  checkFault given sizeKb readFault
  let text ← readText path sizeKb content
  let value ← readValue path sizeKb text
  pure ⟨path, sizeKb, value, sizeFindings⟩

end Document

end OpenApiGate

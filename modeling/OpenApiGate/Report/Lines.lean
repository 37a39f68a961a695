import OpenApiGate.Failure
import OpenApiGate.Quantity
import OpenApiGate.Verdict

/-!
# The report to read

A verdict as lines of text: a heading, the size of the document, a banner, the
errors, and as many warnings as wanted with a count of the others.  A check
that was stopped is reported by the condition that stopped it and nothing else.
-/

namespace OpenApiGate

/-- What a report shows besides the verdict. -/
structure ReportOptions where
  /-- The name of the document. -/
  document : Text
  /-- The largest size that is accepted, in kilobytes, if it is known. -/
  limit : Option Quantity
  /-- How many warnings are itemized; a negative number leaves out that many at the end. -/
  shownWarnings : Int

namespace Report

/-- A count with a word in singular or plural. -/
def counted
    (count : Nat)
    (word : Text) :
    Text :=
  Text.ofNat count ++ " " ++ word ++ if count = 1 then [] else Text.ofString "s"

/-- A line of one repeated character. -/
def rule
    (length : Nat)
    (char : Char) :
    Text :=
  List.replicate length (CodePoint.ofChar char)

/-- The line for the size of the document, if it is known. -/
def sizeLines
    (limit : Option Quantity) :
    Option Float → Except Failure (List Text)
  | none => .ok []
  | some sizeKb =>
    match limit.map Quantity.limit? with
    | none => .error (.noLimit .report)
    | some none => .error .limitTooLarge
    | some (some shown) =>
      .ok ["Size: " ++ Decimal.plain sizeKb ++ " KB (limit: ~" ++ shown ++ " KB)"]

/-- The lines above the banner. -/
def headLines
    (document : Text)
    (size : List Text) :
    List Text :=
  [] :: ("OpenAPI Preflight Linter - " ++ document) :: rule 50 '=' :: (size ++ [[]])

/-- The line for a condition that stopped the check. -/
def fatalLine (condition : Text) : Text :=
  "FATAL: " ++ condition

/-- The line for a document without errors. -/
def passedLine : Text :=
  "✓ PASSED - Ready for upload"

/-- The line for a document with errors. -/
def failedLine (errorCount : Nat) : Text :=
  "✗ FAILED - " ++ counted errorCount "error" ++ " must be fixed"

/-- The banner over the findings. -/
def bannerLines (errorCount warningCount : Nat) : List Text :=
  if errorCount = 0 then
    passedLine ::
      if warningCount = 0 then []
      else ["  (" ++ counted warningCount "warning" ++ " - optional to fix)"]
  else [failedLine errorCount]

/-- A line for a detail of a finding, unless the detail is empty. -/
def detailLines (label detail : Text) : List Text :=
  if detail.isEmpty then [] else ["  " ++ label ++ ": " ++ detail]

/-- The lines for an error. -/
def errorLines (error : Finding) : List Text :=
  ("✗ " ++ error.message) ::
    (detailLines "at" error.path ++ detailLines "rule" (error.code.getD []) ++ [[]])

/-- The lines for a warning. -/
def warningLines (warning : Finding) : List Text :=
  ("⚠ " ++ warning.message) :: (detailLines "at" warning.path ++ [[]])

/-- The section for the errors, if there are any. -/
def errorSection (errors : List Finding) : List Text :=
  if errors.isEmpty then []
  else Text.ofString "Errors:" :: rule 40 '-' :: errors.flatMap errorLines

/-- The first findings of a list, or all but the last ones if the number is negative. -/
def itemized (shown : Int) (findings : List Finding) : List Finding :=
  match shown with
  | .ofNat count => findings.take count
  | .negSucc count => findings.take (findings.length - (count + 1))

/-- How many warnings are announced besides those that are itemized. -/
def remaining
    (shown : Int)
    (warnings : List Finding) :
    Nat :=
  if warnings.isEmpty then 0 else (warnings.length - shown).toNat

/-- The number of the announced warnings can be written, if the report has it at all. -/
def checkRemaining
    (shown : Int)
    (verdict : Verdict) :
    Except Failure Unit :=
  let number := Text.ofNat (remaining shown verdict.warnings)
  if verdict.fatal.isNone && decide (Decimal.integerDigitLimit < number.length) then
    .error (.integer .unwritable)
  else .ok ()

/-- The lines that count the warnings beyond the wanted number. -/
def remainderLines
    (shown : Int)
    (warningCount : Nat) :
    List Text :=
  let others := warningCount - shown
  if 0 < others then
    ["  ... and " ++ counted others.toNat "more warning", []]
  else []

/-- The section for the warnings, if there are any. -/
def warningSection
    (shown : Int)
    (warnings : List Finding) :
    List Text :=
  if warnings.isEmpty then []
  else
    Text.ofString "Warnings (optional):" :: rule 40 '-' ::
      ((itemized shown warnings).flatMap warningLines ++
        remainderLines shown warnings.length)

/-- The lines below the heading. -/
def bodyLines
    (shown : Int)
    (verdict : Verdict) :
    List Text :=
  match verdict.fatal with
  | some condition => [fatalLine condition]
  | none =>
    bannerLines verdict.errors.length verdict.warnings.length ++ [[]] ++
      errorSection verdict.errors ++ warningSection shown verdict.warnings

/-- The lines of the report on a verdict. -/
def lines
    (options : ReportOptions)
    (verdict : Verdict) :
    Except Failure (List Text) := do
  let size ← sizeLines options.limit verdict.sizeKb
  checkRemaining options.shownWarnings verdict
  return headLines options.document size ++ bodyLines options.shownWarnings verdict

/-- The report on a verdict. -/
def text
    (options : ReportOptions)
    (verdict : Verdict) :
    Except Failure Text :=
  (lines options verdict).map (Text.joined "\n")

end Report

end OpenApiGate

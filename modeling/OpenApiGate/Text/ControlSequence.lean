import OpenApiGate.Text.CodePoint

/-!
# Control sequences

A terminal takes an escape character and a bracket as the start of a control
sequence: parameters follow, and a letter ends it.  What is printed for no
terminal has no control sequences.  A sequence without its letter is text like
any other.
-/

namespace OpenApiGate

namespace CodePoint

/-- The character that starts a control sequence. -/
def isEscape (point : CodePoint) : Bool :=
  point.value == 0x1B

/-- The parameters of a control sequence. -/
def isControlParameter (point : CodePoint) : Bool :=
  point.isDigit || point.is ';' || point.is '?'

/-- The letters that end a control sequence. -/
def isControlEnd (point : CodePoint) : Bool :=
  point.inRange 0x41 0x5A || point.inRange 0x61 0x7A

end CodePoint

namespace Text

/-- The length of the control sequence with which a text starts; zero if there is none. -/
def controlLength : Text → Nat
  | first :: second :: rest =>
    if first.isEscape && second.is '[' then
      let parameters := rest.takeWhile CodePoint.isControlParameter
      let after := rest.drop parameters.length
      if after.head?.any CodePoint.isControlEnd then parameters.length + 3 else 0
    else 0
  | _ => 0

/-- A text without its control sequences and without so many code points at its start. -/
def dropControls (skipped : Nat) : Text → Text
  | [] => []
  | point :: rest =>
    match skipped with
    | more + 1 => dropControls more rest
    | 0 =>
      match controlLength (point :: rest) with
      | 0 => point :: dropControls 0 rest
      | length + 1 => dropControls length rest

/-- A text without its control sequences. -/
def withoutControls : Text → Text :=
  dropControls 0

/-- No control sequence starts where there is no escape character. -/
theorem controlLength_of_not_isEscape
    {point : CodePoint}
    (plain : point.isEscape = false)
    (rest : Text) :
    controlLength (point :: rest) = 0 := by
  cases rest with
  | nil => rfl
  | cons second rest => simp [controlLength, plain]

/-- A text without escape characters is kept. -/
theorem withoutControls_of_no_escape
    (text : Text)
    (plain : ∀ point ∈ text, point.isEscape = false) :
    text.withoutControls = text := by
  show dropControls 0 text = text
  induction text with
  | nil => rfl
  | cons point rest ih =>
    rw [dropControls,
      controlLength_of_not_isEscape (plain point (List.mem_cons_self ..)),
      ih fun other within => plain other (List.mem_cons_of_mem point within)]

end Text

end OpenApiGate

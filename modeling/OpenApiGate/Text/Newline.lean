import OpenApiGate.Text.CodePoint

/-!
# Line ends

A line of a file may end in a line feed, in a carriage return, or in both.
-/

namespace OpenApiGate.Text

/-- A text whose lines all end in a line feed. -/
def unifyLineEnds : Text → Text
  | [] => []
  | first :: rest =>
    if first.is '\r' then
      match rest with
      | [] => ['\n']
      | second :: after =>
        if second.is '\n' then '\n' :: unifyLineEnds after
        else '\n' :: unifyLineEnds (second :: after)
    else first :: unifyLineEnds rest

end OpenApiGate.Text

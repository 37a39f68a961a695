import OpenApiGate.Text.Blank
import OpenApiGate.Text.Newline

/-!
# The settings file

The settings file gives values to variables, one a line: a name, an equals sign
and a value, which may stand in quotation marks.  Text after a hash sign is a
comment.  Text that cannot be read is skipped up to the end of its line, and
the line on which it starts is told.  A value may refer to earlier variables of
the file and to variables of the environment.
-/

namespace OpenApiGate.SettingsFile

/-- A variable and its value; a name without an equals sign has none. -/
abbrev Assignment := Text × Option Text

/-- What a stretch of a settings file says. -/
inductive Statement where
  /-- A variable gets a value. -/
  | assign (assignment : Assignment)
  /-- A comment, or blank lines at the end of the file. -/
  | remark
  /-- Text that cannot be read; it starts on the line of this number. -/
  | unreadable (line : Nat)
deriving DecidableEq

/-- What was read and the text after it, or the text at which reading stopped. -/
abbrev Reading (α : Type) := Except Text (α × Text)

/--
The text up to a closing quotation mark, and the text after the mark.  A code
point after a backslash closes nothing.
-/
def upToMark (mark : Char) : Text → Option (Text × Text)
  | [] => none
  | [point] => if point.is mark then some ([], []) else none
  | point :: next :: rest =>
    if point.is mark then some ([], next :: rest)
    else if point.is '\\' then
      (upToMark mark rest).map fun (inner, after) => (point :: next :: inner, after)
    else (upToMark mark (next :: rest)).map fun (inner, after) => (point :: inner, after)

/-- A text whose escapes, a backslash and a code point, are replaced. -/
def unescape (meaning? : CodePoint → Option CodePoint) : Text → Text
  | [] => []
  | [point] => [point]
  | point :: next :: rest =>
    if point.is '\\' then
      match meaning? next with
      | some meaning => meaning :: unescape meaning? rest
      | none => point :: unescape meaning? (next :: rest)
    else point :: unescape meaning? (next :: rest)

/-- The escapes between apostrophes. -/
def plainEscape? (point : CodePoint) : Option CodePoint :=
  if point.is '\\' || point.is '\'' then some point else none

/-- The escapes between double quotes. -/
def letterEscape? (point : CodePoint) : Option CodePoint :=
  if point.is '\\' || point.is '\'' || point.is '"' then some point
  else if point.is 'a' then some (CodePoint.ofNat 0x07)
  else if point.is 'b' then some (CodePoint.ofNat 0x08)
  else if point.is 't' then some (CodePoint.ofNat 0x09)
  else if point.is 'n' then some (CodePoint.ofNat 0x0A)
  else if point.is 'v' then some (CodePoint.ofNat 0x0B)
  else if point.is 'f' then some (CodePoint.ofNat 0x0C)
  else if point.is 'r' then some (CodePoint.ofNat 0x0D)
  else none

/-- The end of a line. -/
def isLineEnd (point : CodePoint) : Bool :=
  point.is '\n'

/-- A text without the comment at its end, which follows a blank. -/
def withoutComment (previous : Option CodePoint) : Text → Text
  | [] => []
  | point :: rest =>
    if point.is '#' && previous.any CodePoint.isBlank then []
    else point :: withoutComment (some point) rest

/-- A value that stands in no quotation marks: the rest of its line without blanks around. -/
def readPlainValue (text : Text) : Text × Text :=
  let line := text.takeWhile (!isLineEnd ·)
  ((withoutComment none line).trimWhile CodePoint.isBlank, text.drop line.length)

/-- A value between quotation marks, the first of which has been read. -/
def readQuotedValue
    (mark : Char)
    (meaning? : CodePoint → Option CodePoint)
    (start afterMark : Text) :
    Reading Text :=
  match upToMark mark afterMark with
  | some (inner, after) => .ok (unescape meaning? inner, after)
  | none => .error start

/-- A value, in front of which blanks may stand. -/
def readValue (text : Text) : Reading Text :=
  match text.dropWhile CodePoint.isBlankInLine with
  | [] => .ok ([], [])
  | first :: rest =>
    if first.is '\'' then readQuotedValue '\'' plainEscape? (first :: rest) rest
    else if first.is '"' then readQuotedValue '"' letterEscape? (first :: rest) rest
    else .ok (readPlainValue text)

/-- A name, or none where a comment starts. -/
def readName (text : Text) : Reading (Option Text) :=
  match text with
  | [] => .error []
  | first :: rest =>
    if first.is '#' then .ok (none, text)
    else if first.is '\'' then
      let name := rest.takeWhile (!·.is '\'')
      let after := rest.drop name.length
      if name.isEmpty || after.isEmpty then .error text else .ok (some name, after.drop 1)
    else
      let name := text.takeWhile fun point =>
        !(point.is '=' || point.is '#' || point.isBlank)
      if name.isEmpty then .error text else .ok (some name, text.drop name.length)

/-- The value after a name, if an equals sign says that there is one. -/
def readAssigned (text : Text) : Reading (Option Text) :=
  let start := text.dropWhile CodePoint.isBlankInLine
  match start with
  | [] => .ok (none, start)
  | first :: rest =>
    if first.is '=' then
      (readValue rest).map fun (value, after) => (some value, after)
    else .ok (none, start)

/-- The end of a line, which a comment may precede. -/
def readLineEnd (text : Text) : Except Text Text :=
  let start := text.dropWhile CodePoint.isBlankInLine
  let line :=
    if start.head?.any (CodePoint.is '#') then start.dropWhile (!isLineEnd ·) else start
  match line with
  | [] => .ok []
  | first :: rest => if isLineEnd first then .ok rest else .error text

/-- A text without the word that may stand in front of a name. -/
def dropExport (text : Text) : Text :=
  let word := Text.ofString "export"
  let after := text.drop word.length
  if word.isPrefixOf text && after.head?.any CodePoint.isBlankInLine then
    after.dropWhile CodePoint.isBlankInLine
  else text

/-- A text without its first line. -/
def dropLine (text : Text) : Text :=
  (text.dropWhile (!isLineEnd ·)).drop 1

/-- The statement of a line that starts with a name or a comment. -/
def readLine (text : Text) : Reading Statement :=
  (readName (dropExport text)).bind fun (name, afterName) =>
    (readAssigned afterName).bind fun (value, afterValue) =>
      (readLineEnd afterValue).map fun rest =>
        (name.elim .remark fun known => .assign (known, value), rest)

/-- The next statement, which starts on a line of a number, and the text after it. -/
def readStatement
    (line : Nat)
    (text : Text) :
    Statement × Text :=
  match text.dropWhile CodePoint.isBlank with
  | [] => (.remark, [])
  | start =>
    match readLine start with
    | .ok (statement, rest) => (statement, rest)
    | .error stop => (.unreadable line, dropLine stop)

/-- The statements of a text that starts on a line of a number. -/
def statementsFrom
    (line : Nat)
    (text : Text) :
    List Statement :=
  let next := readStatement line text
  if next.2.length < text.length then
    let lineEnds := text.countP isLineEnd - next.2.countP isLineEnd
    next.1 :: statementsFrom (line + lineEnds) next.2
  else []
termination_by text.length
decreasing_by assumption

/-- A text without a byte order mark in front. -/
def dropByteOrderMark : Text → Text
  | [] => []
  | first :: rest => if first.value = 0xFEFF then rest else first :: rest

/-- The statements of the text of a settings file, in order. -/
def statements (text : Text) : List Statement :=
  statementsFrom 1 (dropByteOrderMark text.unifyLineEnds)

/-- The assignments among statements. -/
def assignments (statements : List Statement) : List Assignment :=
  statements.filterMap fun
    | .assign assignment => some assignment
    | _ => none

/-- The numbers of the lines on which text that cannot be read starts. -/
def unreadableLines (statements : List Statement) : List Nat :=
  statements.filterMap fun
    | .unreadable line => some line
    | _ => none

/-- The value that a name has after assignments, the last of which wins. -/
def valueOf?
    (assignments : List Assignment)
    (name : Text) :
    Option (Option Text) :=
  assignments.reverse.lookup name

/-- The text after a reference, the name that is referred to, and a value for want of one. -/
def readReference (text : Text) : Option (Text × Text × Text) :=
  match text with
  | first :: second :: rest =>
    if first.is '$' && second.is '\x7b' then
      let name := rest.takeWhile fun point => !(point.is '\x7d' || point.is ':')
      match rest.drop name.length with
      | [] => none
      | [stop] => if stop.is '\x7d' then some ([], name, []) else none
      | stop :: next :: after =>
        if stop.is '\x7d' then some (next :: after, name, [])
        else if next.is '-' then
          let default := after.takeWhile (!·.is '\x7d')
          match after.drop default.length with
          | [] => none
          | _ :: rest => some (rest, name, default)
        else none
    else none
  | _ => none

/-- A value whose references are replaced by the values that `known` gives to names. -/
def resolve (known : List Assignment) (text : Text) : Text :=
  match text with
  | [] => []
  | first :: after =>
    match readReference (first :: after) with
    | some (rest, name, default) =>
      let value := (valueOf? known name).elim default (·.getD [])
      value ++ if rest.length < after.length + 1 then resolve known rest else []
    | none => first :: resolve known after
termination_by text.length
decreasing_by
  · simp only [List.length_cons]
    assumption
  · exact Nat.lt_succ_self after.length

/-- Assignments whose values are free of references, given the ones known before. -/
def resolveAll (known : List Assignment) : List Assignment → List Assignment
  | [] => []
  | (name, value) :: rest =>
    let resolved := (name, value.map (resolve known))
    resolved :: resolveAll (known ++ [resolved]) rest

end OpenApiGate.SettingsFile

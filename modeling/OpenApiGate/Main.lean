import OpenApiGate.Session

/-!
# The command

Runs the command in the working directory.  This program starts no processes:
the output of the linter is piped in, and without a pipe the linter counts as
not found.
-/

namespace OpenApiGate

namespace Main

/-- The fault of reading a file. -/
def faultOf (error : IO.Error) : Fault :=
  let kind : FaultKind :=
    match error with
    | .permissionDenied .. => .permissionDenied
    | .noFileOrDirectory .. => .fileNotFound
    | _ => .system
  ⟨kind, Text.ofString (toString error)⟩

/-- The file or the directory that a path leads to. -/
def entryAt (path : Text) : IO (Option Entry) := do
  match path.toString? with
  | none => return none
  | some name =>
    match ← (IO.FS.realPath name).toBaseIO with
    | .error _ => return none
    | .ok place =>
      if ← place.isDir then return some .directory
      else if ← place.pathExists then
        match ← (IO.FS.readBinFile place).toBaseIO with
        | .ok content => return some (.file content.toList none)
        | .error error => return some (.file [] (some (faultOf error)))
      else return none

/-- The tree with what a path and the paths on the way to it lead to. -/
def explore (files : FileTree) (text : Text) : IO FileTree := do
  let path := Path.ofText text
  let mut explored := files
  for count in List.range path.components.length do
    let part : Path := ⟨path.root, path.components.take (count + 1)⟩
    if let some found ← entryAt part.text then
      explored := explored.put (files.placeOf part) found
  return explored

/-- What lies at the paths that the words of a command line may mean. -/
def exploreWords (here : Text) (line : List Text) : IO FileTree := do
  let values := line.filterMap fun word =>
    let form := word.takeWhile (!·.is '=')
    if form.length < word.length then some (word.drop (form.length + 1)) else none
  let paths := Text.ofString ".env" :: line ++ values
  paths.foldlM explore (FileTree.emptyAt ((Path.ofText here).components.map Text.nameBytes))

/-- Bytes cut into pieces, each of which ends in a zero byte. -/
def zeroEnded (bytes : Bytes) : List Bytes :=
  bytes.foldr
    (fun byte pieces =>
      if byte = 0 then [] :: pieces
      else (byte :: pieces.headD []) :: pieces.tail)
    []

/-- The variables of an environment block; of several with one name, the first. -/
def variablesOf (block : Bytes) : List (Text × Text) :=
  let listed := (zeroEnded block).filterMap fun piece =>
    let name := piece.takeWhile (· ≠ '='.toUInt8)
    if name.length < piece.length then
      some (Text.ofNameBytes name, Text.ofNameBytes (piece.drop (name.length + 1)))
    else none
  listed.eraseDupsBy fun first second => first.1 == second.1

/-- The variables of the environment, all of which the system lists in one file. -/
def environment : IO (List (Text × Text)) := do
  let block ← IO.FS.readBinFile "/proc/self/environ"
  return variablesOf block.toList

/-- All bytes of a stream. -/
partial def readAll (stream : IO.FS.Stream) (before : ByteArray) : IO ByteArray := do
  let chunk ← stream.read 65536
  if chunk.isEmpty then return before else readAll stream (before ++ chunk)

/-- What becomes of the launcher of the linter whose output is piped in. -/
def pipedLauncher : IO Launcher := do
  let stream ← IO.getStdin
  let missing : SpawnOutcome := .failed ⟨.fileNotFound, []⟩
  if ← stream.isTty then return ⟨false, missing⟩
  else
    match Utf8.decode (← readAll stream ByteArray.empty).toList with
    | .ok output => return ⟨true, .finished ⟨0, some output, none⟩⟩
    | .error error => return ⟨true, .failed ⟨.system, error.message⟩⟩

/-- The bytes of a text as a stream takes them. -/
def bytesOf (text : Text) : ByteArray :=
  ⟨(Utf8.encode text).toArray⟩

/-- Prints an outcome and gives its exit status. -/
def finish (outcome : Command.Outcome) : IO UInt32 := do
  let output ← IO.getStdout
  output.write (bytesOf outcome.output)
  output.flush
  let complaints ← IO.getStderr
  complaints.write (bytesOf outcome.complaints)
  if let some failure := outcome.failure then
    complaints.write (bytesOf (failure.message.escapeSurrogates ++ "\n"))
  return outcome.exitStatus.toUInt32

/-- Runs the command on the words of its command line. -/
def run (line : List Text) : IO UInt32 := do
  let here := Text.ofString (← IO.currentDir).toString
  let files ← exploreWords here line
  match Command.settle files line with
  | .inl outcome => finish outcome
  | .inr order =>
    let packaged := Text.ofString ((← IO.appDir) / "preflight.spectral.yaml").toString
    let surroundings : Surroundings :=
      { files
        environment := ← environment
        packagedRuleset := Path.ofText packaged }
    let (_, outcome) := (Session.start surroundings).carryOut (← pipedLauncher) order
    finish outcome

end Main

end OpenApiGate

/-- Runs the command. -/
def main (arguments : List String) : IO UInt32 :=
  OpenApiGate.Main.run (arguments.map OpenApiGate.Text.ofString)

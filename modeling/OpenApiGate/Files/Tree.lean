import OpenApiGate.Files.Fault
import OpenApiGate.Files.Name
import OpenApiGate.Files.Path

/-!
# Files and directories

Files and directories are known by their places, which are lists of names from
the root on.  One directory is the working directory; a path without slashes in
front starts there.  A path is followed name by name.
-/

namespace OpenApiGate

/-- A file or a directory. -/
inductive Entry where
  | directory
  /-- A file with its bytes, and the fault that reading them ends in, if any. -/
  | file (content : Bytes) (readFault : Option Fault)

/-- The names that lead from the root to a place. -/
abbrev Place := List Bytes

/-- Files and directories. -/
structure FileTree where
  /-- The working directory. -/
  here : Place
  /-- What there is besides the root, each place at most once. -/
  entries : List (Place × Entry)

/-- Why a path leads nowhere. -/
inductive PathError where
  /-- There is nothing there. -/
  | missing
  /-- The path, or one of its names, has more bytes than a path or a name may have. -/
  | tooLong
  /-- The path holds the code point zero. -/
  | holdsZero
  /-- The path holds surrogates that stand for no byte. -/
  | unencodable (error : Utf8.EncodeError)
deriving DecidableEq

namespace FileTree

/-- A name of a path has at most so many bytes. -/
def nameLimit : Nat := 255

/-- A path has fewer bytes than this number. -/
def pathLimit : Nat := 4096

/-- What is at a place. -/
def get? (tree : FileTree) : Place → Option Entry
  | [] => some .directory
  | place => tree.entries.lookup place

/-- The tree without what is at a place. -/
def erase (tree : FileTree) (place : Place) : FileTree :=
  { tree with entries := tree.entries.filter fun entry => entry.1 ≠ place }

/-- The look-up among entries that lost another place. -/
theorem lookup_filter_ne
    {place other : Place}
    (different : place ≠ other)
    (entries : List (Place × Entry)) :
    (entries.filter fun entry => entry.1 ≠ other).lookup place = entries.lookup place := by
  induction entries with
  | nil => rfl
  | cons entry rest ih =>
    rcases entry with ⟨found, content⟩
    by_cases isOther : found = other
    · rw [List.filter_cons_of_neg (by simpa using isOther), List.lookup_cons, isOther,
        beq_false_of_ne different]
      exact ih
    · rw [List.filter_cons_of_pos (by simpa using isOther), List.lookup_cons,
        List.lookup_cons, ih]

/-- The tree with an entry at a place, which it takes over. -/
def insert
    (tree : FileTree)
    (place : Place)
    (entry : Entry) :
    FileTree :=
  { tree with entries := (place, entry) :: (tree.erase place).entries }

@[simp]
theorem get?_root (tree : FileTree) :
    tree.get? [] = some .directory :=
  rfl

theorem get?_insert_same
    (tree : FileTree)
    {place : Place}
    (below : place ≠ [])
    (entry : Entry) :
    (tree.insert place entry).get? place = some entry := by
  cases place with
  | nil => exact absurd rfl below
  | cons name rest => simp [get?, insert]

theorem get?_insert_other
    (tree : FileTree)
    {place other : Place}
    (different : other ≠ place)
    (entry : Entry) :
    (tree.insert place entry).get? other = tree.get? other := by
  cases other with
  | nil => rfl
  | cons name rest =>
    simp only [get?, insert, List.lookup_cons, beq_false_of_ne different]
    exact lookup_filter_ne different tree.entries

/-- The tree with directories on the way to a place, where there was nothing. -/
def makeParents (tree : FileTree) (place : Place) : FileTree :=
  let parents := (List.range place.length).map place.take
  (parents.filter fun parent => (tree.get? parent).isNone).foldl
    (fun tree parent => tree.insert parent .directory) tree

/-- The tree with an entry at a place and directories on the way to it. -/
def put
    (tree : FileTree)
    (place : Place)
    (entry : Entry) :
    FileTree :=
  if place.isEmpty then tree else (tree.makeParents place).insert place entry

/-- An empty working directory. -/
def emptyAt (here : Place) : FileTree :=
  put ⟨here, []⟩ here .directory

/-- The place that one name leads to; the root contains itself. -/
def follow (place : Place) (name : Text) : Place :=
  if name = Text.ofString ".." then place.dropLast else place ++ [name.nameBytes]

/-- The place where a path starts. -/
def startOf (tree : FileTree) (path : Path) : Place :=
  if path.root.isEmpty then tree.here else []

/-- The place that a path leads to. -/
def placeOf (tree : FileTree) (path : Path) : Place :=
  path.components.foldl follow (tree.startOf path)

/-- The tree with a directory at a place where there was nothing. -/
def makeDirectory (tree : FileTree) (place : Place) : FileTree :=
  if (tree.get? place).isNone then tree.insert place .directory else tree

/-- The tree with directories at all places that names lead through from a place. -/
def makeWay
    (tree : FileTree)
    (place : Place) :
    List Text → FileTree
  | [] => tree
  | name :: rest => ((tree.makeDirectory place).makeWay (follow place name)) rest

/-- The entry that names lead to from a place. -/
def walk
    (tree : FileTree)
    (place : Place) :
    List Text → Except PathError Entry
  | [] =>
    match tree.get? place with
    | some entry => .ok entry
    | none => .error .missing
  | name :: rest =>
    match tree.get? place with
    | some .directory =>
      if nameLimit < name.nameBytes.length then .error .tooLong
      else tree.walk (follow place name) rest
    | _ => .error .missing

/--
The tree with an entry at a path, and with directories on the way to it.  An
entry does not take the place of a directory.
-/
def write
    (tree : FileTree)
    (path : Path)
    (entry : Entry) :
    FileTree :=
  let place := tree.placeOf path
  let passable := tree.makeWay (tree.startOf path) path.components
  match passable.get? place with
  | some .directory => passable
  | _ => passable.insert place entry

/-- The tree without the file that a path leads to. -/
def delete (tree : FileTree) (path : Path) : FileTree :=
  match tree.walk (tree.startOf path) path.components with
  | .ok (.file _ _) => tree.erase (tree.placeOf path)
  | _ => tree

/-- A path text that names a directory: it ends in a slash, which a point may follow. -/
def namesDirectory (text : Text) : Bool :=
  match text.reverse with
  | [] => false
  | last :: before => last.is '/' || last.is '.' && before.head?.any (CodePoint.is '/')

/-- Why a path text leads nowhere whatever there is. -/
def pathError? (text : Text) : Option PathError :=
  match text.strandedRun? with
  | some error => some (.unencodable error)
  | none =>
    if text.any (·.value = 0) then some .holdsZero
    else if pathLimit ≤ text.nameBytes.length then some .tooLong
    else none

/-- The entry that a path text leads to. -/
def find (tree : FileTree) (text : Text) : Except PathError Entry :=
  match pathError? text with
  | some error => .error error
  | none =>
    if text.isEmpty then .error .missing
    else
      let path := Path.ofText text
      match tree.walk (tree.startOf path) path.components with
      | .ok (.file content fault) =>
        if namesDirectory text then .error .missing else .ok (.file content fault)
      | result => result

end FileTree

end OpenApiGate

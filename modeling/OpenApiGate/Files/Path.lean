import OpenApiGate.Text.CodePoint

/-!
# Paths

A path is a root and a list of components.  Empty components and single points
say nothing about a place and are left out; double points are kept.  A path
that starts with exactly two slashes has a root of its own.
-/

namespace OpenApiGate

/-- A path in normal form. -/
structure Path where
  /-- The slashes in front: none, one or two. -/
  root : Text
  /-- The names between the slashes, neither empty nor a single point. -/
  components : List Text
deriving DecidableEq

namespace Path

/-- The root of a path with a number of slashes in front. -/
def rootOf : Nat → Text
  | 0 => ""
  | 2 => "//"
  | _ => "/"

/-- A name that says nothing about a place. -/
def isIdle (component : Text) : Bool :=
  component.isEmpty || component = Text.ofString "."

/-- The path that a text stands for. -/
def ofText (text : Text) : Path where
  root := rootOf (text.takeWhile (CodePoint.is '/')).length
  components := (Text.splitOn '/' text).filter (!isIdle ·)

/-- The text of a path; the path that leads nowhere is a single point. -/
def text (path : Path) : Text :=
  let shown := path.root ++ Text.joined "/" path.components
  if shown.isEmpty then "." else shown

/-- The last component of a path, if it has one. -/
def name (path : Path) : Text :=
  path.components.getLast?.getD []

end Path

end OpenApiGate

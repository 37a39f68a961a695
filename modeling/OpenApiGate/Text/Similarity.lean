import OpenApiGate.Text.CodePoint

/-!
# Similar texts

How much two texts have in common is counted by runs: the longest run of code
points that occurs in both, and what the texts in front of it and after it have
in common.  Two texts are similar if six tenths of their code points are shared.
Of many texts that are similar to a target only the closest ones are picked.
-/

namespace OpenApiGate.Text

/-- How many code points two texts share at their starts. -/
def sharedStart : Text → Text → Nat
  | left :: lefts, right :: rights =>
    if left = right then sharedStart lefts rights + 1 else 0
  | _, _ => 0

/-- A run of code points that occurs in two texts. -/
structure SharedRun where
  /-- Where the run starts in the first text. -/
  left : Nat
  /-- Where the run starts in the second text. -/
  right : Nat
  length : Nat

/-- The longest run that occurs in two texts; of several, the first one. -/
def longestRun (left right : Text) : SharedRun :=
  let starts :=
    (List.range left.length).flatMap fun leftStart =>
      (List.range right.length).map fun rightStart => (leftStart, rightStart)
  starts.foldl longer ⟨0, 0, 0⟩
where
  longer (best : SharedRun) (start : Nat × Nat) : SharedRun :=
    let length := sharedStart (left.drop start.1) (right.drop start.2)
    if best.length < length then ⟨start.1, start.2, length⟩ else best

/-- How many code points two texts have in common, in at most so many nested runs. -/
def sharedWithin : Nat → Text → Text → Nat
  | 0, _, _ => 0
  | depth + 1, left, right =>
    let run := longestRun left right
    if run.length = 0 then 0
    else
      run.length +
        sharedWithin depth (left.take run.left) (right.take run.right) +
        sharedWithin depth (left.drop (run.left + run.length))
          (right.drop (run.right + run.length))

/-- How many code points two texts have in common. -/
def shared (left right : Text) : Nat :=
  sharedWithin left.length left right

/--
Six tenths of the code points of two texts are shared.  A text that is too long
for that, whatever it holds, is told by its length alone.
-/
def isSimilar (left right : Text) : Bool :=
  let total := left.length + right.length
  decide (3 * total ≤ 10 * min left.length right.length) &&
    decide (3 * total ≤ 10 * shared left right)

/-- One text shares more with a target than another; of equals, the later in the alphabet does. -/
def isCloser (target left right : Text) : Bool :=
  let leftShare := shared left target * (right.length + target.length)
  let rightShare := shared right target * (left.length + target.length)
  decide (rightShare < leftShare) ||
    leftShare == rightShare && decide (right.map CodePoint.value < left.map CodePoint.value)

/-- At most so many of the texts that are similar to a target, the closest ones. -/
def closest
    (count : Nat)
    (target : Text)
    (texts : List Text) :
    List Text :=
  let candidates := texts.filter (isSimilar · target)
  candidates.filter fun text => (candidates.filter (isCloser target · text)).length < count

end OpenApiGate.Text

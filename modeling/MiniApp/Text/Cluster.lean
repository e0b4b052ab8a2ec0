import MiniApp.Text.ClusterTable

/-!
Grapheme clusters: the pieces of a text that a reader takes for one character. Where two
characters may be parted follows the boundary rules of Unicode for extended clusters; consonants
joined by a conjoining sign are parted here, and none of them has a case or a digit value.
-/

set_option autoImplicit false

namespace MiniApp.Text

inductive ClusterClass where
  | carriageReturn | lineFeed | control | extend | joiner | regional | prepend | spacing
  | leading | vowel | trailing | openSyllable | closedSyllable | pictograph | other
deriving DecidableEq

def clusterClass (c : Char) : ClusterClass :=
  let n := c.toNat
  if n = 13 then .carriageReturn
  else if n = 10 then .lineFeed
  else if 0x20 ≤ n ∧ n < 0x7f then .other
  else if n = 0x200d then .joiner
  else if 0xac00 ≤ n ∧ n ≤ 0xd7a3 then
    if (n - 0xac00) % 28 = 0 then .openSyllable else .closedSyllable
  else if (0x1100 ≤ n ∧ n ≤ 0x115f) ∨ (0xa960 ≤ n ∧ n ≤ 0xa97c) then .leading
  else if (0x1160 ≤ n ∧ n ≤ 0x11a7) ∨ (0xd7b0 ≤ n ∧ n ≤ 0xd7c6) then .vowel
  else if (0x11a8 ≤ n ∧ n ≤ 0x11ff) ∨ (0xd7cb ≤ n ∧ n ≤ 0xd7fb) then .trailing
  else if 0x1f1e6 ≤ n ∧ n ≤ 0x1f1ff then .regional
  else if inRanges controlRanges n then .control
  else if inRanges extendRanges n then .extend
  else if inRanges prependRanges n then .prepend
  else if inRanges spacingRanges n then .spacing
  else if inRanges pictographRanges n then .pictograph
  else .other

/-- What the rules need to know of the cluster so far: the class of its last character, whether it
ends in a pictograph and marks, whether a joiner follows those, and whether it ends in an odd
number of regional letters. -/
structure ClusterEnd where
  last : ClusterClass
  pictograph : Bool
  joined : Bool
  oddRegional : Bool

def ClusterEnd.start (k : ClusterClass) : ClusterEnd :=
  ⟨k, k = .pictograph, false, k = .regional⟩

def ClusterEnd.next (e : ClusterEnd) (k : ClusterClass) : ClusterEnd :=
  ⟨k, k = .pictograph ∨ (e.pictograph ∧ k = .extend), e.pictograph ∧ k = .joiner,
    k = .regional ∧ ¬ e.oddRegional⟩

def isBreak (k : ClusterClass) : Bool :=
  k == .control || k == .carriageReturn || k == .lineFeed

def ClusterEnd.takes (e : ClusterEnd) (k : ClusterClass) : Bool :=
  if e.last = .carriageReturn ∧ k = .lineFeed then true
  else if isBreak e.last || isBreak k then false
  else match e.last, k with
    | _, .extend | _, .joiner | _, .spacing => true
    | .prepend, _ => true
    | .leading, .leading | .leading, .vowel => true
    | .leading, .openSyllable | .leading, .closedSyllable => true
    | .openSyllable, .vowel | .openSyllable, .trailing | .vowel, .vowel | .vowel, .trailing => true
    | .closedSyllable, .trailing | .trailing, .trailing => true
    | .joiner, .pictograph => e.joined
    | .regional, .regional => e.oddRegional
    | _, _ => false

/-- The clusters of the characters read so far, kept backwards in `piece`, and of the rest. -/
def clustersFrom (e : ClusterEnd) (piece : List Char) : List Char → List (List Char)
  | [] => [piece.reverse]
  | c :: cs =>
    let k := clusterClass c
    if e.takes k then clustersFrom (e.next k) (c :: piece) cs
    else piece.reverse :: clustersFrom (.start k) [c] cs

def clusters : List Char → List (List Char)
  | [] => []
  | c :: cs => clustersFrom (.start (clusterClass c)) [c] cs

end MiniApp.Text

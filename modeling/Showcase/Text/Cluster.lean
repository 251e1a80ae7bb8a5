import Showcase.Text.Table.Cluster
import Showcase.Text.Table.Emoji

/-!
# Grapheme clusters

A text is cut into clusters, the units that one screen cell can hold. `continues` decides from the
class of the next character and a summary of the cluster so far whether the cluster goes on.
-/

namespace Showcase.Text

inductive ClusterClass where
  | carriageReturn
  | lineFeed
  | control
  | extending
  | joiner
  | flagHalf
  | prepended
  | spacingMark
  | leadingJamo
  | vowelJamo
  | trailingJamo
  | openSyllable
  | closedSyllable
  | other
  deriving DecidableEq

def clusterClass (c : Char) : ClusterClass :=
  let code := c.toNat
  if code == 0x0D then .carriageReturn
  else if code == 0x0A then .lineFeed
  else if 0x20 ≤ code && code < 0x7F then .other
  else if code == 0x200D then .joiner
  else if Cluster.control.contains code then .control
  else if 0x1F1E6 ≤ code && code ≤ 0x1F1FF then .flagHalf
  else if 0xAC00 ≤ code && code ≤ 0xD7A3 then
    if (code - 0xAC00) % 28 == 0 then .openSyllable else .closedSyllable
  else if (0x1100 ≤ code && code ≤ 0x115F) || (0xA960 ≤ code && code ≤ 0xA97C) then .leadingJamo
  else if (0x1160 ≤ code && code ≤ 0x11A7) || (0xD7B0 ≤ code && code ≤ 0xD7C6)
      || code == 0x16D63 || (0x16D67 ≤ code && code ≤ 0x16D6A) then .vowelJamo
  else if (0x11A8 ≤ code && code ≤ 0x11FF) || (0xD7CB ≤ code && code ≤ 0xD7FB) then .trailingJamo
  else if Cluster.extending.contains code then .extending
  else if Cluster.spacingMark.contains code then .spacingMark
  else if Cluster.prepended.contains code then .prepended
  else .other

/-- How far the cluster has come towards a sequence of two pictures around a joiner. -/
inductive PictureProgress where
  | none
  | picture
  | joined
  deriving DecidableEq

/-- How far the cluster has come towards two consonants around a linker. -/
inductive ConjunctProgress where
  | none
  | consonant
  | linked
  deriving DecidableEq

/-- What a cluster looks like at its end. -/
structure ClusterEnd where
  last : ClusterClass
  picture : PictureProgress
  conjunct : ConjunctProgress
  oddFlags : Bool
  deriving DecidableEq

def isPictographic (c : Char) : Bool := Emoji.pictographic.contains c.toNat
def isConjunctConsonant (c : Char) : Bool := Cluster.conjunctConsonant.contains c.toNat
def isConjunctLinker (c : Char) : Bool := Cluster.conjunctLinker.contains c.toNat

/-- A joiner or mark that may stand inside a conjunct. -/
def isConjunctMark (c : Char) (kind : ClusterClass) : Bool :=
  kind == .joiner || (kind == .extending && c.toNat != 0x200C)

namespace ClusterEnd

/-- The end of a cluster that consists of one character. -/
def start (c : Char) (kind : ClusterClass) : ClusterEnd where
  last := kind
  picture := if isPictographic c then .picture else .none
  conjunct := if isConjunctConsonant c then .consonant else .none
  oddFlags := kind == .flagHalf

/-- The end of a cluster after one more character. -/
def extend (before : ClusterEnd) (c : Char) (kind : ClusterClass) : ClusterEnd where
  last := kind
  picture :=
    if isPictographic c then .picture
    else match before.picture, kind with
      | .picture, .extending => .picture
      | .picture, .joiner => .joined
      | _, _ => .none
  conjunct :=
    if isConjunctConsonant c then .consonant
    else match before.conjunct with
      | .none => .none
      | .consonant =>
          if isConjunctLinker c then .linked
          else if isConjunctMark c kind then .consonant
          else .none
      | .linked => if isConjunctLinker c || isConjunctMark c kind then .linked else .none
  oddFlags := kind == .flagHalf && !before.oddFlags

end ClusterEnd

/-- Whether a character goes on with the cluster before it. -/
def continues (before : ClusterEnd) (c : Char) (kind : ClusterClass) : Bool :=
  match before.last, kind with
  | .carriageReturn, .lineFeed => true
  | .carriageReturn, _ | .lineFeed, _ | .control, _ => false
  | _, .carriageReturn | _, .lineFeed | _, .control => false
  | .leadingJamo, .leadingJamo | .leadingJamo, .vowelJamo
  | .leadingJamo, .openSyllable | .leadingJamo, .closedSyllable => true
  | .openSyllable, .vowelJamo | .openSyllable, .trailingJamo
  | .vowelJamo, .vowelJamo | .vowelJamo, .trailingJamo => true
  | .closedSyllable, .trailingJamo | .trailingJamo, .trailingJamo => true
  | _, .extending | _, .joiner | _, .spacingMark => true
  | .prepended, _ => true
  | _, _ =>
      (before.conjunct == .linked && isConjunctConsonant c)
        || (before.picture == .joined && isPictographic c)
        || (before.oddFlags && kind == .flagHalf)

/-- Cuts a text into clusters, given the end of the open cluster and its characters in reverse. -/
def clustersFrom (before : ClusterEnd) (taken : List Char) : List Char → List (List Char)
  | [] => [taken.reverse]
  | c :: rest =>
      let kind := clusterClass c
      if continues before c kind then clustersFrom (before.extend c kind) (c :: taken) rest
      else taken.reverse :: clustersFrom (.start c kind) [c] rest

def clusters : List Char → List (List Char)
  | [] => []
  | c :: rest => clustersFrom (.start c (clusterClass c)) [c] rest

theorem flatten_clustersFrom (before : ClusterEnd) (taken rest : List Char) :
    (clustersFrom before taken rest).flatten = taken.reverse ++ rest := by
  induction rest generalizing before taken with
  | nil => simp [clustersFrom]
  | cons c rest ih =>
      unfold clustersFrom
      dsimp only
      split
      · simp [ih]
      · simp [ih]

/-- Clusters cut a text without loss. -/
theorem flatten_clusters (text : List Char) : (clusters text).flatten = text := by
  cases text with
  | nil => rfl
  | cons c rest => simp [clusters, flatten_clustersFrom]

end Showcase.Text

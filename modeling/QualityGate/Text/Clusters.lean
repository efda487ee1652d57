import QualityGate.CodePoint.Cluster
import QualityGate.Text.Utf8

/-!
User-perceived characters: a text is cut between two code points unless a rule holds them together.
-/

namespace QualityGate.Text

open CodePoint (ClusterClass clusterClass)

/-- What the rules need to know of the code points of the cluster under way: the class of the last one, whether a
pictograph followed by extending characters leads up to it, whether such a sequence has just been joined, and whether
an odd number of regional indicators ends in it. -/
structure ClusterState where
  last : ClusterClass
  pictograph : Bool
  joined : Bool
  oddRegional : Bool
  deriving DecidableEq, Repr

namespace ClusterState

def start (first : ClusterClass) : ClusterState :=
  ⟨first, first = .pictograph, false, first = .regional⟩

def next (state : ClusterState) (c : ClusterClass) : ClusterState :=
  { last := c
    pictograph := c = .pictograph || (state.pictograph && c = .extend)
    joined := state.pictograph && c = .joiner
    oddRegional := c = .regional && !state.oddRegional }

def breaks : ClusterClass → Bool
  | .control | .carriageReturn | .lineFeed => true
  | _ => false

def sameSyllable : ClusterClass → ClusterClass → Bool
  | .leadingJamo, .leadingJamo | .leadingJamo, .vowelJamo => true
  | .leadingJamo, .openSyllable | .leadingJamo, .closedSyllable => true
  | .openSyllable, .vowelJamo | .openSyllable, .trailingJamo => true
  | .vowelJamo, .vowelJamo | .vowelJamo, .trailingJamo => true
  | .closedSyllable, .trailingJamo | .trailingJamo, .trailingJamo => true
  | _, _ => false

def holds (state : ClusterState) (c : ClusterClass) : Bool :=
  if state.last = .carriageReturn && c = .lineFeed then true
  else if breaks state.last || breaks c then false
  else
    sameSyllable state.last c || c = .extend || c = .joiner || c = .spacing || state.last = .prepend ||
      (state.joined && c = .pictograph) || (state.oddRegional && c = .regional)

end ClusterState

/-- The clusters of the code points after those of the cluster under way, which come latest first. -/
def clustersFrom (state : ClusterState) (cluster : List Char) : List Char → List (List Char)
  | [] => [cluster.reverse]
  | c :: rest =>
    let kind := clusterClass c.toNat
    if state.holds kind then clustersFrom (state.next kind) (c :: cluster) rest
    else cluster.reverse :: clustersFrom (.start kind) [c] rest

def clusters (t : Text) : List (List Char) :=
  match charsReplaced t with
  | [] => []
  | c :: rest => clustersFrom (.start (clusterClass c.toNat)) [c] rest

end QualityGate.Text

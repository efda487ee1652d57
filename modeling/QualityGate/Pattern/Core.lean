import QualityGate.Pattern.CharSet

/-!
Regular expressions without counted repetition, which is spelled out in copies.
-/

namespace QualityGate.Pattern

inductive Assertion where
  | beginText
  | endText
  | beginLine
  | endLine
  | wordBoundary
  | noWordBoundary
  deriving DecidableEq, Repr

abbrev Greedy := Bool

inductive Core where
  | empty
  | char (set : CharSet)
  | assert (condition : Assertion)
  | capture (group : Nat) (e : Core)
  | seq (a b : Core)
  | alt (a b : Core)
  | star (greedy : Greedy) (e : Core)
  | plus (greedy : Greedy) (e : Core)
  | opt (greedy : Greedy) (e : Core)
  deriving DecidableEq, Repr

namespace Core

/-- Zero or more rounds. Repeating nothing is nothing, and repeating the same repetition adds nothing. -/
def starOf (greedy : Greedy) : Core → Core
  | empty => empty
  | star g e => if g = greedy then star g e else star greedy (star g e)
  | e => star greedy e

def plusOf (greedy : Greedy) : Core → Core
  | empty => empty
  | plus g e => if g = greedy then plus g e else plus greedy (plus g e)
  | e => plus greedy e

def optOf (greedy : Greedy) : Core → Core
  | empty => empty
  | opt g e => if g = greedy then opt g e else opt greedy (opt g e)
  | e => opt greedy e

def copies (e : Core) : Nat → Core → Core
  | 0, last => last
  | n + 1, last => seq e (copies e n last)

/-- At most `n + 1` rounds, each of which needs the one before it. -/
def upTo (greedy : Greedy) (e : Core) : Nat → Core
  | 0 => optOf greedy e
  | n + 1 => optOf greedy (seq e (upTo greedy e n))

/-- Between `min` and `max` rounds. -/
def counted (min : Nat) (max : Option Nat) (greedy : Greedy) (e : Core) : Core :=
  match max with
  | none =>
    match min with
    | 0 => starOf greedy e
    | n + 1 => copies e n (plusOf greedy e)
  | some max =>
    if max = 0 then empty
    else if min < max then copies e min (upTo greedy e (max - min - 1))
    else
      match min with
      | 0 => empty
      | n + 1 => copies e n e

/-- Neighbours joined two by two, after those in `done`, which come latest first. -/
def joinPairs (join : Core → Core → Core) (done : List Core) : List Core → List Core
  | a :: b :: rest => joinPairs join (join a b :: done) rest
  | [a] => (a :: done).reverse
  | [] => done.reverse

/-- Parts joined in order, in rounds that halve their number, so that the whole is not deep. -/
def joinIn (join : Core → Core → Core) : Nat → List Core → Core
  | _, [] => empty
  | _, [a] => a
  | 0, a :: rest => rest.foldl join a
  | rounds + 1, parts => joinIn join rounds (joinPairs join [] parts)

def sequence (parts : List Core) : Core := joinIn seq parts.length parts

def choice (parts : List Core) : Core := joinIn alt parts.length parts

def nullable : Core → Bool
  | empty => true
  | char _ => false
  | assert _ => true
  | capture _ e => e.nullable
  | seq a b => a.nullable && b.nullable
  | alt a b => a.nullable || b.nullable
  | star _ _ => true
  | plus _ e => e.nullable
  | opt _ _ => true

end Core

end QualityGate.Pattern

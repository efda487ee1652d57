import QualityGate.Ranking

/-!
Sets of code points given by sorted bounds: a list `lo, hi, lo, hi, ...` of closed, disjoint, increasing ranges. Bounds
are shortest when no range begins right after another one ends.
-/

namespace QualityGate.CodePoint

def last : Nat := 0x10FFFF

def within : List Nat → Nat → Bool
  | lo :: hi :: rest, c => if c < lo then false else if c ≤ hi then true else within rest c
  | _, _ => false

/-- Whether a code point lies in one of the ranges, found by halving: an odd number of bounds up to it means that a range
is open, and a range ends with its upper bound. -/
def searchWithin (bounds : Array Nat) (c : Nat) : Bool :=
  let rank := leading bounds id c
  rank % 2 = 1 || (0 < rank && bounds[rank - 1]? = some c)

/-- The ranges of two sets in the order of their lower bounds, the latest first. -/
def interleave (done : List Nat) : Nat → List Nat → List Nat → List Nat
  | fuel + 1, lo :: hi :: a, lo' :: hi' :: b =>
    if lo ≤ lo' then interleave (hi :: lo :: done) fuel a (lo' :: hi' :: b)
    else interleave (hi' :: lo' :: done) fuel (lo :: hi :: a) b
  | fuel + 1, lo :: hi :: a, b => interleave (hi :: lo :: done) fuel a b
  | fuel + 1, a, lo :: hi :: b => interleave (hi :: lo :: done) fuel a b
  | _, _, _ => done

/-- Puts ranges in the order of their lower bounds together where they overlap or touch. What is done comes latest first,
and `lo` and `hi` bound the range under way. -/
def coalesce (done : List Nat) (lo hi : Nat) : List Nat → List Nat
  | lo' :: hi' :: rest =>
    if lo' ≤ hi + 1 then coalesce done lo (max hi hi') rest else coalesce (hi :: lo :: done) lo' hi' rest
  | _ => (hi :: lo :: done).reverse

def unite (a b : List Nat) : List Nat :=
  match a, b with
  | [], b => b
  | a, [] => a
  | a, b =>
    match (interleave [] (a.length + b.length) a b).reverse with
    | lo :: hi :: rest => coalesce [] lo hi rest
    | _ => []

/-- The shortest bounds of what ranges leave out from `next` on, after those in `done`, which come latest first. -/
def gaps (done : List Nat) (next : Nat) : List Nat → List Nat
  | lo :: hi :: rest => gaps (if next < lo then (lo - 1) :: next :: done else done) (hi + 1) rest
  | _ => (if next ≤ last then last :: next :: done else done).reverse

def invert (bounds : List Nat) : List Nat := gaps [] 0 bounds

end QualityGate.CodePoint

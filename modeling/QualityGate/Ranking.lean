/-!
Ranks in sorted arrays, found by halving.
-/

namespace QualityGate

/-- The number of leading entries of a sorted array that are at most `bound`, between `low` and `high`. Half of what is
left is decided in each round. -/
def countUpTo {α : Type} (entries : Array α) (key : α → Nat) (bound : Nat) : Nat → Nat → Nat → Nat
  | 0, low, _ => low
  | rounds + 1, low, high =>
    if high ≤ low then low
    else
      let middle := (low + high) / 2
      match entries[middle]? with
      | none => low
      | some entry =>
        if key entry ≤ bound then countUpTo entries key bound rounds (middle + 1) high
        else countUpTo entries key bound rounds low middle

/-- The number of leading entries of a sorted array whose key is at most `bound`. -/
def leading {α : Type} (entries : Array α) (key : α → Nat) (bound : Nat) : Nat :=
  countUpTo entries key bound (entries.size + 1) 0 entries.size

end QualityGate

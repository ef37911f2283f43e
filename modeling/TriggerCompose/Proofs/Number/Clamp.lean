/-!
# Words cut off at their ends

The number that a 64-bit word holds after a computation whose exact result may lie
outside its range.

## Main statements

* `Number.toInt_ofIntClamp`: signed words.
* `Number.toNat_ofNatClamp`: unsigned words.
-/

namespace TriggerCompose.Number

theorem toInt_ofIntClamp (x : Int) :
    (Int64.ofIntClamp x).toInt = max Int64.minValue.toInt (min x Int64.maxValue.toInt) := by
  have hends : Int64.minValue.toInt ≤ Int64.maxValue.toInt := by decide
  unfold Int64.ofIntClamp
  split
  next hlow =>
    split
    next hhigh =>
      rw [Int64.toInt_ofIntLE]
      omega
    next => omega
  next => omega

theorem toNat_ofNatClamp (n : Nat) :
    (UInt64.ofNatClamp n).toNat = min n (UInt64.size - 1) := by
  by_cases hn : n < UInt64.size
  · rw [UInt64.toNat_ofNatClamp_of_lt hn]
    omega
  · rw [UInt64.toNat_ofNatClamp_of_le (Nat.le_of_not_lt hn)]
    omega

end TriggerCompose.Number

/-!
Rounding a positive rational to a binary floating-point format.

A format has a precision (bits of the significand) and a range for the
exponent of the significand's last place. A positive rational is rounded to
the nearest number `m · 2^e` with `m < 2^precision` and `e` at least the least
exponent, as large as the precision allows; a tie goes to the even `m`.
Beyond the greatest exponent the result overflows.
-/

namespace GpuFrontend.Binary

structure Format where
  precision : Nat
  leastExponent : Int
  greatestExponent : Int

def double : Format := ⟨53, -1074, 971⟩

def single : Format := ⟨24, -149, 104⟩

inductive Rounded
  | finite (m : Nat) (e : Int)
  | overflow
  deriving DecidableEq, Repr

-- `num · 2^shift` as a numerator over `den`, moving a negative shift to the denominator.
def scale (num den : Nat) (shift : Int) : Nat × Nat :=
  if 0 ≤ shift then (num * Nat.pow 2 shift.toNat, den) else (num, den * Nat.pow 2 (-shift).toNat)

-- The floor of the base-2 logarithm of `num / den`, for positive numbers.
def floorLog2 (num den : Nat) : Int :=
  let l : Int := (Nat.log2 num : Int) - (Nat.log2 den : Int)
  let (a, b) := scale num den (-l)
  if b ≤ a then l else l - 1

def roundHalfEven (num den : Nat) : Nat :=
  let q := num / den
  let r := num % den
  if 2 * r > den ∨ (2 * r = den ∧ q % 2 = 1) then q + 1 else q

def round (f : Format) (num den : Nat) : Rounded :=
  let e := floorLog2 num den
  let t := max (e - (f.precision - 1 : Nat)) f.leastExponent
  let (a, b) := scale num den (-t)
  let m := roundHalfEven a b
  let (m, t) := if m = Nat.pow 2 f.precision then (Nat.pow 2 (f.precision - 1), t + 1) else (m, t)
  if t > f.greatestExponent then .overflow else .finite m t

end GpuFrontend.Binary

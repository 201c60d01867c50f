import GpuFrontend.Binary.Round

/-!
Single-precision numbers, kept as their 32 bits.

The library stores and echoes single-precision values and never computes with
them. A decimal input is read as the nearest double and then narrowed to the
nearest single, each step rounding a tie to even; beyond the range a value
becomes an infinity of its sign.
-/

namespace GpuFrontend

structure Single where
  bits : UInt32
  deriving DecidableEq, Repr, Inhabited

namespace Single

def signBit : UInt32 := 0x80000000

def zero : Single := ⟨0⟩
def one : Single := ⟨0x3F800000⟩
def infinity : Single := ⟨0x7F800000⟩
def negInfinity : Single := ⟨0xFF800000⟩
def nan : Single := ⟨0x7FC00000⟩

def withSign (negative : Bool) (s : Single) : Single :=
  if negative then ⟨s.bits ||| signBit⟩ else s

def ofRounded : Binary.Rounded → Single
  | .overflow => infinity
  | .finite m e =>
    if m < Nat.pow 2 23 then ⟨m.toUInt32⟩
    else ⟨((e + 150).toNat.toUInt32 <<< 23) ||| (m - Nat.pow 2 23).toUInt32⟩

def narrow : Binary.Rounded → Single
  | .overflow => infinity
  | .finite 0 _ => zero
  | .finite m e =>
    let (num, den) := Binary.scale m 1 e
    ofRounded (Binary.round Binary.single num den)

-- The single read from the decimal `digits · 10^exponent`, with a sign: the nearest double first,
-- then the nearest single to that.
def ofDecimal (negative : Bool) (digits : Nat) (exponent : Int) : Single :=
  if digits = 0 then withSign negative zero
  else
    let (num, den) :=
      if 0 ≤ exponent then (digits * Nat.pow 10 exponent.toNat, 1) else (digits, Nat.pow 10 (-exponent).toNat)
    withSign negative (narrow (Binary.round Binary.double num den))

inductive Shape
  | nan
  | infinite (negative : Bool)
  | finite (negative : Bool) (m : Nat) (e : Int)

def shape (s : Single) : Shape :=
  let negative := s.bits &&& signBit != 0
  let field := ((s.bits >>> 23) &&& 0xFF).toNat
  let fraction := (s.bits &&& 0x7FFFFF).toNat
  if field = 255 then
    if fraction = 0 then .infinite negative else .nan
  else if field = 0 then .finite negative fraction (-149)
  else .finite negative (fraction + Nat.pow 2 23) ((field : Int) - 150)

end Single

end GpuFrontend

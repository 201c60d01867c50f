import GpuFrontend.Single

/-!
The shortest decimal text of a double.

A positive double `m · 2^e` stands for every real that rounds to it: the
interval halfway to its neighbours, the ends included when `m` is even. The
shortest text is the decimal of fewest significant digits inside that
interval, and of those the nearest to the value; it reads back as the same
double. A single is written as the shortest text of the double equal to it.

The layout: digits `d` with decimal exponent `k` (value `d · 10^k`) are written
positionally when the point falls within the first sixteen places, with `.0`
after a whole number; with up to four zeros after `0.` for small values;
otherwise as a mantissa with one digit before the point, `e`, and the exponent.
-/

namespace GpuFrontend.Decimal

-- The number of decimal digits of `n`, at least one.
def digitCount (n : Nat) : Nat := (Nat.toDigits 10 n).length

-- The double `m · 2^e` in normal form: the significand in `[2^52, 2^53)`, for `m > 0` and values in
-- the double's normal range.
def normalize (m : Nat) (e : Int) : Nat × Int :=
  let shift := 52 - Nat.log2 m
  (m * Nat.pow 2 shift, e - shift)

-- The interval of reals that round to the positive double `m · 2^e` (normal form), as numerators
-- `low`, `value`, `high` over a common denominator.
structure Interval where
  low : Nat
  value : Nat
  high : Nat
  den : Nat
  inclusive : Bool

-- The rounding interval of the normal double `m · 2^e`. The gap below a power of two is half the
-- gap above.
def interval (m : Nat) (e : Int) : Interval :=
  let low := if m = Nat.pow 2 52 then 4 * m - 1 else 4 * m - 2
  let s := e - 2
  let up := if 0 ≤ s then Nat.pow 2 s.toNat else 1
  let den := if 0 ≤ s then 1 else Nat.pow 2 (-s).toNat
  ⟨low * up, 4 * m * up, (4 * m + 2) * up, den, m % 2 == 0⟩

-- The integers `c` with `c · 10^j` in the interval, as a range `lo..hi`.
def candidates (iv : Interval) (j : Int) : Nat × Nat :=
  let (d, scaleUp) := if 0 ≤ j then (iv.den * Nat.pow 10 j.toNat, 1) else (iv.den, Nat.pow 10 (-j).toNat)
  let low := iv.low * scaleUp
  let high := iv.high * scaleUp
  let lo := if iv.inclusive then (low + d - 1) / d else low / d + 1
  let hi := if iv.inclusive then high / d else (high - 1) / d
  (lo, hi)

-- The integer nearest to the value over the grid `10^j`, kept within `lo..hi`.
def nearest (iv : Interval) (j : Int) (lo hi : Nat) : Nat :=
  let (d, scaleUp) := if 0 ≤ j then (iv.den * Nat.pow 10 j.toNat, 1) else (iv.den, Nat.pow 10 (-j).toNat)
  let v := iv.value * scaleUp
  let c := (2 * v + d) / (2 * d)
  max lo (min hi c)

-- Searches the grids `10^j`, `10^(j-1)`, ... for the first one with a point inside the interval;
-- returns the nearest such point as digits and exponent.
def search (iv : Interval) : Nat → Int → Nat × Int
  | 0, j => (nearest iv j 0 iv.high, j)
  | fuel + 1, j =>
    let (lo, hi) := candidates iv j
    if lo ≤ hi ∧ 0 < lo then (nearest iv j lo hi, j) else search iv fuel (j - 1)

def shortest (m : Nat) (e : Int) : Nat × Int :=
  let (m, e) := normalize m e
  let iv := interval m e
  let top : Int := (digitCount iv.high : Int) - (digitCount iv.den : Int) + 1
  search iv 40 top

def zeros (n : Nat) : String := String.ofList (List.replicate n '0')

def layout (ds : String) (k : Int) : String :=
  let len : Int := ds.length
  let kk := len + k
  if 0 ≤ k ∧ kk ≤ 16 then ds ++ zeros k.toNat ++ ".0"
  else if 0 < kk ∧ kk ≤ 16 then
    String.ofList (ds.toList.take kk.toNat) ++ "." ++ String.ofList (ds.toList.drop kk.toNat)
  else if -5 < kk ∧ kk ≤ 0 then "0." ++ zeros (-kk).toNat ++ ds
  else
    let exp := toString (kk - 1)
    if len = 1 then ds ++ "e" ++ exp
    else String.ofList (ds.toList.take 1) ++ "." ++ String.ofList (ds.toList.drop 1) ++ "e" ++ exp

inductive Written
  | number (text : String)
  | word (text : String)
  deriving DecidableEq, Repr

-- The text of a single: the shortest decimal of the equal double; `NaN`, `inf` and `-inf` as words.
def ofSingle (s : Single) : Written :=
  match s.shape with
  | .nan => .word "NaN"
  | .infinite negative => .word (if negative then "-inf" else "inf")
  | .finite negative m e =>
    let sign := if negative then "-" else ""
    if m = 0 then .number (sign ++ "0.0")
    else
      let (d, k) := shortest m e
      .number (sign ++ layout (toString d) k)

end GpuFrontend.Decimal

/-!
Reading bytes as UTF-8 text, with every ill-formed part replaced.

A well-formed sequence becomes its character. Where a sequence breaks off, the
longest prefix of it that could still have begun a well-formed sequence (at
least one byte) becomes one replacement character U+FFFD, and reading goes on
at the first byte after that prefix.
-/

namespace GpuFrontend.Text

def replacement : Char := '�'

def isContinuation (b : UInt8) : Bool := 0x80 ≤ b && b ≤ 0xBF

-- The number of bytes of the sequence a leading byte begins, with the range allowed for the second
-- byte, or nothing if the byte cannot begin a sequence.
def leadShape (b : UInt8) : Option (Nat × UInt8 × UInt8) :=
  if b < 0x80 then some (1, 0, 0)
  else if 0xC2 ≤ b && b ≤ 0xDF then some (2, 0x80, 0xBF)
  else if b = 0xE0 then some (3, 0xA0, 0xBF)
  else if 0xE1 ≤ b && b ≤ 0xEC then some (3, 0x80, 0xBF)
  else if b = 0xED then some (3, 0x80, 0x9F)
  else if 0xEE ≤ b && b ≤ 0xEF then some (3, 0x80, 0xBF)
  else if b = 0xF0 then some (4, 0x90, 0xBF)
  else if 0xF1 ≤ b && b ≤ 0xF3 then some (4, 0x80, 0xBF)
  else if b = 0xF4 then some (4, 0x80, 0x8F)
  else none

def codePoint (n : Nat) (bs : List UInt8) : Nat :=
  let lead := (bs.headD 0).toNat
  let first := match n with
    | 2 => lead % 32
    | 3 => lead % 16
    | _ => lead % 8
  (bs.drop 1).foldl (fun acc b => acc * 64 + b.toNat % 64) first

-- How many bytes of a sequence of `n` bytes, beginning with `lead`, are present in well-formed
-- order at the front of `rest`: the second byte must lie in `lo`..`hi`, the later ones must
-- continue the sequence.
def validPrefix (n : Nat) (lo hi : UInt8) (rest : List UInt8) : Nat :=
  match rest with
  | [] => 1
  | b :: more =>
    if n ≥ 2 ∧ lo ≤ b ∧ b ≤ hi then
      1 + 1 + ((more.take (n - 2)).takeWhile isContinuation).length
    else 1

-- Reads bytes as UTF-8, replacing each ill-formed part by U+FFFD.
def decodeLossy (bs : List UInt8) : List Char :=
  match bs with
  | [] => []
  | b :: rest =>
    match leadShape b with
    | none => replacement :: decodeLossy rest
    | some (1, _, _) => Char.ofNat b.toNat :: decodeLossy rest
    | some (n, lo, hi) =>
      let good := min n (validPrefix n lo hi rest)
      if good = n then
        Char.ofNat (codePoint n (b :: rest.take (n - 1))) :: decodeLossy (rest.drop (n - 1))
      else
        replacement :: decodeLossy (rest.drop (good - 1))
termination_by bs.length
decreasing_by
  all_goals simp only [List.length_cons, List.length_drop]
  all_goals omega

def ofBytesLossy (bs : List UInt8) : String := String.ofList (decodeLossy bs)

end GpuFrontend.Text

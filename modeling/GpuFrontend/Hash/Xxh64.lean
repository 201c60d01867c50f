/-!
The 64-bit xxHash of a byte string.

The input is read in little-endian words. Stripes of 32 bytes go through four
lanes; what is left goes in by words of eight, then four, then single bytes;
a final avalanche mixes the bits.
-/

namespace GpuFrontend.Hash.Xxh64

def prime1 : UInt64 := 0x9E3779B185EBCA87
def prime2 : UInt64 := 0xC2B2AE3D27D4EB4F
def prime3 : UInt64 := 0x165667B19E3779F9
def prime4 : UInt64 := 0x85EBCA77C2B2AE63
def prime5 : UInt64 := 0x27D4EB2F165667C5

def rotl (x : UInt64) (r : UInt64) : UInt64 := (x <<< r) ||| (x >>> (64 - r))

-- The little-endian word of the `n` bytes at position `i`.
def readLE (b : ByteArray) (i : Nat) : Nat → UInt64
  | 0 => 0
  | n + 1 => (b.get! i).toUInt64 ||| (readLE b (i + 1) n <<< 8)

def round (acc input : UInt64) : UInt64 := rotl (acc + input * prime2) 31 * prime1

def mergeRound (acc v : UInt64) : UInt64 := (acc ^^^ round 0 v) * prime1 + prime4

structure Lanes where
  v1 : UInt64
  v2 : UInt64
  v3 : UInt64
  v4 : UInt64

-- The lanes absorb the stripes of 32 bytes from `pos` on; returns them with the position of the
-- first byte not absorbed.
def stripes (b : ByteArray) (pos : Nat) (l : Lanes) : Lanes × Nat :=
  if pos + 32 ≤ b.size then
    stripes b (pos + 32)
      ⟨round l.v1 (readLE b pos 8), round l.v2 (readLE b (pos + 8) 8),
        round l.v3 (readLE b (pos + 16) 8), round l.v4 (readLE b (pos + 24) 8)⟩
  else (l, pos)
termination_by b.size - pos

-- The rest after the stripes goes in by words of eight bytes, then four, then one.
def tail (b : ByteArray) (pos : Nat) (h : UInt64) : UInt64 :=
  if pos + 8 ≤ b.size then
    tail b (pos + 8) (rotl (h ^^^ round 0 (readLE b pos 8)) 27 * prime1 + prime4)
  else if pos + 4 ≤ b.size then
    tail b (pos + 4) (rotl (h ^^^ readLE b pos 4 * prime1) 23 * prime2 + prime3)
  else if pos < b.size then
    tail b (pos + 1) (rotl (h ^^^ (b.get! pos).toUInt64 * prime5) 11 * prime1)
  else h
termination_by b.size - pos

def avalanche (h : UInt64) : UInt64 :=
  let h := (h ^^^ (h >>> 33)) * prime2
  let h := (h ^^^ (h >>> 29)) * prime3
  h ^^^ (h >>> 32)

def hash (b : ByteArray) (seed : UInt64) : UInt64 :=
  let (h, pos) :=
    if 32 ≤ b.size then
      let (l, pos) := stripes b 0 ⟨seed + prime1 + prime2, seed + prime2, seed, seed - prime1⟩
      let h := rotl l.v1 1 + rotl l.v2 7 + rotl l.v3 12 + rotl l.v4 18
      (mergeRound (mergeRound (mergeRound (mergeRound h l.v1) l.v2) l.v3) l.v4, pos)
    else (seed + prime5, 0)
  avalanche (tail b pos (h + b.size.toUInt64))

end GpuFrontend.Hash.Xxh64

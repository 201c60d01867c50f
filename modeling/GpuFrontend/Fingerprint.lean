import GpuFrontend.Hash.Xxh64
import GpuFrontend.Path

/-!
Content fingerprints, which deduplicate loaded textures.

A fingerprint is the 64-bit xxHash, seed 0, of a byte string; a path is
fingerprinted by its raw bytes. The value 0 is reserved for "no fingerprint":
a texture carrying it is never shared.
-/

namespace GpuFrontend

structure Fingerprint where
  value : UInt64
  deriving DecidableEq, Repr, Inhabited

namespace Fingerprint

-- The reserved fingerprint of textures that are never shared.
def none : Fingerprint := ⟨0⟩

def isNone (f : Fingerprint) : Bool := f.value == 0

def ofBytes (b : ByteArray) : Fingerprint := ⟨Hash.Xxh64.hash b 0⟩

-- The fingerprint of a path: that of its raw bytes.
def ofPath (p : Path) : Fingerprint := ofBytes p.bytes

def decimal (f : Fingerprint) : String := toString f.value.toNat

end Fingerprint

end GpuFrontend

import GpuFrontend.Format
import GpuFrontend.Path
import GpuFrontend.ResourceError

/-!
Decoded images and the codec that yields them.

An image is an extent, a format and its pixel bytes. The codec here serves
images from a table of files and counts every request. A path it does not hold
is not found; an entry may also stand for a file it cannot decode. Where the
table names one file twice, the later entry counts.
-/

namespace GpuFrontend

structure Color8 where
  r : UInt8
  g : UInt8
  b : UInt8
  a : UInt8
  deriving DecidableEq, Repr, Inhabited

def Color8.bytes (c : Color8) : List UInt8 := [c.r, c.g, c.b, c.a]

structure Image where
  width : Nat
  height : Nat
  layers : Nat
  format : ImageFormat
  pixels : ByteArray

namespace Image

def fill (c : Color8) (n : Nat) : ByteArray :=
  ⟨((List.replicate n c.bytes).flatten).toArray⟩

def solid (c : Color8) : Image := ⟨1, 1, 1, .r8g8b8a8Unorm, fill c 1⟩

def square (c : Color8) : Image := ⟨2, 2, 1, .r8g8b8a8Unorm, fill c 4⟩

-- A square of `size` pixels in cells of eight: the first colour where the cell's column and row add
-- up to an even number, the second elsewhere; rows from the top.
def checkerboard (size : Nat) (first second : Color8) : Image :=
  let row (y : Nat) : List UInt8 :=
    ((List.range size).map fun x => if (x / 8 + y / 8) % 2 = 0 then first.bytes else second.bytes).flatten
  ⟨size, size, 1, .r8g8b8a8Unorm, ⟨((List.range size).map row).flatten.toArray⟩⟩

end Image

inductive CodecEntry
  | image (img : Image)
  | unsupported (detail : String)

-- The codec: a table of files and the number of requests so far.
structure Codec where
  files : Array (Path × CodecEntry)
  decodes : Nat := 0

namespace Codec

-- The four textures served when no table is given.
def standard : Codec where
  files := #[
    (Path.ofString "textures/grass.png", .image (Image.square ⟨0, 255, 0, 255⟩)),
    (Path.ofString "textures/dirt.png", .image (Image.square ⟨120, 80, 40, 255⟩)),
    (Path.ofString "textures/rock.png", .image (Image.square ⟨128, 128, 128, 255⟩)),
    (Path.ofString "textures/snow.png", .image (Image.square ⟨255, 255, 255, 255⟩))]

instance : Inhabited Codec := ⟨standard⟩

-- The entry for a path: the last one naming the same file.
def lookup (c : Codec) (p : Path) : Option CodecEntry :=
  (c.files.toList.reverse.find? fun e => e.1.sameFile p).map (·.2)

-- Decodes the file at a path, counting the request.
def decode (c : Codec) (p : Path) : Codec × Except CodecError Image :=
  let c' := { c with decodes := c.decodes + 1 }
  match c.lookup p with
  | none => (c', .error (.notFound p.display))
  | some (.unsupported detail) => (c', .error (.unsupported detail))
  | some (.image img) => (c', .ok img)

end Codec

end GpuFrontend

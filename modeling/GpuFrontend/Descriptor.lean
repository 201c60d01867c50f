import GpuFrontend.Image
import GpuFrontend.Raster

/-!
Descriptions of the resources to create.

Only a description's name, and for buffers, models and data textures its size
and contents, affect what the library does; the other fields are carried as
given. The defaults: one layer of depth, the unknown colour format, one
sample, linear filtering, repeating addressing, constant buffers.
-/

namespace GpuFrontend

structure ImageDesc where
  name : String := ""
  width : Nat := 0
  height : Nat := 0
  depth : Nat := 1
  format : ImageFormat := .unknown
  samples : SampleCount := .x1
  clearColor : Rgba := ⟨.zero, .zero, .zero, .one⟩

structure DepthImageDesc where
  name : String := ""
  width : Nat := 0
  height : Nat := 0
  format : DepthFormat := .d32Float
  samples : SampleCount := .x1
  depthClear : Single := .one
  stencilClear : Nat := 0

structure SamplerDesc where
  name : String := ""
  filter : FilterMode := .linear
  addressMode : AddressMode := .repeating

structure BufferDesc where
  name : String := ""
  size : Nat
  kind : BufferKind := .constant

structure ModelDesc where
  name : String := ""
  vertices : ByteArray := ByteArray.empty
  stride : Nat := 0
  indices : Array Nat := #[]

-- The number of whole vertices, zero when the stride is zero.
def ModelDesc.vertexCount (d : ModelDesc) : Nat :=
  if d.stride = 0 then 0 else d.vertices.size / d.stride

structure DataTextureDesc where
  name : String := ""
  width : Nat
  height : Nat
  layers : Nat := 1
  format : ImageFormat := .r8g8b8a8Unorm
  data : ByteArray := ByteArray.empty

inductive Placeholder
  | file (path : Path)
  | solid (color : Color8)
  | checkerboard (size : Nat) (first second : Color8)

def Placeholder.standard : Placeholder := .checkerboard 64 ⟨255, 0, 255, 255⟩ ⟨0, 0, 0, 255⟩

structure Config where
  placeholder : Placeholder := .standard
  framesInFlight : Nat := 2
  commandListCapacity : Nat := 256
  failPlaceholder : Bool := false
  codec : Codec := .standard

end GpuFrontend

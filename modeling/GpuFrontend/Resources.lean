import GpuFrontend.Registry
import GpuFrontend.Device
import GpuFrontend.Fingerprint
import GpuFrontend.Image

/-!
The resources created on a device, by kind.

Every kind has its registry of records: the device object, a debug name and a
fingerprint. Loaded textures are also indexed by fingerprint, so a second load
of the same path is the first one's handle. A texture array owns a binding
table with one slot per element of its capacity; slot `i` holds member `i`,
and a slot without a member holds the placeholder texture.
-/

namespace GpuFrontend

structure Record (α : Type) where
  object : α
  name : String
  fingerprint : Fingerprint

structure TextureArray where
  name : String
  capacity : Nat
  members : Array (Handle .texture)
  fingerprints : Array Fingerprint
  table : BindingTable
  deriving Inhabited

namespace TextureArray

def isFull (a : TextureArray) : Bool := a.capacity ≤ a.members.size

-- The slot of a fingerprint; the reserved fingerprint has none.
def slotOf? (a : TextureArray) (f : Fingerprint) : Option Nat :=
  if f.isNone then none else a.fingerprints.findIdx? (· == f)

end TextureArray

structure Resources where
  codec : Codec
  placeholder : Handle .texture
  images : Registry .image (Record DeviceObject)
  depthImages : Registry .depthImage (Record DeviceObject)
  textures : Registry .texture (Record DeviceTexture)
  loaded : Array (Fingerprint × Handle .texture)
  textureArrays : Registry .textureArray TextureArray
  samplers : Registry .sampler (Record DeviceObject)
  buffers : Registry .buffer (Record DeviceObject)
  models : Registry .model (Record DeviceObject)
  graphicsPipelines : Registry .graphicsPipeline (Record DeviceObject)
  computePipelines : Registry .computePipeline (Record DeviceObject)

namespace Resources

-- No resources yet; the placeholder is still the sentinel.
def empty (codec : Codec) : Resources :=
  ⟨codec, Handle.invalid _, .empty, .empty, .empty, #[], .empty, .empty, .empty, .empty, .empty,
    .empty⟩

instance : Inhabited Resources := ⟨empty default⟩

def cached? (r : Resources) (f : Fingerprint) : Option (Handle .texture) :=
  (r.loaded.find? fun e => e.1 == f).map (·.2)

def debugText (r : Resources) : String :=
  "GpuResources \x7b images: " ++ toString r.images.size ++
    ", depth_images: " ++ toString r.depthImages.size ++
    ", textures: " ++ toString r.textures.size ++
    ", texture_arrays: " ++ toString r.textureArrays.size ++
    ", samplers: " ++ toString r.samplers.size ++
    ", buffers: " ++ toString r.buffers.size ++
    ", models: " ++ toString r.models.size ++
    ", graphics_pipelines: " ++ toString r.graphicsPipelines.size ++
    ", compute_pipelines: " ++ toString r.computePipelines.size ++ " \x7d"

end Resources

end GpuFrontend

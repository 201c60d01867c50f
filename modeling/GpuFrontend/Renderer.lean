import GpuFrontend.Descriptor
import GpuFrontend.CommandList.Replay
import GpuFrontend.Graph

/-!
The renderer: one device and the resources created on it.

Creating a resource checks the request, makes room in the registry, asks the
device, and only then records the new entry: a request the device refuses
changes nothing but the device's standing request to fail. Loading a texture
returns the handle already loaded for the same path, without decoding or any
device work; otherwise the file is decoded and created, and indexed by its
fingerprint. A failure caches nothing.
-/

namespace GpuFrontend

-- The outcome of an operation the caller may recover from.
abbrev Attempt (α : Type) := Except ResourceError α

structure Renderer where
  device : Device
  resources : Resources
  framesInFlight : Nat
  frameIndex : Nat := 0
  deriving Inhabited

-- A product of byte counts in a 64-bit word: one of 2^64 or more overflows.
def checkedMul (a b : Nat) : Except Fault Nat :=
  if Nat.pow 2 64 ≤ a * b then .error .multiplyOverflow else .ok (a * b)

-- The checks on a data texture, in order: a non-empty extent, a known format, and exactly the bytes
-- the extent needs. The byte count is width times height times layers times the texel size,
-- multiplied left to right, each product in a 64-bit word.
def DataTextureDesc.validate (d : DataTextureDesc) : Except Fault Unit :=
  if d.width = 0 ∨ d.height = 0 ∨ d.layers = 0 then
    .error (.emptyExtent d.name d.width d.height d.layers)
  else if d.format = .unknown then .error (.noFormat d.name)
  else do
    let expected ← [d.height, d.layers, d.format.texelSize].foldlM checkedMul d.width
    if d.data.size ≠ expected then .error (.wrongDataLength d.name expected)
    else .ok ()

namespace Renderer

-- Creates an object of a plain kind: room in the registry, then the device, then the record.
-- `label` names the kind in errors.
def createObject {k : HandleKind} (reg : Registry k (Record DeviceObject)) (dev : Device)
    (kind : ObjectKind) (label name : String) :
    Except Fault (Registry k (Record DeviceObject) × Device × Attempt (Handle k)) := do
  reg.ensureCapacity
  let (dev, made) := dev.create kind name
  match made with
  | .error e => pure (reg, dev, .error (.device label name e))
  | .ok id =>
    let (h, reg) ← reg.allocate ⟨⟨id, name⟩, name, .none⟩
    pure (reg, dev, .ok h)

def createImage (r : Renderer) (d : ImageDesc) : Except Fault (Renderer × Attempt (Handle .image)) := do
  let (images, device, h) ← createObject r.resources.images r.device .image "image" d.name
  pure ({ r with device, resources := { r.resources with images } }, h)

def createDepthImage (r : Renderer) (d : DepthImageDesc) :
    Except Fault (Renderer × Attempt (Handle .depthImage)) := do
  let (depthImages, device, h) ←
    createObject r.resources.depthImages r.device .depthImage "depth image" d.name
  pure ({ r with device, resources := { r.resources with depthImages } }, h)

def createSampler (r : Renderer) (d : SamplerDesc) :
    Except Fault (Renderer × Attempt (Handle .sampler)) := do
  let (samplers, device, h) ← createObject r.resources.samplers r.device .sampler "sampler" d.name
  pure ({ r with device, resources := { r.resources with samplers } }, h)

-- Creates a buffer; one of no bytes is a fault.
def createBuffer (r : Renderer) (d : BufferDesc) :
    Except Fault (Renderer × Attempt (Handle .buffer)) := do
  if d.size = 0 then throw (.zeroSizeBuffer d.name)
  let (buffers, device, h) ← createObject r.resources.buffers r.device .buffer "buffer" d.name
  pure ({ r with device, resources := { r.resources with buffers } }, h)

-- Writes bytes to a buffer; only their number shows. The sentinel is a fault.
def writeBuffer (r : Renderer) (b : Handle .buffer) (length : Nat) : Except Fault Renderer := do
  if !b.isValid then throw .writeInvalidBuffer
  let _ ← r.resources.buffers.resolve b
  let device ← r.device.writeBuffer length
  pure { r with device }

-- Creates a model; one without vertex bytes or with stride zero is a fault.
def createModel (r : Renderer) (d : ModelDesc) : Except Fault (Renderer × Attempt (Handle .model)) := do
  if d.vertices.size = 0 ∨ d.stride = 0 then throw (.modelWithoutVertices d.name)
  let (models, device, h) ← createObject r.resources.models r.device .model "model" d.name
  pure ({ r with device, resources := { r.resources with models } }, h)

def createGraphicsPipeline (r : Renderer) (name : String) :
    Except Fault (Renderer × Attempt (Handle .graphicsPipeline)) := do
  let (graphicsPipelines, device, h) ←
    createObject r.resources.graphicsPipelines r.device .graphicsPipeline "graphics pipeline" name
  pure ({ r with device, resources := { r.resources with graphicsPipelines } }, h)

def createComputePipeline (r : Renderer) (name : String) :
    Except Fault (Renderer × Attempt (Handle .computePipeline)) := do
  let (computePipelines, device, h) ←
    createObject r.resources.computePipelines r.device .computePipeline "compute pipeline" name
  pure ({ r with device, resources := { r.resources with computePipelines } }, h)

def insertTexture (r : Renderer) (name : String) (img : Image) (f : Fingerprint) :
    Except Fault (Renderer × Attempt (Handle .texture)) := do
  r.resources.textures.ensureCapacity
  let (device, made) := r.device.create .texture name
  match made with
  | .error e => pure ({ r with device }, .error (.device "texture" name e))
  | .ok id =>
    let object : DeviceTexture := ⟨id, name, img.width, img.height, img.layers, img.format⟩
    let (h, textures) ← r.resources.textures.allocate ⟨object, name, f⟩
    pure ({ r with device, resources := { r.resources with textures } }, .ok h)

-- The fingerprint of a texture path; the reserved value is a fault.
def pathFingerprint (p : Path) : Except Fault Fingerprint :=
  let f := Fingerprint.ofPath p
  if f.isNone then .error (.reservedFingerprint p.display) else .ok f

-- Loads the texture at a path: the handle already loaded for it, or a new texture decoded from the
-- file and named by the path.
def loadTexture (r : Renderer) (p : Path) : Except Fault (Renderer × Attempt (Handle .texture)) := do
  let f ← pathFingerprint p
  match r.resources.cached? f with
  | some h => pure (r, .ok h)
  | none =>
    r.resources.textures.ensureCapacity
    let (codec, decoded) := r.resources.codec.decode p
    let r := { r with resources := { r.resources with codec } }
    match decoded with
    | .error e => pure (r, .error (.decode p.display e))
    | .ok img =>
      let (r, made) ← r.insertTexture p.display img f
      match made with
      | .error e => pure (r, .error e)
      | .ok h => pure ({ r with resources := { r.resources with loaded := r.resources.loaded.push (f, h) } }, .ok h)

-- Creates a texture from pixel data. It is never shared, and carries no fingerprint.
def createDataTexture (r : Renderer) (d : DataTextureDesc) :
    Except Fault (Renderer × Attempt (Handle .texture)) := do
  d.validate
  r.insertTexture d.name ⟨d.width, d.height, d.layers, d.format, d.data⟩ .none

-- Creates a texture array of a capacity; its table starts with the placeholder in every slot. A
-- capacity of zero is a fault.
def createTextureArray (r : Renderer) (name : String) (capacity : Nat) :
    Except Fault (Renderer × Attempt (Handle .textureArray)) := do
  if capacity = 0 then throw (.zeroCapacityArray name)
  r.resources.textureArrays.ensureCapacity
  let placeholder ← r.resources.textures.resolve r.resources.placeholder
  let (device, made) := r.device.create .bindingTable name
  match made with
  | .error e => pure ({ r with device }, .error (.device "texture array" name e))
  | .ok id =>
    let table : BindingTable := ⟨id, name, Array.replicate capacity placeholder.object.id⟩
    let (h, textureArrays) ← r.resources.textureArrays.allocate ⟨name, capacity, #[], #[], table⟩
    pure ({ r with device, resources := { r.resources with textureArrays } }, .ok h)

def appendToArray (r : Renderer) (a : Handle .textureArray) (t : Handle .texture) (f : Fingerprint) :
    Except Fault (Renderer × Nat) := do
  let texture ← r.resources.textures.resolve t
  let (array, textureArrays) ← r.resources.textureArrays.take a
  if array.isFull then throw (.arrayFull array.name array.capacity)
  let slot := array.members.size
  let (device, table) := r.device.writeBinding array.table slot texture.object.id
  let array := { array with members := array.members.push t, fingerprints := array.fingerprints.push f, table }
  let textureArrays ← textureArrays.set a array
  pure ({ r with device, resources := { r.resources with textureArrays } }, slot)

-- Loads the texture at a path into an array: the slot already holding the path, even in a full
-- array; otherwise a fault when the array is full, and else the loaded texture in the next slot.
def loadTextureIntoArray (r : Renderer) (p : Path) (a : Handle .textureArray) :
    Except Fault (Renderer × Attempt (Nat × Handle .texture)) := do
  if !a.isValid then throw .invalidArray
  let f ← pathFingerprint p
  let array ← r.resources.textureArrays.resolve a
  match array.slotOf? f with
  | some slot => pure (r, .ok (slot, array.members[slot]!))
  | none =>
    if array.isFull then throw (.arrayFull array.name array.capacity)
    let (r, loaded) ← r.loadTexture p
    match loaded with
    | .error e => pure (r, .error e)
    | .ok t =>
      let (r, slot) ← r.appendToArray a t f
      pure (r, .ok (slot, t))

-- Creates a texture from pixel data in the next slot of an array. The array is checked before the
-- data.
def createDataTextureIntoArray (r : Renderer) (d : DataTextureDesc) (a : Handle .textureArray) :
    Except Fault (Renderer × Attempt (Nat × Handle .texture)) := do
  if !a.isValid then throw .invalidArray
  let array ← r.resources.textureArrays.resolve a
  if array.isFull then throw (.arrayFull array.name array.capacity)
  let (r, made) ← r.createDataTexture d
  match made with
  | .error e => pure (r, .error e)
  | .ok t =>
    let (r, slot) ← r.appendToArray a t .none
    pure (r, .ok (slot, t))

-- Builds a renderer: at least one frame in flight, then the placeholder texture, whose failure is a
-- fault.
def build (cfg : Config) : Except Fault Renderer := do
  if cfg.framesInFlight = 0 then throw .noFrameInFlight
  let device : Device := { failNext := cfg.failPlaceholder }
  let r : Renderer := ⟨device, Resources.empty cfg.codec, cfg.framesInFlight, 0⟩
  let (r, made) ← match cfg.placeholder with
    | .file p => r.loadTexture p
    | .solid c => r.insertTexture "placeholder" (Image.solid c) .none
    | .checkerboard size first second =>
      if size = 0 then throw .placeholderZeroSize
      else r.insertTexture "placeholder" (Image.checkerboard size first second) .none
  match made with
  | .error e => throw (.placeholderUnavailable e)
  | .ok h => pure { r with resources := { r.resources with placeholder := h } }

def frameInFlight (r : Renderer) : Nat := r.frameIndex % r.framesInFlight

-- Replays a list on the device, returning also the calls the replay made. The earlier trace is set
-- aside while the list runs and put back in front of the new calls.
def execute (r : Renderer) (l : CommandList) :
    Except Fault (Renderer × CommandList × Array DeviceCall) := do
  let (device, earlier) := r.device.takeCalls
  let (l, device) ← l.execute device r.resources
  let made := device.calls
  pure ({ r with device := { device with calls := earlier ++ made } }, l, made)

-- Renders a frame: sets the graph up, records it into a fresh list, replays the list, releases the
-- graph, and counts the frame. Returns also the calls of the frame.
def render (r : Renderer) (g : RenderGraph) :
    Except Fault (Renderer × RenderGraph × Array DeviceCall) := do
  let g ← g.setup
  let (g, l) ← g.execute .empty
  let (r, _, made) ← r.execute l
  pure ({ r with frameIndex := r.frameIndex + 1 }, g.deinit, made)

def debugText (r : Renderer) : String :=
  "Renderer \x7b backend: " ++ Text.quote Device.name ++ ", resources: " ++ r.resources.debugText ++
    ", frame_index: " ++ toString r.frameIndex ++ " \x7d"

end Renderer

end GpuFrontend

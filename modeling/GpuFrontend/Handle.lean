/-!
Typed resource handles.

Every kind of resource has its own handle type: an index of 16 or 32 bits.
The largest value of the width is reserved as the invalid sentinel, so a kind
issues at most that many handles, the indices below it.
-/

namespace GpuFrontend

inductive HandleKind
  | image
  | depthImage
  | texture
  | textureArray
  | sampler
  | buffer
  | model
  | graphicsPipeline
  | computePipeline
  deriving DecidableEq, Repr, Inhabited

namespace HandleKind

-- Images, depth images, texture arrays, samplers and pipelines have 16-bit handles; textures,
-- buffers and models have 32-bit handles.
def narrow : HandleKind → Bool
  | .texture | .buffer | .model => false
  | _ => true

-- The raw value of the sentinel. It is also the number of handles a kind can issue.
def capacity (k : HandleKind) : Nat :=
  if k.narrow then 65535 else 4294967295

def widthName (k : HandleKind) : String :=
  if k.narrow then "u16" else "u32"

def label : HandleKind → String
  | .image => "image"
  | .depthImage => "depth image"
  | .texture => "texture"
  | .textureArray => "texture array"
  | .sampler => "sampler"
  | .buffer => "buffer"
  | .model => "model"
  | .graphicsPipeline => "graphics pipeline"
  | .computePipeline => "compute pipeline"

def typeName : HandleKind → String
  | .image => "ImageHandle"
  | .depthImage => "DepthImageHandle"
  | .texture => "TextureHandle"
  | .textureArray => "TextureArrayHandle"
  | .sampler => "SamplerHandle"
  | .buffer => "BufferHandle"
  | .model => "ModelHandle"
  | .graphicsPipeline => "GraphicsPipelineHandle"
  | .computePipeline => "ComputePipelineHandle"

theorem capacity_pos (k : HandleKind) : 0 < k.capacity := by
  unfold capacity
  split <;> decide

end HandleKind

-- A handle of kind `k`: an issued index below the kind's capacity, or the sentinel, whose raw value
-- is the capacity itself.
structure Handle (k : HandleKind) where
  raw : Nat
  raw_le : raw ≤ k.capacity
  deriving DecidableEq

namespace Handle

variable {k : HandleKind}

-- The sentinel, which refers to nothing. It is also the default of every handle field.
def invalid (k : HandleKind) : Handle k := ⟨k.capacity, Nat.le_refl _⟩

instance : Inhabited (Handle k) := ⟨invalid k⟩

def isValid (h : Handle k) : Bool := h.raw != k.capacity

def ofIndexLt (n : Nat) (h : n < k.capacity) : Handle k := ⟨n, Nat.le_of_lt h⟩

-- The debug form, such as `TextureHandle(3)`.
def debugText (h : Handle k) : String :=
  k.typeName ++ "(" ++ toString h.raw ++ ")"

theorem isValid_iff (h : Handle k) : h.isValid = true ↔ h.raw < k.capacity := by
  have := h.raw_le
  unfold isValid
  constructor
  · intro hv
    have hne : h.raw ≠ k.capacity := by simpa using hv
    omega
  · intro hlt
    have hne : h.raw ≠ k.capacity := by omega
    simpa using hne

theorem invalid_isValid (k : HandleKind) : (invalid k).isValid = false := by
  simp [invalid, isValid]

end Handle

end GpuFrontend

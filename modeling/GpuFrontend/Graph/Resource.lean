import GpuFrontend.Handle

/-!
Resources a render pass declares, and how it uses them.

A pass declares that it reads or writes images, depth images, textures,
texture arrays or buffers. The same index under two kinds names two resources.
-/

namespace GpuFrontend

inductive Access
  | read
  | write
  deriving DecidableEq, Repr

def Access.debugText : Access → String
  | .read => "Read"
  | .write => "Write"

inductive GraphResource
  | image (h : Handle .image)
  | depthImage (h : Handle .depthImage)
  | texture (h : Handle .texture)
  | textureArray (h : Handle .textureArray)
  | buffer (h : Handle .buffer)
  deriving DecidableEq

namespace GraphResource

def isValid : GraphResource → Bool
  | .image h => h.isValid
  | .depthImage h => h.isValid
  | .texture h => h.isValid
  | .textureArray h => h.isValid
  | .buffer h => h.isValid

def raw : GraphResource → Nat
  | .image h => h.raw
  | .depthImage h => h.raw
  | .texture h => h.raw
  | .textureArray h => h.raw
  | .buffer h => h.raw

-- The debug form, such as `Texture(TextureHandle(3))`.
def debugText : GraphResource → String
  | .image h => "Image(" ++ h.debugText ++ ")"
  | .depthImage h => "DepthImage(" ++ h.debugText ++ ")"
  | .texture h => "Texture(" ++ h.debugText ++ ")"
  | .textureArray h => "TextureArray(" ++ h.debugText ++ ")"
  | .buffer h => "Buffer(" ++ h.debugText ++ ")"

end GraphResource

structure ResourceAccess where
  resource : GraphResource
  access : Access
  deriving DecidableEq

end GpuFrontend

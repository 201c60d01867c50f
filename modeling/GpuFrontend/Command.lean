import GpuFrontend.Registry
import GpuFrontend.Raster

/-!
Recorded commands.

A command is one of twenty payloads. Handles in a payload are resolved only
when the command is replayed. A raw command is assembled from the payload's
default (every handle the sentinel, numbers zero, an empty name, the default
viewport) with the given fields written over it.
-/

namespace GpuFrontend

inductive Command
  | clearImage (image : Handle .image) (color : Rgba)
  | clearDepthImage (image : Handle .depthImage) (flags : Nat) (depth : Single) (stencil : Nat)
  | draw (model : Handle .model)
  | drawBindless (vertices instances : Nat)
  | drawIndexedBindless (model : Handle .model) (indices instances : Nat)
  | dispatch (x y z : Nat)
  | pushMarker (name : DebugName) (color : Rgb)
  | popMarker
  | beginPipeline (pipeline : Handle .graphicsPipeline)
  | endPipeline (pipeline : Handle .graphicsPipeline)
  | setComputePipeline (pipeline : Handle .computePipeline)
  | setViewport (viewport : Viewport)
  | setScissorRect (rect : ScissorRect)
  | setConstantBuffer (slot : Nat) (buffer : Handle .buffer)
  | setStorageBuffer (slot : Nat) (buffer : Handle .buffer)
  | setSampler (slot : Nat) (sampler : Handle .sampler)
  | setTexture (slot : Nat) (texture : Handle .texture)
  | setTextureArray (slot : Nat) (array : Handle .textureArray)
  | setVertexBuffer (slot : Nat) (model : Handle .model)
  | setIndexBuffer (model : Handle .model)

inductive CommandKind
  | clearImage
  | clearDepthImage
  | draw
  | drawBindless
  | drawIndexedBindless
  | dispatch
  | pushMarker
  | popMarker
  | beginPipeline
  | endPipeline
  | setComputePipeline
  | setViewport
  | setScissorRect
  | setConstantBuffer
  | setStorageBuffer
  | setSampler
  | setTexture
  | setTextureArray
  | setVertexBuffer
  | setIndexBuffer
  deriving DecidableEq, Repr

namespace CommandKind

def all : List CommandKind :=
  [.clearImage, .clearDepthImage, .draw, .drawBindless, .drawIndexedBindless, .dispatch,
    .pushMarker, .popMarker, .beginPipeline, .endPipeline, .setComputePipeline, .setViewport,
    .setScissorRect, .setConstantBuffer, .setStorageBuffer, .setSampler, .setTexture,
    .setTextureArray, .setVertexBuffer, .setIndexBuffer]

def name : CommandKind → String
  | .clearImage => "ClearImage"
  | .clearDepthImage => "ClearDepthImage"
  | .draw => "Draw"
  | .drawBindless => "DrawBindless"
  | .drawIndexedBindless => "DrawIndexedBindless"
  | .dispatch => "Dispatch"
  | .pushMarker => "PushMarker"
  | .popMarker => "PopMarker"
  | .beginPipeline => "BeginGraphicsPipeline"
  | .endPipeline => "EndGraphicsPipeline"
  | .setComputePipeline => "SetComputePipeline"
  | .setViewport => "SetViewport"
  | .setScissorRect => "SetScissorRect"
  | .setConstantBuffer => "SetConstantBuffer"
  | .setStorageBuffer => "SetStorageBuffer"
  | .setSampler => "SetSampler"
  | .setTexture => "SetTexture"
  | .setTextureArray => "SetTextureArray"
  | .setVertexBuffer => "SetVertexBuffer"
  | .setIndexBuffer => "SetIndexBuffer"

def ofName? (s : String) : Option CommandKind := all.find? fun k => k.name == s

def fieldNames : CommandKind → List String
  | .clearImage => ["image", "color"]
  | .clearDepthImage => ["image", "flags", "depth", "stencil"]
  | .draw => ["model"]
  | .drawBindless => ["vertices", "instances"]
  | .drawIndexedBindless => ["model", "indices", "instances"]
  | .dispatch => ["x", "y", "z"]
  | .pushMarker => ["name", "color"]
  | .popMarker => []
  | .beginPipeline | .endPipeline | .setComputePipeline => ["pipeline"]
  | .setViewport => ["viewport"]
  | .setScissorRect => ["rect"]
  | .setConstantBuffer | .setStorageBuffer => ["slot", "buffer"]
  | .setSampler => ["slot", "sampler"]
  | .setTexture => ["slot", "texture"]
  | .setTextureArray => ["slot", "array"]
  | .setVertexBuffer => ["slot", "model"]
  | .setIndexBuffer => ["model"]

end CommandKind

def Command.kind : Command → CommandKind
  | .clearImage .. => .clearImage
  | .clearDepthImage .. => .clearDepthImage
  | .draw .. => .draw
  | .drawBindless .. => .drawBindless
  | .drawIndexedBindless .. => .drawIndexedBindless
  | .dispatch .. => .dispatch
  | .pushMarker .. => .pushMarker
  | .popMarker => .popMarker
  | .beginPipeline .. => .beginPipeline
  | .endPipeline .. => .endPipeline
  | .setComputePipeline .. => .setComputePipeline
  | .setViewport .. => .setViewport
  | .setScissorRect .. => .setScissorRect
  | .setConstantBuffer .. => .setConstantBuffer
  | .setStorageBuffer .. => .setStorageBuffer
  | .setSampler .. => .setSampler
  | .setTexture .. => .setTexture
  | .setTextureArray .. => .setTextureArray
  | .setVertexBuffer .. => .setVertexBuffer
  | .setIndexBuffer .. => .setIndexBuffer

-- The fields given for a raw command; each absent one keeps the payload default.
structure CommandFields where
  image : Option (Handle .image) := none
  depthImage : Option (Handle .depthImage) := none
  color4 : Option Rgba := none
  color3 : Option Rgb := none
  flags : Option Nat := none
  depth : Option Single := none
  stencil : Option Nat := none
  model : Option (Handle .model) := none
  vertices : Option Nat := none
  indices : Option Nat := none
  instances : Option Nat := none
  x : Option Nat := none
  y : Option Nat := none
  z : Option Nat := none
  name : Option String := none
  graphicsPipeline : Option (Handle .graphicsPipeline) := none
  computePipeline : Option (Handle .computePipeline) := none
  viewport : Option Viewport := none
  rect : Option ScissorRect := none
  slot : Option Nat := none
  buffer : Option (Handle .buffer) := none
  sampler : Option (Handle .sampler) := none
  texture : Option (Handle .texture) := none
  array : Option (Handle .textureArray) := none

-- The raw command of a kind: the payload default with the given fields written over it. A payload
-- of a single field is assembled only when that field is given. The name of a marker is left empty
-- here; it is checked when the command is recorded.
def Command.assemble (k : CommandKind) (f : CommandFields) : Option Command :=
  let h {k} (o : Option (Handle k)) : Handle k := o.getD (Handle.invalid k)
  match k with
  | .clearImage => some (.clearImage (h f.image) (f.color4.getD .zero))
  | .clearDepthImage =>
    some (.clearDepthImage (h f.depthImage) (f.flags.getD 0) (f.depth.getD .zero) (f.stencil.getD 0))
  | .draw => f.model.map .draw
  | .drawBindless => some (.drawBindless (f.vertices.getD 0) (f.instances.getD 0))
  | .drawIndexedBindless =>
    some (.drawIndexedBindless (h f.model) (f.indices.getD 0) (f.instances.getD 0))
  | .dispatch => some (.dispatch (f.x.getD 0) (f.y.getD 0) (f.z.getD 0))
  | .pushMarker => some (.pushMarker .empty (f.color3.getD .zero))
  | .popMarker => some .popMarker
  | .beginPipeline => f.graphicsPipeline.map .beginPipeline
  | .endPipeline => f.graphicsPipeline.map .endPipeline
  | .setComputePipeline => f.computePipeline.map .setComputePipeline
  | .setViewport => f.viewport.map .setViewport
  | .setScissorRect => f.rect.map .setScissorRect
  | .setConstantBuffer => some (.setConstantBuffer (f.slot.getD 0) (h f.buffer))
  | .setStorageBuffer => some (.setStorageBuffer (f.slot.getD 0) (h f.buffer))
  | .setSampler => some (.setSampler (f.slot.getD 0) (h f.sampler))
  | .setTexture => some (.setTexture (f.slot.getD 0) (h f.texture))
  | .setTextureArray => some (.setTextureArray (f.slot.getD 0) (h f.array))
  | .setVertexBuffer => some (.setVertexBuffer (f.slot.getD 0) (h f.model))
  | .setIndexBuffer => f.model.map .setIndexBuffer

end GpuFrontend

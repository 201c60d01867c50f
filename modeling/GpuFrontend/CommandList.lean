import GpuFrontend.Command

/-!
Command lists: commands recorded now and replayed once later.

Recording checks its arguments and appends one command. The typed operations
check what their command needs (a valid model, non-zero counts, a debug name,
an open marker to pop) and keep the marker depth; a raw command is appended
unchecked and leaves the depth alone. Once a list has been replayed, appending
to it is a fault until it is reset; the operation's own checks come first.
-/

namespace GpuFrontend

structure CommandList where
  commands : Array Command := #[]
  depth : Nat := 0
  executed : Bool := false
  deriving Inhabited

inductive Recording
  | clearImage (image : Handle .image) (color : Rgba)
  | clearDepthImage (image : Handle .depthImage) (flags : Nat) (depth : Single) (stencil : Nat)
  | draw (model : Handle .model)
  | drawBindless (vertices instances : Nat)
  | drawIndexedBindless (model : Handle .model) (indices instances : Nat)
  | dispatch (x y z : Nat)
  | pushMarker (name : String) (color : Rgb)
  | popMarker
  | beginPipeline (pipeline : Handle .graphicsPipeline)
  | endPipeline (pipeline : Handle .graphicsPipeline)
  | setComputePipeline (pipeline : Handle .computePipeline)
  | setViewport (viewport : Viewport)
  | setScissorRect (rect : ScissorRect)
  | setConstantBuffer (slot : Nat) (buffer : Handle .buffer)
  | setStorageBuffer (slot : Nat) (buffer : Handle .buffer)
  | setSampler (slot : Nat) (sampler : Handle .sampler)
  | setTexture (slot : Nat) (texture : Handle .texture)
  | setTextureArray (slot : Nat) (array : Handle .textureArray)
  | setVertexBuffer (slot : Nat) (model : Handle .model)
  | setIndexBuffer (model : Handle .model)
  -- A raw command of a kind, assembled from the given fields.
  | raw (kind : CommandKind) (fields : CommandFields)

namespace CommandList

def empty : CommandList := {}

-- Appends a command; a fault once the list was replayed.
def append (l : CommandList) (c : Command) : Except Fault CommandList :=
  if l.executed then .error .recordedAfterExecute
  else .ok { l with commands := l.commands.push c }

def record (l : CommandList) : Recording → Except Fault CommandList
  | .clearImage image color => l.append (.clearImage image color)
  | .clearDepthImage image flags depth stencil => l.append (.clearDepthImage image flags depth stencil)
  | .draw model =>
    if model.isValid then l.append (.draw model) else .error .drawInvalidModel
  | .drawBindless vertices instances =>
    if vertices = 0 then .error .bindlessZeroVertices
    else if instances = 0 then .error .bindlessZeroInstances
    else l.append (.drawBindless vertices instances)
  | .drawIndexedBindless model indices instances =>
    if !model.isValid then .error .indexedInvalidModel
    else if indices = 0 then .error .indexedZeroIndices
    else if instances = 0 then .error .indexedZeroInstances
    else l.append (.drawIndexedBindless model indices instances)
  | .dispatch x y z =>
    if x = 0 ∨ y = 0 ∨ z = 0 then .error (.emptyWorkgroup x y z) else l.append (.dispatch x y z)
  | .pushMarker name color => do
    let n ← DebugName.require name
    let l ← l.append (.pushMarker n color)
    pure { l with depth := l.depth + 1 }
  | .popMarker =>
    if l.depth = 0 then .error .unmatchedPop
    else do
      let l ← l.append .popMarker
      pure { l with depth := l.depth - 1 }
  | .beginPipeline p => l.append (.beginPipeline p)
  | .endPipeline p => l.append (.endPipeline p)
  | .setComputePipeline p => l.append (.setComputePipeline p)
  | .setViewport v => l.append (.setViewport v)
  | .setScissorRect r => l.append (.setScissorRect r)
  | .setConstantBuffer slot b => l.append (.setConstantBuffer slot b)
  | .setStorageBuffer slot b => l.append (.setStorageBuffer slot b)
  | .setSampler slot s => l.append (.setSampler slot s)
  | .setTexture slot t => l.append (.setTexture slot t)
  | .setTextureArray slot a => l.append (.setTextureArray slot a)
  | .setVertexBuffer slot m => l.append (.setVertexBuffer slot m)
  | .setIndexBuffer m => l.append (.setIndexBuffer m)
  | .raw kind fields =>
    match Command.assemble kind fields with
    | none => .ok l
    | some c =>
      if l.executed then .error .recordedAfterExecute
      else
        match c, fields.name with
        | .pushMarker _ color, some name => do
          let n ← DebugName.require name
          pure { l with commands := l.commands.push (.pushMarker n color) }
        | _, _ => .ok { l with commands := l.commands.push c }

def recordAll (l : CommandList) (rs : List Recording) : Except Fault CommandList :=
  rs.foldlM record l

def popMany (l : CommandList) : Nat → Except Fault CommandList
  | 0 => .ok l
  | n + 1 => do
    let l ← l.record .popMarker
    l.popMany n

def reset (_ : CommandList) : CommandList := empty

def size (l : CommandList) : Nat := l.commands.size

end CommandList

end GpuFrontend

import GpuFrontend.CommandList
import GpuFrontend.Resources

/-!
Replaying a command list on a device.

A list is replayed once, and only with every marker closed. The replay opens a
command stream, sends every command in order with its handles resolved to
device objects, and closes the stream. A handle that was never issued, the
sentinel included, is a fault partway through.
-/

namespace GpuFrontend

def Resources.translate (res : Resources) : Command → Except Fault DeviceCall
  | .clearImage image color => do
    let r ← res.images.resolve image
    pure (.clearImage r.object.id color)
  | .clearDepthImage image flags depth stencil => do
    let r ← res.depthImages.resolve image
    pure (.clearDepthImage r.object.id flags depth stencil)
  | .draw model => do
    let r ← res.models.resolve model
    pure (.draw r.object.id)
  | .drawBindless vertices instances => pure (.drawBindless vertices instances)
  | .drawIndexedBindless model indices instances => do
    let r ← res.models.resolve model
    pure (.drawIndexedBindless r.object.id indices instances)
  | .dispatch x y z => pure (.dispatch x y z)
  | .pushMarker name _ => pure (.pushMarker name.text)
  | .popMarker => pure .popMarker
  | .beginPipeline p => do
    let r ← res.graphicsPipelines.resolve p
    pure (.beginPipeline r.object.id)
  | .endPipeline p => do
    let r ← res.graphicsPipelines.resolve p
    pure (.endPipeline r.object.id)
  | .setComputePipeline p => do
    let r ← res.computePipelines.resolve p
    pure (.setComputePipeline r.object.id)
  | .setViewport v => pure (.setViewport v)
  | .setScissorRect rect => pure (.setScissorRect rect)
  | .setConstantBuffer slot b => do
    let r ← res.buffers.resolve b
    pure (.setConstantBuffer slot r.object.id)
  | .setStorageBuffer slot b => do
    let r ← res.buffers.resolve b
    pure (.setStorageBuffer slot r.object.id)
  | .setSampler slot s => do
    let r ← res.samplers.resolve s
    pure (.setSampler slot r.object.id)
  | .setTexture slot t => do
    let r ← res.textures.resolve t
    pure (.setTexture slot r.object.id)
  | .setTextureArray slot a => do
    let r ← res.textureArrays.resolve a
    pure (.setTextureArray slot r.table.id)
  | .setVertexBuffer slot m => do
    let r ← res.models.resolve m
    pure (.setVertexBuffer slot r.object.id)
  | .setIndexBuffer m => do
    let r ← res.models.resolve m
    pure (.setIndexBuffer r.object.id)

-- Replays a list on a device: a fault with a marker still open, or when the list was replayed
-- before; otherwise the list is marked replayed and the device receives one stream with every
-- command.
def CommandList.execute (l : CommandList) (dev : Device) (res : Resources) :
    Except Fault (CommandList × Device) :=
  if l.depth ≠ 0 then .error (.unbalancedMarkers l.depth)
  else if l.executed then .error .executedTwice
  else do
    let (dev, stream) ← dev.beginStream
    let dev ← l.commands.foldlM (fun dev c => do dev.send stream (← res.translate c)) dev
    let dev ← dev.endStream stream
    pure ({ l with executed := true }, dev)

end GpuFrontend

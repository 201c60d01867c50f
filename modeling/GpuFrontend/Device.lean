import GpuFrontend.Format
import GpuFrontend.Raster
import GpuFrontend.Device.Error
import GpuFrontend.Fault

/-!
The recording device.

The device touches no hardware. Each kind of object it creates is numbered
0, 1, 2, ... in creation order, and the numbers count successful creations.
A request to fail makes the next creation of any kind fail with an invalid
parameter; calls that create nothing leave the request standing. Every command
it is sent inside a command stream is appended to its call trace, and
counters record binding writes, buffer bytes written and command streams.
One stream is open at a time; opening a second one, or sending a call to a
stream that is not the open one, is a fault.
-/

namespace GpuFrontend

inductive ObjectKind
  | image
  | depthImage
  | texture
  | bindingTable
  | sampler
  | buffer
  | model
  | graphicsPipeline
  | computePipeline
  deriving DecidableEq, Repr

def ObjectKind.label : ObjectKind → String
  | .image => "image"
  | .depthImage => "depth image"
  | .texture => "texture"
  | .bindingTable => "binding table"
  | .sampler => "sampler"
  | .buffer => "buffer"
  | .model => "model"
  | .graphicsPipeline => "graphics pipeline"
  | .computePipeline => "compute pipeline"

-- The device's counters. The byte count is 64 bits wide and the stream count 32, as the device
-- keeps them; the creation counts are bounded by the handles the registries can issue.
structure Stats where
  images : Nat := 0
  depthImages : Nat := 0
  textures : Nat := 0
  bindingTables : Nat := 0
  bindingWrites : Nat := 0
  samplers : Nat := 0
  buffers : Nat := 0
  bufferBytesWritten : UInt64 := 0
  models : Nat := 0
  graphicsPipelines : Nat := 0
  computePipelines : Nat := 0
  commandStreams : UInt32 := 0
  deriving DecidableEq, Repr, Inhabited

namespace Stats

def created (s : Stats) : ObjectKind → Nat
  | .image => s.images
  | .depthImage => s.depthImages
  | .texture => s.textures
  | .bindingTable => s.bindingTables
  | .sampler => s.samplers
  | .buffer => s.buffers
  | .model => s.models
  | .graphicsPipeline => s.graphicsPipelines
  | .computePipeline => s.computePipelines

def bump (s : Stats) : ObjectKind → Stats
  | .image => { s with images := s.images + 1 }
  | .depthImage => { s with depthImages := s.depthImages + 1 }
  | .texture => { s with textures := s.textures + 1 }
  | .bindingTable => { s with bindingTables := s.bindingTables + 1 }
  | .sampler => { s with samplers := s.samplers + 1 }
  | .buffer => { s with buffers := s.buffers + 1 }
  | .model => { s with models := s.models + 1 }
  | .graphicsPipeline => { s with graphicsPipelines := s.graphicsPipelines + 1 }
  | .computePipeline => { s with computePipelines := s.computePipelines + 1 }

end Stats

structure DeviceObject where
  id : Nat
  name : String
  deriving DecidableEq, Repr

structure DeviceTexture where
  id : Nat
  name : String
  width : Nat
  height : Nat
  layers : Nat
  format : ImageFormat
  deriving DecidableEq, Repr

structure BindingTable where
  id : Nat
  name : String
  slots : Array Nat
  deriving DecidableEq, Repr, Inhabited

-- A call the device records. Objects appear by their device numbers.
inductive DeviceCall
  | beginStream (stream : Nat)
  | endStream (stream : Nat)
  | clearImage (image : Nat) (color : Rgba)
  | clearDepthImage (image : Nat) (flags : Nat) (depth : Single) (stencil : Nat)
  | draw (model : Nat)
  | drawBindless (vertices instances : Nat)
  | drawIndexedBindless (model indices instances : Nat)
  | dispatch (x y z : Nat)
  | pushMarker (name : String)
  | popMarker
  | beginPipeline (pipeline : Nat)
  | endPipeline (pipeline : Nat)
  | setComputePipeline (pipeline : Nat)
  | setViewport (viewport : Viewport)
  | setScissorRect (rect : ScissorRect)
  | setConstantBuffer (slot buffer : Nat)
  | setStorageBuffer (slot buffer : Nat)
  | setSampler (slot sampler : Nat)
  | setTexture (slot texture : Nat)
  | setTextureArray (slot table : Nat)
  | setVertexBuffer (slot model : Nat)
  | setIndexBuffer (model : Nat)
  deriving DecidableEq, Repr

def DeviceCall.name : DeviceCall → String
  | .beginStream .. => "BeginStream"
  | .endStream .. => "EndStream"
  | .clearImage .. => "ClearImage"
  | .clearDepthImage .. => "ClearDepthImage"
  | .draw .. => "Draw"
  | .drawBindless .. => "DrawBindless"
  | .drawIndexedBindless .. => "DrawIndexedBindless"
  | .dispatch .. => "Dispatch"
  | .pushMarker .. => "PushMarker"
  | .popMarker => "PopMarker"
  | .beginPipeline .. => "BeginPipeline"
  | .endPipeline .. => "EndPipeline"
  | .setComputePipeline .. => "SetComputePipeline"
  | .setViewport .. => "SetViewport"
  | .setScissorRect .. => "SetScissorRect"
  | .setConstantBuffer .. => "SetConstantBuffer"
  | .setStorageBuffer .. => "SetStorageBuffer"
  | .setSampler .. => "SetSampler"
  | .setTexture .. => "SetTexture"
  | .setTextureArray .. => "SetTextureArray"
  | .setVertexBuffer .. => "SetVertexBuffer"
  | .setIndexBuffer .. => "SetIndexBuffer"

structure Device where
  stats : Stats := {}
  calls : Array DeviceCall := #[]
  failNext : Bool := false
  openStream : Option Nat := none
  deriving Inhabited

namespace Device

def name : String := "Dummy Backend"

def requestFailure (d : Device) : Device := { d with failNext := true }

-- Creates an object of a kind: its number, or the refusal that a standing request to fail causes,
-- which the request is spent on.
def create (d : Device) (kind : ObjectKind) (name : String) : Device × Except DeviceError Nat :=
  if d.failNext then
    ({ d with failNext := false },
      .error (.invalidParameter (kind.label ++ " '" ++ name ++ "' rejected by dummy backend")))
  else
    ({ d with stats := d.stats.bump kind }, .ok (d.stats.created kind))

def writeBinding (d : Device) (table : BindingTable) (index texture : Nat) :
    Device × BindingTable :=
  ({ d with stats := { d.stats with bindingWrites := d.stats.bindingWrites + 1 } },
    { table with slots := table.slots.set! index texture })

-- Writes `length` bytes to a buffer. Counting them past the width of the byte count is the
-- overflow fault.
def writeBuffer (d : Device) (length : Nat) : Except Fault Device :=
  if d.stats.bufferBytesWritten.toNat + length < UInt64.size then
    .ok { d with stats := { d.stats with
      bufferBytesWritten := d.stats.bufferBytesWritten + length.toUInt64 } }
  else .error .addOverflow

def record (d : Device) (c : DeviceCall) : Device := { d with calls := d.calls.push c }

-- Opens a command stream, numbered by the streams opened before it; a fault while another
-- stream is open, and the overflow fault once the stream count is at its width.
def beginStream (d : Device) : Except Fault (Device × Nat) :=
  if d.openStream.isSome then .error .streamAlreadyOpen
  else if d.stats.commandStreams.toNat + 1 < UInt32.size then
    let s := d.stats.commandStreams.toNat
    let opened : Device :=
      { d with stats := { d.stats with commandStreams := d.stats.commandStreams + 1 },
               calls := d.calls.push (.beginStream s), openStream := some s }
    .ok (opened, s)
  else .error .addOverflow

-- Appends a call sent to stream `s`; a fault unless `s` is the open stream.
def send (d : Device) (s : Nat) (c : DeviceCall) : Except Fault Device :=
  if d.openStream = some s then .ok (d.record c) else .error .outsideStream

def endStream (d : Device) (s : Nat) : Except Fault Device := do
  let d ← d.send s (.endStream s)
  pure { d with openStream := none }

def takeCalls (d : Device) : Device × Array DeviceCall := ({ d with calls := #[] }, d.calls)

end Device

end GpuFrontend

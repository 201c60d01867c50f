import GpuFrontend.Renderer

/-!
Constant buffers: one buffer per frame in flight, for a value of fixed size.

Creating one creates a buffer per frame, named by the frame's number in
brackets, and then writes the value to each. If the device refuses a buffer,
the buffers before it stay created. The buffer of a frame is the one of the
frame's number modulo the frames in flight; applying the value writes it to
the buffer of the frame in flight.
-/

namespace GpuFrontend

structure ConstantBuffer where
  size : Nat
  buffers : Array (Handle .buffer)

namespace ConstantBuffer

def handle (cb : ConstantBuffer) (frame : Nat) : Handle .buffer :=
  cb.buffers[frame % cb.buffers.size]?.getD (Handle.invalid _)

end ConstantBuffer

namespace Renderer

-- Creates the buffers of frames `frame`, `frame + 1`, ..., `n` of them.
def createFrameBuffers (name : String) (size : Nat) :
    Renderer → Nat → Nat → Array (Handle .buffer) →
      Except Fault (Renderer × Attempt (Array (Handle .buffer)))
  | r, _, 0, acc => pure (r, .ok acc)
  | r, frame, n + 1, acc => do
    let (r, made) ← r.createBuffer { name := name ++ "[" ++ toString frame ++ "]", size }
    match made with
    | .error e => pure (r, .error e)
    | .ok h => createFrameBuffers name size r (frame + 1) n (acc.push h)

def writeEach (size : Nat) : Renderer → List (Handle .buffer) → Except Fault Renderer
  | r, [] => pure r
  | r, b :: rest => do
    let r ← r.writeBuffer b size
    writeEach size r rest

-- Creates a constant buffer for a value of `size` bytes, one buffer per frame in flight, and writes
-- the value to each.
def createConstantBuffer (r : Renderer) (name : String) (size : Nat) :
    Except Fault (Renderer × Attempt ConstantBuffer) := do
  let (r, made) ← createFrameBuffers name size r 0 r.framesInFlight #[]
  match made with
  | .error e => pure (r, .error e)
  | .ok buffers =>
    let r ← writeEach size r buffers.toList
    pure (r, .ok ⟨size, buffers⟩)

-- Writes the value to the buffer of the frame in flight.
def applyConstantBuffer (r : Renderer) (cb : ConstantBuffer) : Except Fault Renderer :=
  r.writeBuffer (cb.handle r.frameInFlight) cb.size

end Renderer

end GpuFrontend

import GpuFrontend.ConstantBuffer
import GpuFrontend.Session.Run

/-!
Sessions on a renderer.

A session holds one renderer together with the command lists, render graphs,
passes and constant buffers its steps have made, each numbered in creation
order. A step names them by number; a number that names nothing ends the
session.
-/

namespace GpuFrontend.Session

inductive Step
  | createImage (d : ImageDesc)
  | createDepthImage (d : DepthImageDesc)
  | createSampler (d : SamplerDesc)
  | createBuffer (d : BufferDesc)
  | writeBuffer (buffer : Handle .buffer) (offset : Nat) (data : ByteArray)
  | createModel (d : ModelDesc)
  | createGraphicsPipeline (name : String)
  | createComputePipeline (name : String)
  | loadTexture (path : Path)
  | createDataTexture (d : DataTextureDesc)
  | createTextureArray (name : String) (capacity : Nat)
  | loadTextureIntoArray (path : Path) (array : Handle .textureArray)
  | createDataTextureIntoArray (d : DataTextureDesc) (array : Handle .textureArray)
  | createConstantBuffer (name : String) (size : Nat)
  | applyConstantBuffer (cb : Nat)
  | constantBufferHandle (cb : Nat) (frame : Nat)
  | failNextCreation
  | decodeCount
  | calls
  | takeCalls
  | stats
  | counts
  | placeholder
  | frameIndex
  | frameInFlight
  | rendererDebug
  | texture (h : Handle .texture)
  | textureArray (h : Handle .textureArray)
  | image (h : Handle .image)
  | depthImage (h : Handle .depthImage)
  | sampler (h : Handle .sampler)
  | buffer (h : Handle .buffer)
  | model (h : Handle .model)
  | graphicsPipeline (h : Handle .graphicsPipeline)
  | computePipeline (h : Handle .computePipeline)
  | listNew (fromRenderer : Bool)
  | record (list : Nat) (r : Recording)
  | listExecute (list : Nat)
  | listReset (list : Nat)
  | listInfo (list : Nat)
  | listCommands (list : Nat)
  | graphNew
  | addPass (graph : Nat) (name : String) (script : PassScript)
  | graphSetup (graph : Nat)
  | graphExecute (graph : Nat) (list : Nat)
  | graphDeinit (graph : Nat)
  | graphLen (graph : Nat)
  | graphDebug (graph : Nat)
  | passState (graph : Nat) (pass : Nat)
  | passUsage (graph : Nat) (pass : Nat)
  | passName (graph : Nat) (pass : Nat)
  | render (graph : Nat)
  | passNew (name : String) (script : PassScript)
  | passSetup (pass : Nat)
  | passExecute (pass : Nat) (list : Nat)
  | passDeinit (pass : Nat)
  | passInfo (pass : Nat)

structure Counts where
  images : Nat
  depthImages : Nat
  textures : Nat
  textureArrays : Nat
  samplers : Nat
  buffers : Nat
  models : Nat
  graphicsPipelines : Nat
  computePipelines : Nat

def Counts.of (r : Resources) : Counts :=
  ⟨r.images.size, r.depthImages.size, r.textures.size, r.textureArrays.size, r.samplers.size,
    r.buffers.size, r.models.size, r.graphicsPipelines.size, r.computePipelines.size⟩

inductive Reply
  | unit
  | count (n : Nat)
  | slot (slot texture : Nat)
  | calls (cs : Array DeviceCall)
  | stats (s : Stats)
  | counts (c : Counts)
  | text (s : String)
  | list (l : CommandList)
  | commands (cs : Array Command)
  | texture (r : Record DeviceTexture)
  | textureArray (a : TextureArray)
  | object (r : Record DeviceObject)
  | constantBuffer (id : Nat) (cb : ConstantBuffer)
  | graphSize (n : Nat)
  | usage (accesses : Array ResourceAccess)
  | setup (accepted : Bool) (b : Builder)
  | passInfo (name : String) (deinit : Bool)

structure State where
  renderer : Renderer
  lists : Array CommandList := #[]
  graphs : Array RenderGraph := #[]
  passes : Array RenderPass := #[]
  constantBuffers : Array ConstantBuffer := #[]

-- The step result of a renderer operation: a fault halts, the rest is the new state and the reply
-- or recoverable error.
abbrev Result := Except Halt (State × Except ResourceError Reply)

namespace State

def lift {β : Type} : Except Fault β → Except Halt β
  | .ok b => .ok b
  | .error f => .error (.fault f)

def list (s : State) (i : Nat) : Except Halt CommandList :=
  match s.lists[i]? with
  | some l => .ok l
  | none => .error (.missing (.list i s.lists.size))

-- The command list of a number, taken out of the state so that it can change in place; `putList`
-- puts it back.
def takeList (s : State) (i : Nat) : Except Halt (State × CommandList) := do
  let l ← s.list i
  pure ({ s with lists := s.lists.set! i .empty }, l)

def graph (s : State) (i : Nat) : Except Halt RenderGraph :=
  match s.graphs[i]? with
  | some g => .ok g
  | none => .error (.missing (.graph i s.graphs.size))

def pass (s : State) (i : Nat) : Except Halt RenderPass :=
  match s.passes[i]? with
  | some p => .ok p
  | none => .error (.missing (.pass i s.passes.size))

def constantBuffer (s : State) (i : Nat) : Except Halt ConstantBuffer :=
  match s.constantBuffers[i]? with
  | some cb => .ok cb
  | none => .error (.missing (.constantBuffer i s.constantBuffers.size))

def graphPass (g : RenderGraph) (i : Nat) : Except Halt PassNode :=
  match g.nodes[i]? with
  | some n => .ok n
  | none => .error (.missing (.graphPass i))

-- The render graph of a number, taken out of the state so that it can change in place.
def takeGraph (s : State) (i : Nat) : Except Halt (State × RenderGraph) := do
  let g ← s.graph i
  pure ({ s with graphs := s.graphs.set! i {} }, g)

-- A renderer operation that may fail without a fault, with its reply. The operation gets the
-- renderer out of the state, so that it changes in place.
def attempt {β : Type} (s : State) (op : Renderer → Except Fault (Renderer × Attempt β))
    (reply : β → Reply) : Result := do
  let (renderer, made) ← lift (op s.renderer)
  pure ({ s with renderer }, made.map reply)

-- A renderer operation that cannot fail short of a fault, answered by `reply`.
def change (s : State) (op : Renderer → Except Fault Renderer) (reply : Reply) : Result := do
  let renderer ← lift (op s.renderer)
  pure ({ s with renderer }, .ok reply)

def answer (s : State) (reply : Reply) : Result := .ok (s, .ok reply)

def putList (s : State) (i : Nat) (l : CommandList) : Result :=
  .ok ({ s with lists := s.lists.set! i l }, .ok (.list l))

def exec (s : State) : Step → Result
  | .createImage d => s.attempt (·.createImage d) (.count ·.raw)
  | .createDepthImage d => s.attempt (·.createDepthImage d) (.count ·.raw)
  | .createSampler d => s.attempt (·.createSampler d) (.count ·.raw)
  | .createBuffer d => s.attempt (·.createBuffer d) (.count ·.raw)
  | .writeBuffer b _ data => s.change (·.writeBuffer b data.size) .unit
  | .createModel d => s.attempt (·.createModel d) (.count ·.raw)
  | .createGraphicsPipeline name => s.attempt (·.createGraphicsPipeline name) (.count ·.raw)
  | .createComputePipeline name => s.attempt (·.createComputePipeline name) (.count ·.raw)
  | .loadTexture p => s.attempt (·.loadTexture p) (.count ·.raw)
  | .createDataTexture d => s.attempt (·.createDataTexture d) (.count ·.raw)
  | .createTextureArray name capacity =>
    s.attempt (·.createTextureArray name capacity) (.count ·.raw)
  | .loadTextureIntoArray p a =>
    s.attempt (·.loadTextureIntoArray p a) fun (slot, t) => .slot slot t.raw
  | .createDataTextureIntoArray d a =>
    s.attempt (·.createDataTextureIntoArray d a) fun (slot, t) => .slot slot t.raw
  | .createConstantBuffer name size => do
    let (renderer, made) ← lift (s.renderer.createConstantBuffer name size)
    match made with
    | .error e => pure ({ s with renderer }, .error e)
    | .ok cb =>
      let id := s.constantBuffers.size
      let constantBuffers := s.constantBuffers.push cb
      pure ({ s with renderer, constantBuffers }, .ok (.constantBuffer id cb))
  | .applyConstantBuffer i => do
    let cb ← s.constantBuffer i
    s.change (·.applyConstantBuffer cb) .unit
  | .constantBufferHandle i frame => do
    let cb ← s.constantBuffer i
    s.answer (.count (cb.handle frame).raw)
  | .failNextCreation =>
    s.change (fun r => pure { r with device := r.device.requestFailure }) .unit
  | .decodeCount => s.answer (.count s.renderer.resources.codec.decodes)
  | .calls => s.answer (.calls s.renderer.device.calls)
  | .takeCalls =>
    let (device, cs) := s.renderer.device.takeCalls
    .ok ({ s with renderer := { s.renderer with device } }, .ok (.calls cs))
  | .stats => s.answer (.stats s.renderer.device.stats)
  | .counts => s.answer (.counts (Counts.of s.renderer.resources))
  | .placeholder => s.answer (.count s.renderer.resources.placeholder.raw)
  | .frameIndex => s.answer (.count s.renderer.frameIndex)
  | .frameInFlight => s.answer (.count s.renderer.frameInFlight)
  | .rendererDebug => s.answer (.text s.renderer.debugText)
  | .texture h => do s.answer (.texture (← lift (s.renderer.resources.textures.resolve h)))
  | .textureArray h => do
    s.answer (.textureArray (← lift (s.renderer.resources.textureArrays.resolve h)))
  | .image h => do s.answer (.object (← lift (s.renderer.resources.images.resolve h)))
  | .depthImage h => do s.answer (.object (← lift (s.renderer.resources.depthImages.resolve h)))
  | .sampler h => do s.answer (.object (← lift (s.renderer.resources.samplers.resolve h)))
  | .buffer h => do s.answer (.object (← lift (s.renderer.resources.buffers.resolve h)))
  | .model h => do s.answer (.object (← lift (s.renderer.resources.models.resolve h)))
  | .graphicsPipeline h => do
    s.answer (.object (← lift (s.renderer.resources.graphicsPipelines.resolve h)))
  | .computePipeline h => do
    s.answer (.object (← lift (s.renderer.resources.computePipelines.resolve h)))
  | .listNew _ =>
    let id := s.lists.size
    .ok ({ s with lists := s.lists.push .empty }, .ok (.count id))
  | .record i r => do
    let (s, l) ← s.takeList i
    let l ← lift (l.record r)
    s.putList i l
  | .listExecute i => do
    let (s, l) ← s.takeList i
    let (renderer, l, made) ← lift (s.renderer.execute l)
    .ok ({ s with renderer, lists := s.lists.set! i l }, .ok (.calls made))
  | .listReset i => do
    let l ← s.list i
    s.putList i l.reset
  | .listInfo i => do s.answer (.list (← s.list i))
  | .listCommands i => do s.answer (.commands (← s.list i).commands)
  | .graphNew =>
    let id := s.graphs.size
    .ok ({ s with graphs := s.graphs.push {} }, .ok (.count id))
  | .addPass gi name script => do
    let (s, g) ← s.takeGraph gi
    let p ← lift (RenderPass.make name script)
    let (index, g) := g.add p
    .ok ({ s with graphs := s.graphs.set! gi g }, .ok (.count index))
  | .graphSetup gi => do
    let (s, g) ← s.takeGraph gi
    let g ← lift g.setup
    .ok ({ s with graphs := s.graphs.set! gi g }, .ok .unit)
  | .graphExecute gi li => do
    let (s, g) ← s.takeGraph gi
    let (s, l) ← s.takeList li
    let (g, l) ← lift (g.execute l)
    .ok ({ s with graphs := s.graphs.set! gi g, lists := s.lists.set! li l }, .ok (.list l))
  | .graphDeinit gi => do
    let (s, g) ← s.takeGraph gi
    .ok ({ s with graphs := s.graphs.set! gi g.deinit }, .ok .unit)
  | .graphLen gi => do s.answer (.graphSize (← s.graph gi).size)
  | .graphDebug gi => do s.answer (.text (← s.graph gi).debugText)
  | .passState gi pi => do
    let n ← graphPass (← s.graph gi) pi
    s.answer (.text n.state.name)
  | .passUsage gi pi => do
    let n ← graphPass (← s.graph gi) pi
    s.answer (.usage n.usage)
  | .passName gi pi => do
    let n ← graphPass (← s.graph gi) pi
    s.answer (.text n.pass.name.text)
  | .render gi => do
    let (s, g) ← s.takeGraph gi
    let (renderer, g, made) ← lift (s.renderer.render g)
    .ok ({ s with renderer, graphs := s.graphs.set! gi g }, .ok (.calls made))
  | .passNew name script => do
    let p ← lift (RenderPass.make name script)
    let id := s.passes.size
    .ok ({ s with passes := s.passes.push p }, .ok (.count id))
  | .passSetup pi => do
    let p ← s.pass pi
    let (accepted, b) ← lift p.setup
    s.answer (.setup accepted b)
  | .passExecute pi li => do
    let p ← s.pass pi
    let (s, l) ← s.takeList li
    let l ← lift (p.execute l)
    s.putList li l
  | .passDeinit pi => do
    let p ← s.pass pi
    .ok ({ s with passes := s.passes.set! pi p.release }, .ok .unit)
  | .passInfo pi => do
    let p ← s.pass pi
    s.answer (.passInfo p.name.text p.deinit)

end State

-- Runs a session: a renderer built from the configuration, then the steps in order; a fault while
-- building ends it before any step.
def run (cfg : Config) (orders : List (Order Step)) : Except Fault (List (Outcome Reply)) := do
  let renderer ← Renderer.build cfg
  pure (runAll State.exec { renderer } orders)

end GpuFrontend.Session

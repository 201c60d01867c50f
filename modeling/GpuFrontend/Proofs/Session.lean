import GpuFrontend.Session.Renderer
import GpuFrontend.Proofs.Registry
import GpuFrontend.Proofs.Operations

namespace GpuFrontend.Session

namespace State

variable {s s' : State} {a : Except ResourceError Reply}

theorem lift_eq_ok {β : Type} {x : Except Fault β} {b : β} : lift x = .ok b ↔ x = .ok b := by
  cases x <;> simp [lift]

-- The ways a step reaches the renderer: an operation that may fail without a fault, one
-- that cannot, or none at all.
theorem attempt_eq_ok {β : Type} {op : Renderer → Except Fault (Renderer × Attempt β)}
    {reply : β → Reply} (h : s.attempt op reply = .ok (s', a)) :
    ∃ r m, op s.renderer = .ok (r, m) ∧ s' = { s with renderer := r } ∧ a = m.map reply := by
  unfold attempt at h
  obtain ⟨⟨r, m⟩, hop, h⟩ := bind_eq_ok.mp h
  simp only [pure_eq_ok, Prod.mk.injEq] at h
  obtain ⟨rfl, rfl⟩ := h
  exact ⟨r, m, lift_eq_ok.mp hop, rfl, rfl⟩

theorem change_eq_ok {op : Renderer → Except Fault Renderer} {reply : Reply}
    (h : s.change op reply = .ok (s', a)) :
    op s.renderer = .ok s'.renderer ∧ s' = { s with renderer := s'.renderer } := by
  unfold change at h
  obtain ⟨r, hop, h⟩ := bind_eq_ok.mp h
  simp only [pure_eq_ok, Prod.mk.injEq] at h
  obtain ⟨rfl, rfl⟩ := h
  exact ⟨lift_eq_ok.mp hop, rfl⟩

theorem takeList_renderer {i : Nat} {l : CommandList} (h : s.takeList i = .ok (s', l)) :
    s'.renderer = s.renderer := by
  unfold takeList at h
  obtain ⟨_, -, h⟩ := bind_eq_ok.mp h
  simp only [pure_eq_ok, Prod.mk.injEq] at h
  rw [← h.1]

theorem takeGraph_renderer {i : Nat} {g : RenderGraph} (h : s.takeGraph i = .ok (s', g)) :
    s'.renderer = s.renderer := by
  unfold takeGraph at h
  obtain ⟨_, -, h⟩ := bind_eq_ok.mp h
  simp only [pure_eq_ok, Prod.mk.injEq] at h
  rw [← h.1]

end State

-- One step of a session: the state it was taken from, the step, its reply, and the state it left.
structure Transition where
  before : State
  step : Step
  reply : Except ResourceError Reply
  after : State

-- The sessions from `init`: the steps taken so far, in order, each from the state the one
-- before it left. A step that halts ends its session and leaves no state, so it is not here.
inductive Run (init : State) : State → List Transition → Prop
  | nil : Run init init []
  | snoc {s : State} {ts : List Transition} {t : Transition} :
      Run init s ts → t.before = s → s.exec t.step = .ok (t.after, t.reply) →
      Run init t.after (ts ++ [t])

namespace Run

variable {init s : State} {ts : List Transition}

-- A property of the initial state that every step keeps holds all along a session.
theorem invariant {P : State → Prop} (h₀ : P init)
    (hstep : ∀ s s' step a, P s → s.exec step = .ok (s', a) → P s') (h : Run init s ts) : P s := by
  induction h with
  | nil => exact h₀
  | snoc _ hb he ih => exact hstep _ _ _ _ (hb ▸ ih) he

end Run

-- What one step can do to the renderer: leave it as it was, or run the operation the step
-- names.
inductive RendererStep (r : Renderer) : Step → Renderer → Prop
  | keep {step : Step} : RendererStep r step r
  | createImage {r' : Renderer} {d : ImageDesc} {a : Attempt (Handle .image)} :
      r.createImage d = .ok (r', a) → RendererStep r (.createImage d) r'
  | createDepthImage {r' : Renderer} {d : DepthImageDesc} {a : Attempt (Handle .depthImage)} :
      r.createDepthImage d = .ok (r', a) → RendererStep r (.createDepthImage d) r'
  | createSampler {r' : Renderer} {d : SamplerDesc} {a : Attempt (Handle .sampler)} :
      r.createSampler d = .ok (r', a) → RendererStep r (.createSampler d) r'
  | createBuffer {r' : Renderer} {d : BufferDesc} {a : Attempt (Handle .buffer)} :
      r.createBuffer d = .ok (r', a) → RendererStep r (.createBuffer d) r'
  | writeBuffer {r' : Renderer} {b : Handle .buffer} {offset : Nat} {data : ByteArray} :
      r.writeBuffer b data.size = .ok r' → RendererStep r (.writeBuffer b offset data) r'
  | createModel {r' : Renderer} {d : ModelDesc} {a : Attempt (Handle .model)} :
      r.createModel d = .ok (r', a) → RendererStep r (.createModel d) r'
  | createGraphicsPipeline {r' : Renderer} {name : String} {a : Attempt (Handle .graphicsPipeline)} :
      r.createGraphicsPipeline name = .ok (r', a) → RendererStep r (.createGraphicsPipeline name) r'
  | createComputePipeline {r' : Renderer} {name : String} {a : Attempt (Handle .computePipeline)} :
      r.createComputePipeline name = .ok (r', a) → RendererStep r (.createComputePipeline name) r'
  | loadTexture {r' : Renderer} {p : Path} {a : Attempt (Handle .texture)} :
      r.loadTexture p = .ok (r', a) → RendererStep r (.loadTexture p) r'
  | createDataTexture {r' : Renderer} {d : DataTextureDesc} {a : Attempt (Handle .texture)} :
      r.createDataTexture d = .ok (r', a) → RendererStep r (.createDataTexture d) r'
  | createTextureArray {r' : Renderer} {name : String} {capacity : Nat}
      {a : Attempt (Handle .textureArray)} :
      r.createTextureArray name capacity = .ok (r', a) →
        RendererStep r (.createTextureArray name capacity) r'
  | loadTextureIntoArray {r' : Renderer} {p : Path} {arr : Handle .textureArray}
      {a : Attempt (Nat × Handle .texture)} :
      r.loadTextureIntoArray p arr = .ok (r', a) → RendererStep r (.loadTextureIntoArray p arr) r'
  | createDataTextureIntoArray {r' : Renderer} {d : DataTextureDesc} {arr : Handle .textureArray}
      {a : Attempt (Nat × Handle .texture)} :
      r.createDataTextureIntoArray d arr = .ok (r', a) →
        RendererStep r (.createDataTextureIntoArray d arr) r'
  | createConstantBuffer {r' : Renderer} {name : String} {size : Nat} {a : Attempt ConstantBuffer} :
      r.createConstantBuffer name size = .ok (r', a) → RendererStep r (.createConstantBuffer name size) r'
  | applyConstantBuffer {r' : Renderer} {i : Nat} {cb : ConstantBuffer} :
      r.applyConstantBuffer cb = .ok r' → RendererStep r (.applyConstantBuffer i) r'
  | requestFailure : RendererStep r .failNextCreation { r with device := r.device.requestFailure }
  | takeCalls : RendererStep r .takeCalls { r with device := r.device.takeCalls.1 }
  | execute {r' : Renderer} {i : Nat} {l l' : CommandList} {made : Array DeviceCall} :
      r.execute l = .ok (r', l', made) → RendererStep r (.listExecute i) r'
  | render {r' : Renderer} {gi : Nat} {g g' : RenderGraph} {made : Array DeviceCall} :
      r.render g = .ok (r', g', made) → RendererStep r (.render gi) r'

namespace State

variable {s s' : State} {a : Except ResourceError Reply}

-- Every step is one of the renderer's operations, or leaves the renderer alone.
theorem exec_rendererStep {step : Step} (h : s.exec step = .ok (s', a)) :
    RendererStep s.renderer step s'.renderer := by
  cases step <;> simp only [exec] at h
  case createImage d =>
    obtain ⟨r, m, hop, rfl, -⟩ := attempt_eq_ok h
    exact .createImage hop
  case createDepthImage d =>
    obtain ⟨r, m, hop, rfl, -⟩ := attempt_eq_ok h
    exact .createDepthImage hop
  case createSampler d =>
    obtain ⟨r, m, hop, rfl, -⟩ := attempt_eq_ok h
    exact .createSampler hop
  case createBuffer d =>
    obtain ⟨r, m, hop, rfl, -⟩ := attempt_eq_ok h
    exact .createBuffer hop
  case writeBuffer b _ data => exact .writeBuffer (change_eq_ok h).1
  case createModel d =>
    obtain ⟨r, m, hop, rfl, -⟩ := attempt_eq_ok h
    exact .createModel hop
  case createGraphicsPipeline name =>
    obtain ⟨r, m, hop, rfl, -⟩ := attempt_eq_ok h
    exact .createGraphicsPipeline hop
  case createComputePipeline name =>
    obtain ⟨r, m, hop, rfl, -⟩ := attempt_eq_ok h
    exact .createComputePipeline hop
  case loadTexture p =>
    obtain ⟨r, m, hop, rfl, -⟩ := attempt_eq_ok h
    exact .loadTexture hop
  case createDataTexture d =>
    obtain ⟨r, m, hop, rfl, -⟩ := attempt_eq_ok h
    exact .createDataTexture hop
  case createTextureArray name capacity =>
    obtain ⟨r, m, hop, rfl, -⟩ := attempt_eq_ok h
    exact .createTextureArray hop
  case loadTextureIntoArray p arr =>
    obtain ⟨r, m, hop, rfl, -⟩ := attempt_eq_ok h
    exact .loadTextureIntoArray hop
  case createDataTextureIntoArray d arr =>
    obtain ⟨r, m, hop, rfl, -⟩ := attempt_eq_ok h
    exact .createDataTextureIntoArray hop
  case createConstantBuffer name size =>
    obtain ⟨⟨r, m⟩, hop, h⟩ := bind_eq_ok.mp h
    have hr : s'.renderer = r := by
      cases m <;> simp only [pure_eq_ok, Prod.mk.injEq] at h <;> rw [← h.1]
    exact hr ▸ .createConstantBuffer (lift_eq_ok.mp hop)
  case applyConstantBuffer i =>
    obtain ⟨_, -, h⟩ := bind_eq_ok.mp h
    exact .applyConstantBuffer (change_eq_ok h).1
  case failNextCreation =>
    have h := (change_eq_ok h).1
    simp only [pure_eq_ok] at h
    exact h ▸ .requestFailure
  case takeCalls =>
    simp only [Except.ok.injEq, Prod.mk.injEq] at h
    exact h.1 ▸ .takeCalls
  case listExecute i =>
    obtain ⟨⟨s₁, l⟩, hl, h⟩ := bind_eq_ok.mp h
    obtain ⟨⟨r, l', made⟩, hop, h⟩ := bind_eq_ok.mp h
    simp only [Except.ok.injEq, Prod.mk.injEq] at h
    rw [← h.1, ← takeList_renderer hl]
    exact .execute (lift_eq_ok.mp hop)
  case render gi =>
    obtain ⟨⟨s₁, g⟩, hg, h⟩ := bind_eq_ok.mp h
    obtain ⟨⟨r, g', made⟩, hop, h⟩ := bind_eq_ok.mp h
    simp only [Except.ok.injEq, Prod.mk.injEq] at h
    rw [← h.1, ← takeGraph_renderer hg]
    exact .render (lift_eq_ok.mp hop)
  -- every other step reads the renderer, or changes only the lists, graphs and passes
  all_goals
    have hr : s'.renderer = s.renderer := by
      simp only [bind_eq_ok, lift_eq_ok, takeList, takeGraph, answer, putList, pure_eq_ok,
        Except.ok.injEq, Prod.mk.injEq, Prod.exists] at h
      grind
    exact hr ▸ .keep

end State

def Step.createsPlain : Step → Bool
  | .createImage _ | .createDepthImage _ | .createSampler _ | .createBuffer _ | .createModel _
  | .createGraphicsPipeline _ | .createComputePipeline _ => true
  | _ => false

-- A step that creates a plain object leaves the renderer as it was, or is `createObject` on the
-- registry of its kind.
theorem RendererStep.createsPlain {r r' : Renderer} {step : Step} (hstep : RendererStep r step r')
    (hp : step.createsPlain = true) : r' = r ∨ r.CreatesPlain r' := by
  cases hstep with
  | keep => exact .inl rfl
  | createImage h =>
    obtain ⟨reg, dev, hc, rfl⟩ := Renderer.createImage_eq_ok h
    exact .inr ⟨.image, reg, dev, _, _, _, hc, rfl⟩
  | createDepthImage h =>
    obtain ⟨reg, dev, hc, rfl⟩ := Renderer.createDepthImage_eq_ok h
    exact .inr ⟨.depthImage, reg, dev, _, _, _, hc, rfl⟩
  | createSampler h =>
    obtain ⟨reg, dev, hc, rfl⟩ := Renderer.createSampler_eq_ok h
    exact .inr ⟨.sampler, reg, dev, _, _, _, hc, rfl⟩
  | createBuffer h => exact .inr (Renderer.createBuffer_createsPlain h)
  | createModel h =>
    obtain ⟨-, -, reg, dev, hc, rfl⟩ := Renderer.createModel_eq_ok h
    exact .inr ⟨.model, reg, dev, _, _, _, hc, rfl⟩
  | createGraphicsPipeline h =>
    obtain ⟨reg, dev, hc, rfl⟩ := Renderer.createGraphicsPipeline_eq_ok h
    exact .inr ⟨.graphicsPipeline, reg, dev, _, _, _, hc, rfl⟩
  | createComputePipeline h =>
    obtain ⟨reg, dev, hc, rfl⟩ := Renderer.createComputePipeline_eq_ok h
    exact .inr ⟨.computePipeline, reg, dev, _, _, _, hc, rfl⟩
  | _ => simp [Step.createsPlain] at hp

end GpuFrontend.Session

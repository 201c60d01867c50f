import GpuFrontend.ConstantBuffer
import GpuFrontend.Proofs.Replay

namespace GpuFrontend

namespace Renderer

variable {r r' : Renderer}

-- Creating an object of a plain kind: the device refuses it and the request to fail is spent,
-- or the object is counted and its record is appended under the next handle.
theorem createObject_eq_ok {k : HandleKind} {reg reg' : Registry k (Record DeviceObject)}
    {dev dev' : Device} {kind : ObjectKind} {label name : String} {a : Attempt (Handle k)}
    (h : createObject reg dev kind label name = .ok (reg', dev', a)) :
    (dev.failNext = true ∧ reg' = reg ∧ dev' = { dev with failNext := false } ∧
      a = .error (.device label name (.invalidParameter
        (kind.label ++ " '" ++ name ++ "' rejected by dummy backend")))) ∨
    (dev.failNext = false ∧ ∃ t, a = .ok t ∧ t.raw = reg.size ∧
      reg'.entries = reg.entries.push ⟨⟨dev.stats.created kind, name⟩, name, .none⟩ ∧
      dev' = { dev with stats := dev.stats.bump kind }) := by
  unfold createObject at h
  obtain ⟨u, -, h⟩ := bind_eq_ok.mp h
  rcases Bool.eq_false_or_eq_true dev.failNext with hf | hf
  · rw [Device.create_of_failNext hf] at h
    simp only [pure_eq_ok, Prod.mk.injEq] at h
    obtain ⟨rfl, rfl, rfl⟩ := h
    exact .inl ⟨hf, rfl, rfl, rfl⟩
  · rw [Device.create_of_not_failNext hf] at h
    obtain ⟨⟨t, R⟩, ha, h⟩ := bind_eq_ok.mp h
    obtain ⟨ht, hR⟩ := Registry.allocate_eq_ok ha
    simp only [pure_eq_ok, Prod.mk.injEq] at h
    obtain ⟨rfl, rfl, rfl⟩ := h
    exact .inr ⟨hf, t, rfl, ht, hR, rfl⟩

-- Each creation of a plain kind is `createObject` on its own registry.
theorem createImage_eq_ok {d : ImageDesc} {a : Attempt (Handle .image)}
    (h : r.createImage d = .ok (r', a)) :
    ∃ reg dev, createObject r.resources.images r.device .image "image" d.name = .ok (reg, dev, a) ∧
      r' = { r with device := dev, resources := { r.resources with images := reg } } := by
  obtain ⟨⟨reg, dev, m⟩, hc, h⟩ := bind_eq_ok.mp h
  simp only [pure_eq_ok, Prod.mk.injEq] at h
  obtain ⟨rfl, rfl⟩ := h
  exact ⟨reg, dev, hc, rfl⟩

theorem createDepthImage_eq_ok {d : DepthImageDesc} {a : Attempt (Handle .depthImage)}
    (h : r.createDepthImage d = .ok (r', a)) :
    ∃ reg dev, createObject r.resources.depthImages r.device .depthImage "depth image" d.name =
        .ok (reg, dev, a) ∧
      r' = { r with device := dev, resources := { r.resources with depthImages := reg } } := by
  obtain ⟨⟨reg, dev, m⟩, hc, h⟩ := bind_eq_ok.mp h
  simp only [pure_eq_ok, Prod.mk.injEq] at h
  obtain ⟨rfl, rfl⟩ := h
  exact ⟨reg, dev, hc, rfl⟩

theorem createSampler_eq_ok {d : SamplerDesc} {a : Attempt (Handle .sampler)}
    (h : r.createSampler d = .ok (r', a)) :
    ∃ reg dev, createObject r.resources.samplers r.device .sampler "sampler" d.name =
        .ok (reg, dev, a) ∧
      r' = { r with device := dev, resources := { r.resources with samplers := reg } } := by
  obtain ⟨⟨reg, dev, m⟩, hc, h⟩ := bind_eq_ok.mp h
  simp only [pure_eq_ok, Prod.mk.injEq] at h
  obtain ⟨rfl, rfl⟩ := h
  exact ⟨reg, dev, hc, rfl⟩

theorem createBuffer_eq_ok {d : BufferDesc} {a : Attempt (Handle .buffer)}
    (h : r.createBuffer d = .ok (r', a)) :
    d.size ≠ 0 ∧ ∃ reg dev, createObject r.resources.buffers r.device .buffer "buffer" d.name =
        .ok (reg, dev, a) ∧
      r' = { r with device := dev, resources := { r.resources with buffers := reg } } := by
  unfold createBuffer at h
  by_cases hz : d.size = 0
  · simp [hz, throw, throwThe, MonadExceptOf.throw, bind, Except.bind] at h
  simp only [hz, ↓reduceIte] at h
  obtain ⟨⟨reg, dev, m⟩, hc, h⟩ := bind_eq_ok.mp h
  simp only [pure_eq_ok, Prod.mk.injEq] at h
  obtain ⟨rfl, rfl⟩ := h
  exact ⟨hz, reg, dev, hc, rfl⟩

theorem createModel_eq_ok {d : ModelDesc} {a : Attempt (Handle .model)}
    (h : r.createModel d = .ok (r', a)) :
    d.vertices.size ≠ 0 ∧ d.stride ≠ 0 ∧
    ∃ reg dev, createObject r.resources.models r.device .model "model" d.name = .ok (reg, dev, a) ∧
      r' = { r with device := dev, resources := { r.resources with models := reg } } := by
  unfold createModel at h
  by_cases hz : d.vertices.size = 0 ∨ d.stride = 0
  · simp only [hz, ↓reduceIte] at h
    simp [throw, throwThe, MonadExceptOf.throw, bind, Except.bind] at h
  simp only [hz, ↓reduceIte] at h
  obtain ⟨⟨reg, dev, m⟩, hc, h⟩ := bind_eq_ok.mp h
  simp only [pure_eq_ok, Prod.mk.injEq] at h
  obtain ⟨rfl, rfl⟩ := h
  exact ⟨fun h => hz (.inl h), fun h => hz (.inr h), reg, dev, hc, rfl⟩

theorem createGraphicsPipeline_eq_ok {name : String} {a : Attempt (Handle .graphicsPipeline)}
    (h : r.createGraphicsPipeline name = .ok (r', a)) :
    ∃ reg dev, createObject r.resources.graphicsPipelines r.device .graphicsPipeline
        "graphics pipeline" name = .ok (reg, dev, a) ∧
      r' = { r with device := dev, resources := { r.resources with graphicsPipelines := reg } } := by
  obtain ⟨⟨reg, dev, m⟩, hc, h⟩ := bind_eq_ok.mp h
  simp only [pure_eq_ok, Prod.mk.injEq] at h
  obtain ⟨rfl, rfl⟩ := h
  exact ⟨reg, dev, hc, rfl⟩

theorem createComputePipeline_eq_ok {name : String} {a : Attempt (Handle .computePipeline)}
    (h : r.createComputePipeline name = .ok (r', a)) :
    ∃ reg dev, createObject r.resources.computePipelines r.device .computePipeline
        "compute pipeline" name = .ok (reg, dev, a) ∧
      r' = { r with device := dev, resources := { r.resources with computePipelines := reg } } := by
  obtain ⟨⟨reg, dev, m⟩, hc, h⟩ := bind_eq_ok.mp h
  simp only [pure_eq_ok, Prod.mk.injEq] at h
  obtain ⟨rfl, rfl⟩ := h
  exact ⟨reg, dev, hc, rfl⟩

end Renderer

-- The kinds of object a renderer makes by `createObject` alone, each with the registry it fills.
inductive PlainKind
  | image
  | depthImage
  | sampler
  | buffer
  | model
  | graphicsPipeline
  | computePipeline

namespace PlainKind

def handle : PlainKind → HandleKind
  | .image => .image
  | .depthImage => .depthImage
  | .sampler => .sampler
  | .buffer => .buffer
  | .model => .model
  | .graphicsPipeline => .graphicsPipeline
  | .computePipeline => .computePipeline

def object : PlainKind → ObjectKind
  | .image => .image
  | .depthImage => .depthImage
  | .sampler => .sampler
  | .buffer => .buffer
  | .model => .model
  | .graphicsPipeline => .graphicsPipeline
  | .computePipeline => .computePipeline

def registry : (p : PlainKind) → Resources → Registry p.handle (Record DeviceObject)
  | .image, res => res.images
  | .depthImage, res => res.depthImages
  | .sampler, res => res.samplers
  | .buffer, res => res.buffers
  | .model, res => res.models
  | .graphicsPipeline, res => res.graphicsPipelines
  | .computePipeline, res => res.computePipelines

def setRegistry : (p : PlainKind) → Resources → Registry p.handle (Record DeviceObject) → Resources
  | .image, res, reg => { res with images := reg }
  | .depthImage, res, reg => { res with depthImages := reg }
  | .sampler, res, reg => { res with samplers := reg }
  | .buffer, res, reg => { res with buffers := reg }
  | .model, res, reg => { res with models := reg }
  | .graphicsPipeline, res, reg => { res with graphicsPipelines := reg }
  | .computePipeline, res, reg => { res with computePipelines := reg }

theorem object_ne_texture (p : PlainKind) : p.object ≠ .texture := by
  cases p <;> decide

variable {p : PlainKind} {res : Resources} {reg : Registry p.handle (Record DeviceObject)}

-- A registry of plain objects is none of the texture side of the resources.
@[simp] theorem setRegistry_placeholder : (p.setRegistry res reg).placeholder = res.placeholder := by
  cases p <;> rfl

@[simp] theorem setRegistry_textures : (p.setRegistry res reg).textures = res.textures := by
  cases p <;> rfl

@[simp] theorem setRegistry_loaded : (p.setRegistry res reg).loaded = res.loaded := by
  cases p <;> rfl

@[simp] theorem setRegistry_textureArrays :
    (p.setRegistry res reg).textureArrays = res.textureArrays := by
  cases p <;> rfl

end PlainKind

namespace Renderer

variable {r r' : Renderer}

-- A creation of a plain object: `createObject` on the registry of its kind, the renderer taking
-- back the registry and the device.
def CreatesPlain (r r' : Renderer) : Prop :=
  ∃ (p : PlainKind) (reg : Registry p.handle (Record DeviceObject)) (dev : Device)
    (a : Attempt (Handle p.handle)) (label name : String),
    createObject (p.registry r.resources) r.device p.object label name = .ok (reg, dev, a) ∧
      r' = { r with device := dev, resources := p.setRegistry r.resources reg }

theorem createBuffer_createsPlain {d : BufferDesc} {a : Attempt (Handle .buffer)}
    (h : r.createBuffer d = .ok (r', a)) : r.CreatesPlain r' := by
  obtain ⟨-, reg, dev, hc, rfl⟩ := createBuffer_eq_ok h
  exact ⟨.buffer, reg, dev, a, _, _, hc, rfl⟩

-- Writing a buffer: only the count of bytes written shows, only for a buffer issued, and only
-- while the count stays below its width.
theorem writeBuffer_eq_ok {b : Handle .buffer} {n : Nat} (h : r.writeBuffer b n = .ok r') :
    b.isValid = true ∧ b.raw < r.resources.buffers.entries.size ∧
      r.device.stats.bufferBytesWritten.toNat + n < UInt64.size ∧
      r' = { r with device := { r.device with stats := { r.device.stats with
        bufferBytesWritten := r.device.stats.bufferBytesWritten + n.toUInt64 } } } := by
  unfold writeBuffer at h
  by_cases hv : b.isValid = false
  · simp [hv, throw, throwThe, MonadExceptOf.throw, bind, Except.bind] at h
  have hv : b.isValid = true := by simpa using hv
  simp only [hv, Bool.not_true, Bool.false_eq_true, ↓reduceIte] at h
  obtain ⟨v, hres, h⟩ := bind_eq_ok.mp h
  have hlt := (Array.getElem?_eq_some_iff.mp (Registry.resolve_eq_ok.mp hres)).1
  obtain ⟨d, hd, h⟩ := bind_eq_ok.mp h
  obtain ⟨hfits, rfl⟩ := Device.writeBuffer_eq_ok_iff.mp hd
  exact ⟨hv, hlt, hfits, (pure_eq_ok.mp h).symm⟩

theorem applyConstantBuffer_eq_ok {cb : ConstantBuffer} (h : r.applyConstantBuffer cb = .ok r') :
    r.writeBuffer (cb.handle r.frameInFlight) cb.size = .ok r' := h

section Chains

variable (P : Renderer → Renderer → Prop) (hrefl : ∀ r, P r r)
  (htrans : ∀ r₁ r₂ r₃, P r₁ r₂ → P r₂ r₃ → P r₁ r₃)
include hrefl htrans

-- Creating the buffers of the frames is a chain of buffer creations: a reflexive, transitive
-- relation that every buffer creation satisfies holds of the whole chain.
theorem createFrameBuffers_chain (hbuf : ∀ r r' d a, r.createBuffer d = .ok (r', a) → P r r')
    {name : String} {size frame n : Nat} {acc : Array (Handle .buffer)}
    {x : Attempt (Array (Handle .buffer))}
    (h : createFrameBuffers name size r frame n acc = .ok (r', x)) : P r r' := by
  induction n generalizing r frame acc with
  | zero =>
    simp only [createFrameBuffers, pure_eq_ok, Prod.mk.injEq] at h
    rw [← h.1]
    exact hrefl r
  | succ n ih =>
    simp only [createFrameBuffers] at h
    obtain ⟨⟨r₁, m⟩, hb, h⟩ := bind_eq_ok.mp h
    cases m with
    | error e =>
      simp only [pure_eq_ok, Prod.mk.injEq] at h
      rw [← h.1]
      exact hbuf _ _ _ _ hb
    | ok b => exact htrans _ _ _ (hbuf _ _ _ _ hb) (ih h)

-- Writing a value to every buffer is a chain of buffer writes.
theorem writeEach_chain {size : Nat} (hw : ∀ r r' b, r.writeBuffer b size = .ok r' → P r r')
    {bs : List (Handle .buffer)} (h : writeEach size r bs = .ok r') : P r r' := by
  induction bs generalizing r with
  | nil =>
    simp only [writeEach, pure_eq_ok] at h
    rw [← h]
    exact hrefl r
  | cons b bs ih =>
    simp only [writeEach] at h
    obtain ⟨r₁, hb, h⟩ := bind_eq_ok.mp h
    exact htrans _ _ _ (hw _ _ _ hb) (ih h)

theorem createConstantBuffer_chain (hbuf : ∀ r r' d a, r.createBuffer d = .ok (r', a) → P r r')
    {size : Nat} (hw : ∀ r r' b, r.writeBuffer b size = .ok r' → P r r') {name : String}
    {a : Attempt ConstantBuffer} (h : r.createConstantBuffer name size = .ok (r', a)) : P r r' := by
  unfold createConstantBuffer at h
  obtain ⟨⟨r₁, m⟩, hc, h⟩ := bind_eq_ok.mp h
  have h₁ := createFrameBuffers_chain P hrefl htrans hbuf hc
  cases m with
  | error e =>
    simp only [pure_eq_ok, Prod.mk.injEq] at h
    rw [← h.1]
    exact h₁
  | ok bs =>
    obtain ⟨r₂, hwe, h⟩ := bind_eq_ok.mp h
    simp only [pure_eq_ok, Prod.mk.injEq] at h
    rw [← h.1]
    exact htrans _ _ _ h₁ (writeEach_chain P hrefl htrans hw hwe)

end Chains

-- A replay on the renderer: the list runs on the device with the earlier calls set aside, and
-- its calls are then put after them.
theorem execute_eq_ok {l l' : CommandList} {made : Array DeviceCall}
    (h : r.execute l = .ok (r', l', made)) :
    ∃ dev, l.execute { r.device with calls := #[] } r.resources = .ok (l', dev) ∧ made = dev.calls ∧
      r' = { r with device := { dev with calls := r.device.calls ++ dev.calls } } := by
  unfold execute at h
  obtain ⟨⟨l₁, dev⟩, hx, h⟩ := bind_eq_ok.mp h
  simp only [pure_eq_ok, Prod.mk.injEq] at h
  obtain ⟨rfl, rfl, rfl⟩ := h
  exact ⟨dev, hx, rfl, rfl⟩

-- A frame: whatever the graph records is replayed as by `execute`, and the frame is counted.
theorem render_eq_ok {g g' : RenderGraph} {made : Array DeviceCall}
    (h : r.render g = .ok (r', g', made)) :
    ∃ r₁ l l₁, r.execute l = .ok (r₁, l₁, made) ∧ r' = { r₁ with frameIndex := r₁.frameIndex + 1 } := by
  unfold render at h
  obtain ⟨g₁, -, h⟩ := bind_eq_ok.mp h
  obtain ⟨⟨g₂, l⟩, -, h⟩ := bind_eq_ok.mp h
  obtain ⟨⟨r₁, l₁, made₁⟩, hx, h⟩ := bind_eq_ok.mp h
  simp only [pure_eq_ok, Prod.mk.injEq] at h
  obtain ⟨rfl, -, rfl⟩ := h
  exact ⟨r₁, l, l₁, hx, rfl⟩

end Renderer

end GpuFrontend

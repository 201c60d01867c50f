import GpuFrontend.Proofs.Growth

namespace GpuFrontend

namespace ConstantBuffer

variable {cb : ConstantBuffer} {base n : Nat}

-- The statements below take a constant buffer whose buffers lie at the `n` indices from `base` on,
-- as creating it leaves them.
theorem size_of_raws (h : cb.buffers.toList.map (·.raw) = List.range' base n) :
    cb.buffers.size = n := by
  simpa using congrArg List.length h

theorem getElem?_of_raws (h : cb.buffers.toList.map (·.raw) = List.range' base n) {i : Nat}
    (hi : i < n) : ∃ b, cb.buffers[i]? = some b ∧ b.raw = base + i := by
  have hget := congrArg (·[i]?) h
  simp only [List.getElem?_map, Array.getElem?_toList, List.getElem?_range', hi] at hget
  obtain ⟨b, hb, hraw⟩ := Option.map_eq_some_iff.mp hget
  exact ⟨b, hb, by omega⟩

-- The buffer of a frame is the one at the frame's number modulo the count of buffers; with at
-- least one buffer there is one there, never the sentinel.
theorem handle_of_raws (h : cb.buffers.toList.map (·.raw) = List.range' base n) (hn : 0 < n)
    (f : Nat) : cb.buffers[f % n]? = some (cb.handle f) ∧ (cb.handle f).raw = base + f % n := by
  obtain ⟨b, hb, hraw⟩ := getElem?_of_raws h (Nat.mod_lt f hn)
  have hh : cb.handle f = b := by
    simp [handle, size_of_raws h, hb]
  exact ⟨hh ▸ hb, hh ▸ hraw⟩

-- Two frames share a buffer exactly when their numbers agree modulo the count of buffers.
theorem handle_eq_iff (h : cb.buffers.toList.map (·.raw) = List.range' base n) (hn : 0 < n)
    (f f' : Nat) : cb.handle f = cb.handle f' ↔ f % n = f' % n := by
  have h₁ := (handle_of_raws h hn f).2
  have h₂ := (handle_of_raws h hn f').2
  constructor
  · intro he
    have hraw := congrArg Handle.raw he
    omega
  · intro he
    exact Handle.ext_raw (by rw [h₁, h₂, he])

end ConstantBuffer

namespace Registry

variable {k : HandleKind} {α : Type} {r r' : Registry k α}

theorem Extends.size_le (he : r.Extends r') : r.size ≤ r'.size := by
  cases hs : r.entries.size with
  | zero =>
    unfold size
    omega
  | succ m =>
    -- the last entry of `r` is still there, so `r'` reaches at least as far
    obtain ⟨v, hv⟩ : ∃ v, r.entries[m]? = some v := ⟨_, Array.getElem?_eq_getElem (by omega)⟩
    have hlt := (Array.getElem?_eq_some_iff.mp (he m v hv)).1
    unfold size
    omega

end Registry

namespace Renderer

-- The frame count and the frames in flight: only a frame changes the one, nothing the other.
structure KeepsFrames (r r' : Renderer) : Prop where
  framesInFlight : r'.framesInFlight = r.framesInFlight
  frameIndex : r'.frameIndex = r.frameIndex

variable {r r' : Renderer}

theorem KeepsFrames.refl (r : Renderer) : KeepsFrames r r := ⟨rfl, rfl⟩

theorem KeepsFrames.trans {r₁ r₂ r₃ : Renderer} (h₁ : KeepsFrames r₁ r₂)
    (h₂ : KeepsFrames r₂ r₃) : KeepsFrames r₁ r₃ :=
  ⟨h₂.framesInFlight.trans h₁.framesInFlight, h₂.frameIndex.trans h₁.frameIndex⟩

-- Every operation short of a frame changes the device and the resources alone.
theorem keepsFrames_insertTexture {name : String} {img : Image} {f : Fingerprint}
    {a : Attempt (Handle .texture)} (h : r.insertTexture name img f = .ok (r', a)) :
    KeepsFrames r r' := by
  rcases insertTexture_eq_ok h with ⟨-, rfl, -⟩ | ⟨-, t, T, -, -, -, rfl⟩
  · exact ⟨rfl, rfl⟩
  · exact ⟨rfl, rfl⟩

theorem keepsFrames_loadTexture {p : Path} {a : Attempt (Handle .texture)}
    (h : r.loadTexture p = .ok (r', a)) : KeepsFrames r r' := by
  obtain ⟨-, hcases⟩ := loadTexture_eq_ok h
  rcases hcases with ⟨t, -, rfl, -⟩ | ⟨-, ⟨e, -, rfl, -⟩ | ⟨img, r₂, m, -, hi, hm⟩⟩
  · exact .refl _
  · exact ⟨rfl, rfl⟩
  -- the codec's new state is in the resources; the texture is made on the renderer so changed
  have hi := keepsFrames_insertTexture hi
  have hk : KeepsFrames r r₂ := ⟨hi.framesInFlight, hi.frameIndex⟩
  rcases hm with ⟨e, -, rfl, -⟩ | ⟨t, -, -, rfl⟩
  · exact hk
  · exact hk.trans ⟨rfl, rfl⟩

theorem keepsFrames_createDataTexture {d : DataTextureDesc} {a : Attempt (Handle .texture)}
    (h : r.createDataTexture d = .ok (r', a)) : KeepsFrames r r' :=
  keepsFrames_insertTexture (createDataTexture_eq_ok h).2

theorem keepsFrames_createTextureArray {name : String} {capacity : Nat}
    {a : Attempt (Handle .textureArray)} (h : r.createTextureArray name capacity = .ok (r', a)) :
    KeepsFrames r r' := by
  obtain ⟨-, ph, -, hcases⟩ := createTextureArray_eq_ok h
  rcases hcases with ⟨-, rfl, -⟩ | ⟨-, t, T, -, -, -, rfl⟩
  · exact ⟨rfl, rfl⟩
  · exact ⟨rfl, rfl⟩

theorem keepsFrames_appendToArray {a : Handle .textureArray} {t : Handle .texture}
    {f : Fingerprint} {slot : Nat} (h : r.appendToArray a t f = .ok (r', slot)) :
    KeepsFrames r r' := by
  obtain ⟨-, -, -, -, -, -, -, -, rfl⟩ := appendToArray_eq_ok h
  exact ⟨rfl, rfl⟩

theorem keepsFrames_loadTextureIntoArray {p : Path} {a : Handle .textureArray}
    {x : Attempt (Nat × Handle .texture)} (h : r.loadTextureIntoArray p a = .ok (r', x)) :
    KeepsFrames r r' := by
  obtain ⟨-, -, arr, -, hcases⟩ := loadTextureIntoArray_eq_ok h
  rcases hcases with ⟨slot, -, rfl, -⟩ | ⟨-, -, r₁, m, hl, hm⟩
  · exact .refl _
  rcases hm with ⟨e, -, rfl, -⟩ | ⟨t, slot, -, happ, -⟩
  · exact keepsFrames_loadTexture hl
  · exact (keepsFrames_loadTexture hl).trans (keepsFrames_appendToArray happ)

theorem keepsFrames_createDataTextureIntoArray {d : DataTextureDesc} {a : Handle .textureArray}
    {x : Attempt (Nat × Handle .texture)} (h : r.createDataTextureIntoArray d a = .ok (r', x)) :
    KeepsFrames r r' := by
  obtain ⟨-, arr, -, -, r₁, m, hc, hm⟩ := createDataTextureIntoArray_eq_ok h
  rcases hm with ⟨e, -, rfl, -⟩ | ⟨t, slot, -, happ, -⟩
  · exact keepsFrames_createDataTexture hc
  · exact (keepsFrames_createDataTexture hc).trans (keepsFrames_appendToArray happ)

theorem CreatesPlain.keepsFrames (h : r.CreatesPlain r') : KeepsFrames r r' := by
  obtain ⟨p, reg, dev, a, label, name, -, rfl⟩ := h
  exact ⟨rfl, rfl⟩

theorem keepsFrames_createBuffer {d : BufferDesc} {a : Attempt (Handle .buffer)}
    (h : r.createBuffer d = .ok (r', a)) : KeepsFrames r r' :=
  (createBuffer_createsPlain h).keepsFrames

theorem keepsFrames_writeBuffer {b : Handle .buffer} {n : Nat} (h : r.writeBuffer b n = .ok r') :
    KeepsFrames r r' := by
  obtain ⟨-, -, -, rfl⟩ := writeBuffer_eq_ok h
  exact ⟨rfl, rfl⟩

-- On a buffer that was issued a write is the device's: it counts the bytes, or overflows.
theorem writeBuffer_of_issued {b : Handle .buffer} {n : Nat}
    (hlt : b.raw < r.resources.buffers.entries.size) :
    r.writeBuffer b n = (fun device => { r with device }) <$> r.device.writeBuffer n := by
  have hb := Array.getElem?_eq_getElem hlt
  have hv := Registry.isValid_of_getElem? hb
  unfold writeBuffer
  simp only [hv, Bool.not_true, Bool.false_eq_true, ↓reduceIte, Registry.resolve_of_getElem? hb,
    ok_bind]
  cases r.device.writeBuffer n <;> rfl

theorem keepsFrames_createConstantBuffer {name : String} {size : Nat}
    {a : Attempt ConstantBuffer} (h : r.createConstantBuffer name size = .ok (r', a)) :
    KeepsFrames r r' :=
  createConstantBuffer_chain KeepsFrames KeepsFrames.refl (fun _ _ _ => KeepsFrames.trans)
    (fun _ _ _ _ => keepsFrames_createBuffer) (fun _ _ _ => keepsFrames_writeBuffer) h

theorem keepsFrames_execute {l l' : CommandList} {made : Array DeviceCall}
    (h : r.execute l = .ok (r', l', made)) : KeepsFrames r r' := by
  obtain ⟨dev, -, -, rfl⟩ := execute_eq_ok h
  exact ⟨rfl, rfl⟩

theorem render_frames {g g' : RenderGraph} {made : Array DeviceCall}
    (h : r.render g = .ok (r', g', made)) :
    r'.framesInFlight = r.framesInFlight ∧ r'.frameIndex = r.frameIndex + 1 := by
  obtain ⟨r₁, l, l₁, hx, rfl⟩ := render_eq_ok h
  have hk := keepsFrames_execute hx
  exact ⟨hk.framesInFlight, by simp [hk.frameIndex]⟩

-- A graph with no passes renders on a device with no stream open and room to count one, and
-- writes no byte.
theorem render_empty (ho : r.device.openStream = none)
    (hs : r.device.stats.commandStreams.toNat + 1 < UInt32.size) :
    ∃ r' g' made, r.render {} = .ok (r', g', made) ∧
      r'.device.stats.bufferBytesWritten = r.device.stats.bufferBytesWritten := by
  have hsetup : ({} : RenderGraph).setup = .ok {} := by
    simp [RenderGraph.setup, pure, Except.pure]
  have hrecord : ({} : RenderGraph).execute .empty = .ok ({}, .empty) := by
    simp [RenderGraph.execute, pure, Except.pure]
  have hreplay : CommandList.empty.execute r.device.takeCalls.1 r.resources = .ok _ :=
    CommandList.execute_of_issued rfl rfl ho hs (fun _ h => by simp [CommandList.empty] at h)
  unfold render execute
  rw [hsetup, ok_bind, hrecord, ok_bind]
  simp only [hreplay, ok_bind, pure, Except.pure]
  exact ⟨_, _, _, rfl, rfl⟩

-- A built renderer has at least one frame in flight, as configured, and no frame yet.
theorem build_frames {cfg : Config} {r₀ : Renderer} (h : build cfg = .ok r₀) :
    0 < cfg.framesInFlight ∧ r₀.framesInFlight = cfg.framesInFlight ∧ r₀.frameIndex = 0 := by
  have hpos : 0 < cfg.framesInFlight := by
    unfold build at h
    by_cases hz : cfg.framesInFlight = 0
    · simp [hz, throw, throwThe, MonadExceptOf.throw, bind, Except.bind] at h
    · omega
  obtain ⟨r₁, t, rfl, hcases⟩ := build_eq_ok h
  have hk : KeepsFrames (fresh cfg) r₁ := by
    rcases hcases with ⟨p, -, hl⟩ | ⟨-, img, hi⟩
    · exact keepsFrames_loadTexture hl
    · exact keepsFrames_insertTexture hi
  exact ⟨hpos, hk.framesInFlight, hk.frameIndex⟩

-- Writing a value to each of the buffers counts the bytes of every write, and nothing else.
theorem writeEach_eq_ok {size : Nat} {bs : List (Handle .buffer)}
    (h : writeEach size r bs = .ok r') :
    r'.device.stats.bufferBytesWritten.toNat =
      r.device.stats.bufferBytesWritten.toNat + bs.length * size ∧
    r' = { r with device := { r.device with stats := { r.device.stats with
      bufferBytesWritten := r'.device.stats.bufferBytesWritten } } } := by
  induction bs generalizing r with
  | nil =>
    simp only [writeEach, pure_eq_ok] at h
    subst h
    exact ⟨by simp, rfl⟩
  | cons b bs ih =>
    simp only [writeEach] at h
    obtain ⟨r₁, hb, h⟩ := bind_eq_ok.mp h
    obtain ⟨-, -, hfits, rfl⟩ := writeBuffer_eq_ok hb
    obtain ⟨hbytes, hrest⟩ := ih h
    -- the first write counts exactly, as the count had room for it
    refine ⟨?_, hrest⟩
    rw [hbytes, toNat_add_toUInt64 hfits, List.length_cons, Nat.succ_mul]
    omega

-- The buffers of frames `frame` on: a buffer of the value's size each, at the next indices, named
-- by the value's name and the frame's number in brackets; no byte is written yet.
theorem createFrameBuffers_records {name : String} {size frame n : Nat}
    {acc bs : Array (Handle .buffer)}
    (h : createFrameBuffers name size r frame n acc = .ok (r', .ok bs)) :
    (0 < n → size ≠ 0) ∧
    (∀ i < n, (r'.resources.buffers.entries[r.resources.buffers.size + i]?).map (·.name) =
      some (name ++ "[" ++ toString (frame + i) ++ "]")) ∧
    r'.device.stats.bufferBytesWritten = r.device.stats.bufferBytesWritten := by
  induction n generalizing r frame acc with
  | zero =>
    simp only [createFrameBuffers, pure_eq_ok, Prod.mk.injEq] at h
    obtain ⟨rfl, -⟩ := h
    exact ⟨fun h => absurd h (Nat.lt_irrefl 0), fun i hi => absurd hi (Nat.not_lt_zero i), rfl⟩
  | succ n ih =>
    simp only [createFrameBuffers] at h
    obtain ⟨⟨r₁, m⟩, hb, h⟩ := bind_eq_ok.mp h
    cases m with
    | error e => simp [pure_eq_ok] at h
    | ok b =>
      obtain ⟨hsize, reg, dev, hc, rfl⟩ := createBuffer_eq_ok hb
      rcases createObject_eq_ok hc with ⟨-, -, -, ha⟩ | ⟨-, t, ht, hraw, hreg, rfl⟩
      · cases ha
      obtain ⟨-, hnames, hbytes⟩ := ih h
      -- the later buffers keep the first one where it was made
      have hext : reg.Extends r'.resources.buffers :=
        createFrameBuffers_chain (fun r r' => r.resources.buffers.Extends r'.resources.buffers)
          (fun _ => .refl _) (fun _ _ _ h₁ h₂ => h₁.trans h₂)
          (fun _ _ _ _ hb => (grows_createBuffer hb).buffers) h
      refine ⟨fun _ => hsize, fun i hi => ?_, by simp [hbytes]⟩
      cases i with
      | zero =>
        have hfirst : reg.entries[r.resources.buffers.size]? =
            some ⟨⟨r.device.stats.created .buffer, name ++ "[" ++ toString frame ++ "]"⟩,
              name ++ "[" ++ toString frame ++ "]", .none⟩ := by
          simp [hreg, Registry.size]
        simp [hext _ _ hfirst]
      | succ i =>
        have hi' : i < n := by omega
        have hnext := hnames i hi'
        have hsz : reg.size = r.resources.buffers.size + 1 := by
          simp [Registry.size, hreg]
        simp only [hsz] at hnext
        rw [show r.resources.buffers.size + (i + 1) = r.resources.buffers.size + 1 + i by omega,
          show frame + (i + 1) = frame + 1 + i by omega]
        exact hnext

-- A constant buffer made: its buffers made as by `createFrameBuffers` for every frame in flight,
-- then the value written once to each.
theorem createConstantBuffer_eq_ok {name : String} {size : Nat} {cb : ConstantBuffer}
    (h : r.createConstantBuffer name size = .ok (r', .ok cb)) :
    ∃ r₁, createFrameBuffers name size r 0 r.framesInFlight #[] = .ok (r₁, .ok cb.buffers) ∧
      cb.size = size ∧
      r'.device.stats.bufferBytesWritten.toNat =
        r₁.device.stats.bufferBytesWritten.toNat + r.framesInFlight * size ∧
      r' = { r₁ with device := { r₁.device with stats := { r₁.device.stats with
        bufferBytesWritten := r'.device.stats.bufferBytesWritten } } } := by
  unfold createConstantBuffer at h
  obtain ⟨⟨r₁, m⟩, hc, h⟩ := bind_eq_ok.mp h
  cases m with
  | error e => simp [pure_eq_ok] at h
  | ok bs =>
    obtain ⟨r₂, hw, h⟩ := bind_eq_ok.mp h
    simp only [pure_eq_ok, Prod.mk.injEq, Except.ok.injEq] at h
    obtain ⟨rfl, rfl⟩ := h
    have hlen : bs.toList.length = r.framesInFlight := by
      have hraws := (createFrameBuffers_fresh hc).1
      simpa using congrArg List.length hraws
    obtain ⟨hbytes, hr'⟩ := writeEach_eq_ok hw
    exact ⟨r₁, hc, rfl, by rw [hbytes, hlen], hr'⟩

-- What creating a constant buffer does, for every renderer with a frame in flight: a buffer for
-- each frame, at the next indices, named for its frame; the value written once to each; and the
-- buffer of a frame the one at the frame's number modulo the frames in flight.
theorem createConstantBuffer_frames {name : String} {size : Nat} {cb : ConstantBuffer}
    (hF : 0 < r.framesInFlight) (h : r.createConstantBuffer name size = .ok (r', .ok cb)) :
    0 < size ∧ cb.size = size ∧ cb.buffers.size = r.framesInFlight ∧
    cb.buffers.toList.map (·.raw) = List.range' r.resources.buffers.size r.framesInFlight ∧
    r'.resources.buffers.size = r.resources.buffers.size + r.framesInFlight ∧
    (∀ i < r.framesInFlight, (r'.resources.buffers.entries[r.resources.buffers.size + i]?).map
      (·.name) = some (name ++ "[" ++ toString i ++ "]")) ∧
    r'.device.stats.bufferBytesWritten.toNat =
      r.device.stats.bufferBytesWritten.toNat + r.framesInFlight * size ∧
    ∀ f, cb.buffers[f % r.framesInFlight]? = some (cb.handle f) := by
  obtain ⟨hraws, hsize⟩ := createConstantBuffer_fresh h
  obtain ⟨r₁, hc, hcb, hwritten, hr'⟩ := createConstantBuffer_eq_ok h
  obtain ⟨hpos, hnames, hbytes⟩ := createFrameBuffers_records hc
  -- the writes after the buffers are made change the byte count alone
  have hres : r'.resources = r₁.resources := by rw [hr']
  refine ⟨Nat.pos_of_ne_zero (hpos hF), hcb, ConstantBuffer.size_of_raws hraws, hraws, hsize,
    fun i hi => by simpa [hres] using hnames i hi, by rw [hwritten, hbytes],
    fun f => (ConstantBuffer.handle_of_raws hraws hF f).1⟩

end Renderer

namespace Session

open Renderer

def Step.isRender : Step → Bool
  | .render _ => true
  | _ => false

theorem Step.isRender_eq_true {step : Step} : step.isRender = true ↔ ∃ gi, step = .render gi := by
  cases step <;> simp [Step.isRender]

variable {r r' : Renderer} {step : Step}

theorem RendererStep.keepsFrames (hstep : RendererStep r step r') (hnr : step.isRender = false) :
    KeepsFrames r r' := by
  cases hp : step.createsPlain
  case true =>
    rcases hstep.createsPlain hp with rfl | hc
    · exact .refl _
    · exact hc.keepsFrames
  cases hstep with
  | keep => exact .refl r
  | writeBuffer h => exact keepsFrames_writeBuffer h
  | loadTexture h => exact keepsFrames_loadTexture h
  | createDataTexture h => exact keepsFrames_createDataTexture h
  | createTextureArray h => exact keepsFrames_createTextureArray h
  | loadTextureIntoArray h => exact keepsFrames_loadTextureIntoArray h
  | createDataTextureIntoArray h => exact keepsFrames_createDataTextureIntoArray h
  | createConstantBuffer h => exact keepsFrames_createConstantBuffer h
  | applyConstantBuffer h => exact keepsFrames_writeBuffer (applyConstantBuffer_eq_ok h)
  | requestFailure => exact ⟨rfl, rfl⟩
  | takeCalls => exact ⟨rfl, rfl⟩
  | execute h => exact keepsFrames_execute h
  | render h => cases hnr
  | createImage _ | createDepthImage _ | createSampler _ | createBuffer _ | createModel _
  | createGraphicsPipeline _ | createComputePipeline _ => simp [Step.createsPlain] at hp

namespace State

variable {s s' : State} {a : Except ResourceError Reply}

theorem exec_render {gi : Nat} (h : s.exec (.render gi) = .ok (s', a)) :
    ∃ g g' made, s.renderer.render g = .ok (s'.renderer, g', made) := by
  simp only [exec] at h
  obtain ⟨⟨s₁, g⟩, hg, h⟩ := bind_eq_ok.mp h
  obtain ⟨⟨r, g', made⟩, hop, h⟩ := bind_eq_ok.mp h
  simp only [Except.ok.injEq, Prod.mk.injEq] at h
  rw [← h.1, ← takeGraph_renderer hg]
  exact ⟨g, g', made, lift_eq_ok.mp hop⟩

theorem exec_frames (h : s.exec step = .ok (s', a)) :
    s'.renderer.framesInFlight = s.renderer.framesInFlight ∧
      s'.renderer.frameIndex = s.renderer.frameIndex + if step.isRender then 1 else 0 := by
  cases hr : step.isRender with
  | false =>
    have hk := (exec_rendererStep h).keepsFrames hr
    exact ⟨hk.framesInFlight, by simp [hk.frameIndex]⟩
  | true =>
    obtain ⟨gi, rfl⟩ := Step.isRender_eq_true.mp hr
    obtain ⟨g, g', made, hrender⟩ := exec_render h
    obtain ⟨hF, hi⟩ := render_frames hrender
    exact ⟨hF, by simp [hi]⟩

-- The constant buffers of a session change only when one is made, and then it is appended.
theorem exec_constantBuffers (h : s.exec step = .ok (s', a)) :
    s'.constantBuffers = s.constantBuffers ∨
    ∃ name size cb, step = .createConstantBuffer name size ∧
      s.renderer.createConstantBuffer name size = .ok (s'.renderer, .ok cb) ∧
      s'.constantBuffers = s.constantBuffers.push cb := by
  cases step <;> simp only [exec] at h
  case createConstantBuffer name size =>
    obtain ⟨⟨r, m⟩, hop, h⟩ := bind_eq_ok.mp h
    cases m with
    | error e =>
      simp only [pure_eq_ok, Prod.mk.injEq] at h
      exact .inl (by rw [← h.1])
    | ok cb =>
      simp only [pure_eq_ok, Prod.mk.injEq] at h
      exact .inr ⟨name, size, cb, rfl, by rw [← h.1]; exact lift_eq_ok.mp hop, by rw [← h.1]⟩
  -- every other step leaves the constant buffers where they were
  all_goals
    left
    simp only [bind_eq_ok, lift_eq_ok, attempt, change, takeList, takeGraph, answer, putList,
      pure_eq_ok, Except.ok.injEq, Prod.mk.injEq, Prod.exists] at h
    grind

-- Every constant buffer of a session has a buffer for each frame in flight, issued at
-- consecutive indices.
def BuffersSpanFrames (s : State) : Prop :=
  ∀ cb ∈ s.constantBuffers, ∃ base,
    cb.buffers.toList.map (·.raw) = List.range' base s.renderer.framesInFlight ∧
      base + s.renderer.framesInFlight ≤ s.renderer.resources.buffers.size

theorem exec_buffersSpanFrames (hs : s.BuffersSpanFrames) (h : s.exec step = .ok (s', a)) :
    s'.BuffersSpanFrames := by
  have hF := (exec_frames h).1
  have hle := (exec_grows h).buffers.size_le
  -- a constant buffer already there keeps its buffers, and the registry only grew
  have hold : ∀ cb ∈ s.constantBuffers, ∃ base,
      cb.buffers.toList.map (·.raw) = List.range' base s'.renderer.framesInFlight ∧
        base + s'.renderer.framesInFlight ≤ s'.renderer.resources.buffers.size := by
    intro cb hcb
    obtain ⟨base, hraws, hbound⟩ := hs cb hcb
    rw [hF]
    exact ⟨base, hraws, Nat.le_trans hbound hle⟩
  rcases exec_constantBuffers h with hcb | ⟨name, size, cb, -, hc, hcb⟩
  · intro cb hmem
    rw [hcb] at hmem
    exact hold cb hmem
  · intro cb' hmem
    rw [hcb] at hmem
    rcases Array.mem_push.mp hmem with hmem | rfl
    · exact hold cb' hmem
    · obtain ⟨hraws, hsize⟩ := createConstantBuffer_fresh hc
      rw [hF]
      exact ⟨_, hraws, by rw [hsize]⟩

end State

namespace Run

variable {init s : State} {ts : List Transition}

-- Along a session the frames in flight stay as they were, and the frame count grows by one for
-- each frame rendered.
theorem frames (hr : Run init s ts) :
    s.renderer.framesInFlight = init.renderer.framesInFlight ∧
      s.renderer.frameIndex = init.renderer.frameIndex + ts.countP (·.step.isRender) := by
  induction hr with
  | nil => exact ⟨rfl, by simp⟩
  | snoc _ _ he ih =>
    obtain ⟨hF, hi⟩ := State.exec_frames he
    refine ⟨hF.trans ih.1, ?_⟩
    rw [hi, ih.2, List.countP_append, List.countP_singleton]
    omega

theorem buffersSpanFrames (hr : Run init s ts) (h₀ : init.BuffersSpanFrames) :
    s.BuffersSpanFrames :=
  hr.invariant h₀ fun _ _ _ _ hs he => State.exec_buffersSpanFrames hs he

end Run

-- Constant buffers follow the frames in flight: with `F` frames in flight a constant buffer holds
-- `F` buffers, the frame in flight is the number of frames rendered modulo `F`, and applying the
-- buffer writes to the buffer of that frame unless the byte count would overflow.
theorem constant_buffers_follow_frames :
    (∀ (r r' : Renderer) (name : String) (size : Nat) (cb : ConstantBuffer),
      0 < r.framesInFlight → r.createConstantBuffer name size = .ok (r', .ok cb) →
      0 < size ∧ cb.size = size ∧ cb.buffers.size = r.framesInFlight ∧
      cb.buffers.toList.map (·.raw) = List.range' r.resources.buffers.size r.framesInFlight ∧
      r'.resources.buffers.size = r.resources.buffers.size + r.framesInFlight ∧
      (∀ i < r.framesInFlight, (r'.resources.buffers.entries[r.resources.buffers.size + i]?).map
        (·.name) = some (name ++ "[" ++ toString i ++ "]")) ∧
      r'.device.stats.bufferBytesWritten.toNat =
        r.device.stats.bufferBytesWritten.toNat + r.framesInFlight * size ∧
      ∀ f, cb.buffers[f % r.framesInFlight]? = some (cb.handle f)) ∧
    (∀ (cfg : Config) (r₀ : Renderer) (s : State) (ts : List Transition),
      build cfg = .ok r₀ → Run { renderer := r₀ } s ts →
      0 < cfg.framesInFlight ∧ s.renderer.framesInFlight = cfg.framesInFlight ∧
      s.renderer.frameInFlight = ts.countP (·.step.isRender) % cfg.framesInFlight ∧
      ∀ cb ∈ s.constantBuffers,
        (∀ f, cb.buffers[f % cfg.framesInFlight]? = some (cb.handle f)) ∧
        (∀ f f', cb.handle f = cb.handle f' ↔ f % cfg.framesInFlight = f' % cfg.framesInFlight) ∧
        s.renderer.applyConstantBuffer cb =
          s.renderer.writeBuffer (cb.handle (ts.countP (·.step.isRender))) cb.size ∧
        (s.renderer.device.stats.bufferBytesWritten.toNat + cb.size < UInt64.size →
          s.renderer.applyConstantBuffer cb = .ok { s.renderer with device := { s.renderer.device with
            stats := { s.renderer.device.stats with
              bufferBytesWritten := s.renderer.device.stats.bufferBytesWritten + cb.size.toUInt64 } } }) ∧
        (UInt64.size ≤ s.renderer.device.stats.bufferBytesWritten.toNat + cb.size →
          s.renderer.applyConstantBuffer cb = .error .addOverflow)) := by
  refine ⟨fun r r' name size cb hF h => createConstantBuffer_frames hF h, ?_⟩
  intro cfg r₀ s ts hb hr
  obtain ⟨hpos, hF₀, hi₀⟩ := build_frames hb
  obtain ⟨hF, hi⟩ := hr.frames
  have hFs : s.renderer.framesInFlight = cfg.framesInFlight := hF.trans hF₀
  have hframe : s.renderer.frameInFlight = ts.countP (·.step.isRender) % cfg.framesInFlight := by
    simp only [frameInFlight, hFs, hi, hi₀, Nat.zero_add]
  refine ⟨hpos, hFs, hframe, fun cb hcb => ?_⟩
  have hspan := hr.buffersSpanFrames (fun _ h => by simp at h)
  obtain ⟨base, hraws, hbound⟩ := hspan cb hcb
  rw [hFs] at hraws hbound
  -- the frame in flight and the frame count name the same buffer
  have happly : s.renderer.applyConstantBuffer cb =
      s.renderer.writeBuffer (cb.handle (ts.countP (·.step.isRender))) cb.size := by
    unfold applyConstantBuffer
    rw [hframe, (ConstantBuffer.handle_eq_iff hraws hpos _ _).mpr (Nat.mod_mod _ _)]
  refine ⟨fun f => (ConstantBuffer.handle_of_raws hraws hpos f).1,
    ConstantBuffer.handle_eq_iff hraws hpos, happly, ?_⟩
  -- that buffer was issued, so the write is the device's
  have hraw := (ConstantBuffer.handle_of_raws hraws hpos (ts.countP (·.step.isRender))).2
  have hmod := Nat.mod_lt (ts.countP (·.step.isRender)) hpos
  have hissued : (cb.handle (ts.countP (·.step.isRender))).raw <
      s.renderer.resources.buffers.entries.size := by
    unfold Registry.size at hbound
    omega
  rw [happly, writeBuffer_of_issued hissued]
  constructor
  · intro hfits
    rw [Device.writeBuffer_of_lt hfits]
    rfl
  · intro hover
    rw [Device.writeBuffer_of_overflow hover]
    rfl

-- A constant buffer of 64 bytes on two frames in flight, then a frame: the frame in flight is
-- the second, whose buffer is the second made, shared with every odd frame and with no even one;
-- applying the buffer adds its 64 bytes to the 128 its creation wrote.
theorem constant_buffers_follow_frames_one_frame :
    ∃ (r₀ : Renderer) (s : State) (ts : List Transition),
      build { placeholder := .solid ⟨0, 0, 0, 255⟩ } = .ok r₀ ∧ Run { renderer := r₀ } s ts ∧
      s.renderer.frameInFlight = 1 ∧
      ∃ cb ∈ s.constantBuffers, (cb.handle 1).raw = 1 ∧ cb.handle 3 = cb.handle 1 ∧
        cb.handle 2 ≠ cb.handle 1 ∧
        s.renderer.applyConstantBuffer cb = .ok { s.renderer with device := { s.renderer.device with
          stats := { s.renderer.device.stats with bufferBytesWritten := 192 } } } := by
  -- the buffer and the graph are made by evaluation; the frame is taken from `render_empty`
  obtain ⟨r₀, s₂, ts₂, hb, hr₂, hcount₂, cb, hcbs, hsize, hraw, hgraphs, hopen, hstreams, hbytes₂⟩ :
      ∃ (r₀ : Renderer) (s₂ : State) (ts₂ : List Transition),
        build { placeholder := .solid ⟨0, 0, 0, 255⟩ } = .ok r₀ ∧ Run { renderer := r₀ } s₂ ts₂ ∧
        ts₂.countP (·.step.isRender) = 0 ∧
        ∃ cb, s₂.constantBuffers = #[cb] ∧ cb.size = 64 ∧ (cb.handle 1).raw = 1 ∧
          s₂.graphs = #[{}] ∧ s₂.renderer.device.openStream = none ∧
          s₂.renderer.device.stats.commandStreams = 0 ∧
          s₂.renderer.device.stats.bufferBytesWritten = 128 := by
    refine ⟨_, _, _, rfl,
      .snoc (t := ⟨_, .graphNew, _, _⟩)
        (.snoc (t := ⟨_, .createConstantBuffer "camera" 64, _, _⟩) .nil rfl rfl) rfl rfl,
      rfl, ?_⟩
    exact ⟨_, rfl, rfl, rfl, rfl, rfl, rfl, rfl⟩
  obtain ⟨r', g', made, hrender, hkept⟩ := render_empty hopen (by rw [hstreams]; decide)
  obtain ⟨s₃, hexec, hcbs₃, hrenderer₃⟩ : ∃ s₃ : State,
      s₂.exec (.render 0) = .ok (s₃, .ok (.calls made)) ∧
        s₃.constantBuffers = s₂.constantBuffers ∧ s₃.renderer = r' :=
    ⟨{ s₂ with renderer := r', graphs := #[g'] }, by
      simp [State.exec, State.takeGraph, State.graph, hgraphs, State.lift, hrender, bind,
        Except.bind, pure, Except.pure], rfl, rfl⟩
  have hr := Run.snoc (t := ⟨s₂, .render 0, .ok (.calls made), s₃⟩) hr₂ rfl hexec
  have hcount :
      (ts₂ ++ [(⟨s₂, .render 0, .ok (.calls made), s₃⟩ : Transition)]).countP (·.step.isRender) = 1 := by
    rw [List.countP_append, hcount₂, List.countP_singleton]
    rfl
  have hcb : cb ∈ s₃.constantBuffers := by simp [hcbs₃, hcbs]
  have hbytes : s₃.renderer.device.stats.bufferBytesWritten = 128 := by
    rw [hrenderer₃, hkept, hbytes₂]
  obtain ⟨-, -, hframe, hcbs'⟩ := constant_buffers_follow_frames.2 _ r₀ _ _ hb hr
  obtain ⟨-, hshare, -, hfits, -⟩ := hcbs' cb hcb
  refine ⟨r₀, s₃, _, hb, hr, by rw [hframe, hcount]; rfl, cb, hcb, hraw,
    (hshare 3 1).mpr rfl, fun h => absurd ((hshare 2 1).mp h) (by decide), ?_⟩
  rw [hfits (by rw [hbytes, hsize]; decide), hsize, hbytes]
  rfl

end Session

end GpuFrontend

import GpuFrontend.Proofs.Operations
import GpuFrontend.Proofs.Textures
import GpuFrontend.Proofs.Session

namespace GpuFrontend

theorem Codec.decode_decodes (c : Codec) (p : Path) : (c.decode p).1.decodes = c.decodes + 1 := by
  unfold Codec.decode
  split <;> rfl

namespace Renderer

-- What a request that failed with `e` may have changed: the codec, which counts the files it was
-- asked to decode, and for a refusal by the device the standing request to fail, which the refusal
-- spent. A file that could not be decoded never reaches the device.
def FailedCleanly (r r' : Renderer) : ResourceError → Prop
  | .device _ _ _ => r.device.failNext = true ∧
      ∃ codec, r' = { r with device := { r.device with failNext := false },
                             resources := { r.resources with codec } }
  | .decode _ _ => ∃ codec, r' = { r with resources := { r.resources with codec } }

variable {r r' : Renderer} {e : ResourceError}

-- Asking the codec first changes nothing a failure's account reads.
theorem FailedCleanly.of_decode {c : Codec}
    (h : FailedCleanly { r with resources := { r.resources with codec := c } } r' e) :
    FailedCleanly r r' e := by
  cases e with
  | device kind name cause =>
    obtain ⟨hf, codec, rfl⟩ := h
    exact ⟨hf, codec, rfl⟩
  | decode path cause =>
    obtain ⟨codec, rfl⟩ := h
    exact ⟨codec, rfl⟩

-- The device refuses an object only on a standing request to fail, which it spends; it then
-- counts nothing.
theorem createObject_error {k : HandleKind} {reg reg' : Registry k (Record DeviceObject)}
    {dev dev' : Device} {kind : ObjectKind} {label name : String}
    (h : createObject reg dev kind label name = .ok (reg', dev', .error e)) :
    dev.failNext = true ∧ reg' = reg ∧ dev' = { dev with failNext := false } ∧
      ∃ cause, e = .device label name cause := by
  rcases createObject_eq_ok h with ⟨hf, rfl, rfl, he⟩ | ⟨-, t, ht, -⟩
  · cases he
    exact ⟨hf, rfl, rfl, _, rfl⟩
  · cases ht

-- An object the device made leaves no request to fail standing.
theorem createObject_ok_failNext {k : HandleKind} {reg reg' : Registry k (Record DeviceObject)}
    {dev dev' : Device} {kind : ObjectKind} {label name : String} {t : Handle k}
    (h : createObject reg dev kind label name = .ok (reg', dev', .ok t)) :
    dev'.failNext = false := by
  rcases createObject_eq_ok h with ⟨-, -, -, ht⟩ | ⟨hf, -, -, -, -, rfl⟩
  · cases ht
  · exact hf

-- A plain kind's registry, put back into the renderer by `u` unchanged after a refusal, leaves
-- the renderer as it was but for the spent request.
theorem createObject_failedCleanly {k : HandleKind} {reg' : Registry k (Record DeviceObject)}
    {dev' : Device} {kind : ObjectKind} {label name : String}
    {u : Registry k (Record DeviceObject) → Resources} {reg : Registry k (Record DeviceObject)}
    (hu : u reg = r.resources)
    (h : createObject reg r.device kind label name = .ok (reg', dev', .error e)) :
    FailedCleanly r { r with device := dev', resources := u reg' } e := by
  obtain ⟨hf, rfl, rfl, cause, rfl⟩ := createObject_error h
  rw [hu]
  exact ⟨hf, r.resources.codec, rfl⟩

theorem createImage_failedCleanly {d : ImageDesc} (h : r.createImage d = .ok (r', .error e)) :
    FailedCleanly r r' e := by
  obtain ⟨reg, dev, hc, rfl⟩ := createImage_eq_ok h
  exact createObject_failedCleanly (u := ({ r.resources with images := · })) rfl hc

theorem createDepthImage_failedCleanly {d : DepthImageDesc}
    (h : r.createDepthImage d = .ok (r', .error e)) : FailedCleanly r r' e := by
  obtain ⟨reg, dev, hc, rfl⟩ := createDepthImage_eq_ok h
  exact createObject_failedCleanly (u := ({ r.resources with depthImages := · })) rfl hc

theorem createSampler_failedCleanly {d : SamplerDesc} (h : r.createSampler d = .ok (r', .error e)) :
    FailedCleanly r r' e := by
  obtain ⟨reg, dev, hc, rfl⟩ := createSampler_eq_ok h
  exact createObject_failedCleanly (u := ({ r.resources with samplers := · })) rfl hc

theorem createBuffer_failedCleanly {d : BufferDesc} (h : r.createBuffer d = .ok (r', .error e)) :
    FailedCleanly r r' e := by
  obtain ⟨-, reg, dev, hc, rfl⟩ := createBuffer_eq_ok h
  exact createObject_failedCleanly (u := ({ r.resources with buffers := · })) rfl hc

theorem createModel_failedCleanly {d : ModelDesc} (h : r.createModel d = .ok (r', .error e)) :
    FailedCleanly r r' e := by
  obtain ⟨-, -, reg, dev, hc, rfl⟩ := createModel_eq_ok h
  exact createObject_failedCleanly (u := ({ r.resources with models := · })) rfl hc

theorem createGraphicsPipeline_failedCleanly {name : String}
    (h : r.createGraphicsPipeline name = .ok (r', .error e)) : FailedCleanly r r' e := by
  obtain ⟨reg, dev, hc, rfl⟩ := createGraphicsPipeline_eq_ok h
  exact createObject_failedCleanly (u := ({ r.resources with graphicsPipelines := · })) rfl hc

theorem createComputePipeline_failedCleanly {name : String}
    (h : r.createComputePipeline name = .ok (r', .error e)) : FailedCleanly r r' e := by
  obtain ⟨reg, dev, hc, rfl⟩ := createComputePipeline_eq_ok h
  exact createObject_failedCleanly (u := ({ r.resources with computePipelines := · })) rfl hc

theorem insertTexture_failedCleanly {name : String} {img : Image} {f : Fingerprint}
    (h : r.insertTexture name img f = .ok (r', .error e)) : FailedCleanly r r' e := by
  rcases insertTexture_eq_ok h with ⟨hf, rfl, he⟩ | ⟨-, t, T, ht, -⟩
  · cases he
    exact ⟨hf, r.resources.codec, rfl⟩
  · cases ht

-- A load that failed found nothing indexed for the file; the file could not be decoded, or
-- the device refused the texture.
theorem loadTexture_failedCleanly {p : Path} (h : r.loadTexture p = .ok (r', .error e)) :
    r.resources.cached? (.ofPath p) = none ∧ FailedCleanly r r' e := by
  obtain ⟨-, hcases⟩ := loadTexture_eq_ok h
  rcases hcases with ⟨t, -, -, ht⟩ | ⟨hc, hmiss⟩
  · cases ht
  refine ⟨hc, ?_⟩
  rcases hmiss with ⟨cause, -, rfl, he⟩ | ⟨img, r₂, m, -, hi, hm⟩
  · cases he
    exact ⟨_, rfl⟩
  rcases hm with ⟨e', rfl, rfl, he⟩ | ⟨t, -, ht, -⟩
  · cases he
    exact (insertTexture_failedCleanly hi).of_decode
  · cases ht

theorem createDataTexture_failedCleanly {d : DataTextureDesc}
    (h : r.createDataTexture d = .ok (r', .error e)) : FailedCleanly r r' e :=
  insertTexture_failedCleanly (createDataTexture_eq_ok h).2

theorem createTextureArray_failedCleanly {name : String} {capacity : Nat}
    (h : r.createTextureArray name capacity = .ok (r', .error e)) : FailedCleanly r r' e := by
  obtain ⟨-, ph, -, hcases⟩ := createTextureArray_eq_ok h
  rcases hcases with ⟨hf, rfl, he⟩ | ⟨-, t, T, ht, -⟩
  · cases he
    exact ⟨hf, r.resources.codec, rfl⟩
  · cases ht

-- Into an array, a failure is the failure of the plain load or creation; the array is untouched.
theorem loadTextureIntoArray_failedCleanly {p : Path} {arr : Handle .textureArray}
    (h : r.loadTextureIntoArray p arr = .ok (r', .error e)) :
    r.resources.cached? (.ofPath p) = none ∧ FailedCleanly r r' e := by
  obtain ⟨-, -, a, -, hcases⟩ := loadTextureIntoArray_eq_ok h
  rcases hcases with ⟨slot, -, -, hx⟩ | ⟨-, -, r₁, m, hl, hm⟩
  · cases hx
  rcases hm with ⟨e', rfl, rfl, hx⟩ | ⟨t, slot, -, -, hx⟩
  · cases hx
    exact loadTexture_failedCleanly hl
  · cases hx

theorem createDataTextureIntoArray_failedCleanly {d : DataTextureDesc} {arr : Handle .textureArray}
    (h : r.createDataTextureIntoArray d arr = .ok (r', .error e)) : FailedCleanly r r' e := by
  obtain ⟨-, a, -, -, r₁, m, hc, hm⟩ := createDataTextureIntoArray_eq_ok h
  rcases hm with ⟨e', rfl, rfl, hx⟩ | ⟨t, slot, -, -, hx⟩
  · cases hx
    exact createDataTexture_failedCleanly hc
  · cases hx

section FrameBuffers

variable {name : String} {size : Nat}

-- With no request to fail standing, every buffer of every frame is made.
theorem createFrameBuffers_of_not_failNext (hf : r.device.failNext = false) {frame n : Nat}
    {acc : Array (Handle .buffer)} {m : Attempt (Array (Handle .buffer))}
    (h : createFrameBuffers name size r frame n acc = .ok (r', m)) : ∃ bs, m = .ok bs := by
  induction n generalizing r frame acc with
  | zero =>
    simp only [createFrameBuffers, pure_eq_ok, Prod.mk.injEq] at h
    exact ⟨acc, h.2.symm⟩
  | succ n ih =>
    simp only [createFrameBuffers] at h
    obtain ⟨⟨r₁, m₁⟩, hb, h⟩ := bind_eq_ok.mp h
    obtain ⟨-, reg, dev, hc, rfl⟩ := createBuffer_eq_ok hb
    cases m₁ with
    | error e' =>
      obtain ⟨hf', -⟩ := createObject_error hc
      rw [hf] at hf'
      cases hf'
    | ok b => exact ih (createObject_ok_failNext hc) h

-- The device fails once at most, on the first buffer: a failure leaves no buffer made.
theorem createFrameBuffers_failedCleanly {frame n : Nat} {acc : Array (Handle .buffer)}
    (h : createFrameBuffers name size r frame n acc = .ok (r', .error e)) :
    FailedCleanly r r' e := by
  cases n with
  | zero =>
    simp only [createFrameBuffers, pure_eq_ok, Prod.mk.injEq] at h
    cases h.2
  | succ n =>
    simp only [createFrameBuffers] at h
    obtain ⟨⟨r₁, m₁⟩, hb, h⟩ := bind_eq_ok.mp h
    cases m₁ with
    | error e' =>
      simp only [pure_eq_ok, Prod.mk.injEq, Except.error.injEq] at h
      obtain ⟨rfl, rfl⟩ := h
      exact createBuffer_failedCleanly hb
    | ok b =>
      obtain ⟨-, reg, dev, hc, rfl⟩ := createBuffer_eq_ok hb
      obtain ⟨bs, hbs⟩ := createFrameBuffers_of_not_failNext (createObject_ok_failNext hc) h
      cases hbs

theorem createConstantBuffer_failedCleanly
    (h : r.createConstantBuffer name size = .ok (r', .error e)) : FailedCleanly r r' e := by
  unfold createConstantBuffer at h
  obtain ⟨⟨r₁, m⟩, hc, h⟩ := bind_eq_ok.mp h
  cases m with
  | error e' =>
    simp only [pure_eq_ok, Prod.mk.injEq, Except.error.injEq] at h
    obtain ⟨rfl, rfl⟩ := h
    exact createFrameBuffers_failedCleanly hc
  | ok bs =>
    obtain ⟨r₂, -, h⟩ := bind_eq_ok.mp h
    simp only [pure_eq_ok, Prod.mk.injEq] at h
    cases h.2

end FrameBuffers

-- A load of a file the index lacks asks the codec once.
theorem loadTexture_decodes {p : Path} {m : Attempt (Handle .texture)}
    (hc : r.resources.cached? (.ofPath p) = none) (h : r.loadTexture p = .ok (r', m)) :
    r'.resources.codec.decodes = r.resources.codec.decodes + 1 := by
  obtain ⟨-, hcases⟩ := loadTexture_eq_ok h
  rcases hcases with ⟨t, hc', -, -⟩ | ⟨-, hmiss⟩
  · rw [hc] at hc'
    cases hc'
  rcases hmiss with ⟨cause, -, rfl, -⟩ | ⟨img, r₂, m', -, hi, hm⟩
  · exact Codec.decode_decodes _ _
  -- the texture's creation and its indexing leave the codec as the decoding left it
  have hcodec : r₂.resources.codec = (r.resources.codec.decode p).1 := by
    rcases insertTexture_eq_ok hi with ⟨-, rfl, -⟩ | ⟨-, t, T, -, -, -, rfl⟩ <;> rfl
  rcases hm with ⟨e', -, rfl, -⟩ | ⟨t, -, -, rfl⟩ <;>
  · rw [hcodec]
    exact Codec.decode_decodes _ _

theorem FailedCleanly.loaded (h : FailedCleanly r r' e) :
    r'.resources.loaded = r.resources.loaded := by
  cases e with
  | device kind name cause =>
    obtain ⟨-, codec, rfl⟩ := h
    rfl
  | decode path cause =>
    obtain ⟨codec, rfl⟩ := h
    rfl

end Renderer

namespace Session

open Renderer

namespace State

variable {s s' : State} {e : ResourceError}

theorem attempt_eq_error {β : Type} {op : Renderer → Except Fault (Renderer × Attempt β)}
    {reply : β → Reply} (h : s.attempt op reply = .ok (s', .error e)) :
    op s.renderer = .ok (s'.renderer, .error e) ∧ s' = { s with renderer := s'.renderer } := by
  obtain ⟨r, m, hop, rfl, hm⟩ := attempt_eq_ok h
  cases m with
  | ok b => cases hm
  | error e' =>
    cases hm
    exact ⟨hop, rfl⟩

-- A step that reports an error ran a resource request of the renderer that failed, and left the
-- rest of the session alone; a load that failed found nothing indexed for its file.
theorem exec_error {step : Step} (h : s.exec step = .ok (s', .error e)) :
    s' = { s with renderer := s'.renderer } ∧ FailedCleanly s.renderer s'.renderer e ∧
    ∀ p, (step = .loadTexture p ∨ ∃ a, step = .loadTextureIntoArray p a) →
      s.renderer.resources.cached? (.ofPath p) = none := by
  cases step <;> simp only [exec] at h
  case createImage d =>
    obtain ⟨hop, hs⟩ := attempt_eq_error h
    exact ⟨hs, createImage_failedCleanly hop, fun p hp => by simp at hp⟩
  case createDepthImage d =>
    obtain ⟨hop, hs⟩ := attempt_eq_error h
    exact ⟨hs, createDepthImage_failedCleanly hop, fun p hp => by simp at hp⟩
  case createSampler d =>
    obtain ⟨hop, hs⟩ := attempt_eq_error h
    exact ⟨hs, createSampler_failedCleanly hop, fun p hp => by simp at hp⟩
  case createBuffer d =>
    obtain ⟨hop, hs⟩ := attempt_eq_error h
    exact ⟨hs, createBuffer_failedCleanly hop, fun p hp => by simp at hp⟩
  case createModel d =>
    obtain ⟨hop, hs⟩ := attempt_eq_error h
    exact ⟨hs, createModel_failedCleanly hop, fun p hp => by simp at hp⟩
  case createGraphicsPipeline name =>
    obtain ⟨hop, hs⟩ := attempt_eq_error h
    exact ⟨hs, createGraphicsPipeline_failedCleanly hop, fun p hp => by simp at hp⟩
  case createComputePipeline name =>
    obtain ⟨hop, hs⟩ := attempt_eq_error h
    exact ⟨hs, createComputePipeline_failedCleanly hop, fun p hp => by simp at hp⟩
  case loadTexture q =>
    obtain ⟨hop, hs⟩ := attempt_eq_error h
    obtain ⟨hc, hfail⟩ := loadTexture_failedCleanly hop
    refine ⟨hs, hfail, fun p hp => ?_⟩
    simp only [Step.loadTexture.injEq, reduceCtorEq, exists_false, or_false] at hp
    exact hp ▸ hc
  case createDataTexture d =>
    obtain ⟨hop, hs⟩ := attempt_eq_error h
    exact ⟨hs, createDataTexture_failedCleanly hop, fun p hp => by simp at hp⟩
  case createTextureArray name capacity =>
    obtain ⟨hop, hs⟩ := attempt_eq_error h
    exact ⟨hs, createTextureArray_failedCleanly hop, fun p hp => by simp at hp⟩
  case loadTextureIntoArray q arr =>
    obtain ⟨hop, hs⟩ := attempt_eq_error h
    obtain ⟨hc, hfail⟩ := loadTextureIntoArray_failedCleanly hop
    refine ⟨hs, hfail, fun p hp => ?_⟩
    simp only [Step.loadTextureIntoArray.injEq, reduceCtorEq, false_or] at hp
    obtain ⟨a, rfl, -⟩ := hp
    exact hc
  case createDataTextureIntoArray d arr =>
    obtain ⟨hop, hs⟩ := attempt_eq_error h
    exact ⟨hs, createDataTextureIntoArray_failedCleanly hop, fun p hp => by simp at hp⟩
  case createConstantBuffer name size =>
    obtain ⟨⟨r, m⟩, hop, h⟩ := bind_eq_ok.mp h
    cases m with
    | error e' =>
      simp only [pure_eq_ok, Prod.mk.injEq, Except.error.injEq] at h
      obtain ⟨rfl, rfl⟩ := h
      exact ⟨rfl, createConstantBuffer_failedCleanly (lift_eq_ok.mp hop), fun p hp => by simp at hp⟩
    | ok cb =>
      simp only [pure_eq_ok, Prod.mk.injEq, reduceCtorEq, and_false] at h
  -- every other step answers without an error
  all_goals
    exfalso
    simp only [bind_eq_ok, lift_eq_ok, pure_eq_ok, Except.ok.injEq, Prod.mk.injEq, reduceCtorEq,
      and_false, exists_false, answer, change, putList] at h

end State

-- A request that fails, from any state of a session: the session is as it was but for the codec
-- and the device's standing request to fail, which only a refusal by the device spends. A load
-- that failed is not indexed, so loading the file again decodes it again.
theorem failed_request_changes_nothing {s s' : State} {step : Step} {e : ResourceError}
    (h : s.exec step = .ok (s', .error e)) :
    s' = { s with renderer := s'.renderer } ∧ FailedCleanly s.renderer s'.renderer e ∧
    ∀ p, (step = .loadTexture p ∨ ∃ a, step = .loadTextureIntoArray p a) →
      s'.renderer.resources.cached? (.ofPath p) = none ∧
      ∀ r m, s'.renderer.loadTexture p = .ok (r, m) →
        r.resources.codec.decodes = s'.renderer.resources.codec.decodes + 1 := by
  obtain ⟨hs, hfail, hload⟩ := State.exec_error h
  refine ⟨hs, hfail, fun p hp => ?_⟩
  have hc : s'.renderer.resources.cached? (.ofPath p) = none := by
    unfold Resources.cached? at hload ⊢
    rw [hfail.loaded]
    exact hload p hp
  exact ⟨hc, fun r m hl => loadTexture_decodes hc hl⟩

-- A device asked to fail refuses the next sampler, and the session is left as it was.
theorem failed_request_changes_nothing_sampler :
    ∃ s' e, ({ renderer := ⟨{ failNext := true }, .empty .standard, 1, 0⟩ } : State).exec
        (.createSampler { name := "linear" }) = .ok (s', .error e) ∧
      s' = { ({ renderer := ⟨{ failNext := true }, .empty .standard, 1, 0⟩ } : State) with
        renderer := s'.renderer } ∧
      FailedCleanly ⟨{ failNext := true }, .empty .standard, 1, 0⟩ s'.renderer e ∧
      ∀ p, (Step.createSampler { name := "linear" } = .loadTexture p ∨
          ∃ a, Step.createSampler { name := "linear" } = .loadTextureIntoArray p a) →
        s'.renderer.resources.cached? (.ofPath p) = none ∧
        ∀ r m, s'.renderer.loadTexture p = .ok (r, m) →
          r.resources.codec.decodes = s'.renderer.resources.codec.decodes + 1 := by
  obtain ⟨s', e, h⟩ : ∃ s' e, ({ renderer := ⟨{ failNext := true }, .empty .standard, 1, 0⟩ } :
      State).exec (.createSampler { name := "linear" }) = .ok (s', .error e) := ⟨_, _, rfl⟩
  exact ⟨s', e, h, failed_request_changes_nothing h⟩

end Session

end GpuFrontend

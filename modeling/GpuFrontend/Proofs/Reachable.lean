import GpuFrontend.Proofs.TextureInvariant
import GpuFrontend.Proofs.Operations
import GpuFrontend.Proofs.Session

namespace GpuFrontend

namespace Renderer

-- The textures' side of a renderer is as it was: the operation worked on another registry, on
-- a buffer, or on the device's trace and streams.
structure KeepsTextures (r r' : Renderer) : Prop where
  placeholder : r'.resources.placeholder = r.resources.placeholder
  textures : r'.resources.textures = r.resources.textures
  loaded : r'.resources.loaded = r.resources.loaded
  textureArrays : r'.resources.textureArrays = r.resources.textureArrays
  createdTextures : r'.device.stats.textures = r.device.stats.textures
  bindingWrites : r'.device.stats.bindingWrites = r.device.stats.bindingWrites

variable {r r' : Renderer}

theorem KeepsTextures.refl (r : Renderer) : KeepsTextures r r := ⟨rfl, rfl, rfl, rfl, rfl, rfl⟩

theorem KeepsTextures.trans {r₁ r₂ r₃ : Renderer} (h₁ : KeepsTextures r₁ r₂)
    (h₂ : KeepsTextures r₂ r₃) : KeepsTextures r₁ r₃ :=
  ⟨h₂.placeholder.trans h₁.placeholder, h₂.textures.trans h₁.textures, h₂.loaded.trans h₁.loaded,
    h₂.textureArrays.trans h₁.textureArrays, h₂.createdTextures.trans h₁.createdTextures,
    h₂.bindingWrites.trans h₁.bindingWrites⟩

theorem TexturesSound.keeps (hs : r.TexturesSound) (hk : KeepsTextures r r') : r'.TexturesSound :=
  hs.of_eq hk.placeholder hk.textures hk.loaded hk.textureArrays hk.createdTextures hk.bindingWrites

-- An object of another kind than a texture: whatever the device answers, it counts no texture
-- and writes no binding.
theorem createObject_keeps_counts {k : HandleKind} {reg reg' : Registry k (Record DeviceObject)}
    {dev dev' : Device} {kind : ObjectKind} {label name : String} {a : Attempt (Handle k)}
    (hk : kind ≠ .texture) (h : createObject reg dev kind label name = .ok (reg', dev', a)) :
    dev'.stats.textures = dev.stats.textures ∧ dev'.stats.bindingWrites = dev.stats.bindingWrites := by
  rcases createObject_eq_ok h with ⟨-, -, rfl, -⟩ | ⟨-, t, -, -, -, rfl⟩
  · exact ⟨rfl, rfl⟩
  · exact ⟨Stats.bump_textures_of_ne _ hk, Stats.bump_bindingWrites _ _⟩

-- A plain creation fills a registry that holds no texture, and the device counts no texture.
theorem CreatesPlain.keepsTextures (h : r.CreatesPlain r') : KeepsTextures r r' := by
  obtain ⟨p, reg, dev, a, label, name, hc, rfl⟩ := h
  obtain ⟨ht, hw⟩ := createObject_keeps_counts p.object_ne_texture hc
  exact ⟨by simp, by simp, by simp, by simp, ht, hw⟩

theorem keepsTextures_createBuffer {d : BufferDesc} {a : Attempt (Handle .buffer)}
    (h : r.createBuffer d = .ok (r', a)) : KeepsTextures r r' :=
  (createBuffer_createsPlain h).keepsTextures

theorem keepsTextures_writeBuffer {b : Handle .buffer} {n : Nat} (h : r.writeBuffer b n = .ok r') :
    KeepsTextures r r' := by
  obtain ⟨-, -, -, rfl⟩ := writeBuffer_eq_ok h
  exact ⟨rfl, rfl, rfl, rfl, rfl, rfl⟩

theorem keepsTextures_createConstantBuffer {name : String} {size : Nat} {a : Attempt ConstantBuffer}
    (h : r.createConstantBuffer name size = .ok (r', a)) : KeepsTextures r r' :=
  createConstantBuffer_chain KeepsTextures KeepsTextures.refl (fun _ _ _ => KeepsTextures.trans)
    (fun _ _ _ _ => keepsTextures_createBuffer) (fun _ _ _ => keepsTextures_writeBuffer) h

-- A replay counts one stream and records calls; no texture is made or bound.
theorem keepsTextures_execute {l l' : CommandList} {made : Array DeviceCall}
    (h : r.execute l = .ok (r', l', made)) : KeepsTextures r r' := by
  obtain ⟨dev, hx, -, rfl⟩ := execute_eq_ok h
  obtain ⟨-, -, -, -, -, -, rfl⟩ := CommandList.execute_eq_ok hx
  exact ⟨rfl, rfl, rfl, rfl, rfl, rfl⟩

theorem keepsTextures_render {g g' : RenderGraph} {made : Array DeviceCall}
    (h : r.render g = .ok (r', g', made)) : KeepsTextures r r' := by
  obtain ⟨r₁, l, l₁, hx, rfl⟩ := render_eq_ok h
  exact (keepsTextures_execute hx).trans ⟨rfl, rfl, rfl, rfl, rfl, rfl⟩

theorem appendToArray_keeps {a : Handle .textureArray} {t : Handle .texture} {f : Fingerprint}
    {slot : Nat} (h : r.appendToArray a t f = .ok (r', slot)) :
    r'.resources.textures = r.resources.textures ∧ r'.resources.loaded = r.resources.loaded ∧
      r'.device.stats.textures = r.device.stats.textures := by
  obtain ⟨-, -, -, -, -, -, -, -, rfl⟩ := appendToArray_eq_ok h
  exact ⟨rfl, rfl, rfl⟩

-- Creating a texture keeps every texture there was, and indexes nothing.
theorem insertTexture_keeps {name : String} {img : Image} {f : Fingerprint}
    {a : Attempt (Handle .texture)} (h : r.insertTexture name img f = .ok (r', a)) :
    r.resources.textures.Extends r'.resources.textures ∧
      r'.resources.loaded = r.resources.loaded ∧
      r'.resources.textureArrays = r.resources.textureArrays := by
  rcases insertTexture_eq_ok h with ⟨-, rfl, -⟩ | ⟨-, t, T, -, -, hT, rfl⟩
  · exact ⟨Registry.Extends.refl _, rfl, rfl⟩
  · exact ⟨Registry.extends_of_push hT, rfl, rfl⟩

theorem loadTextureIntoArray_keeps {p : Path} {a : Handle .textureArray}
    {x : Attempt (Nat × Handle .texture)} (h : r.loadTextureIntoArray p a = .ok (r', x)) :
    r.resources.textures.Extends r'.resources.textures ∧
      ∀ e ∈ r.resources.loaded, e ∈ r'.resources.loaded := by
  obtain ⟨-, -, arr, -, hcases⟩ := loadTextureIntoArray_eq_ok h
  rcases hcases with ⟨slot, -, rfl, -⟩ | ⟨-, -, r₁, m, hl, hm⟩
  · exact ⟨Registry.Extends.refl _, fun _ h => h⟩
  obtain ⟨-, -, -, hext, hmem⟩ := loadTexture_keeps hl
  rcases hm with ⟨e, -, rfl, -⟩ | ⟨t, slot, -, happ, -⟩
  · exact ⟨hext, hmem⟩
  · obtain ⟨ht, hl', -⟩ := appendToArray_keeps happ
    exact ⟨ht ▸ hext, hl' ▸ hmem⟩

theorem createDataTextureIntoArray_keeps {d : DataTextureDesc} {a : Handle .textureArray}
    {x : Attempt (Nat × Handle .texture)} (h : r.createDataTextureIntoArray d a = .ok (r', x)) :
    r.resources.textures.Extends r'.resources.textures ∧
      r'.resources.loaded = r.resources.loaded := by
  obtain ⟨-, arr, -, -, r₁, m, hc, hm⟩ := createDataTextureIntoArray_eq_ok h
  obtain ⟨hext, hl, -⟩ := insertTexture_keeps (createDataTexture_eq_ok hc).2
  rcases hm with ⟨e, -, rfl, -⟩ | ⟨t, slot, -, happ, -⟩
  · exact ⟨hext, hl⟩
  · obtain ⟨ht, hl', -⟩ := appendToArray_keeps happ
    exact ⟨ht ▸ hext, hl'.trans hl⟩

-- The renderer before its placeholder: a fresh device, no resources, no frame yet.
def fresh (cfg : Config) : Renderer :=
  ⟨{ failNext := cfg.failPlaceholder }, Resources.empty cfg.codec, cfg.framesInFlight, 0⟩

-- A renderer that was built: its placeholder was loaded from the file the configuration names,
-- or generated, on the fresh renderer, and became the renderer's placeholder.
theorem build_eq_ok {cfg : Config} {r₀ : Renderer} (h : build cfg = .ok r₀) :
    ∃ r₁ t, r₀ = { r₁ with resources := { r₁.resources with placeholder := t } } ∧
      ((∃ p, cfg.placeholder = .file p ∧ (fresh cfg).loadTexture p = .ok (r₁, .ok t)) ∨
       ((∀ p, cfg.placeholder ≠ .file p) ∧
          ∃ img, (fresh cfg).insertTexture "placeholder" img .none = .ok (r₁, .ok t))) := by
  unfold build at h
  by_cases hz : cfg.framesInFlight = 0
  · simp [hz, throw, throwThe, MonadExceptOf.throw, bind, Except.bind] at h
  simp only [hz, ↓reduceIte] at h
  -- the placeholder as the configuration gives it; then a failure to make it is a fault
  cases hp : cfg.placeholder with
  | file p =>
    simp only [hp] at h
    obtain ⟨⟨r₁, m⟩, hop, h⟩ := bind_eq_ok.mp h
    cases m with
    | error e => simp [throw, throwThe, MonadExceptOf.throw] at h
    | ok t => exact ⟨r₁, t, (pure_eq_ok.mp h).symm, .inl ⟨p, rfl, hop⟩⟩
  | solid c =>
    simp only [hp] at h
    obtain ⟨⟨r₁, m⟩, hop, h⟩ := bind_eq_ok.mp h
    cases m with
    | error e => simp [throw, throwThe, MonadExceptOf.throw] at h
    | ok t => exact ⟨r₁, t, (pure_eq_ok.mp h).symm, .inr ⟨(fun _ h => nomatch h), _, hop⟩⟩
  | checkerboard size first second =>
    simp only [hp] at h
    by_cases hs : size = 0
    · simp [hs, throw, throwThe, MonadExceptOf.throw] at h
    simp only [hs, ↓reduceIte] at h
    obtain ⟨⟨r₁, m⟩, hop, h⟩ := bind_eq_ok.mp h
    cases m with
    | error e => simp [throw, throwThe, MonadExceptOf.throw] at h
    | ok t => exact ⟨r₁, t, (pure_eq_ok.mp h).symm, .inr ⟨(fun _ h => nomatch h), _, hop⟩⟩

theorem texturesSound_fresh (cfg : Config) : (fresh cfg).TexturesSound where
  index := Resources.indexSound_empty cfg.codec
  arrays := by simp [fresh, Resources.empty, Registry.empty]
  created := rfl
  bindingWrites := rfl

-- Before any array exists, the placeholder may change.
theorem TexturesSound.setPlaceholder (hs : r.TexturesSound)
    (ha : r.resources.textureArrays.entries = #[]) (t : Handle .texture) :
    TexturesSound { r with resources := { r.resources with placeholder := t } } where
  index := hs.index.of_eq rfl rfl
  arrays := by simp [ha]
  created := hs.created
  bindingWrites := hs.bindingWrites

theorem build_texturesSound {cfg : Config} {r₀ : Renderer} (h : build cfg = .ok r₀) :
    r₀.TexturesSound := by
  obtain ⟨r₁, t, rfl, hcases⟩ := build_eq_ok h
  rcases hcases with ⟨p, -, hl⟩ | ⟨-, img, hi⟩
  · have ha : r₁.resources.textureArrays.entries = #[] := by
      rw [(loadTexture_keeps hl).2.1]
      rfl
    exact ((texturesSound_fresh cfg).loadTexture hl).setPlaceholder ha t
  · have ha : r₁.resources.textureArrays.entries = #[] := by
      rw [(insertTexture_keeps hi).2.2]
      rfl
    exact ((texturesSound_fresh cfg).insertTexture hi).setPlaceholder ha t

end Renderer

namespace Session

open Renderer

-- The steps that create, load or bind textures.
def Step.touchesTextures : Step → Bool
  | .loadTexture _ | .createDataTexture _ | .createTextureArray _ _ | .loadTextureIntoArray _ _
  | .createDataTextureIntoArray _ _ => true
  | _ => false

def Step.loadsFile : Step → Bool
  | .loadTexture _ | .loadTextureIntoArray _ _ => true
  | _ => false

variable {r r' : Renderer} {step : Step}

-- Every other step leaves the textures' side of the renderer alone.
theorem RendererStep.keepsTextures (hstep : RendererStep r step r')
    (ht : step.touchesTextures = false) : KeepsTextures r r' := by
  cases hp : step.createsPlain
  case true =>
    rcases hstep.createsPlain hp with rfl | hc
    · exact .refl _
    · exact hc.keepsTextures
  cases hstep with
  | keep => exact .refl r
  | writeBuffer h => exact keepsTextures_writeBuffer h
  | createConstantBuffer h => exact keepsTextures_createConstantBuffer h
  | applyConstantBuffer h => exact keepsTextures_writeBuffer (applyConstantBuffer_eq_ok h)
  | requestFailure => exact ⟨rfl, rfl, rfl, rfl, rfl, rfl⟩
  | takeCalls => exact ⟨rfl, rfl, rfl, rfl, rfl, rfl⟩
  | execute h => exact keepsTextures_execute h
  | render h => exact keepsTextures_render h
  | createImage _ | createDepthImage _ | createSampler _ | createBuffer _ | createModel _
  | createGraphicsPipeline _ | createComputePipeline _ => simp [Step.createsPlain] at hp
  | loadTexture _ | createDataTexture _ | createTextureArray _ | loadTextureIntoArray _
  | createDataTextureIntoArray _ => simp [Step.touchesTextures] at ht

theorem RendererStep.texturesSound (hstep : RendererStep r step r') (hs : r.TexturesSound) :
    r'.TexturesSound := by
  rcases Bool.eq_false_or_eq_true step.touchesTextures with ht | ht
  · cases hstep with
    | keep => exact hs
    | loadTexture h => exact hs.loadTexture h
    | createDataTexture h => exact hs.createDataTexture h
    | createTextureArray h => exact hs.createTextureArray h
    | loadTextureIntoArray h => exact hs.loadTextureIntoArray h
    | createDataTextureIntoArray h => exact hs.createDataTextureIntoArray h
    | _ => simp [Step.touchesTextures] at ht
  · exact hs.keeps (hstep.keepsTextures ht)

-- The textures and their index only grow, and only a step that loads a file adds to the index.
theorem RendererStep.textures_grow (hstep : RendererStep r step r') :
    r.resources.textures.Extends r'.resources.textures ∧
    (∀ e ∈ r.resources.loaded, e ∈ r'.resources.loaded) ∧
    (step.loadsFile = false → r'.resources.loaded = r.resources.loaded) := by
  rcases Bool.eq_false_or_eq_true step.touchesTextures with ht | ht
  · cases hstep with
    | keep => exact ⟨Registry.Extends.refl _, fun _ h => h, fun _ => rfl⟩
    | loadTexture h =>
      obtain ⟨-, -, -, hext, hl⟩ := loadTexture_keeps h
      exact ⟨hext, hl, by simp [Step.loadsFile]⟩
    | createDataTexture h =>
      obtain ⟨hext, hl, -⟩ := insertTexture_keeps (createDataTexture_eq_ok h).2
      exact ⟨hext, hl ▸ fun _ h => h, fun _ => hl⟩
    | createTextureArray h =>
      obtain ⟨-, ph, -, hcases⟩ := createTextureArray_eq_ok h
      rcases hcases with ⟨-, rfl, -⟩ | ⟨-, t, T, -, -, -, rfl⟩ <;>
        exact ⟨Registry.Extends.refl _, fun _ h => h, fun _ => rfl⟩
    | loadTextureIntoArray h =>
      obtain ⟨hext, hmem⟩ := loadTextureIntoArray_keeps h
      exact ⟨hext, hmem, by simp [Step.loadsFile]⟩
    | createDataTextureIntoArray h =>
      obtain ⟨hext, hl⟩ := createDataTextureIntoArray_keeps h
      exact ⟨hext, hl ▸ fun _ h => h, fun _ => hl⟩
    | _ => simp [Step.touchesTextures] at ht
  · have hk := hstep.keepsTextures ht
    refine ⟨?_, ?_, fun _ => hk.loaded⟩
    · rw [hk.textures]
      exact Registry.Extends.refl _
    · rw [hk.loaded]
      exact fun _ h => h

theorem Run.texturesSound {cfg : Config} {r₀ : Renderer} {s : State} {ts : List Transition}
    (hb : build cfg = .ok r₀) (hr : Run { renderer := r₀ } s ts) : s.renderer.TexturesSound :=
  hr.invariant (P := fun s => s.renderer.TexturesSound) (build_texturesSound hb)
    fun _ _ _ _ hs he => (State.exec_rendererStep he).texturesSound hs

-- Every texture array of a reachable renderer: members, fingerprints and bound slots in lock
-- step, every slot past the members bound to the placeholder, no file twice, and one binding
-- written per member over all arrays.
theorem textureArrays_lockstep {cfg : Config} {r₀ : Renderer} {s : State} {ts : List Transition}
    (hb : build cfg = .ok r₀) (hr : Run { renderer := r₀ } s ts) :
    (∀ a ∈ s.renderer.resources.textureArrays.entries,
      a.fingerprints.size = a.members.size ∧ a.members.size ≤ a.capacity ∧
      a.table.slots.size = a.capacity ∧
      (∀ (i : Nat) (t : Handle .texture), a.members[i]? = some t →
        ∃ rec, s.renderer.resources.textures.entries[t.raw]? = some rec ∧
          a.fingerprints[i]? = some rec.fingerprint ∧ a.table.slots[i]? = some rec.object.id) ∧
      (∀ i, a.members.size ≤ i → i < a.capacity →
        a.table.slots[i]? = (s.renderer.resources.textures.entries[
          s.renderer.resources.placeholder.raw]?).map (·.object.id)) ∧
      (∀ (i j : Nat) (f : Fingerprint), a.fingerprints[i]? = some f → a.fingerprints[j]? = some f →
        f.isNone = false → i = j)) ∧
    s.renderer.device.stats.bindingWrites =
      (s.renderer.resources.textureArrays.entries.toList.map (·.members.size)).sum := by
  have hs := hr.texturesSound hb
  refine ⟨fun a ha => ?_, hs.bindingWrites⟩
  have hbound := hs.arrays a ha
  exact ⟨hbound.fingerprints_size, hbound.members_le, hbound.slots_size, hbound.member,
    hbound.vacant, hbound.distinct⟩

-- A session on a generated placeholder that makes an array of two slots and puts a data
-- texture in its first.
theorem textureArrays_lockstep_two_slots :
    ∃ (r₀ : Renderer) (s : State) (ts : List Transition),
      build { placeholder := .solid ⟨0, 0, 0, 255⟩ } = .ok r₀ ∧ Run { renderer := r₀ } s ts ∧
      s.renderer.resources.textureArrays.entries.size = 1 ∧
      (∀ a ∈ s.renderer.resources.textureArrays.entries,
        a.fingerprints.size = a.members.size ∧ a.members.size ≤ a.capacity ∧
        a.table.slots.size = a.capacity ∧
        (∀ (i : Nat) (t : Handle .texture), a.members[i]? = some t →
          ∃ rec, s.renderer.resources.textures.entries[t.raw]? = some rec ∧
            a.fingerprints[i]? = some rec.fingerprint ∧ a.table.slots[i]? = some rec.object.id) ∧
        (∀ i, a.members.size ≤ i → i < a.capacity →
          a.table.slots[i]? = (s.renderer.resources.textures.entries[
            s.renderer.resources.placeholder.raw]?).map (·.object.id)) ∧
        (∀ (i j : Nat) (f : Fingerprint), a.fingerprints[i]? = some f →
          a.fingerprints[j]? = some f → f.isNone = false → i = j)) ∧
      s.renderer.device.stats.bindingWrites =
        (s.renderer.resources.textureArrays.entries.toList.map (·.members.size)).sum := by
  obtain ⟨r₀, s, ts, hb, hr, hsize⟩ : ∃ (r₀ : Renderer) (s : State) (ts : List Transition),
      build { placeholder := .solid ⟨0, 0, 0, 255⟩ } = .ok r₀ ∧ Run { renderer := r₀ } s ts ∧
      s.renderer.resources.textureArrays.entries.size = 1 :=
    ⟨_, _, _, rfl, .snoc (t := ⟨_, .createDataTextureIntoArray
        { name := "white", width := 1, height := 1, data := ⟨#[255, 255, 255, 255]⟩ }
        ⟨0, by decide⟩, _, _⟩)
      (.snoc (t := ⟨_, .createTextureArray "lights" 2, _, _⟩) .nil rfl rfl) rfl rfl, rfl⟩
  exact ⟨r₀, s, ts, hb, hr, hsize, textureArrays_lockstep hb hr⟩

end Session

end GpuFrontend

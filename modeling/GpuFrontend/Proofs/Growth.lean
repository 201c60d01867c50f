import GpuFrontend.Proofs.ArrayLoad
import GpuFrontend.Proofs.Dedup

namespace GpuFrontend

namespace TextureArray

-- An array that only grew: same name, capacity and binding table, members and fingerprints only
-- appended, and no slot rebound but those of the appended members.
structure GrowsInto (a a' : TextureArray) : Prop where
  name : a'.name = a.name
  capacity : a'.capacity = a.capacity
  members : a.members.toList <+: a'.members.toList
  fingerprints : a.fingerprints.toList <+: a'.fingerprints.toList
  table : a'.table.id = a.table.id
  slots : ∀ i, (i < a.members.size ∨ a'.members.size ≤ i) → a'.table.slots[i]? = a.table.slots[i]?

variable {a a₁ a₂ : TextureArray}

theorem GrowsInto.refl (a : TextureArray) : a.GrowsInto a :=
  ⟨rfl, rfl, List.prefix_refl _, List.prefix_refl _, rfl, fun _ _ => rfl⟩

theorem GrowsInto.size_le (h : a.GrowsInto a₁) : a.members.size ≤ a₁.members.size := by
  simpa using h.members.length_le

theorem GrowsInto.trans (h₁ : a.GrowsInto a₁) (h₂ : a₁.GrowsInto a₂) : a.GrowsInto a₂ where
  name := h₂.name.trans h₁.name
  capacity := h₂.capacity.trans h₁.capacity
  members := h₁.members.trans h₂.members
  fingerprints := h₁.fingerprints.trans h₂.fingerprints
  table := h₂.table.trans h₁.table
  slots i hi := by
    have h₁₂ := h₁.size_le
    have h₂₃ := h₂.size_le
    rw [h₂.slots i (by omega), h₁.slots i (by omega)]

-- A member appended binds the slot after the members, and no other.
theorem growsInto_push (a : TextureArray) (t : Handle .texture) (f : Fingerprint) (id : Nat) :
    a.GrowsInto (a.push t f id) where
  name := rfl
  capacity := rfl
  members := by simp [push]
  fingerprints := by simp [push]
  table := rfl
  slots i hi := by
    have hne : a.members.size ≠ i := by
      simp only [push, Array.size_push] at hi
      omega
    simp [push, Array.set!_eq_setIfInBounds, hne]

end TextureArray

namespace Registry

variable {k : HandleKind} {α : Type}

theorem Extends.map_getElem? {r r' : Registry k α} (he : r.Extends r') {β : Type} {f : α → β}
    {i : Nat} {b : β} (h : (r.entries[i]?).map f = some b) : (r'.entries[i]?).map f = some b := by
  obtain ⟨v, hv, rfl⟩ := Option.map_eq_some_iff.mp h
  simp [he i v hv]

end Registry

namespace Resources

-- The handles of a kind issued so far: the indices below the size of its registry.
def issuedCount (res : Resources) : HandleKind → Nat
  | .image => res.images.size
  | .depthImage => res.depthImages.size
  | .texture => res.textures.size
  | .textureArray => res.textureArrays.size
  | .sampler => res.samplers.size
  | .buffer => res.buffers.size
  | .model => res.models.size
  | .graphicsPipeline => res.graphicsPipelines.size
  | .computePipeline => res.computePipelines.size

-- The device object a handle of a kind resolves to: the object of its record, for a texture
-- array its binding table; nothing for a handle not issued.
def objectId? (res : Resources) : HandleKind → Nat → Option Nat
  | .image, i => (res.images.entries[i]?).map (·.object.id)
  | .depthImage, i => (res.depthImages.entries[i]?).map (·.object.id)
  | .texture, i => (res.textures.entries[i]?).map (·.object.id)
  | .textureArray, i => (res.textureArrays.entries[i]?).map (·.table.id)
  | .sampler, i => (res.samplers.entries[i]?).map (·.object.id)
  | .buffer, i => (res.buffers.entries[i]?).map (·.object.id)
  | .model, i => (res.models.entries[i]?).map (·.object.id)
  | .graphicsPipeline, i => (res.graphicsPipelines.entries[i]?).map (·.object.id)
  | .computePipeline, i => (res.computePipelines.entries[i]?).map (·.object.id)

theorem objectId?_isSome_iff (res : Resources) (k : HandleKind) (i : Nat) :
    (res.objectId? k i).isSome ↔ i < res.issuedCount k := by
  cases k <;> simp [objectId?, issuedCount, Registry.size]

theorem IndexSound.lt_of_mem {res : Resources} (hs : res.IndexSound) {f : Fingerprint}
    {t : Handle .texture} (h : (f, t) ∈ res.loaded) : t.raw < res.textures.size := by
  obtain ⟨-, rec, hrec, -⟩ := (hs.mem_loaded f t).mp h
  exact (Array.getElem?_eq_some_iff.mp hrec).1

end Resources

namespace Renderer

-- What any operation may do to the resources: every registry keeps each entry at its index and
-- can only gain more, each texture array only grows, the texture index only gains entries, and
-- the placeholder stays.
structure Grows (r r' : Renderer) : Prop where
  images : r.resources.images.Extends r'.resources.images
  depthImages : r.resources.depthImages.Extends r'.resources.depthImages
  textures : r.resources.textures.Extends r'.resources.textures
  samplers : r.resources.samplers.Extends r'.resources.samplers
  buffers : r.resources.buffers.Extends r'.resources.buffers
  models : r.resources.models.Extends r'.resources.models
  graphicsPipelines : r.resources.graphicsPipelines.Extends r'.resources.graphicsPipelines
  computePipelines : r.resources.computePipelines.Extends r'.resources.computePipelines
  textureArrays : ∀ (i : Nat) (a : TextureArray), r.resources.textureArrays.entries[i]? = some a →
    ∃ a', r'.resources.textureArrays.entries[i]? = some a' ∧ a.GrowsInto a'
  loaded : r.resources.loaded.toList <+: r'.resources.loaded.toList
  placeholder : r'.resources.placeholder = r.resources.placeholder

variable {r r' r₁ : Renderer}

theorem Grows.refl (r : Renderer) : r.Grows r where
  images := .refl _
  depthImages := .refl _
  textures := .refl _
  samplers := .refl _
  buffers := .refl _
  models := .refl _
  graphicsPipelines := .refl _
  computePipelines := .refl _
  textureArrays _ a h := ⟨a, h, .refl a⟩
  loaded := List.prefix_refl _
  placeholder := rfl

theorem Grows.trans (h₁ : r.Grows r₁) (h₂ : r₁.Grows r') : r.Grows r' where
  images := h₁.images.trans h₂.images
  depthImages := h₁.depthImages.trans h₂.depthImages
  textures := h₁.textures.trans h₂.textures
  samplers := h₁.samplers.trans h₂.samplers
  buffers := h₁.buffers.trans h₂.buffers
  models := h₁.models.trans h₂.models
  graphicsPipelines := h₁.graphicsPipelines.trans h₂.graphicsPipelines
  computePipelines := h₁.computePipelines.trans h₂.computePipelines
  textureArrays i a h := by
    obtain ⟨a₁, h₁', g₁⟩ := h₁.textureArrays i a h
    obtain ⟨a₂, h₂', g₂⟩ := h₂.textureArrays i a₁ h₁'
    exact ⟨a₂, h₂', g₁.trans g₂⟩
  loaded := h₁.loaded.trans h₂.loaded
  placeholder := h₂.placeholder.trans h₁.placeholder

-- Whatever the device answers, a plain kind's registry at most gains the object it made.
theorem createObject_extends {k : HandleKind} {reg reg' : Registry k (Record DeviceObject)}
    {dev dev' : Device} {kind : ObjectKind} {label name : String} {a : Attempt (Handle k)}
    (h : createObject reg dev kind label name = .ok (reg', dev', a)) : reg.Extends reg' := by
  rcases createObject_eq_ok h with ⟨-, rfl, -, -⟩ | ⟨-, t, -, -, hreg, -⟩
  · exact .refl _
  · exact Registry.extends_of_push hreg

theorem grows_insertTexture {name : String} {img : Image} {f : Fingerprint}
    {a : Attempt (Handle .texture)} (h : r.insertTexture name img f = .ok (r', a)) :
    r.Grows r' := by
  obtain ⟨hext, -, -⟩ := insertTexture_keeps h
  rcases insertTexture_eq_ok h with ⟨-, rfl, -⟩ | ⟨-, t, T, -, -, -, rfl⟩
  · exact { Grows.refl r with }
  · exact { Grows.refl r with textures := hext }

theorem grows_loadTexture {p : Path} {a : Attempt (Handle .texture)}
    (h : r.loadTexture p = .ok (r', a)) : r.Grows r' := by
  obtain ⟨-, hcases⟩ := loadTexture_eq_ok h
  rcases hcases with ⟨t, -, rfl, -⟩ | ⟨-, hmiss⟩
  · exact .refl _
  rcases hmiss with ⟨e, -, rfl, -⟩ | ⟨img, r₂, m, -, hi, hm⟩
  · exact { Grows.refl r with }
  -- decoding only counts the request; the texture made is then indexed, if it was made
  have h₂ : r.Grows r₂ := by
    refine Grows.trans ?_ (grows_insertTexture hi)
    exact { Grows.refl r with }
  rcases hm with ⟨e, -, rfl, -⟩ | ⟨t, -, -, rfl⟩
  · exact h₂
  · exact h₂.trans { Grows.refl r₂ with loaded := by simp }

theorem grows_createDataTexture {d : DataTextureDesc} {a : Attempt (Handle .texture)}
    (h : r.createDataTexture d = .ok (r', a)) : r.Grows r' :=
  grows_insertTexture (createDataTexture_eq_ok h).2

theorem grows_createTextureArray {name : String} {capacity : Nat}
    {a : Attempt (Handle .textureArray)} (h : r.createTextureArray name capacity = .ok (r', a)) :
    r.Grows r' := by
  obtain ⟨-, ph, -, hcases⟩ := createTextureArray_eq_ok h
  rcases hcases with ⟨-, rfl, -⟩ | ⟨-, t, T, -, -, hT, rfl⟩
  · exact { Grows.refl r with }
  · exact { Grows.refl r with
      textureArrays := fun i b hb => ⟨b, Registry.extends_of_push hT i b hb, .refl b⟩ }

-- The one place an entry changes in place: the array appended to grows, the others stay.
theorem grows_appendToArray {a : Handle .textureArray} {t : Handle .texture} {f : Fingerprint}
    {slot : Nat} (h : r.appendToArray a t f = .ok (r', slot)) : r.Grows r' := by
  obtain ⟨rec, arr, T, -, harr, -, -, ⟨hi, hT⟩, rfl⟩ := appendToArray_eq_ok h
  refine { Grows.refl r with textureArrays := fun i b hb => ?_ }
  by_cases hia : a.raw = i
  · subst hia
    rw [harr] at hb
    cases hb
    refine ⟨arr.push t f rec.object.id, ?_, TextureArray.growsInto_push arr t f rec.object.id⟩
    rw [hT, Array.getElem?_set_self]
    rfl
  · exact ⟨b, by simp [hT, hia, hb], .refl b⟩

theorem grows_loadTextureIntoArray {p : Path} {a : Handle .textureArray}
    {x : Attempt (Nat × Handle .texture)} (h : r.loadTextureIntoArray p a = .ok (r', x)) :
    r.Grows r' := by
  obtain ⟨-, -, arr, -, hcases⟩ := loadTextureIntoArray_eq_ok h
  rcases hcases with ⟨slot, -, rfl, -⟩ | ⟨-, -, r₁, m, hl, hm⟩
  · exact .refl _
  rcases hm with ⟨e, -, rfl, -⟩ | ⟨t, slot, -, happ, -⟩
  · exact grows_loadTexture hl
  · exact (grows_loadTexture hl).trans (grows_appendToArray happ)

theorem grows_createDataTextureIntoArray {d : DataTextureDesc} {a : Handle .textureArray}
    {x : Attempt (Nat × Handle .texture)} (h : r.createDataTextureIntoArray d a = .ok (r', x)) :
    r.Grows r' := by
  obtain ⟨-, arr, -, -, r₁, m, hc, hm⟩ := createDataTextureIntoArray_eq_ok h
  rcases hm with ⟨e, -, rfl, -⟩ | ⟨t, slot, -, happ, -⟩
  · exact grows_createDataTexture hc
  · exact (grows_createDataTexture hc).trans (grows_appendToArray happ)

theorem CreatesPlain.grows (h : r.CreatesPlain r') : r.Grows r' := by
  obtain ⟨p, reg, dev, a, label, name, hc, rfl⟩ := h
  have he := createObject_extends hc
  cases p
  case image => exact { Grows.refl r with images := he }
  case depthImage => exact { Grows.refl r with depthImages := he }
  case sampler => exact { Grows.refl r with samplers := he }
  case buffer => exact { Grows.refl r with buffers := he }
  case model => exact { Grows.refl r with models := he }
  case graphicsPipeline => exact { Grows.refl r with graphicsPipelines := he }
  case computePipeline => exact { Grows.refl r with computePipelines := he }

theorem grows_createBuffer {d : BufferDesc} {a : Attempt (Handle .buffer)}
    (h : r.createBuffer d = .ok (r', a)) : r.Grows r' :=
  (createBuffer_createsPlain h).grows

theorem grows_writeBuffer {b : Handle .buffer} {n : Nat} (h : r.writeBuffer b n = .ok r') :
    r.Grows r' := by
  obtain ⟨-, -, -, rfl⟩ := writeBuffer_eq_ok h
  exact { Grows.refl r with }

theorem grows_createConstantBuffer {name : String} {size : Nat} {a : Attempt ConstantBuffer}
    (h : r.createConstantBuffer name size = .ok (r', a)) : r.Grows r' :=
  createConstantBuffer_chain Grows Grows.refl (fun _ _ _ => Grows.trans)
    (fun _ _ _ _ => grows_createBuffer) (fun _ _ _ => grows_writeBuffer) h

theorem grows_execute {l l' : CommandList} {made : Array DeviceCall}
    (h : r.execute l = .ok (r', l', made)) : r.Grows r' := by
  obtain ⟨dev, -, -, rfl⟩ := execute_eq_ok h
  exact { Grows.refl r with }

theorem grows_render {g g' : RenderGraph} {made : Array DeviceCall}
    (h : r.render g = .ok (r', g', made)) : r.Grows r' := by
  obtain ⟨r₁, l, l₁, hx, rfl⟩ := render_eq_ok h
  exact (grows_execute hx).trans { Grows.refl r₁ with }

-- A handle issued keeps resolving to the same device object.
theorem Grows.objectId? (hg : r.Grows r') {k : HandleKind} {i id : Nat}
    (h : r.resources.objectId? k i = some id) : r'.resources.objectId? k i = some id := by
  cases k with
  | image => exact hg.images.map_getElem? h
  | depthImage => exact hg.depthImages.map_getElem? h
  | texture => exact hg.textures.map_getElem? h
  | sampler => exact hg.samplers.map_getElem? h
  | buffer => exact hg.buffers.map_getElem? h
  | model => exact hg.models.map_getElem? h
  | graphicsPipeline => exact hg.graphicsPipelines.map_getElem? h
  | computePipeline => exact hg.computePipelines.map_getElem? h
  | textureArray =>
    -- an array changes in place, but never its binding table
    obtain ⟨a, ha, rfl⟩ := Option.map_eq_some_iff.mp h
    obtain ⟨a', ha', hgrow⟩ := hg.textureArrays i a ha
    simp only [Resources.objectId?, ha', Option.map_some, hgrow.table]

-- The index only gains entries, so a file indexed keeps its texture: the first entry of a
-- fingerprint stays the first.
theorem Grows.cached? (hg : r.Grows r') {f : Fingerprint} {t : Handle .texture}
    (h : r.resources.cached? f = some t) : r'.resources.cached? f = some t := by
  obtain ⟨rest, hrest⟩ := hg.loaded
  obtain ⟨e, he, rfl⟩ := Option.map_eq_some_iff.mp h
  have he' : r.resources.loaded.toList.find? (fun e => e.1 == f) = some e := by
    rw [Array.find?_toList]
    exact he
  unfold Resources.cached?
  rw [← Array.find?_toList, ← hrest, List.find?_append, he']
  rfl

-- A plain kind's object made: its handle is the next one, and the registry grew by it alone.
theorem createObject_fresh {k : HandleKind} {reg reg' : Registry k (Record DeviceObject)}
    {dev dev' : Device} {kind : ObjectKind} {label name : String} {t : Handle k}
    (h : createObject reg dev kind label name = .ok (reg', dev', .ok t)) :
    t.raw = reg.size ∧ reg'.size = t.raw + 1 := by
  rcases createObject_eq_ok h with ⟨-, -, -, ha⟩ | ⟨-, t', ht', hraw, hreg, -⟩
  · cases ha
  · cases ht'
    exact ⟨hraw, by simp [Registry.size, hreg, hraw]⟩

theorem insertTexture_fresh {name : String} {img : Image} {f : Fingerprint} {t : Handle .texture}
    (h : r.insertTexture name img f = .ok (r', .ok t)) :
    t.raw = r.resources.textures.size ∧ r'.resources.textures.size = t.raw + 1 := by
  rcases insertTexture_eq_ok h with ⟨-, -, ha⟩ | ⟨-, t', T, ht', hraw, hT, rfl⟩
  · cases ha
  · cases ht'
    exact ⟨hraw, by simp [Registry.size, hT, hraw]⟩

-- A load that added a texture answers it: a file found in the index adds none.
theorem loadTexture_fresh {p : Path} {t : Handle .texture} (h : r.loadTexture p = .ok (r', .ok t))
    (hgrew : r.resources.textures.size < r'.resources.textures.size) :
    t.raw = r.resources.textures.size ∧ r'.resources.textures.size = t.raw + 1 := by
  obtain ⟨-, hcases⟩ := loadTexture_eq_ok h
  rcases hcases with ⟨t', -, rfl, -⟩ | ⟨-, hmiss⟩
  · exact absurd hgrew (Nat.lt_irrefl _)
  rcases hmiss with ⟨e, -, -, ha⟩ | ⟨img, r₂, m, -, hi, hm⟩
  · cases ha
  rcases hm with ⟨e, -, -, ha⟩ | ⟨t', rfl, ha, rfl⟩
  · cases ha
  · cases ha
    obtain ⟨hraw, hsize⟩ := insertTexture_fresh hi
    exact ⟨hraw, hsize⟩

theorem TexturesSound.loadTexture_issued (hs : r.TexturesSound) {p : Path} {t : Handle .texture}
    (h : r.loadTexture p = .ok (r', .ok t)) : t.raw < r'.resources.textures.size :=
  (hs.loadTexture h).index.lt_of_mem (hs.loadTexture_mem h)

theorem loadTextureIntoArray_fresh {p : Path} {a : Handle .textureArray} {slot : Nat}
    {t : Handle .texture} (h : r.loadTextureIntoArray p a = .ok (r', .ok (slot, t)))
    (hgrew : r.resources.textures.size < r'.resources.textures.size) :
    t.raw = r.resources.textures.size ∧ r'.resources.textures.size = t.raw + 1 := by
  obtain ⟨-, -, arr, -, hcases⟩ := loadTextureIntoArray_eq_ok h
  rcases hcases with ⟨slot, -, rfl, -⟩ | ⟨-, -, r₁, m, hl, hm⟩
  · exact absurd hgrew (Nat.lt_irrefl _)
  rcases hm with ⟨e, -, -, hx⟩ | ⟨t', slot', rfl, happ, hx⟩
  · cases hx
  obtain ⟨-, rfl⟩ := Prod.mk.inj (Except.ok.inj hx)
  have hkeep := (appendToArray_keeps happ).1
  rw [hkeep] at hgrew ⊢
  exact loadTexture_fresh hl hgrew

theorem TexturesSound.loadTextureIntoArray_issued (hs : r.TexturesSound) {p : Path}
    {a : Handle .textureArray} {slot : Nat} {t : Handle .texture}
    (h : r.loadTextureIntoArray p a = .ok (r', .ok (slot, t))) :
    t.raw < r'.resources.textures.size :=
  (hs.loadTextureIntoArray h).index.lt_of_mem ((hs.loadTextureIntoArray_index h).1 slot t rfl)

theorem createTextureArray_fresh {name : String} {capacity : Nat} {h : Handle .textureArray}
    (hc : r.createTextureArray name capacity = .ok (r', .ok h)) :
    h.raw = r.resources.textureArrays.size ∧ r'.resources.textureArrays.size = h.raw + 1 := by
  obtain ⟨-, ph, -, hcases⟩ := createTextureArray_eq_ok hc
  rcases hcases with ⟨-, -, ha⟩ | ⟨-, h', T, ha, hraw, hT, rfl⟩
  · cases ha
  · cases ha
    exact ⟨hraw, by simp [Registry.size, hT, hraw]⟩

theorem createDataTextureIntoArray_fresh {d : DataTextureDesc} {a : Handle .textureArray}
    {slot : Nat} {t : Handle .texture}
    (h : r.createDataTextureIntoArray d a = .ok (r', .ok (slot, t))) :
    t.raw = r.resources.textures.size ∧ r'.resources.textures.size = t.raw + 1 := by
  obtain ⟨-, arr, -, -, r₁, m, hc, hm⟩ := createDataTextureIntoArray_eq_ok h
  rcases hm with ⟨e, -, -, hx⟩ | ⟨t', slot', rfl, happ, hx⟩
  · cases hx
  obtain ⟨-, rfl⟩ := Prod.mk.inj (Except.ok.inj hx)
  rw [(appendToArray_keeps happ).1]
  exact insertTexture_fresh (createDataTexture_eq_ok hc).2

-- The buffers of the frames are the next handles of buffers, in order, one per frame.
theorem createFrameBuffers_fresh {name : String} {size frame n : Nat}
    {acc bs : Array (Handle .buffer)}
    (h : createFrameBuffers name size r frame n acc = .ok (r', .ok bs)) :
    bs.toList.map (·.raw) = acc.toList.map (·.raw) ++ List.range' r.resources.buffers.size n ∧
      r'.resources.buffers.size = r.resources.buffers.size + n := by
  induction n generalizing r frame acc with
  | zero =>
    simp only [createFrameBuffers, pure_eq_ok, Prod.mk.injEq, Except.ok.injEq] at h
    obtain ⟨rfl, rfl⟩ := h
    simp
  | succ n ih =>
    simp only [createFrameBuffers] at h
    obtain ⟨⟨r₁, m⟩, hb, h⟩ := bind_eq_ok.mp h
    cases m with
    | error e => simp [pure_eq_ok] at h
    | ok b =>
      obtain ⟨-, reg, dev, hc, rfl⟩ := createBuffer_eq_ok hb
      obtain ⟨hraw, hsize⟩ := createObject_fresh hc
      obtain ⟨hbs, hsize'⟩ := ih h
      refine ⟨?_, ?_⟩
      · rw [hbs, List.range'_succ]
        simp [hsize, hraw]
      · rw [hsize', hsize, hraw]
        omega

-- A constant buffer made: its buffers are the next handles of buffers, one per frame in flight.
theorem createConstantBuffer_fresh {name : String} {size : Nat} {cb : ConstantBuffer}
    (h : r.createConstantBuffer name size = .ok (r', .ok cb)) :
    cb.buffers.toList.map (·.raw) = List.range' r.resources.buffers.size r.framesInFlight ∧
      r'.resources.buffers.size = r.resources.buffers.size + r.framesInFlight := by
  unfold createConstantBuffer at h
  obtain ⟨⟨r₁, m⟩, hc, h⟩ := bind_eq_ok.mp h
  cases m with
  | error e => simp [pure_eq_ok] at h
  | ok bs =>
    obtain ⟨r₂, hw, h⟩ := bind_eq_ok.mp h
    simp only [pure_eq_ok, Prod.mk.injEq, Except.ok.injEq] at h
    obtain ⟨rfl, rfl⟩ := h
    obtain ⟨hbs, hsize⟩ := createFrameBuffers_fresh hc
    -- writing the value changes no registry
    have hkeep : r₂.resources.buffers = r₁.resources.buffers :=
      writeEach_chain (fun r r' => r'.resources.buffers = r.resources.buffers) (fun _ => rfl)
        (fun _ _ _ h₁ h₂ => h₂.trans h₁)
        (fun _ _ _ hw => by obtain ⟨-, -, -, rfl⟩ := writeBuffer_eq_ok hw; rfl) hw
    exact ⟨by simpa using hbs, by rw [hkeep, hsize]⟩

end Renderer

namespace Session

open Renderer

variable {r r' : Renderer} {step : Step}

-- Whatever a step answers, an error included, the renderer's resources only grow.
theorem RendererStep.grows (hstep : RendererStep r step r') : r.Grows r' := by
  cases hp : step.createsPlain
  case true =>
    rcases hstep.createsPlain hp with rfl | hc
    · exact .refl _
    · exact hc.grows
  cases hstep with
  | keep => exact .refl r
  | writeBuffer h => exact grows_writeBuffer h
  | loadTexture h => exact grows_loadTexture h
  | createDataTexture h => exact grows_createDataTexture h
  | createTextureArray h => exact grows_createTextureArray h
  | loadTextureIntoArray h => exact grows_loadTextureIntoArray h
  | createDataTextureIntoArray h => exact grows_createDataTextureIntoArray h
  | createConstantBuffer h => exact grows_createConstantBuffer h
  | applyConstantBuffer h => exact grows_writeBuffer (applyConstantBuffer_eq_ok h)
  | requestFailure => exact { Grows.refl r with }
  | takeCalls => exact { Grows.refl r with }
  | execute h => exact grows_execute h
  | render h => exact grows_render h
  | createImage _ | createDepthImage _ | createSampler _ | createBuffer _ | createModel _
  | createGraphicsPipeline _ | createComputePipeline _ => simp [Step.createsPlain] at hp

theorem State.exec_grows {s s' : State} {reply : Except ResourceError Reply}
    (he : s.exec step = .ok (s', reply)) : s.renderer.Grows s'.renderer :=
  (State.exec_rendererStep he).grows

theorem Run.grows {init s : State} {ts : List Transition} (hr : Run init s ts) :
    init.renderer.Grows s.renderer :=
  hr.invariant (P := fun s => init.renderer.Grows s.renderer) (.refl _)
    fun _ _ _ _ hg he => hg.trans (State.exec_grows he)

-- The kind of handle a step answers, for the steps that create or load one.
def Step.answers? : Step → Option HandleKind
  | .createImage _ => some .image
  | .createDepthImage _ => some .depthImage
  | .createSampler _ => some .sampler
  | .createBuffer _ => some .buffer
  | .createModel _ => some .model
  | .createGraphicsPipeline _ => some .graphicsPipeline
  | .createComputePipeline _ => some .computePipeline
  | .loadTexture _ | .createDataTexture _ | .loadTextureIntoArray _ _
  | .createDataTextureIntoArray _ _ => some .texture
  | .createTextureArray _ _ => some .textureArray
  | _ => none

-- The handles a step returned, with their kinds: the one a creation or a load answered, and the
-- buffers of a constant buffer made.
def Transition.returned (t : Transition) : List (HandleKind × Nat) :=
  match t.step with
  | .createConstantBuffer _ _ =>
    match t.reply with
    | .ok (.constantBuffer _ cb) => cb.buffers.toList.map fun b => (.buffer, b.raw)
    | _ => []
  | step =>
    match step.answers?, t.reply with
    | some k, .ok (.count n) => [(k, n)]
    | some k, .ok (.slot _ n) => [(k, n)]
    | _, _ => []

-- The handles a step created: all it returned, but for a load that found its file and so added
-- no texture.
def Transition.created (t : Transition) : List (HandleKind × Nat) :=
  if t.step.loadsFile = true ∧
      t.after.renderer.resources.textures.size ≤ t.before.renderer.resources.textures.size then []
  else t.returned

namespace Transition

variable {t : Transition}

theorem mem_returned_of_mem_created {e : HandleKind × Nat} (h : e ∈ t.created) :
    e ∈ t.returned := by
  unfold created at h
  split at h
  · simp at h
  · exact h

-- What a step returned: handles issued once it is done, and the ones it created new, past every
-- handle of their kind before it, each once.
structure ReturnsIssued (t : Transition) : Prop where
  issued : ∀ e ∈ t.returned, e.2 < t.after.renderer.resources.issuedCount e.1
  fresh : ∀ e ∈ t.created, t.before.renderer.resources.issuedCount e.1 ≤ e.2
  nodup : t.created.Nodup

theorem ReturnsIssued.of_returned_eq_nil (h : t.returned = []) : t.ReturnsIssued where
  issued := by simp [h]
  fresh := by simp [created, h]
  nodup := by simp [created, h]

-- A creation returns the handles it added to the end of their registry, in order.
theorem ReturnsIssued.of_made {k : HandleKind} {m : Nat} (hl : t.step.loadsFile = false)
    (hk : ∀ e ∈ t.returned, e.1 = k)
    (hn : t.returned.map Prod.snd = List.range' (t.before.renderer.resources.issuedCount k) m)
    (hafter : t.after.renderer.resources.issuedCount k =
      t.before.renderer.resources.issuedCount k + m) : t.ReturnsIssued := by
  have hc : t.created = t.returned := by simp [created, hl]
  have hrange : ∀ e ∈ t.returned, e.1 = k ∧
      e.2 ∈ List.range' (t.before.renderer.resources.issuedCount k) m := fun e he =>
    ⟨hk e he, hn ▸ List.mem_map_of_mem he⟩
  refine ⟨fun e he => ?_, fun e he => ?_, ?_⟩
  · obtain ⟨rfl, hm⟩ := hrange e he
    rw [List.mem_range'_1] at hm
    omega
  · obtain ⟨rfl, hm⟩ := hrange e (hc ▸ he)
    exact (List.mem_range'_1.mp hm).1
  · rw [hc]
    exact List.Nodup.of_map Prod.snd (hn ▸ List.nodup_range')

theorem ReturnsIssued.of_made_one {k : HandleKind} {n : Nat} (hl : t.step.loadsFile = false)
    (h : t.returned = [(k, n)])
    (hf : n = t.before.renderer.resources.issuedCount k ∧
      t.after.renderer.resources.issuedCount k = n + 1) : t.ReturnsIssued :=
  .of_made (k := k) (m := 1) hl (by simp [h]) (by simp [h, hf.1]) (by rw [hf.2, hf.1])

-- A load answers a texture issued; it created it only if the textures grew, and then it is the
-- next one.
theorem ReturnsIssued.of_load {n : Nat} (hl : t.step.loadsFile = true)
    (h : t.returned = [(.texture, n)])
    (hlt : n < t.after.renderer.resources.textures.size)
    (hfresh : t.before.renderer.resources.textures.size < t.after.renderer.resources.textures.size →
      n = t.before.renderer.resources.textures.size) : t.ReturnsIssued := by
  refine ⟨fun e he => ?_, fun e he => ?_, ?_⟩
  · simp only [h, List.mem_singleton] at he
    subst he
    exact hlt
  · unfold created at he
    split at he
    · simp at he
    · rename_i hgrew
      simp only [h, List.mem_singleton] at he
      subst he
      have hgrew : t.before.renderer.resources.textures.size <
          t.after.renderer.resources.textures.size := by
        simp only [hl, true_and, Nat.not_le] at hgrew
        exact hgrew
      exact (hfresh hgrew).ge
  · unfold created
    split <;> simp [h]

theorem returned_of_error {s s' : State} {step : Step} {e : ResourceError} :
    (Transition.mk s step (.error e) s').returned = [] := by
  cases step <;> rfl

-- A step that runs an operation through `attempt`: an error returns nothing, and a result is
-- what the operation made.
theorem ReturnsIssued.of_attempt {s s' : State} {step : Step} {reply : Except ResourceError Reply}
    {β : Type} {op : Renderer → Except Fault (Renderer × Attempt β)} {f : β → Reply}
    (he : s.attempt op f = .ok (s', reply))
    (hok : ∀ r b, op s.renderer = .ok (r, .ok b) →
      (Transition.mk s step (.ok (f b)) { s with renderer := r }).ReturnsIssued) :
    (Transition.mk s step reply s').ReturnsIssued := by
  obtain ⟨r, m, hop, rfl, rfl⟩ := State.attempt_eq_ok he
  cases m with
  | error e => exact .of_returned_eq_nil returned_of_error
  | ok b => exact hok r b hop

-- Every step returns handles issued, and creates new ones only.
theorem returnsIssued (hs : t.before.renderer.TexturesSound)
    (he : t.before.exec t.step = .ok (t.after, t.reply)) : t.ReturnsIssued := by
  obtain ⟨s, step, reply, s'⟩ := t
  simp only at hs he
  -- the steps that create or load something; every other step returns no handle
  cases step <;> simp only [State.exec] at he
  case createImage d =>
    refine .of_attempt he fun r h hop => ?_
    obtain ⟨reg, dev, hc, rfl⟩ := createImage_eq_ok hop
    exact .of_made_one rfl rfl (createObject_fresh hc)
  case createDepthImage d =>
    refine .of_attempt he fun r h hop => ?_
    obtain ⟨reg, dev, hc, rfl⟩ := createDepthImage_eq_ok hop
    exact .of_made_one rfl rfl (createObject_fresh hc)
  case createSampler d =>
    refine .of_attempt he fun r h hop => ?_
    obtain ⟨reg, dev, hc, rfl⟩ := createSampler_eq_ok hop
    exact .of_made_one rfl rfl (createObject_fresh hc)
  case createBuffer d =>
    refine .of_attempt he fun r h hop => ?_
    obtain ⟨-, reg, dev, hc, rfl⟩ := createBuffer_eq_ok hop
    exact .of_made_one rfl rfl (createObject_fresh hc)
  case createModel d =>
    refine .of_attempt he fun r h hop => ?_
    obtain ⟨-, -, reg, dev, hc, rfl⟩ := createModel_eq_ok hop
    exact .of_made_one rfl rfl (createObject_fresh hc)
  case createGraphicsPipeline name =>
    refine .of_attempt he fun r h hop => ?_
    obtain ⟨reg, dev, hc, rfl⟩ := createGraphicsPipeline_eq_ok hop
    exact .of_made_one rfl rfl (createObject_fresh hc)
  case createComputePipeline name =>
    refine .of_attempt he fun r h hop => ?_
    obtain ⟨reg, dev, hc, rfl⟩ := createComputePipeline_eq_ok hop
    exact .of_made_one rfl rfl (createObject_fresh hc)
  case loadTexture p =>
    exact .of_attempt he fun r t hop =>
      .of_load rfl rfl (hs.loadTexture_issued hop) fun hgrew => (loadTexture_fresh hop hgrew).1
  case createDataTexture d =>
    exact .of_attempt he fun r t hop =>
      .of_made_one rfl rfl (insertTexture_fresh (createDataTexture_eq_ok hop).2)
  case createTextureArray name capacity =>
    exact .of_attempt he fun r h hop => .of_made_one rfl rfl (createTextureArray_fresh hop)
  case loadTextureIntoArray p a =>
    exact .of_attempt he fun r x hop =>
      .of_load rfl rfl (hs.loadTextureIntoArray_issued hop) fun hgrew =>
        (loadTextureIntoArray_fresh hop hgrew).1
  case createDataTextureIntoArray d a =>
    exact .of_attempt he fun r x hop =>
      .of_made_one rfl rfl (createDataTextureIntoArray_fresh hop)
  case createConstantBuffer name size =>
    obtain ⟨⟨r, m⟩, hop, he⟩ := bind_eq_ok.mp he
    cases m with
    | error e =>
      simp only [pure_eq_ok, Prod.mk.injEq] at he
      obtain ⟨rfl, rfl⟩ := he
      exact .of_returned_eq_nil rfl
    | ok cb =>
      simp only [pure_eq_ok, Prod.mk.injEq] at he
      obtain ⟨rfl, rfl⟩ := he
      obtain ⟨hbs, hsize⟩ := createConstantBuffer_fresh (State.lift_eq_ok.mp hop)
      refine .of_made (k := .buffer) rfl (by simp [returned]) ?_ hsize
      simp only [returned, List.map_map]
      exact hbs
  all_goals exact .of_returned_eq_nil rfl

end Transition

-- Along a session: each step grows the renderer into every later one, every handle returned keeps
-- naming its device object, and no handle is created twice.
theorem Run.returned_persist {cfg : Config} {r₀ : Renderer} {s : State} {ts : List Transition}
    (hb : build cfg = .ok r₀) (hr : Run { renderer := r₀ } s ts) :
    (∀ t ∈ ts, t.before.renderer.Grows t.after.renderer ∧ t.after.renderer.Grows s.renderer) ∧
    (∀ t ∈ ts, ∀ e ∈ t.returned, ∃ id, t.after.renderer.resources.objectId? e.1 e.2 = some id ∧
      s.renderer.resources.objectId? e.1 e.2 = some id) ∧
    (ts.flatMap Transition.created).Nodup := by
  induction hr with
  | nil => simp
  | @snoc s ts t hr hbefore he ih =>
    obtain ⟨hgrow, hret, hnodup⟩ := ih
    have hstep : s.renderer.Grows t.after.renderer := State.exec_grows he
    have hri : t.ReturnsIssued :=
      Transition.returnsIssued (hbefore ▸ hr.texturesSound hb) (hbefore ▸ he)
    refine ⟨fun t' ht' => ?_, fun t' ht' e he' => ?_, ?_⟩
    · rcases List.mem_append.mp ht' with ht' | ht'
      · exact ⟨(hgrow t' ht').1, (hgrow t' ht').2.trans hstep⟩
      · rw [List.mem_singleton.mp ht', hbefore]
        exact ⟨hstep, .refl _⟩
    · rcases List.mem_append.mp ht' with ht' | ht'
      · obtain ⟨id, h₁, h₂⟩ := hret t' ht' e he'
        exact ⟨id, h₁, hstep.objectId? h₂⟩
      · rw [List.mem_singleton.mp ht'] at he' ⊢
        obtain ⟨id, hid⟩ := Option.isSome_iff_exists.mp
          ((Resources.objectId?_isSome_iff _ _ _).mpr (hri.issued e he'))
        exact ⟨id, hid, hid⟩
    · -- what was created before is issued when this step starts, and it creates only new handles
      rw [List.flatMap_append, List.flatMap_singleton]
      refine List.nodup_append.mpr ⟨hnodup, hri.nodup, fun e he e' he' heq => ?_⟩
      obtain ⟨t', ht', he⟩ := List.mem_flatMap.mp he
      obtain ⟨id, -, hid⟩ := hret t' ht' e (Transition.mem_returned_of_mem_created he)
      have hlt : e.2 < s.renderer.resources.issuedCount e.1 :=
        (Resources.objectId?_isSome_iff _ _ _).mp (by simp [hid])
      have hle := hri.fresh e' he'
      rw [hbefore, ← heq] at hle
      omega

-- Every operation from a reachable renderer, an error included, only appends to the registries,
-- the texture arrays and the texture index; so along a session a handle returned keeps naming its
-- device object, and no two creations of a kind return the same handle.
theorem resources_only_grow {cfg : Config} {r₀ : Renderer} {s : State} {ts : List Transition}
    (hb : build cfg = .ok r₀) (hr : Run { renderer := r₀ } s ts) :
    (∀ step s' reply, s.exec step = .ok (s', reply) →
      s.renderer.Grows s'.renderer ∧
      ∀ f t, s.renderer.resources.cached? f = some t → s'.renderer.resources.cached? f = some t) ∧
    (∀ t ∈ ts, t.before.renderer.Grows t.after.renderer ∧ t.after.renderer.Grows s.renderer) ∧
    (∀ t ∈ ts, ∀ e ∈ t.returned, ∃ id, t.after.renderer.resources.objectId? e.1 e.2 = some id ∧
      s.renderer.resources.objectId? e.1 e.2 = some id) ∧
    (ts.flatMap Transition.created).Nodup := by
  refine ⟨fun step s' reply he => ?_, Run.returned_persist hb hr⟩
  have hg := State.exec_grows he
  exact ⟨hg, fun _ _ => hg.cached?⟩

-- A session on a generated placeholder that makes two images and a constant buffer of two frames:
-- four handles created.
theorem resources_only_grow_four_handles :
    ∃ (r₀ : Renderer) (s : State) (ts : List Transition),
      build { placeholder := .solid ⟨0, 0, 0, 255⟩ } = .ok r₀ ∧ Run { renderer := r₀ } s ts ∧
      (ts.flatMap Transition.created).length = 4 ∧
      (∀ step s' reply, s.exec step = .ok (s', reply) →
        s.renderer.Grows s'.renderer ∧
        ∀ f t, s.renderer.resources.cached? f = some t → s'.renderer.resources.cached? f = some t) ∧
      (∀ t ∈ ts, t.before.renderer.Grows t.after.renderer ∧ t.after.renderer.Grows s.renderer) ∧
      (∀ t ∈ ts, ∀ e ∈ t.returned, ∃ id, t.after.renderer.resources.objectId? e.1 e.2 = some id ∧
        s.renderer.resources.objectId? e.1 e.2 = some id) ∧
      (ts.flatMap Transition.created).Nodup := by
  obtain ⟨r₀, s, ts, hb, hr, hlen⟩ : ∃ (r₀ : Renderer) (s : State) (ts : List Transition),
      build { placeholder := .solid ⟨0, 0, 0, 255⟩ } = .ok r₀ ∧ Run { renderer := r₀ } s ts ∧
      (ts.flatMap Transition.created).length = 4 :=
    ⟨_, _, _, rfl, .snoc (t := ⟨_, .createConstantBuffer "camera" 64, _, _⟩)
      (.snoc (t := ⟨_, .createImage { name := "normal" }, _, _⟩)
        (.snoc (t := ⟨_, .createImage { name := "albedo" }, _, _⟩) .nil rfl rfl) rfl rfl) rfl rfl,
      rfl⟩
  exact ⟨r₀, s, ts, hb, hr, hlen, resources_only_grow hb hr⟩

end Session

end GpuFrontend

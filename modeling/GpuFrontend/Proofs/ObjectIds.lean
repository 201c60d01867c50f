import GpuFrontend.Proofs.Growth

namespace GpuFrontend

namespace Registry

variable {k : HandleKind} {α : Type} {r r' : Registry k α} {id : α → Nat} {n : Nat}

-- The entries carry the ids `0, 1, ..., n - 1`, in order, as `id` reads them.
def Numbered (r : Registry k α) (id : α → Nat) (n : Nat) : Prop :=
  ∀ i, (r.entries[i]?).map id = if i < n then some i else none

theorem numbered_empty (id : α → Nat) : (empty : Registry k α).Numbered id 0 := by
  intro i
  simp [empty]

theorem Numbered.size_eq (h : r.Numbered id n) : r.size = n := by
  unfold size
  rcases Nat.lt_trichotomy r.entries.size n with hlt | heq | hgt
  · have hs := h r.entries.size
    simp [hlt] at hs
  · exact heq
  · have hs := h n
    simp [Array.getElem?_eq_getElem hgt] at hs

theorem Numbered.push (h : r.Numbered id n) {v : α} (hv : id v = n)
    (hr : r'.entries = r.entries.push v) : r'.Numbered id (n + 1) := by
  have hsize := h.size_eq
  intro i
  rw [hr, Array.getElem?_push]
  by_cases hi : i = r.entries.size
  · simp only [size] at hsize
    simp [hi, hsize, hv]
  · rw [if_neg hi, h i]
    simp only [size] at hsize
    by_cases hlt : i < n
    · simp [hlt, Nat.lt_succ_of_lt hlt]
    · have : ¬ i < n + 1 := by omega
      simp [hlt, this]

theorem Numbered.set (h : r.Numbered id n) {i : Nat} {w v : α} (hw : r.entries[i]? = some w)
    (hi : i < r.entries.size) (hr : r'.entries = r.entries.set i v hi) (hv : id v = id w) :
    r'.Numbered id n := by
  intro j
  rw [hr, Array.getElem?_set]
  by_cases hij : i = j
  · subst hij
    rw [if_pos rfl, ← h i, hw]
    simp [hv]
  · rw [if_neg hij, h j]

-- A handle issued is read as its own index.
theorem Numbered.idOf_of_contains (h : r.Numbered id n) {x : Handle k} (hc : r.contains x = true) :
    r.idOf id x = x.raw := by
  have hlt : x.raw < n := by
    have hsize := h.size_eq
    have hx := contains_iff.mp hc
    simp only [size] at hsize
    omega
  simp [idOf, h x.raw, hlt]

end Registry

-- The call a command stands for when every handle names the device object of its own index.
def Command.indexCall : Command → DeviceCall
  | .clearImage image color => .clearImage image.raw color
  | .clearDepthImage image flags depth stencil => .clearDepthImage image.raw flags depth stencil
  | .draw model => .draw model.raw
  | .drawBindless vertices instances => .drawBindless vertices instances
  | .drawIndexedBindless model indices instances => .drawIndexedBindless model.raw indices instances
  | .dispatch x y z => .dispatch x y z
  | .pushMarker name _ => .pushMarker name.text
  | .popMarker => .popMarker
  | .beginPipeline p => .beginPipeline p.raw
  | .endPipeline p => .endPipeline p.raw
  | .setComputePipeline p => .setComputePipeline p.raw
  | .setViewport v => .setViewport v
  | .setScissorRect rect => .setScissorRect rect
  | .setConstantBuffer slot b => .setConstantBuffer slot b.raw
  | .setStorageBuffer slot b => .setStorageBuffer slot b.raw
  | .setSampler slot s => .setSampler slot s.raw
  | .setTexture slot t => .setTexture slot t.raw
  | .setTextureArray slot a => .setTextureArray slot a.raw
  | .setVertexBuffer slot m => .setVertexBuffer slot m.raw
  | .setIndexBuffer m => .setIndexBuffer m.raw

-- The kind of device object behind a handle of a kind: a texture array's is its binding table.
def HandleKind.object : HandleKind → ObjectKind
  | .image => .image
  | .depthImage => .depthImage
  | .texture => .texture
  | .textureArray => .bindingTable
  | .sampler => .sampler
  | .buffer => .buffer
  | .model => .model
  | .graphicsPipeline => .graphicsPipeline
  | .computePipeline => .computePipeline

namespace Renderer

-- Every registry numbers its device objects by handle: the entry of index `i` holds object `i`,
-- and the device counted as many objects of the kind as the registry has entries.
structure ObjectsNumbered (r : Renderer) : Prop where
  images : r.resources.images.Numbered (·.object.id) r.device.stats.images
  depthImages : r.resources.depthImages.Numbered (·.object.id) r.device.stats.depthImages
  textures : r.resources.textures.Numbered (·.object.id) r.device.stats.textures
  textureArrays : r.resources.textureArrays.Numbered (·.table.id) r.device.stats.bindingTables
  samplers : r.resources.samplers.Numbered (·.object.id) r.device.stats.samplers
  buffers : r.resources.buffers.Numbered (·.object.id) r.device.stats.buffers
  models : r.resources.models.Numbered (·.object.id) r.device.stats.models
  graphicsPipelines :
    r.resources.graphicsPipelines.Numbered (·.object.id) r.device.stats.graphicsPipelines
  computePipelines :
    r.resources.computePipelines.Numbered (·.object.id) r.device.stats.computePipelines

variable {r r' : Renderer}

theorem ObjectsNumbered.objectId? (hn : r.ObjectsNumbered) (k : HandleKind) (i : Nat) :
    r.resources.objectId? k i = if i < r.device.stats.created k.object then some i else none := by
  cases k with
  | image => exact hn.images i
  | depthImage => exact hn.depthImages i
  | texture => exact hn.textures i
  | textureArray => exact hn.textureArrays i
  | sampler => exact hn.samplers i
  | buffer => exact hn.buffers i
  | model => exact hn.models i
  | graphicsPipeline => exact hn.graphicsPipelines i
  | computePipeline => exact hn.computePipelines i

theorem ObjectsNumbered.created_eq (hn : r.ObjectsNumbered) (k : HandleKind) :
    r.device.stats.created k.object = r.resources.issuedCount k := by
  cases k with
  | image => exact hn.images.size_eq.symm
  | depthImage => exact hn.depthImages.size_eq.symm
  | texture => exact hn.textures.size_eq.symm
  | textureArray => exact hn.textureArrays.size_eq.symm
  | sampler => exact hn.samplers.size_eq.symm
  | buffer => exact hn.buffers.size_eq.symm
  | model => exact hn.models.size_eq.symm
  | graphicsPipeline => exact hn.graphicsPipelines.size_eq.symm
  | computePipeline => exact hn.computePipelines.size_eq.symm

-- On a numbered renderer the device sees every handle a command names as its index.
theorem ObjectsNumbered.call_eq_indexCall (hn : r.ObjectsNumbered) {c : Command}
    (hc : r.resources.issued c = true) : r.resources.call c = c.indexCall := by
  cases c with
  | clearImage => simp [Resources.call, Command.indexCall, hn.images.idOf_of_contains hc]
  | clearDepthImage =>
    simp [Resources.call, Command.indexCall, hn.depthImages.idOf_of_contains hc]
  | draw => simp [Resources.call, Command.indexCall, hn.models.idOf_of_contains hc]
  | drawIndexedBindless => simp [Resources.call, Command.indexCall, hn.models.idOf_of_contains hc]
  | beginPipeline =>
    simp [Resources.call, Command.indexCall, hn.graphicsPipelines.idOf_of_contains hc]
  | endPipeline =>
    simp [Resources.call, Command.indexCall, hn.graphicsPipelines.idOf_of_contains hc]
  | setComputePipeline =>
    simp [Resources.call, Command.indexCall, hn.computePipelines.idOf_of_contains hc]
  | setConstantBuffer => simp [Resources.call, Command.indexCall, hn.buffers.idOf_of_contains hc]
  | setStorageBuffer => simp [Resources.call, Command.indexCall, hn.buffers.idOf_of_contains hc]
  | setSampler => simp [Resources.call, Command.indexCall, hn.samplers.idOf_of_contains hc]
  | setTexture => simp [Resources.call, Command.indexCall, hn.textures.idOf_of_contains hc]
  | setTextureArray =>
    simp [Resources.call, Command.indexCall, hn.textureArrays.idOf_of_contains hc]
  | setVertexBuffer => simp [Resources.call, Command.indexCall, hn.models.idOf_of_contains hc]
  | setIndexBuffer => simp [Resources.call, Command.indexCall, hn.models.idOf_of_contains hc]
  | drawBindless | dispatch | pushMarker | popMarker | setViewport | setScissorRect => rfl

-- A replay from a numbered renderer: one stream holding each command with its handles as indices.
theorem ObjectsNumbered.execute_calls (hn : r.ObjectsNumbered) {l l' : CommandList}
    {made : Array DeviceCall} (h : r.execute l = .ok (r', l', made)) :
    made = #[.beginStream r.device.stats.commandStreams.toNat] ++ l.commands.map Command.indexCall ++
      #[.endStream r.device.stats.commandStreams.toNat] := by
  obtain ⟨dev, hx, rfl, -⟩ := execute_eq_ok h
  obtain ⟨-, -, -, -, hissued, -, rfl⟩ := CommandList.execute_eq_ok hx
  have hmap : l.commands.map r.resources.call = l.commands.map Command.indexCall :=
    Array.map_congr_left fun c hc => hn.call_eq_indexCall (hissued c hc)
  simp [hmap]

theorem objectsNumbered_fresh (cfg : Config) : (fresh cfg).ObjectsNumbered where
  images := Registry.numbered_empty _
  depthImages := Registry.numbered_empty _
  textures := Registry.numbered_empty _
  textureArrays := Registry.numbered_empty _
  samplers := Registry.numbered_empty _
  buffers := Registry.numbered_empty _
  models := Registry.numbered_empty _
  graphicsPipelines := Registry.numbered_empty _
  computePipelines := Registry.numbered_empty _

-- A texture made is recorded with the device's count of textures, which it then bumps.
theorem ObjectsNumbered.insertTexture (hn : r.ObjectsNumbered) {name : String} {img : Image}
    {f : Fingerprint} {a : Attempt (Handle .texture)}
    (h : r.insertTexture name img f = .ok (r', a)) : r'.ObjectsNumbered := by
  rcases insertTexture_eq_ok h with ⟨-, rfl, -⟩ | ⟨-, t, T, -, -, hT, rfl⟩
  · exact { hn with }
  · exact { hn with textures := hn.textures.push rfl hT }

theorem ObjectsNumbered.loadTexture (hn : r.ObjectsNumbered) {p : Path}
    {a : Attempt (Handle .texture)} (h : r.loadTexture p = .ok (r', a)) : r'.ObjectsNumbered := by
  obtain ⟨-, hcases⟩ := loadTexture_eq_ok h
  rcases hcases with ⟨t, -, rfl, -⟩ | ⟨-, hmiss⟩
  · exact hn
  rcases hmiss with ⟨e, -, rfl, -⟩ | ⟨img, r₂, m, -, hi, hm⟩
  · exact { hn with }
  -- decoding only counts the request; the texture made is then indexed, if it was made
  have h₁ : ObjectsNumbered
      { r with resources := { r.resources with codec := (r.resources.codec.decode p).1 } } :=
    { hn with }
  have h₂ := h₁.insertTexture hi
  rcases hm with ⟨e, -, rfl, -⟩ | ⟨t, -, -, rfl⟩
  · exact h₂
  · exact { h₂ with }

theorem ObjectsNumbered.createDataTexture (hn : r.ObjectsNumbered) {d : DataTextureDesc}
    {a : Attempt (Handle .texture)} (h : r.createDataTexture d = .ok (r', a)) :
    r'.ObjectsNumbered :=
  hn.insertTexture (createDataTexture_eq_ok h).2

-- An array made takes the device's count of binding tables for its table.
theorem ObjectsNumbered.createTextureArray (hn : r.ObjectsNumbered) {name : String}
    {capacity : Nat} {a : Attempt (Handle .textureArray)}
    (h : r.createTextureArray name capacity = .ok (r', a)) : r'.ObjectsNumbered := by
  obtain ⟨-, ph, -, hcases⟩ := createTextureArray_eq_ok h
  rcases hcases with ⟨-, rfl, -⟩ | ⟨-, t, T, -, -, hT, rfl⟩
  · exact { hn with }
  · exact { hn with textureArrays := hn.textureArrays.push rfl hT }

theorem ObjectsNumbered.appendToArray (hn : r.ObjectsNumbered) {a : Handle .textureArray}
    {t : Handle .texture} {f : Fingerprint} {slot : Nat}
    (h : r.appendToArray a t f = .ok (r', slot)) : r'.ObjectsNumbered := by
  obtain ⟨rec, arr, T, -, harr, -, -, ⟨hi, hT⟩, rfl⟩ := appendToArray_eq_ok h
  exact { hn with textureArrays := hn.textureArrays.set harr hi hT rfl }

theorem ObjectsNumbered.loadTextureIntoArray (hn : r.ObjectsNumbered) {p : Path}
    {a : Handle .textureArray} {x : Attempt (Nat × Handle .texture)}
    (h : r.loadTextureIntoArray p a = .ok (r', x)) : r'.ObjectsNumbered := by
  obtain ⟨-, -, arr, -, hcases⟩ := loadTextureIntoArray_eq_ok h
  rcases hcases with ⟨slot, -, rfl, -⟩ | ⟨-, -, r₁, m, hl, hm⟩
  · exact hn
  rcases hm with ⟨e, -, rfl, -⟩ | ⟨t, slot, -, happ, -⟩
  · exact hn.loadTexture hl
  · exact (hn.loadTexture hl).appendToArray happ

theorem ObjectsNumbered.createDataTextureIntoArray (hn : r.ObjectsNumbered)
    {d : DataTextureDesc} {a : Handle .textureArray} {x : Attempt (Nat × Handle .texture)}
    (h : r.createDataTextureIntoArray d a = .ok (r', x)) : r'.ObjectsNumbered := by
  obtain ⟨-, arr, -, -, r₁, m, hc, hm⟩ := createDataTextureIntoArray_eq_ok h
  rcases hm with ⟨e, -, rfl, -⟩ | ⟨t, slot, -, happ, -⟩
  · exact hn.createDataTexture hc
  · exact (hn.createDataTexture hc).appendToArray happ

-- A plain creation numbers the object it makes by the handle it issues, or, refused, changes no
-- count and no registry.
theorem ObjectsNumbered.createsPlain (hn : r.ObjectsNumbered) (h : r.CreatesPlain r') :
    r'.ObjectsNumbered := by
  obtain ⟨p, reg, dev, a, label, name, hc, rfl⟩ := h
  rcases createObject_eq_ok hc with ⟨-, rfl, rfl, -⟩ | ⟨-, t, -, -, hreg, rfl⟩
  · cases p <;> exact { hn with }
  · cases p
    case image => exact { hn with images := hn.images.push rfl hreg }
    case depthImage => exact { hn with depthImages := hn.depthImages.push rfl hreg }
    case sampler => exact { hn with samplers := hn.samplers.push rfl hreg }
    case buffer => exact { hn with buffers := hn.buffers.push rfl hreg }
    case model => exact { hn with models := hn.models.push rfl hreg }
    case graphicsPipeline => exact { hn with graphicsPipelines := hn.graphicsPipelines.push rfl hreg }
    case computePipeline => exact { hn with computePipelines := hn.computePipelines.push rfl hreg }

theorem ObjectsNumbered.createBuffer (hn : r.ObjectsNumbered) {d : BufferDesc}
    {a : Attempt (Handle .buffer)} (h : r.createBuffer d = .ok (r', a)) : r'.ObjectsNumbered :=
  hn.createsPlain (createBuffer_createsPlain h)

theorem ObjectsNumbered.writeBuffer (hn : r.ObjectsNumbered) {b : Handle .buffer} {n : Nat}
    (h : r.writeBuffer b n = .ok r') : r'.ObjectsNumbered := by
  obtain ⟨-, -, -, rfl⟩ := writeBuffer_eq_ok h
  exact { hn with }

theorem ObjectsNumbered.createConstantBuffer (hn : r.ObjectsNumbered) {name : String}
    {size : Nat} {a : Attempt ConstantBuffer} (h : r.createConstantBuffer name size = .ok (r', a)) :
    r'.ObjectsNumbered :=
  createConstantBuffer_chain (fun r r' => r.ObjectsNumbered → r'.ObjectsNumbered)
    (fun _ => id) (fun _ _ _ h₁ h₂ hn => h₂ (h₁ hn))
    (fun _ _ _ _ hb hn => hn.createBuffer hb) (fun _ _ _ hw hn => hn.writeBuffer hw) h hn

-- A replay counts a stream and records calls; it makes no object.
theorem ObjectsNumbered.execute (hn : r.ObjectsNumbered) {l l' : CommandList}
    {made : Array DeviceCall} (h : r.execute l = .ok (r', l', made)) : r'.ObjectsNumbered := by
  obtain ⟨dev, hx, -, rfl⟩ := execute_eq_ok h
  obtain ⟨-, -, -, -, -, -, rfl⟩ := CommandList.execute_eq_ok hx
  exact { hn with }

theorem ObjectsNumbered.render (hn : r.ObjectsNumbered) {g g' : RenderGraph}
    {made : Array DeviceCall} (h : r.render g = .ok (r', g', made)) : r'.ObjectsNumbered := by
  obtain ⟨r₁, l, l₁, hx, rfl⟩ := render_eq_ok h
  exact { hn.execute hx with }

-- The placeholder is the first texture: nothing is indexed before it, so it is made, not found.
theorem build_placeholder {cfg : Config} {r₀ : Renderer} (h : build cfg = .ok r₀) :
    r₀.ObjectsNumbered ∧ r₀.resources.placeholder.raw = 0 ∧ r₀.resources.textures.size = 1 := by
  obtain ⟨r₁, t, rfl, hcases⟩ := build_eq_ok h
  rcases hcases with ⟨p, -, hl⟩ | ⟨-, img, hi⟩
  · have hn := (objectsNumbered_fresh cfg).loadTexture hl
    obtain ⟨-, hc⟩ := loadTexture_eq_ok hl
    rcases hc with ⟨t', hcached, -, -⟩ | ⟨-, hmiss⟩
    · simp [Resources.cached?, fresh, Resources.empty] at hcached
    rcases hmiss with ⟨e, -, -, ha⟩ | ⟨img, r₂, m, -, hi, hm⟩
    · cases ha
    rcases hm with ⟨e, -, -, ha⟩ | ⟨t', rfl, ha, rfl⟩
    · cases ha
    cases ha
    obtain ⟨hraw, hsize⟩ := insertTexture_fresh hi
    exact ⟨{ hn with }, hraw, hsize.trans (by rw [hraw]; rfl)⟩
  · have hn := (objectsNumbered_fresh cfg).insertTexture hi
    obtain ⟨hraw, hsize⟩ := insertTexture_fresh hi
    exact ⟨{ hn with }, hraw, hsize.trans (by rw [hraw]; rfl)⟩

end Renderer

namespace Session

open Renderer

variable {r r' : Renderer} {step : Step}

theorem RendererStep.objectsNumbered (hstep : RendererStep r step r') (hn : r.ObjectsNumbered) :
    r'.ObjectsNumbered := by
  cases hp : step.createsPlain
  case true =>
    rcases hstep.createsPlain hp with rfl | hc
    · exact hn
    · exact hn.createsPlain hc
  cases hstep with
  | keep => exact hn
  | writeBuffer h => exact hn.writeBuffer h
  | loadTexture h => exact hn.loadTexture h
  | createDataTexture h => exact hn.createDataTexture h
  | createTextureArray h => exact hn.createTextureArray h
  | loadTextureIntoArray h => exact hn.loadTextureIntoArray h
  | createDataTextureIntoArray h => exact hn.createDataTextureIntoArray h
  | createConstantBuffer h => exact hn.createConstantBuffer h
  | applyConstantBuffer h => exact hn.writeBuffer (applyConstantBuffer_eq_ok h)
  | requestFailure => exact { hn with }
  | takeCalls => exact { hn with }
  | execute h => exact hn.execute h
  | render h => exact hn.render h
  | createImage _ | createDepthImage _ | createSampler _ | createBuffer _ | createModel _
  | createGraphicsPipeline _ | createComputePipeline _ => simp [Step.createsPlain] at hp

theorem Run.objectsNumbered {cfg : Config} {r₀ : Renderer} {s : State} {ts : List Transition}
    (hb : build cfg = .ok r₀) (hr : Run { renderer := r₀ } s ts) : s.renderer.ObjectsNumbered :=
  hr.invariant (P := fun s => s.renderer.ObjectsNumbered) (build_placeholder hb).1
    fun _ _ _ _ hn he => (State.exec_rendererStep he).objectsNumbered hn

-- From a built renderer on, every registry hands out handles in step with the device: the handle
-- of index `i` names device object `i`, the placeholder is texture 0, and a replay shows the device
-- every handle as its index.
theorem objects_numbered_by_handles {cfg : Config} {r₀ : Renderer} {s : State}
    {ts : List Transition} (hb : build cfg = .ok r₀) (hr : Run { renderer := r₀ } s ts) :
    (∀ k, s.renderer.device.stats.created k.object = s.renderer.resources.issuedCount k) ∧
    (∀ k i, i < s.renderer.resources.issuedCount k → s.renderer.resources.objectId? k i = some i) ∧
    s.renderer.resources.placeholder.raw = 0 ∧ s.renderer.resources.objectId? .texture 0 = some 0 ∧
    (∀ l r' l' made, s.renderer.execute l = .ok (r', l', made) →
      made = #[.beginStream s.renderer.device.stats.commandStreams.toNat] ++
        l.commands.map Command.indexCall ++
        #[.endStream s.renderer.device.stats.commandStreams.toNat]) := by
  have hn := hr.objectsNumbered hb
  obtain ⟨-, hph, hsize⟩ := build_placeholder hb
  have hgrow : r₀.Grows s.renderer := hr.grows
  have hid : ∀ k i, i < s.renderer.resources.issuedCount k →
      s.renderer.resources.objectId? k i = some i := by
    intro k i hi
    rw [hn.objectId? k i, hn.created_eq k, if_pos hi]
  -- the placeholder's texture stays where it was made, so texture 0 is still issued
  have h₀ : (r₀.resources.objectId? .texture 0).isSome :=
    (Resources.objectId?_isSome_iff _ _ _).mpr (by simp [Resources.issuedCount, hsize])
  obtain ⟨id, hid₀⟩ := Option.isSome_iff_exists.mp h₀
  have hissued : 0 < s.renderer.resources.issuedCount .texture :=
    (Resources.objectId?_isSome_iff _ _ _).mp (by simp [hgrow.objectId? hid₀])
  refine ⟨hn.created_eq, hid, ?_, hid .texture 0 hissued, fun l r' l' made h => hn.execute_calls h⟩
  rw [hgrow.placeholder]
  exact hph

-- A session on a generated placeholder that makes an image and an array of two slots.
theorem objects_numbered_by_handles_image_array :
    ∃ (r₀ : Renderer) (s : State) (ts : List Transition),
      build { placeholder := .solid ⟨0, 0, 0, 255⟩ } = .ok r₀ ∧ Run { renderer := r₀ } s ts ∧
      s.renderer.resources.textureArrays.size = 1 ∧
      (∀ k, s.renderer.device.stats.created k.object = s.renderer.resources.issuedCount k) ∧
      (∀ k i, i < s.renderer.resources.issuedCount k →
        s.renderer.resources.objectId? k i = some i) ∧
      s.renderer.resources.placeholder.raw = 0 ∧
      s.renderer.resources.objectId? .texture 0 = some 0 ∧
      (∀ l r' l' made, s.renderer.execute l = .ok (r', l', made) →
        made = #[.beginStream s.renderer.device.stats.commandStreams.toNat] ++
          l.commands.map Command.indexCall ++
          #[.endStream s.renderer.device.stats.commandStreams.toNat]) := by
  obtain ⟨r₀, s, ts, hb, hr, hsize⟩ : ∃ (r₀ : Renderer) (s : State) (ts : List Transition),
      build { placeholder := .solid ⟨0, 0, 0, 255⟩ } = .ok r₀ ∧ Run { renderer := r₀ } s ts ∧
      s.renderer.resources.textureArrays.size = 1 :=
    ⟨_, _, _, rfl, .snoc (t := ⟨_, .createTextureArray "lights" 2, _, _⟩)
      (.snoc (t := ⟨_, .createImage { name := "albedo" }, _, _⟩) .nil rfl rfl) rfl rfl, rfl⟩
  exact ⟨r₀, s, ts, hb, hr, hsize, objects_numbered_by_handles hb hr⟩

end Session

end GpuFrontend

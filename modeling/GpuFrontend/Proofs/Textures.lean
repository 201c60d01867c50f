import GpuFrontend.Renderer
import GpuFrontend.Proofs.Registry
import GpuFrontend.Proofs.Device

namespace GpuFrontend

namespace Renderer

variable {r r' : Renderer}

theorem pathFingerprint_eq_ok {p : Path} {f : Fingerprint} (h : pathFingerprint p = .ok f) :
    f = Fingerprint.ofPath p ∧ f.isNone = false := by
  simp only [pathFingerprint] at h
  split at h
  · cases h
  · rename_i hn
    cases h
    exact ⟨rfl, by simpa using hn⟩

theorem pathFingerprint_of_isNone {p : Path} (h : (Fingerprint.ofPath p).isNone = false) :
    pathFingerprint p = .ok (.ofPath p) := by
  simp [pathFingerprint, h]

-- Creating a texture: the device refuses it and the request to fail is spent, or the texture
-- is counted and its record is appended under the next handle.
theorem insertTexture_eq_ok {name : String} {img : Image} {f : Fingerprint}
    {a : Attempt (Handle .texture)} (h : r.insertTexture name img f = .ok (r', a)) :
    (r.device.failNext = true ∧ r' = { r with device := { r.device with failNext := false } } ∧
      a = .error (.device "texture" name (.invalidParameter
        (ObjectKind.texture.label ++ " '" ++ name ++ "' rejected by dummy backend")))) ∨
    (r.device.failNext = false ∧ ∃ (t : Handle .texture) (T : Registry .texture (Record DeviceTexture)),
      a = .ok t ∧ t.raw = r.resources.textures.size ∧
      T.entries = r.resources.textures.entries.push
        ⟨⟨r.device.stats.created .texture, name, img.width, img.height, img.layers, img.format⟩,
          name, f⟩ ∧
      r' = { r with device := { r.device with stats := r.device.stats.bump .texture },
                    resources := { r.resources with textures := T } }) := by
  unfold insertTexture at h
  obtain ⟨u, -, h⟩ := bind_eq_ok.mp h
  rcases Bool.eq_false_or_eq_true r.device.failNext with hf | hf
  · rw [Device.create_of_failNext hf] at h
    simp only [pure_eq_ok, Prod.mk.injEq] at h
    obtain ⟨rfl, rfl⟩ := h
    exact .inl ⟨hf, rfl, rfl⟩
  · rw [Device.create_of_not_failNext hf] at h
    obtain ⟨⟨t, T⟩, ha, h⟩ := bind_eq_ok.mp h
    obtain ⟨ht, hT⟩ := Registry.allocate_eq_ok ha
    simp only [pure_eq_ok, Prod.mk.injEq] at h
    obtain ⟨rfl, rfl⟩ := h
    exact .inr ⟨hf, t, T, rfl, ht, hT, rfl⟩

-- Loading a texture file: the handle already loaded under its fingerprint, or else one
-- request to the codec and, for a decoded file, the texture made as by `insertTexture`.
theorem loadTexture_eq_ok {p : Path} {a : Attempt (Handle .texture)}
    (h : r.loadTexture p = .ok (r', a)) :
    (Fingerprint.ofPath p).isNone = false ∧
    ((∃ t, r.resources.cached? (.ofPath p) = some t ∧ r' = r ∧ a = .ok t) ∨
     (r.resources.cached? (.ofPath p) = none ∧
      ((∃ e, (r.resources.codec.decode p).2 = .error e ∧
          r' = { r with resources := { r.resources with codec := (r.resources.codec.decode p).1 } } ∧
          a = .error (.decode p.display e)) ∨
       (∃ img r₂ m, (r.resources.codec.decode p).2 = .ok img ∧
          insertTexture { r with resources := { r.resources with codec := (r.resources.codec.decode p).1 } }
            p.display img (.ofPath p) = .ok (r₂, m) ∧
          ((∃ e, m = .error e ∧ r' = r₂ ∧ a = .error e) ∨
           (∃ t, m = .ok t ∧ a = .ok t ∧
            r' = { r₂ with resources := { r₂.resources with
                     loaded := r₂.resources.loaded.push (.ofPath p, t) } })))))) := by
  unfold loadTexture at h
  obtain ⟨f, hf, h⟩ := bind_eq_ok.mp h
  obtain ⟨rfl, hnone⟩ := pathFingerprint_eq_ok hf
  refine ⟨hnone, ?_⟩
  cases hc : r.resources.cached? (Fingerprint.ofPath p) with
  | some t =>
    simp only [hc, pure_eq_ok, Prod.mk.injEq] at h
    obtain ⟨rfl, rfl⟩ := h
    exact .inl ⟨t, rfl, rfl, rfl⟩
  | none =>
    simp only [hc] at h
    obtain ⟨u, -, h⟩ := bind_eq_ok.mp h
    refine .inr ⟨rfl, ?_⟩
    rcases hd : r.resources.codec.decode p with ⟨codec, decoded⟩
    simp only [hd] at h
    cases decoded with
    | error e =>
      simp only [pure_eq_ok, Prod.mk.injEq] at h
      obtain ⟨rfl, rfl⟩ := h
      exact .inl ⟨e, rfl, rfl, rfl⟩
    | ok img =>
      obtain ⟨⟨r₂, m⟩, hi, h⟩ := bind_eq_ok.mp h
      refine .inr ⟨img, r₂, m, rfl, hi, ?_⟩
      cases m with
      | error e =>
        simp only [pure_eq_ok, Prod.mk.injEq] at h
        obtain ⟨rfl, rfl⟩ := h
        exact .inl ⟨e, rfl, rfl, rfl⟩
      | ok t =>
        simp only [pure_eq_ok, Prod.mk.injEq] at h
        obtain ⟨rfl, rfl⟩ := h
        exact .inr ⟨t, rfl, rfl, rfl⟩

theorem loadTexture_of_cached {p : Path} {t : Handle .texture}
    (hnone : (Fingerprint.ofPath p).isNone = false) (hc : r.resources.cached? (.ofPath p) = some t) :
    r.loadTexture p = .ok (r, .ok t) := by
  unfold loadTexture
  rw [pathFingerprint_of_isNone hnone]
  simp only [bind, Except.bind, hc, pure, Except.pure]

theorem createDataTexture_eq_ok {d : DataTextureDesc} {a : Attempt (Handle .texture)}
    (h : r.createDataTexture d = .ok (r', a)) :
    d.validate = .ok () ∧
      r.insertTexture d.name ⟨d.width, d.height, d.layers, d.format, d.data⟩ .none = .ok (r', a) := by
  obtain ⟨u, hv, h⟩ := bind_eq_ok.mp h
  exact ⟨hv, h⟩

-- A new array: its table holds the placeholder's texture in every slot.
theorem createTextureArray_eq_ok {name : String} {capacity : Nat}
    {a : Attempt (Handle .textureArray)} (h : r.createTextureArray name capacity = .ok (r', a)) :
    capacity ≠ 0 ∧ ∃ ph, r.resources.textures.entries[r.resources.placeholder.raw]? = some ph ∧
    ((r.device.failNext = true ∧ r' = { r with device := { r.device with failNext := false } } ∧
      a = .error (.device "texture array" name (.invalidParameter
        (ObjectKind.bindingTable.label ++ " '" ++ name ++ "' rejected by dummy backend")))) ∨
    (r.device.failNext = false ∧
      ∃ (h : Handle .textureArray) (T : Registry .textureArray TextureArray),
      a = .ok h ∧ h.raw = r.resources.textureArrays.size ∧
      T.entries = r.resources.textureArrays.entries.push ⟨name, capacity, #[], #[],
        ⟨r.device.stats.created .bindingTable, name, Array.replicate capacity ph.object.id⟩⟩ ∧
      r' = { r with device := { r.device with stats := r.device.stats.bump .bindingTable },
                    resources := { r.resources with textureArrays := T } })) := by
  unfold createTextureArray at h
  by_cases hcap : capacity = 0
  · simp [hcap, throw, throwThe, MonadExceptOf.throw, bind, Except.bind] at h
  simp only [hcap, ↓reduceIte] at h
  obtain ⟨u, -, h⟩ := bind_eq_ok.mp h
  obtain ⟨ph, hph, h⟩ := bind_eq_ok.mp h
  refine ⟨hcap, ph, Registry.resolve_eq_ok.mp hph, ?_⟩
  rcases Bool.eq_false_or_eq_true r.device.failNext with hf | hf
  · rw [Device.create_of_failNext hf] at h
    simp only [pure_eq_ok, Prod.mk.injEq] at h
    obtain ⟨rfl, rfl⟩ := h
    exact .inl ⟨hf, rfl, rfl⟩
  · rw [Device.create_of_not_failNext hf] at h
    obtain ⟨⟨t, T⟩, ha, h⟩ := bind_eq_ok.mp h
    obtain ⟨ht, hT⟩ := Registry.allocate_eq_ok ha
    simp only [pure_eq_ok, Prod.mk.injEq] at h
    obtain ⟨rfl, rfl⟩ := h
    exact .inr ⟨hf, t, T, rfl, ht, hT, rfl⟩

-- Appending to an array: its next slot takes the texture, and the device writes the binding.
theorem appendToArray_eq_ok {a : Handle .textureArray} {t : Handle .texture} {f : Fingerprint}
    {slot : Nat} (h : r.appendToArray a t f = .ok (r', slot)) :
    ∃ (rec : Record DeviceTexture) (arr : TextureArray) (T : Registry .textureArray TextureArray),
      r.resources.textures.entries[t.raw]? = some rec ∧
      r.resources.textureArrays.entries[a.raw]? = some arr ∧ arr.isFull = false ∧
      slot = arr.members.size ∧
      (∃ hi : a.raw < r.resources.textureArrays.entries.size,
        T.entries = r.resources.textureArrays.entries.set a.raw
          { arr with members := arr.members.push t, fingerprints := arr.fingerprints.push f,
                     table := { arr.table with
                       slots := arr.table.slots.set! arr.members.size rec.object.id } } hi) ∧
      r' = { r with device := { r.device with stats := { r.device.stats with
                                  bindingWrites := r.device.stats.bindingWrites + 1 } },
                    resources := { r.resources with textureArrays := T } } := by
  unfold appendToArray at h
  obtain ⟨rec, hrec, h⟩ := bind_eq_ok.mp h
  obtain ⟨⟨arr, T₁⟩, htake, h⟩ := bind_eq_ok.mp h
  by_cases hfull : arr.isFull = true
  · simp [hfull, throw, throwThe, MonadExceptOf.throw, bind, Except.bind] at h
  simp only [hfull, Bool.false_eq_true, ↓reduceIte] at h
  obtain ⟨T, hset, h⟩ := bind_eq_ok.mp h
  obtain ⟨harr, hi, hT⟩ := Registry.take_set htake hset
  simp only [pure_eq_ok, Prod.mk.injEq] at h
  obtain ⟨rfl, rfl⟩ := h
  exact ⟨rec, arr, T, Registry.resolve_eq_ok.mp hrec, harr, by simpa using hfull, rfl, ⟨hi, hT⟩, rfl⟩

-- Loading into an array: the slot already holding the file's fingerprint, or else the texture
-- as `loadTexture` gives it, appended.
theorem loadTextureIntoArray_eq_ok {p : Path} {a : Handle .textureArray}
    {x : Attempt (Nat × Handle .texture)} (h : r.loadTextureIntoArray p a = .ok (r', x)) :
    a.isValid = true ∧ (Fingerprint.ofPath p).isNone = false ∧
    ∃ arr, r.resources.textureArrays.entries[a.raw]? = some arr ∧
    ((∃ slot, arr.slotOf? (.ofPath p) = some slot ∧ r' = r ∧ x = .ok (slot, arr.members[slot]!)) ∨
     (arr.slotOf? (.ofPath p) = none ∧ arr.isFull = false ∧
      ∃ r₁ m, r.loadTexture p = .ok (r₁, m) ∧
      ((∃ e, m = .error e ∧ r' = r₁ ∧ x = .error e) ∨
       (∃ t slot, m = .ok t ∧ r₁.appendToArray a t (.ofPath p) = .ok (r', slot) ∧
          x = .ok (slot, t))))) := by
  unfold loadTextureIntoArray at h
  by_cases hinvalid : a.isValid = false
  · simp [hinvalid, throw, throwThe, MonadExceptOf.throw, bind, Except.bind] at h
  have hvalid : a.isValid = true := by simpa using hinvalid
  simp only [hvalid, Bool.not_true, Bool.false_eq_true, ↓reduceIte] at h
  obtain ⟨f, hf, h⟩ := bind_eq_ok.mp h
  obtain ⟨rfl, hnone⟩ := pathFingerprint_eq_ok hf
  obtain ⟨arr, harr, h⟩ := bind_eq_ok.mp h
  refine ⟨hvalid, hnone, arr, Registry.resolve_eq_ok.mp harr, ?_⟩
  cases hs : arr.slotOf? (Fingerprint.ofPath p) with
  | some slot =>
    simp only [hs, pure_eq_ok, Prod.mk.injEq] at h
    obtain ⟨rfl, rfl⟩ := h
    exact .inl ⟨slot, rfl, rfl, rfl⟩
  | none =>
    simp only [hs] at h
    by_cases hfull : arr.isFull = true
    · simp [hfull, throw, throwThe, MonadExceptOf.throw, bind, Except.bind] at h
    simp only [hfull, Bool.false_eq_true, ↓reduceIte] at h
    obtain ⟨⟨r₁, m⟩, hl, h⟩ := bind_eq_ok.mp h
    refine .inr ⟨rfl, by simpa using hfull, r₁, m, hl, ?_⟩
    cases m with
    | error e =>
      simp only [pure_eq_ok, Prod.mk.injEq] at h
      obtain ⟨rfl, rfl⟩ := h
      exact .inl ⟨e, rfl, rfl, rfl⟩
    | ok t =>
      obtain ⟨⟨r₂, slot⟩, happ, h⟩ := bind_eq_ok.mp h
      simp only [pure_eq_ok, Prod.mk.injEq] at h
      obtain ⟨rfl, rfl⟩ := h
      exact .inr ⟨t, slot, rfl, happ, rfl⟩

-- A data texture in an array: the array is checked first, and the texture always appended.
theorem createDataTextureIntoArray_eq_ok {d : DataTextureDesc} {a : Handle .textureArray}
    {x : Attempt (Nat × Handle .texture)} (h : r.createDataTextureIntoArray d a = .ok (r', x)) :
    a.isValid = true ∧ ∃ arr, r.resources.textureArrays.entries[a.raw]? = some arr ∧
    arr.isFull = false ∧ ∃ r₁ m, r.createDataTexture d = .ok (r₁, m) ∧
      ((∃ e, m = .error e ∧ r' = r₁ ∧ x = .error e) ∨
       (∃ t slot, m = .ok t ∧ r₁.appendToArray a t .none = .ok (r', slot) ∧ x = .ok (slot, t))) := by
  unfold createDataTextureIntoArray at h
  by_cases hinvalid : a.isValid = false
  · simp [hinvalid, throw, throwThe, MonadExceptOf.throw, bind, Except.bind] at h
  have hvalid : a.isValid = true := by simpa using hinvalid
  simp only [hvalid, Bool.not_true, Bool.false_eq_true, ↓reduceIte] at h
  obtain ⟨arr, harr, h⟩ := bind_eq_ok.mp h
  by_cases hfull : arr.isFull = true
  · simp [hfull, throw, throwThe, MonadExceptOf.throw, bind, Except.bind] at h
  simp only [hfull, Bool.false_eq_true, ↓reduceIte] at h
  obtain ⟨⟨r₁, m⟩, hd, h⟩ := bind_eq_ok.mp h
  refine ⟨hvalid, arr, Registry.resolve_eq_ok.mp harr, by simpa using hfull,
    r₁, m, hd, ?_⟩
  cases m with
  | error e =>
    simp only [pure_eq_ok, Prod.mk.injEq] at h
    obtain ⟨rfl, rfl⟩ := h
    exact .inl ⟨e, rfl, rfl, rfl⟩
  | ok t =>
    obtain ⟨⟨r₂, slot⟩, happ, h⟩ := bind_eq_ok.mp h
    simp only [pure_eq_ok, Prod.mk.injEq] at h
    obtain ⟨rfl, rfl⟩ := h
    exact .inr ⟨t, slot, rfl, happ, rfl⟩

end Renderer

end GpuFrontend

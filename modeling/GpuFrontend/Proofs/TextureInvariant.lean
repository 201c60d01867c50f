import GpuFrontend.Proofs.Textures
import Mathlib

namespace GpuFrontend

namespace Resources

-- The texture index lists exactly the textures whose record carries a fingerprint, and each
-- fingerprint once.
structure IndexSound (res : Resources) : Prop where
  mem_loaded : ∀ f t, (f, t) ∈ res.loaded ↔
    f.isNone = false ∧ ∃ rec, res.textures.entries[t.raw]? = some rec ∧ rec.fingerprint = f
  keys_nodup : (res.loaded.toList.map Prod.fst).Nodup

variable {res res' : Resources}

theorem indexSound_empty (c : Codec) : (Resources.empty c).IndexSound := by
  constructor
  · intro f t
    simp [Resources.empty, Registry.empty]
  · simp [Resources.empty]

theorem IndexSound.of_eq (hs : res.IndexSound) (ht : res'.textures.entries = res.textures.entries)
    (hl : res'.loaded = res.loaded) : res'.IndexSound := by
  constructor
  · intro f t
    rw [hl, ht]
    exact hs.mem_loaded f t
  · rw [hl]
    exact hs.keys_nodup

theorem IndexSound.eq_of_mem (hs : res.IndexSound) {f : Fingerprint} {t t' : Handle .texture}
    (h₁ : (f, t) ∈ res.loaded) (h₂ : (f, t') ∈ res.loaded) : t = t' := by
  have he := List.inj_on_of_nodup_map hs.keys_nodup (Array.mem_def.mp h₁) (Array.mem_def.mp h₂) rfl
  simp only [Prod.mk.injEq, true_and] at he
  exact he

theorem IndexSound.cached?_eq_some_iff (hs : res.IndexSound) {f : Fingerprint}
    {t : Handle .texture} : res.cached? f = some t ↔ (f, t) ∈ res.loaded := by
  unfold cached?
  constructor
  · intro h
    obtain ⟨e, he, rfl⟩ := Option.map_eq_some_iff.mp h
    have hk : e.1 = f := by simpa using Array.find?_some he
    have hm := Array.mem_of_find?_eq_some he
    rw [← hk]
    exact hm
  · intro hm
    have hsome : (res.loaded.find? fun e => e.1 == f).isSome :=
      Array.find?_isSome.mpr ⟨(f, t), hm, by simp⟩
    obtain ⟨e, he⟩ := Option.isSome_iff_exists.mp hsome
    have hk : e.1 = f := by simpa using Array.find?_some he
    have hm' : (f, e.2) ∈ res.loaded := by
      rw [← hk]
      exact Array.mem_of_find?_eq_some he
    rw [he, Option.map_some, hs.eq_of_mem hm' hm]

theorem IndexSound.cached?_eq_none_iff (hs : res.IndexSound) {f : Fingerprint} :
    res.cached? f = none ↔ ∀ t, (f, t) ∉ res.loaded := by
  constructor
  · intro h t hm
    rw [(hs.cached?_eq_some_iff).mpr hm] at h
    cases h
  · intro h
    cases hc : res.cached? f with
    | none => rfl
    | some t => exact absurd ((hs.cached?_eq_some_iff).mp hc) (h t)

-- A texture without a fingerprint leaves the index as it is.
theorem IndexSound.push_unfingerprinted (hs : res.IndexSound) {rec : Record DeviceTexture}
    (hnone : rec.fingerprint.isNone = true)
    (ht : res'.textures.entries = res.textures.entries.push rec) (hl : res'.loaded = res.loaded) :
    res'.IndexSound := by
  constructor
  · intro f t
    rw [hl, hs.mem_loaded, ht, Array.getElem?_push]
    split
    · rename_i hsize
      have hold : res.textures.entries[t.raw]? = none := by
        rw [hsize]
        exact Array.getElem?_eq_none (Nat.le_refl _)
      simp only [hold, reduceCtorEq, false_and, exists_false, and_false, Option.some.injEq,
        exists_eq_left', false_iff, not_and]
      intro hf hfp
      rw [hfp] at hnone
      rw [hnone] at hf
      cases hf
    · exact Iff.rfl
  · rw [hl]
    exact hs.keys_nodup

-- A texture loaded under a fingerprint the index lacks is indexed under it.
theorem IndexSound.push_fingerprinted (hs : res.IndexSound) {rec : Record DeviceTexture}
    {t : Handle .texture} (hf : rec.fingerprint.isNone = false)
    (hc : res.cached? rec.fingerprint = none) (hraw : t.raw = res.textures.entries.size)
    (ht : res'.textures.entries = res.textures.entries.push rec)
    (hl : res'.loaded = res.loaded.push (rec.fingerprint, t)) : res'.IndexSound := by
  constructor
  · intro f t'
    rw [hl, ht, Array.mem_push, hs.mem_loaded, Array.getElem?_push]
    by_cases hsize : t'.raw = res.textures.entries.size
    · have hold : res.textures.entries[t'.raw]? = none := by
        rw [hsize]
        exact Array.getElem?_eq_none (Nat.le_refl _)
      have htt : t' = t := Handle.ext_raw (hsize.trans hraw.symm)
      rw [hold, if_pos hsize, htt]
      simp only [reduceCtorEq, false_and, exists_false, and_false, false_or, Option.some.injEq,
        exists_eq_left', Prod.mk.injEq, and_true]
      constructor
      · rintro rfl
        exact ⟨hf, rfl⟩
      · rintro ⟨-, rfl⟩
        rfl
    · have hne : (f, t') ≠ (rec.fingerprint, t) := by
        intro he
        simp only [Prod.mk.injEq] at he
        exact hsize (he.2 ▸ hraw)
      simp only [hsize, ↓reduceIte, hne, or_false]
  · rw [hl, Array.toList_push, List.map_append, List.nodup_append]
    refine ⟨hs.keys_nodup, by simp, ?_⟩
    intro f hf' g hg
    simp only [List.map_cons, List.map_nil, List.mem_singleton] at hg
    subst hg
    obtain ⟨e, he, rfl⟩ := List.mem_map.mp hf'
    intro hfe
    exact (hs.cached?_eq_none_iff.mp hc) e.2 (by rw [← hfe]; exact Array.mem_def.mpr he)

end Resources

namespace TextureArray

-- Slot `i` binds member `i` and slots past the members bind the placeholder; a fingerprint
-- other than the reserved one is held in one slot at most.
structure Bound (res : Resources) (a : TextureArray) : Prop where
  fingerprints_size : a.fingerprints.size = a.members.size
  members_le : a.members.size ≤ a.capacity
  slots_size : a.table.slots.size = a.capacity
  member : ∀ (i : Nat) (t : Handle .texture), a.members[i]? = some t →
    ∃ rec, res.textures.entries[t.raw]? = some rec ∧
    a.fingerprints[i]? = some rec.fingerprint ∧ a.table.slots[i]? = some rec.object.id
  vacant : ∀ i, a.members.size ≤ i → i < a.capacity →
    a.table.slots[i]? = (res.textures.entries[res.placeholder.raw]?).map (·.object.id)
  distinct : ∀ (i j : Nat) (f : Fingerprint), a.fingerprints[i]? = some f → a.fingerprints[j]? = some f →
    f.isNone = false → i = j

variable {res res' : Resources} {a : TextureArray}

theorem slotOf?_eq_some {f : Fingerprint} {i : Nat} (h : a.slotOf? f = some i) :
    f.isNone = false ∧ a.fingerprints[i]? = some f := by
  unfold slotOf? at h
  split at h
  · cases h
  rename_i hf
  obtain ⟨hi, hfi, -⟩ := Array.findIdx?_eq_some_iff_getElem.mp h
  refine ⟨by simpa using hf, ?_⟩
  rw [Array.getElem?_eq_getElem hi]
  simpa using hfi

theorem slotOf?_eq_none {f : Fingerprint} (h : a.slotOf? f = none) (hf : f.isNone = false)
    (i : Nat) : a.fingerprints[i]? ≠ some f := by
  unfold slotOf? at h
  rw [if_neg (by simp [hf])] at h
  intro hi
  have hall := Array.findIdx?_eq_none_iff.mp h f (Array.mem_of_getElem? hi)
  simp at hall

-- Textures only added, and the same placeholder, keep an array's bindings true.
theorem Bound.mono (hb : a.Bound res) (hext : res.textures.Extends res'.textures)
    (hp : res'.placeholder = res.placeholder) : a.Bound res' := by
  refine ⟨hb.fingerprints_size, hb.members_le, hb.slots_size, ?_, ?_, hb.distinct⟩
  · intro i t ht
    obtain ⟨rec, hrec, hf, hs⟩ := hb.member i t ht
    exact ⟨rec, hext _ _ hrec, hf, hs⟩
  · intro i hlo hhi
    have hv := hb.vacant i hlo hhi
    rw [hp]
    cases hph : res.textures.entries[res.placeholder.raw]? with
    | none =>
      rw [hph] at hv
      have hslot : i < a.table.slots.size := by rw [hb.slots_size]; exact hhi
      rw [Array.getElem?_eq_getElem hslot] at hv
      cases hv
    | some ph =>
      rw [hph] at hv
      rw [hext _ _ hph, hv]

theorem bound_fresh {name : String} {capacity id : Nat} {ph : Record DeviceTexture}
    (hph : res.textures.entries[res.placeholder.raw]? = some ph) :
    (⟨name, capacity, #[], #[], ⟨id, name, Array.replicate capacity ph.object.id⟩⟩ :
      TextureArray).Bound res := by
  refine ⟨rfl, Nat.zero_le _, Array.size_replicate, ?_, ?_, ?_⟩
  · intro i t ht
    simp at ht
  · intro i _ hi
    simp [hph, hi]
  · intro i j f hi
    simp at hi

-- Appending a texture under its record's fingerprint, into an array that has room and does
-- not hold that fingerprint yet, keeps the array bound.
theorem Bound.append (hb : a.Bound res) (hfull : a.isFull = false) {t : Handle .texture}
    {rec : Record DeviceTexture} (hrec : res.textures.entries[t.raw]? = some rec)
    (hfresh : rec.fingerprint.isNone = false → a.slotOf? rec.fingerprint = none) :
    ({ a with members := a.members.push t, fingerprints := a.fingerprints.push rec.fingerprint,
               table := { a.table with
                 slots := a.table.slots.set! a.members.size rec.object.id } } : TextureArray).Bound res := by
  have hroom : a.members.size < a.capacity := by
    simpa [isFull] using hfull
  have hslot : a.members.size < a.table.slots.size := by rw [hb.slots_size]; exact hroom
  refine ⟨by simp [hb.fingerprints_size], by simp only [Array.size_push]; omega,
    by simp [hb.slots_size], ?_, ?_, ?_⟩
  · intro i t' ht'
    simp only [Array.getElem?_push] at ht'
    simp only [Array.set!_eq_setIfInBounds, Array.getElem?_setIfInBounds, Array.getElem?_push,
      hb.fingerprints_size]
    split at ht'
    · rename_i hi
      cases ht'
      exact ⟨rec, hrec, by simp [hi], by simp [hi, hslot]⟩
    · rename_i hi
      obtain ⟨rec', hrec', hf, hs⟩ := hb.member i t' ht'
      exact ⟨rec', hrec', by simp [hi, hf], by simp [Ne.symm hi, hs]⟩
  · intro i hlo hhi
    simp only [Array.size_push] at hlo
    have hne : a.members.size ≠ i := by omega
    simp only [Array.set!_eq_setIfInBounds, Array.getElem?_setIfInBounds, hne, ↓reduceIte]
    exact hb.vacant i (by omega) hhi
  · intro i j f hi hj hf
    simp only [Array.getElem?_push, hb.fingerprints_size] at hi hj
    split at hi <;> split at hj
    · omega
    · rename_i hsi hsj
      cases hi
      exact absurd hj (slotOf?_eq_none (hfresh hf) hf j)
    · rename_i hsi hsj
      cases hj
      exact absurd hi (slotOf?_eq_none (hfresh hf) hf i)
    · exact hb.distinct i j f hi hj hf

end TextureArray

theorem sum_set_add (l : List Nat) (i : Nat) (hi : i < l.length) (v : Nat) :
    (l.set i v).sum + l[i] = l.sum + v := by
  induction l generalizing i with
  | nil => simp at hi
  | cons x xs ih =>
    cases i with
    | zero =>
      simp only [List.set_cons_zero, List.sum_cons, List.getElem_cons_zero]
      omega
    | succ i =>
      have h := ih i (by simpa using hi)
      simp only [List.set_cons_succ, List.sum_cons, List.getElem_cons_succ]
      omega

namespace Renderer

-- The textures, their index, the texture arrays and the device's counters of them, as every
-- renderer a session reaches has them.
structure TexturesSound (r : Renderer) : Prop where
  index : r.resources.IndexSound
  arrays : ∀ a ∈ r.resources.textureArrays.entries, a.Bound r.resources
  created : r.device.stats.textures = r.resources.textures.size
  bindingWrites : r.device.stats.bindingWrites =
    (r.resources.textureArrays.entries.toList.map (·.members.size)).sum

variable {r r' : Renderer}

theorem TexturesSound.of_eq (hs : r.TexturesSound)
    (hp : r'.resources.placeholder = r.resources.placeholder)
    (ht : r'.resources.textures = r.resources.textures)
    (hl : r'.resources.loaded = r.resources.loaded)
    (ha : r'.resources.textureArrays = r.resources.textureArrays)
    (hc : r'.device.stats.textures = r.device.stats.textures)
    (hw : r'.device.stats.bindingWrites = r.device.stats.bindingWrites) : r'.TexturesSound := by
  refine ⟨hs.index.of_eq (by rw [ht]) hl, ?_, ?_, ?_⟩
  · intro a hm
    rw [ha] at hm
    exact (hs.arrays a hm).mono (by rw [ht]; exact Registry.Extends.refl _) hp
  · rw [hc, ht]
    exact hs.created
  · rw [hw, ha]
    exact hs.bindingWrites

-- A texture without a fingerprint: a data texture or a generated placeholder.
theorem TexturesSound.insertTexture (hs : r.TexturesSound) {name : String} {img : Image}
    {a : Attempt (Handle .texture)} (h : r.insertTexture name img .none = .ok (r', a)) :
    r'.TexturesSound := by
  rcases insertTexture_eq_ok h with ⟨-, rfl, -⟩ | ⟨-, t, T, -, -, hT, rfl⟩
  · exact hs.of_eq rfl rfl rfl rfl rfl rfl
  · refine ⟨hs.index.push_unfingerprinted rfl hT rfl, ?_, ?_, ?_⟩
    · intro a hm
      exact (hs.arrays a hm).mono (Registry.extends_of_push hT) rfl
    · simp [Registry.size, hT, hs.created]
    · simp [hs.bindingWrites]

-- What loading a file leaves as it was.
theorem loadTexture_keeps {p : Path} {a : Attempt (Handle .texture)}
    (h : r.loadTexture p = .ok (r', a)) :
    r'.resources.placeholder = r.resources.placeholder ∧
    r'.resources.textureArrays = r.resources.textureArrays ∧
    r'.device.stats.bindingWrites = r.device.stats.bindingWrites ∧
    r.resources.textures.Extends r'.resources.textures ∧
    ∀ e ∈ r.resources.loaded, e ∈ r'.resources.loaded := by
  obtain ⟨-, hcases⟩ := loadTexture_eq_ok h
  rcases hcases with ⟨t, -, rfl, -⟩ | ⟨-, hmiss⟩
  · exact ⟨rfl, rfl, rfl, Registry.Extends.refl _, fun _ he => he⟩
  rcases hmiss with ⟨e, -, rfl, -⟩ | ⟨img, r₂, m, -, hi, hm⟩
  · exact ⟨rfl, rfl, rfl, Registry.Extends.refl _, fun _ he => he⟩
  rcases insertTexture_eq_ok hi with ⟨-, rfl, hm'⟩ | ⟨-, t, T, hm', -, hT, rfl⟩
  · rcases hm with ⟨e, -, rfl, -⟩ | ⟨t, rfl, -, -⟩
    · exact ⟨rfl, rfl, rfl, Registry.Extends.refl _, fun _ he => he⟩
    · cases hm'
  · rcases hm with ⟨e, rfl, -, -⟩ | ⟨t', -, -, rfl⟩
    · cases hm'
    · exact ⟨rfl, rfl, by simp, Registry.extends_of_push hT,
        fun _ he => Array.mem_push.mpr (.inl he)⟩

-- A file loaded is indexed under its fingerprint.
theorem TexturesSound.loadTexture_mem (hs : r.TexturesSound) {p : Path} {t : Handle .texture}
    (h : r.loadTexture p = .ok (r', .ok t)) : (Fingerprint.ofPath p, t) ∈ r'.resources.loaded := by
  obtain ⟨-, hcases⟩ := loadTexture_eq_ok h
  rcases hcases with ⟨t', hc, rfl, ht⟩ | ⟨-, hmiss⟩
  · cases ht
    exact hs.index.cached?_eq_some_iff.mp hc
  rcases hmiss with ⟨e, -, -, ht⟩ | ⟨img, r₂, m, -, -, hm⟩
  · cases ht
  rcases hm with ⟨e, -, -, ht⟩ | ⟨t', -, ht, rfl⟩
  · cases ht
  · cases ht
    exact Array.mem_push.mpr (.inr rfl)

theorem TexturesSound.loadTexture (hs : r.TexturesSound) {p : Path}
    {a : Attempt (Handle .texture)} (h : r.loadTexture p = .ok (r', a)) : r'.TexturesSound := by
  obtain ⟨hnone, hcases⟩ := loadTexture_eq_ok h
  rcases hcases with ⟨t, -, rfl, -⟩ | ⟨hc, hmiss⟩
  · exact hs
  -- asking the codec changes nothing the invariant reads
  have hs₁ : TexturesSound
      { r with resources := { r.resources with codec := (r.resources.codec.decode p).1 } } :=
    hs.of_eq rfl rfl rfl rfl rfl rfl
  rcases hmiss with ⟨e, -, rfl, -⟩ | ⟨img, r₂, m, -, hi, hm⟩
  · exact hs₁
  rcases insertTexture_eq_ok hi with ⟨-, rfl, hm'⟩ | ⟨-, t, T, hm', hraw, hT, rfl⟩
  · rcases hm with ⟨e, -, rfl, -⟩ | ⟨t, rfl, -, -⟩
    · exact hs₁.of_eq rfl rfl rfl rfl rfl rfl
    · cases hm'
  · rcases hm with ⟨e, rfl, -, -⟩ | ⟨t', ht', -, rfl⟩
    · cases hm'
    · rw [hm'] at ht'
      cases ht'
      -- the record is fixed by the registry's new entries before its fingerprint is compared
      refine ⟨hs.index.push_fingerprinted ?_ ?_ hraw hT rfl, ?_, ?_, ?_⟩
      · exact hnone
      · exact hc
      · intro a hm
        exact (hs.arrays a hm).mono (Registry.extends_of_push hT) rfl
      · simp [Registry.size, hT, hs.created]
      · simp [hs.bindingWrites]

theorem TexturesSound.createDataTexture (hs : r.TexturesSound) {d : DataTextureDesc}
    {a : Attempt (Handle .texture)} (h : r.createDataTexture d = .ok (r', a)) : r'.TexturesSound :=
  hs.insertTexture (createDataTexture_eq_ok h).2

theorem TexturesSound.createTextureArray (hs : r.TexturesSound) {name : String} {capacity : Nat}
    {a : Attempt (Handle .textureArray)} (h : r.createTextureArray name capacity = .ok (r', a)) :
    r'.TexturesSound := by
  obtain ⟨-, ph, hph, hcases⟩ := createTextureArray_eq_ok h
  rcases hcases with ⟨-, rfl, -⟩ | ⟨-, t, T, -, -, hT, rfl⟩
  · exact hs.of_eq rfl rfl rfl rfl rfl rfl
  · refine ⟨hs.index.of_eq rfl rfl, ?_, ?_, ?_⟩
    · intro a hm
      simp only [hT, Array.mem_push] at hm
      rcases hm with hm | rfl
      · exact (hs.arrays a hm).mono (Registry.Extends.refl _) rfl
      · exact TextureArray.bound_fresh hph
    · simpa [Stats.bump_textures_of_ne] using hs.created
    · simp [hT, hs.bindingWrites]

-- The texture inserted gets the next handle, and is recorded under it with the fingerprint it
-- was given.
theorem insertTexture_record {name : String} {img : Image} {f : Fingerprint} {t : Handle .texture}
    (h : r.insertTexture name img f = .ok (r', .ok t)) :
    t.raw = r.resources.textures.size ∧
      ∃ rec, r'.resources.textures.entries[t.raw]? = some rec ∧ rec.fingerprint = f := by
  rcases insertTexture_eq_ok h with ⟨-, -, ha⟩ | ⟨-, t', T, ha, hraw, hT, rfl⟩
  · cases ha
  · cases ha
    refine ⟨hraw, ?_⟩
    simp [hT, hraw, Registry.size]

-- Appending a texture to an array: the array stays bounded as long as the texture's record
-- carries the fingerprint given and no other member has it.
theorem TexturesSound.appendToArray (hs : r.TexturesSound) {a : Handle .textureArray}
    {t : Handle .texture} {f : Fingerprint} {slot : Nat} (h : r.appendToArray a t f = .ok (r', slot))
    (hf : ∀ rec, r.resources.textures.entries[t.raw]? = some rec → rec.fingerprint = f)
    (hfresh : ∀ arr, r.resources.textureArrays.entries[a.raw]? = some arr →
      f.isNone = false → arr.slotOf? f = none) :
    r'.TexturesSound := by
  obtain ⟨rec, arr, T, hrec, harr, hfull, -, ⟨hi, hT⟩, rfl⟩ := appendToArray_eq_ok h
  obtain rfl := hf rec hrec
  have hb' := (hs.arrays arr (Array.mem_of_getElem? harr)).append hfull hrec (hfresh arr harr)
  refine ⟨hs.index.of_eq rfl rfl, ?_, hs.created, ?_⟩
  · intro b hm
    rw [hT] at hm
    rcases Array.mem_or_eq_of_mem_set hm with hm | rfl
    · exact (hs.arrays b hm).mono (Registry.Extends.refl _) rfl
    · exact hb'.mono (Registry.Extends.refl _) rfl
  · -- one member more in one array, one binding write more
    have hlen : a.raw < (r.resources.textureArrays.entries.toList.map (·.members.size)).length := by
      simpa using hi
    have hget : (r.resources.textureArrays.entries.toList.map (·.members.size))[a.raw] =
        arr.members.size := by
      rw [List.getElem_map, Array.getElem_toList]
      exact congrArg (·.members.size) (Array.getElem?_eq_some_iff.mp harr).2
    have hsum := sum_set_add _ a.raw hlen (arr.members.size + 1)
    simp only [hT, Array.toList_set, List.map_set, Array.size_push, hget] at hsum ⊢
    rw [hs.bindingWrites]
    omega

theorem TexturesSound.loadTextureIntoArray (hs : r.TexturesSound) {p : Path}
    {a : Handle .textureArray} {x : Attempt (Nat × Handle .texture)}
    (h : r.loadTextureIntoArray p a = .ok (r', x)) : r'.TexturesSound := by
  obtain ⟨-, hnone, arr, harr, hcases⟩ := loadTextureIntoArray_eq_ok h
  rcases hcases with ⟨slot, -, rfl, -⟩ | ⟨hslot, -, r₁, m, hl, hm⟩
  · exact hs
  have hs₁ := hs.loadTexture hl
  rcases hm with ⟨e, -, rfl, -⟩ | ⟨t, slot, rfl, happ, -⟩
  · exact hs₁
  obtain ⟨-, harrays, -, -, -⟩ := loadTexture_keeps hl
  -- the texture loaded is indexed under the file's fingerprint, which the array lacked
  obtain ⟨-, rec, hrec, hfp⟩ := (hs₁.index.mem_loaded _ _).mp (hs.loadTexture_mem hl)
  refine hs₁.appendToArray happ ?_ ?_
  · intro rec' hrec'
    rw [hrec] at hrec'
    cases hrec'
    exact hfp
  · intro arr' harr' _
    rw [harrays, harr] at harr'
    cases harr'
    exact hslot

theorem TexturesSound.createDataTextureIntoArray (hs : r.TexturesSound) {d : DataTextureDesc}
    {a : Handle .textureArray} {x : Attempt (Nat × Handle .texture)}
    (h : r.createDataTextureIntoArray d a = .ok (r', x)) : r'.TexturesSound := by
  obtain ⟨-, arr, -, -, r₁, m, hc, hm⟩ := createDataTextureIntoArray_eq_ok h
  have hs₁ := hs.createDataTexture hc
  rcases hm with ⟨e, -, rfl, -⟩ | ⟨t, slot, rfl, happ, -⟩
  · exact hs₁
  obtain ⟨-, rec, hrec, hfp⟩ := insertTexture_record (createDataTexture_eq_ok hc).2
  refine hs₁.appendToArray happ ?_ ?_
  · intro rec' hrec'
    rw [hrec] at hrec'
    cases hrec'
    exact hfp
  · -- a data texture has no fingerprint, so the array cannot hold it already
    intro _ _ hf
    simp [Fingerprint.isNone, Fingerprint.none] at hf

end Renderer

end GpuFrontend

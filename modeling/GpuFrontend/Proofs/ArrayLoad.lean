import GpuFrontend.Proofs.Reachable

namespace GpuFrontend

namespace TextureArray

-- The array with `t` in its next slot under fingerprint `f`, the slot bound to device texture `id`.
def push (a : TextureArray) (t : Handle .texture) (f : Fingerprint) (id : Nat) : TextureArray :=
  { a with members := a.members.push t, fingerprints := a.fingerprints.push f,
           table := { a.table with slots := a.table.slots.set! a.members.size id } }

variable {res : Resources} {a : TextureArray} {f : Fingerprint}

-- A fingerprint is held in one slot at most, so the search for it stops at the slot holding it.
theorem Bound.slotOf?_of_getElem? (hb : a.Bound res) (hf : f.isNone = false) {i : Nat}
    (hi : a.fingerprints[i]? = some f) : a.slotOf? f = some i := by
  have hsome : (a.fingerprints.findIdx? (· == f)).isSome := by
    obtain ⟨hlt, hget⟩ := Array.getElem?_eq_some_iff.mp hi
    rw [Array.findIdx?_isSome, Array.any_eq_true]
    exact ⟨i, hlt, by simp [hget]⟩
  obtain ⟨j, hj⟩ := Option.isSome_iff_exists.mp hsome
  obtain ⟨hjlt, hjf, -⟩ := Array.findIdx?_eq_some_iff_getElem.mp hj
  have hfj : a.fingerprints[j]? = some f := by
    rw [Array.getElem?_eq_getElem hjlt]
    simpa using hjf
  unfold slotOf?
  rw [if_neg (by simp [hf]), hj, hb.distinct j i f hfj hi hf]

theorem slotOf?_eq_none_of_forall (h : ∀ i : Nat, a.fingerprints[i]? ≠ some f) :
    a.slotOf? f = none := by
  unfold slotOf?
  split
  · rfl
  · rw [Array.findIdx?_eq_none_iff]
    intro x hx
    obtain ⟨i, hi⟩ := Array.getElem?_of_mem hx
    have hne : x ≠ f := fun hxf => h i (hxf ▸ hi)
    simpa using hne

-- The member of a slot holding a fingerprint is the texture the index holds for it.
theorem Bound.member_cached (hb : a.Bound res) (hs : res.IndexSound) (hf : f.isNone = false)
    {i : Nat} (hi : a.fingerprints[i]? = some f) :
    ∃ t, a.members[i]? = some t ∧ res.cached? f = some t := by
  have hlt : i < a.members.size := by
    rw [← hb.fingerprints_size]
    exact (Array.getElem?_eq_some_iff.mp hi).1
  obtain ⟨rec, hrec, hfp, -⟩ := hb.member i _ (Array.getElem?_eq_getElem hlt)
  rw [hi] at hfp
  refine ⟨a.members[i], Array.getElem?_eq_getElem hlt, hs.cached?_eq_some_iff.mpr ?_⟩
  exact (hs.mem_loaded _ _).mpr ⟨hf, rec, hrec, (Option.some.inj hfp).symm⟩

end TextureArray

namespace Renderer

def bindArray (r : Renderer) (a : Handle .textureArray) (arr : TextureArray) : Renderer :=
  { r with device := { r.device with stats := { r.device.stats with
             bindingWrites := r.device.stats.bindingWrites + 1 } },
           resources := { r.resources with
             textureArrays := r.resources.textureArrays.replace a arr } }

variable {r r₁ : Renderer} {a : Handle .textureArray} {arr : TextureArray} {t : Handle .texture}

-- Appending to an array with room: the texture goes in the next slot, bound by one write.
theorem appendToArray_of_room {rec : Record DeviceTexture} {f : Fingerprint}
    (ht : r.resources.textures.entries[t.raw]? = some rec)
    (ha : r.resources.textureArrays.entries[a.raw]? = some arr) (hfull : arr.isFull = false) :
    r.appendToArray a t f = .ok (r.bindArray a (arr.push t f rec.object.id), arr.members.size) := by
  obtain ⟨T₁, htake⟩ := Registry.take_of_getElem? ha
  simp only [appendToArray, Registry.resolve_of_getElem? ht, htake, ok_bind, hfull,
    Bool.false_eq_true, ↓reduceIte, Registry.take_set_eq_ok htake]
  rfl

section IntoArray

-- The fingerprint is kept a variable: unfolding the path's hash is never needed, and is costly.
variable {p : Path} {f : Fingerprint} (hp : pathFingerprint p = .ok f)
  (ha : r.resources.textureArrays.entries[a.raw]? = some arr)
include hp ha

-- A load into an issued array, by whether the array holds the file and has room.
theorem loadTextureIntoArray_of_slotOf? {slot : Nat} (hs : arr.slotOf? f = some slot) :
    r.loadTextureIntoArray p a = .ok (r, .ok (slot, arr.members[slot]!)) := by
  simp only [loadTextureIntoArray, Registry.isValid_of_getElem? ha, Bool.not_true,
    Bool.false_eq_true, ↓reduceIte, hp, Registry.resolve_of_getElem? ha, ok_bind, hs]
  rfl

theorem loadTextureIntoArray_of_full (hs : arr.slotOf? f = none) (hfull : arr.isFull = true) :
    r.loadTextureIntoArray p a = .error (.arrayFull arr.name arr.capacity) := by
  simp only [loadTextureIntoArray, Registry.isValid_of_getElem? ha, Bool.not_true,
    Bool.false_eq_true, ↓reduceIte, hp, Registry.resolve_of_getElem? ha, ok_bind, hs, hfull]
  rfl

-- With room and without the file, the plain load decides: its error or its fault is the answer.
theorem loadTextureIntoArray_of_room_error {e : ResourceError} (hs : arr.slotOf? f = none)
    (hfull : arr.isFull = false) (hl : r.loadTexture p = .ok (r₁, .error e)) :
    r.loadTextureIntoArray p a = .ok (r₁, .error e) := by
  simp only [loadTextureIntoArray, Registry.isValid_of_getElem? ha, Bool.not_true,
    Bool.false_eq_true, ↓reduceIte, hp, Registry.resolve_of_getElem? ha, ok_bind, hs, hfull, hl,
    pure_eq_ok]

theorem loadTextureIntoArray_of_room_fault {flt : Fault} (hs : arr.slotOf? f = none)
    (hfull : arr.isFull = false) (hl : r.loadTexture p = .error flt) :
    r.loadTextureIntoArray p a = .error flt := by
  simp only [loadTextureIntoArray, Registry.isValid_of_getElem? ha, Bool.not_true,
    Bool.false_eq_true, ↓reduceIte, hp, Registry.resolve_of_getElem? ha, ok_bind, hs, hfull, hl,
    error_bind]

-- The texture the plain load answers is appended: it is recorded, and the load left the
-- arrays alone.
theorem TexturesSound.loadTextureIntoArray_of_loaded (hs : r.TexturesSound)
    (hslot : arr.slotOf? f = none) (hfull : arr.isFull = false)
    (hl : r.loadTexture p = .ok (r₁, .ok t)) :
    ∃ rec, r₁.resources.textures.entries[t.raw]? = some rec ∧
      r.loadTextureIntoArray p a =
        .ok (r₁.bindArray a (arr.push t f rec.object.id), .ok (arr.members.size, t)) := by
  obtain ⟨-, rec, hrec, -⟩ := ((hs.loadTexture hl).index.mem_loaded _ _).mp (hs.loadTexture_mem hl)
  have ha₁ : r₁.resources.textureArrays.entries[a.raw]? = some arr := by
    rw [(loadTexture_keeps hl).2.1]
    exact ha
  refine ⟨rec, hrec, ?_⟩
  -- inside this namespace the bare name is the invariant's lemma, not the operation
  simp only [Renderer.loadTextureIntoArray, Registry.isValid_of_getElem? ha, Bool.not_true,
    Bool.false_eq_true, ↓reduceIte, hp, Registry.resolve_of_getElem? ha, ok_bind, hslot, hfull, hl,
    appendToArray_of_room hrec ha₁ hfull, pure_eq_ok]

end IntoArray

-- The data texture made is the next texture, recorded without a fingerprint, and appended.
theorem createDataTextureIntoArray_of_made {d : DataTextureDesc}
    (ha : r.resources.textureArrays.entries[a.raw]? = some arr) (hfull : arr.isFull = false)
    (hc : r.createDataTexture d = .ok (r₁, .ok t)) :
    t.raw = r.resources.textures.size ∧ ∃ rec, r₁.resources.textures.entries[t.raw]? = some rec ∧
      rec.fingerprint = .none ∧
      r.createDataTextureIntoArray d a =
        .ok (r₁.bindArray a (arr.push t .none rec.object.id), .ok (arr.members.size, t)) := by
  have hi := (createDataTexture_eq_ok hc).2
  obtain ⟨hraw, rec, hrec, hnone⟩ := insertTexture_record hi
  have ha₁ : r₁.resources.textureArrays.entries[a.raw]? = some arr := by
    rw [(insertTexture_keeps hi).2.2]
    exact ha
  refine ⟨hraw, rec, hrec, hnone, ?_⟩
  simp only [createDataTextureIntoArray, Registry.isValid_of_getElem? ha, Bool.not_true,
    Bool.false_eq_true, ↓reduceIte, Registry.resolve_of_getElem? ha, ok_bind, hfull, hc,
    appendToArray_of_room hrec ha₁ hfull, pure_eq_ok]

end Renderer

namespace Session

open Renderer

-- Loading a file into a texture array of a reachable renderer: the array's own lookup and the
-- texture index agree, a full array without the file is a fault, and otherwise the plain load's
-- texture is appended in the next slot with one binding write.
theorem loadTextureIntoArray_agrees {cfg : Config} {r₀ : Renderer} {s : State}
    {ts : List Transition} (hb : build cfg = .ok r₀) (hr : Run { renderer := r₀ } s ts)
    {a : Handle .textureArray} {arr : TextureArray}
    (ha : s.renderer.resources.textureArrays.entries[a.raw]? = some arr) {p : Path}
    (hp : (Fingerprint.ofPath p).isNone = false) :
    (∀ i : Nat, arr.fingerprints[i]? = some (.ofPath p) → ∃ t, arr.members[i]? = some t ∧
      s.renderer.loadTextureIntoArray p a = .ok (s.renderer, .ok (i, t)) ∧
      s.renderer.loadTexture p = .ok (s.renderer, .ok t)) ∧
    ((∀ i : Nat, arr.fingerprints[i]? ≠ some (.ofPath p)) →
      (arr.isFull = true →
        s.renderer.loadTextureIntoArray p a = .error (.arrayFull arr.name arr.capacity)) ∧
      (arr.isFull = false →
        (∀ r₁ t, s.renderer.loadTexture p = .ok (r₁, .ok t) →
          ∃ rec, r₁.resources.textures.entries[t.raw]? = some rec ∧
            s.renderer.loadTextureIntoArray p a =
              .ok (r₁.bindArray a (arr.push t (.ofPath p) rec.object.id),
                .ok (arr.members.size, t))) ∧
        (∀ r₁ e, s.renderer.loadTexture p = .ok (r₁, .error e) →
          s.renderer.loadTextureIntoArray p a = .ok (r₁, .error e)) ∧
        (∀ flt, s.renderer.loadTexture p = .error flt →
          s.renderer.loadTextureIntoArray p a = .error flt))) ∧
    (arr.isFull = false → ∀ d r₁ t, s.renderer.createDataTexture d = .ok (r₁, .ok t) →
      t.raw = s.renderer.resources.textures.size ∧
      ∃ rec, r₁.resources.textures.entries[t.raw]? = some rec ∧ rec.fingerprint = .none ∧
        s.renderer.createDataTextureIntoArray d a =
          .ok (r₁.bindArray a (arr.push t .none rec.object.id), .ok (arr.members.size, t))) := by
  have hs := hr.texturesSound hb
  have hbound := hs.arrays arr (Array.mem_of_getElem? ha)
  have hpf := pathFingerprint_of_isNone hp
  refine ⟨fun i hi => ?_, fun hmiss => ?_,
    fun hfull d r₁ t hc => createDataTextureIntoArray_of_made ha hfull hc⟩
  · -- the slot's member is the texture the index holds for the file
    obtain ⟨t, ht, hc⟩ := hbound.member_cached hs.index hp hi
    have hm : arr.members[i]! = t := by
      rw [getElem!_def, ht]
    refine ⟨t, ht, ?_, loadTexture_of_cached hp hc⟩
    rw [loadTextureIntoArray_of_slotOf? hpf ha (hbound.slotOf?_of_getElem? hp hi), hm]
  · have hslot := TextureArray.slotOf?_eq_none_of_forall hmiss
    refine ⟨loadTextureIntoArray_of_full hpf ha hslot, fun hfull => ⟨fun r₁ t hl =>
      hs.loadTextureIntoArray_of_loaded hpf ha hslot hfull hl, fun r₁ e hl => ?_, fun flt hl => ?_⟩⟩
    · exact loadTextureIntoArray_of_room_error hpf ha hslot hfull hl
    · exact loadTextureIntoArray_of_room_fault hpf ha hslot hfull hl

-- A session on a generated placeholder that makes an array of two slots, and a file to load.
theorem loadTextureIntoArray_agrees_two_slots :
    ∃ (r₀ : Renderer) (s : State) (ts : List Transition) (arr : TextureArray),
      build { placeholder := .solid ⟨0, 0, 0, 255⟩ } = .ok r₀ ∧ Run { renderer := r₀ } s ts ∧
      s.renderer.resources.textureArrays.entries[0]? = some arr ∧ arr.capacity = 2 ∧
      (Fingerprint.ofPath (.ofString "a.png")).isNone = false ∧
      (∀ i : Nat, arr.fingerprints[i]? = some (.ofPath (.ofString "a.png")) → ∃ t,
        arr.members[i]? = some t ∧
        s.renderer.loadTextureIntoArray (.ofString "a.png") ⟨0, by decide⟩ =
          .ok (s.renderer, .ok (i, t)) ∧
        s.renderer.loadTexture (.ofString "a.png") = .ok (s.renderer, .ok t)) ∧
      ((∀ i : Nat, arr.fingerprints[i]? ≠ some (.ofPath (.ofString "a.png"))) →
        (arr.isFull = true →
          s.renderer.loadTextureIntoArray (.ofString "a.png") ⟨0, by decide⟩ =
            .error (.arrayFull arr.name arr.capacity)) ∧
        (arr.isFull = false →
          (∀ r₁ t, s.renderer.loadTexture (.ofString "a.png") = .ok (r₁, .ok t) →
            ∃ rec, r₁.resources.textures.entries[t.raw]? = some rec ∧
              s.renderer.loadTextureIntoArray (.ofString "a.png") ⟨0, by decide⟩ =
                .ok (r₁.bindArray ⟨0, by decide⟩
                    (arr.push t (.ofPath (.ofString "a.png")) rec.object.id),
                  .ok (arr.members.size, t))) ∧
          (∀ r₁ e, s.renderer.loadTexture (.ofString "a.png") = .ok (r₁, .error e) →
            s.renderer.loadTextureIntoArray (.ofString "a.png") ⟨0, by decide⟩ = .ok (r₁, .error e)) ∧
          (∀ flt, s.renderer.loadTexture (.ofString "a.png") = .error flt →
            s.renderer.loadTextureIntoArray (.ofString "a.png") ⟨0, by decide⟩ = .error flt))) ∧
      (arr.isFull = false → ∀ d r₁ t, s.renderer.createDataTexture d = .ok (r₁, .ok t) →
        t.raw = s.renderer.resources.textures.size ∧
        ∃ rec, r₁.resources.textures.entries[t.raw]? = some rec ∧ rec.fingerprint = .none ∧
          s.renderer.createDataTextureIntoArray d ⟨0, by decide⟩ =
            .ok (r₁.bindArray ⟨0, by decide⟩ (arr.push t .none rec.object.id),
              .ok (arr.members.size, t))) := by
  obtain ⟨r₀, s, ts, arr, hb, hr, ha, hcap⟩ : ∃ (r₀ : Renderer) (s : State) (ts : List Transition)
      (arr : TextureArray),
      build { placeholder := .solid ⟨0, 0, 0, 255⟩ } = .ok r₀ ∧ Run { renderer := r₀ } s ts ∧
      s.renderer.resources.textureArrays.entries[0]? = some arr ∧ arr.capacity = 2 :=
    ⟨_, _, _, _, rfl, .snoc (t := ⟨_, .createTextureArray "lights" 2, _, _⟩) .nil rfl rfl, rfl, rfl⟩
  have hp : (Fingerprint.ofPath (.ofString "a.png")).isNone = false := by decide +kernel
  exact ⟨r₀, s, ts, arr, hb, hr, ha, hcap, hp, loadTextureIntoArray_agrees hb hr ha hp⟩

end Session

end GpuFrontend

import GpuFrontend.Proofs.Textures
import GpuFrontend.Proofs.Lifecycle

namespace GpuFrontend

def Fault.isDataCheck : Fault → Bool
  | .emptyExtent .. | .noFormat _ | .multiplyOverflow | .wrongDataLength .. => true
  | _ => false

-- The bytes a descriptor's extent needs, counted without a bound.
def DataTextureDesc.pixelBytes (d : DataTextureDesc) : Nat :=
  d.width * d.height * d.layers * d.format.texelSize

theorem ImageFormat.texelSize_pos {f : ImageFormat} (h : f ≠ .unknown) : 0 < f.texelSize := by
  cases f <;> first | exact absurd rfl h | decide

section Products

-- Multiplying by factors of at least one never makes a product smaller.
theorem le_foldl_mul {xs : List Nat} (hxs : ∀ x ∈ xs, 0 < x) (a : Nat) :
    a ≤ xs.foldl (· * ·) a := by
  induction xs generalizing a with
  | nil => exact Nat.le_refl a
  | cons x xs ih =>
    have hx : 0 < x := hxs x List.mem_cons_self
    calc a ≤ a * x := Nat.le_mul_of_pos_right a hx
      _ ≤ xs.foldl (· * ·) (a * x) := ih (fun y hy => hxs y (List.mem_cons_of_mem _ hy)) (a * x)

-- A product taken left to right, each step in a 64-bit word, overflows exactly when the whole
-- product reaches 2^64: with factors of at least one the partial products only grow, so the
-- last is the largest and no earlier step overflows unless it does.
theorem foldlM_checkedMul {xs : List Nat} (hxs : ∀ x ∈ xs, 0 < x) (hne : xs ≠ []) (a : Nat) :
    xs.foldlM checkedMul a =
      if Nat.pow 2 64 ≤ xs.foldl (· * ·) a then (.error .multiplyOverflow : Except Fault Nat)
      else .ok (xs.foldl (· * ·) a) := by
  induction xs generalizing a with
  | nil => exact absurd rfl hne
  | cons x xs ih =>
    have hrest : ∀ y ∈ xs, 0 < y := fun y hy => hxs y (List.mem_cons_of_mem _ hy)
    rw [List.foldlM_cons, List.foldl_cons]
    by_cases hax : Nat.pow 2 64 ≤ a * x
    · -- this step overflows, and so does the whole product, which is at least as large
      have hle := le_foldl_mul hrest (a * x)
      simp [checkedMul, hax, Nat.le_trans hax hle]
    · have hstep : checkedMul a x = .ok (a * x) := by simp [checkedMul, hax]
      rw [hstep, ok_bind]
      cases xs with
      | nil => simp [hax, pure, Except.pure]
      | cons y ys => exact ih hrest (List.cons_ne_nil y ys) (a * x)

end Products

namespace DataTextureDesc

-- The checks in their order, with the byte count that of the whole extent: the checked products
-- overflow exactly when the mathematical one reaches 2^64.
theorem validate_eq (d : DataTextureDesc) :
    d.validate =
      if d.width = 0 ∨ d.height = 0 ∨ d.layers = 0 then
        .error (.emptyExtent d.name d.width d.height d.layers)
      else if d.format = .unknown then .error (.noFormat d.name)
      else if Nat.pow 2 64 ≤ d.pixelBytes then .error .multiplyOverflow
      else if d.data.size ≠ d.pixelBytes then .error (.wrongDataLength d.name d.pixelBytes)
      else .ok () := by
  unfold validate
  by_cases hext : d.width = 0 ∨ d.height = 0 ∨ d.layers = 0
  · simp only [hext, ↓reduceIte]
  by_cases hfmt : d.format = .unknown
  · simp only [hext, hfmt, ↓reduceIte]
  have hfactors : ∀ x ∈ [d.height, d.layers, d.format.texelSize], 0 < x := by
    simp only [List.mem_cons, List.not_mem_nil, or_false]
    rintro x (rfl | rfl | rfl)
    · omega
    · omega
    · exact ImageFormat.texelSize_pos hfmt
  have hbytes : [d.height, d.layers, d.format.texelSize].foldl (· * ·) d.width = d.pixelBytes := rfl
  simp only [hext, hfmt, ↓reduceIte]
  rw [foldlM_checkedMul hfactors (List.cons_ne_nil _ _), hbytes]
  by_cases hov : Nat.pow 2 64 ≤ d.pixelBytes
  · simp only [hov, ↓reduceIte, error_bind]
  · simp only [hov, ↓reduceIte, ok_bind]

end DataTextureDesc

namespace Registry

variable {k : HandleKind} {α : Type} {r : Registry k α} {e : Fault}

theorem ensureCapacity_eq_error (h : r.ensureCapacity = .error e) : e = .rangeExhausted k := by
  unfold ensureCapacity at h
  split at h
  · cases h
  · cases h
    rfl

theorem allocate_eq_error {v : α} (h : r.allocate v = .error e) :
    e = .rangeExhausted k := by
  unfold allocate at h
  split at h
  · cases h
  · cases h
    rfl

theorem resolve_eq_error {x : Handle k} (h : r.resolve x = .error e) :
    e = .outOfRange k x.raw r.size := by
  unfold resolve at h
  split at h
  · cases h
  · cases h
    rfl

theorem take_eq_error [Inhabited α] {x : Handle k} (h : r.take x = .error e) :
    e = .outOfRange k x.raw r.size := by
  unfold take at h
  split at h
  · cases h
  · cases h
    rfl

theorem set_eq_error {x : Handle k} {v : α} (h : r.set x v = .error e) :
    e = .outOfRange k x.raw r.size := by
  unfold set at h
  split at h
  · cases h
  · cases h
    rfl

end Registry

namespace Renderer

variable {r : Renderer} {e : Fault}

-- The checks an array makes before a texture is created into it: a handle that is not the
-- sentinel, naming an array with a free slot.
def arrayHasRoom (r : Renderer) (a : Handle .textureArray) : Prop :=
  a.isValid = true ∧
    ∃ arr, r.resources.textureArrays.entries[a.raw]? = some arr ∧ arr.isFull = false

-- Past the descriptor's checks, creating a texture faults only for a full registry of textures.
theorem insertTexture_eq_error {name : String} {img : Image} {f : Fingerprint}
    (h : r.insertTexture name img f = .error e) : e = .rangeExhausted .texture := by
  unfold insertTexture at h
  rcases bind_eq_error.mp h with hc | ⟨u, -, h⟩
  · exact Registry.ensureCapacity_eq_error hc
  rcases Bool.eq_false_or_eq_true r.device.failNext with hf | hf
  · rw [Device.create_of_failNext hf] at h
    cases h
  · rw [Device.create_of_not_failNext hf] at h
    rcases bind_eq_error.mp h with ha | ⟨x, -, h⟩
    · exact Registry.allocate_eq_error ha
    · cases h

-- Appending to an array faults only for a handle never issued or an array already full.
theorem appendToArray_isDataCheck {a : Handle .textureArray} {t : Handle .texture}
    {f : Fingerprint} (h : r.appendToArray a t f = .error e) : e.isDataCheck = false := by
  unfold appendToArray at h
  rcases bind_eq_error.mp h with hr | ⟨rec, -, h⟩
  · rw [Registry.resolve_eq_error hr]
    rfl
  rcases bind_eq_error.mp h with ht | ⟨⟨arr, T⟩, -, h⟩
  · rw [Registry.take_eq_error ht]
    rfl
  by_cases hfull : arr.isFull = true
  · simp only [hfull, ↓reduceIte, throw, throwThe, MonadExceptOf.throw, error_bind,
      Except.error.injEq] at h
    rw [← h]
    rfl
  simp only [hfull, Bool.false_eq_true, ↓reduceIte] at h
  rcases bind_eq_error.mp h with hs | ⟨T', -, h⟩
  · rw [Registry.set_eq_error hs]
    rfl
  · cases h

theorem createDataTexture_eq (d : DataTextureDesc) :
    r.createDataTexture d =
      d.validate >>= fun _ =>
        r.insertTexture d.name ⟨d.width, d.height, d.layers, d.format, d.data⟩ .none :=
  rfl

theorem createDataTexture_eq_error_iff {d : DataTextureDesc} (hf : e.isDataCheck = true) :
    r.createDataTexture d = .error e ↔ d.validate = .error e := by
  rw [createDataTexture_eq, bind_eq_error]
  constructor
  · rintro (hv | ⟨u, -, hi⟩)
    · exact hv
    · rw [insertTexture_eq_error hi] at hf
      cases hf
  · exact .inl

-- In an array the descriptor is checked only once the array's own checks have passed, and
-- nothing after it raises a check's fault.
theorem createDataTextureIntoArray_eq_error_iff {d : DataTextureDesc} {a : Handle .textureArray}
    (hf : e.isDataCheck = true) :
    r.createDataTextureIntoArray d a = .error e ↔
      r.arrayHasRoom a ∧ r.createDataTexture d = .error e := by
  constructor
  · intro h
    unfold createDataTextureIntoArray at h
    by_cases hinvalid : a.isValid = false
    · simp only [hinvalid, Bool.not_false, ↓reduceIte, throw, throwThe, MonadExceptOf.throw,
        error_bind, Except.error.injEq] at h
      rw [← h] at hf
      cases hf
    have hvalid : a.isValid = true := by simpa using hinvalid
    simp only [hvalid, Bool.not_true, Bool.false_eq_true, ↓reduceIte] at h
    rcases bind_eq_error.mp h with hres | ⟨arr, hres, h⟩
    · rw [Registry.resolve_eq_error hres] at hf
      cases hf
    by_cases hfull : arr.isFull = true
    · simp only [hfull, ↓reduceIte, throw, throwThe, MonadExceptOf.throw, error_bind,
        Except.error.injEq] at h
      rw [← h] at hf
      cases hf
    have hroom : r.arrayHasRoom a :=
      ⟨hvalid, arr, Registry.resolve_eq_ok.mp hres, by simpa using hfull⟩
    simp only [hfull, Bool.false_eq_true, ↓reduceIte] at h
    rcases bind_eq_error.mp h with hc | ⟨⟨r₁, m⟩, -, h⟩
    · exact ⟨hroom, hc⟩
    -- the texture was made, or refused by the device; only appending it is left
    cases m with
    | error e' => cases h
    | ok t =>
      rcases bind_eq_error.mp h with happ | ⟨x, -, h⟩
      · rw [appendToArray_isDataCheck happ] at hf
        cases hf
      · cases h
  · rintro ⟨⟨hvalid, arr, harr, hfull⟩, hc⟩
    unfold createDataTextureIntoArray
    simp only [hvalid, Bool.not_true, Bool.false_eq_true, ↓reduceIte,
      Registry.resolve_of_getElem? harr, ok_bind, hfull, hc, error_bind]

-- The checks of a data texture, in order, each the only way to its fault; the byte count is the
-- extent's, however the 64-bit products along the way fall. In an array the same checks run once
-- the array's own have passed.
theorem data_texture_checks (r : Renderer) (d : DataTextureDesc) :
    (∀ a f, f.isDataCheck = true →
      (r.createDataTextureIntoArray d a = .error f ↔
        r.arrayHasRoom a ∧ r.createDataTexture d = .error f)) ∧
    (r.createDataTexture d = .error (.emptyExtent d.name d.width d.height d.layers) ↔
      d.width = 0 ∨ d.height = 0 ∨ d.layers = 0) ∧
    (r.createDataTexture d = .error (.noFormat d.name) ↔
      d.width ≠ 0 ∧ d.height ≠ 0 ∧ d.layers ≠ 0 ∧ d.format = .unknown) ∧
    (r.createDataTexture d = .error .multiplyOverflow ↔
      d.width ≠ 0 ∧ d.height ≠ 0 ∧ d.layers ≠ 0 ∧ d.format ≠ .unknown ∧
        Nat.pow 2 64 ≤ d.pixelBytes) ∧
    (r.createDataTexture d = .error (.wrongDataLength d.name d.pixelBytes) ↔
      d.width ≠ 0 ∧ d.height ≠ 0 ∧ d.layers ≠ 0 ∧ d.format ≠ .unknown ∧
        d.pixelBytes < Nat.pow 2 64 ∧ d.data.size ≠ d.pixelBytes) ∧
    (d.width ≠ 0 → d.height ≠ 0 → d.layers ≠ 0 → d.format ≠ .unknown →
      d.pixelBytes < Nat.pow 2 64 → d.data.size = d.pixelBytes →
      r.createDataTexture d =
        r.insertTexture d.name ⟨d.width, d.height, d.layers, d.format, d.data⟩ .none) := by
  refine ⟨fun a f hf => createDataTextureIntoArray_eq_error_iff hf, ?_⟩
  have hcreate : ∀ f, f.isDataCheck = true →
      (r.createDataTexture d = .error f ↔ d.validate = .error f) :=
    fun f hf => createDataTexture_eq_error_iff hf
  rw [hcreate (.emptyExtent d.name d.width d.height d.layers) rfl, hcreate (.noFormat d.name) rfl,
    hcreate .multiplyOverflow rfl, hcreate (.wrongDataLength d.name d.pixelBytes) rfl,
    createDataTexture_eq, DataTextureDesc.validate_eq]
  -- one case for each check, taken in the order the checks run
  by_cases hext : d.width = 0 ∨ d.height = 0 ∨ d.layers = 0
  · rcases hext with h | h | h <;> simp [h]
  obtain ⟨hw, hh, hl⟩ : d.width ≠ 0 ∧ d.height ≠ 0 ∧ d.layers ≠ 0 := by omega
  by_cases hfmt : d.format = .unknown
  · simp [hw, hh, hl, hfmt]
  -- the bound is met in both directions, so `simp` is given the comparison each way round
  by_cases hov : Nat.pow 2 64 ≤ d.pixelBytes
  · simp [hw, hh, hl, hfmt, hov, Nat.not_lt.mpr hov]
  have hlt : d.pixelBytes < Nat.pow 2 64 := Nat.lt_of_not_le hov
  by_cases hsize : d.data.size = d.pixelBytes
  · simp [hw, hh, hl, hfmt, hlt, Nat.not_le.mpr hlt, hsize]
  · simp [hw, hh, hl, hfmt, hlt, Nat.not_le.mpr hlt, hsize]

-- Sides of 2^31 texels of sixteen bytes: every partial product fits in a 64-bit word but the
-- last, 2^66 bytes, does not, and the renderer as built refuses the texture as an overflow
-- before it looks at the pixel data.
theorem data_texture_checks_last_product_overflows :
    ∃ r₀ : Renderer, build { placeholder := .solid ⟨0, 0, 0, 255⟩ } = .ok r₀ ∧
      r₀.createDataTexture
        { name := "huge", width := Nat.pow 2 31, height := Nat.pow 2 31,
          format := .r32g32b32a32Float } = .error .multiplyOverflow := by
  refine ⟨_, rfl, ?_⟩
  exact (data_texture_checks _ _).2.2.2.1.mpr
    ⟨by decide, by decide, by decide, by decide, by decide⟩

end Renderer

end GpuFrontend

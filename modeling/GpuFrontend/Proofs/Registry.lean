import GpuFrontend.Registry

namespace GpuFrontend

-- Every operation here runs in `Except`: a result means every step before it succeeded.
theorem bind_eq_ok {ε α β : Type} {x : Except ε α} {f : α → Except ε β} {b : β} :
    x >>= f = .ok b ↔ ∃ a, x = .ok a ∧ f a = .ok b := by
  cases x <;> simp [bind, Except.bind]

theorem pure_eq_ok {ε α : Type} {a b : α} : (pure a : Except ε α) = .ok b ↔ a = b := by
  simp [pure, Except.pure]

@[simp] theorem ok_bind {ε α β : Type} (a : α) (f : α → Except ε β) : (Except.ok a >>= f) = f a := rfl

@[simp] theorem error_bind {ε α β : Type} (e : ε) (f : α → Except ε β) :
    (Except.error e >>= f) = .error e := rfl

-- A result rules out every condition under which the computation faults, so each guard it
-- passed can be read back from it.
theorem guard_of_eq_ok {ε α : Type} {x : Except ε α} {a : α} {P : Prop} (hx : x = .ok a)
    (h : ¬P → ∃ e, x = .error e) : P :=
  Classical.byContradiction fun hp => by
    obtain ⟨e, he⟩ := h hp
    rw [he] at hx
    cases hx

namespace Handle

variable {k : HandleKind}

theorem ext_raw {h₁ h₂ : Handle k} (hr : h₁.raw = h₂.raw) : h₁ = h₂ := by
  cases h₁
  cases h₂
  simp only at hr
  subst hr
  rfl

@[simp] theorem ofIndexLt_raw (n : Nat) (hn : n < k.capacity) : (ofIndexLt n hn).raw = n := rfl

end Handle

namespace Registry

variable {k : HandleKind} {α : Type}

-- Every entry of `r` is still in `r'`, at its index: `r'` only grew.
def Extends (r r' : Registry k α) : Prop :=
  ∀ (i : Nat) (v : α), r.entries[i]? = some v → r'.entries[i]? = some v

theorem Extends.refl (r : Registry k α) : r.Extends r := fun _ _ h => h

theorem Extends.trans {r₁ r₂ r₃ : Registry k α} (h₁ : r₁.Extends r₂) (h₂ : r₂.Extends r₃) :
    r₁.Extends r₃ := fun i v h => h₂ i v (h₁ i v h)

theorem extends_of_push {r r' : Registry k α} {v : α} (h : r'.entries = r.entries.push v) :
    r.Extends r' := by
  intro i w hw
  obtain ⟨hi, hv⟩ := Array.getElem?_eq_some_iff.mp hw
  rw [h, Array.getElem?_push_lt hi, hv]

@[simp] theorem size_empty : (empty : Registry k α).size = 0 := rfl

-- A successful allocation hands out the next index and appends the entry.
theorem allocate_eq_ok {r r' : Registry k α} {v : α} {h : Handle k}
    (ha : r.allocate v = .ok (h, r')) : h.raw = r.size ∧ r'.entries = r.entries.push v := by
  unfold allocate at ha
  split at ha
  · cases ha
    exact ⟨rfl, rfl⟩
  · cases ha

theorem allocate_of_lt (r : Registry k α) (v : α) (hlt : r.size < k.capacity) :
    ∃ h r', r.allocate v = .ok (h, r') := by
  have hs : r.entries.size < k.capacity := hlt
  unfold allocate
  rw [dif_pos hs]
  exact ⟨_, _, rfl⟩

theorem resolve_eq_ok {r : Registry k α} {h : Handle k} {v : α} :
    r.resolve h = .ok v ↔ r.entries[h.raw]? = some v := by
  unfold resolve
  split
  · rename_i hi
    simp only [Except.ok.injEq, Array.getElem?_eq_getElem hi, Option.some.injEq]
  · rename_i hi
    simp only [reduceCtorEq, false_iff]
    intro hv
    exact hi (Array.getElem?_eq_some_iff.mp hv).1

theorem resolve_of_getElem? {r : Registry k α} {h : Handle k} {v : α}
    (hv : r.entries[h.raw]? = some v) : r.resolve h = .ok v :=
  resolve_eq_ok.mpr hv

theorem set_eq_ok {r r' : Registry k α} {h : Handle k} {v : α} (hs : r.set h v = .ok r') :
    ∃ hi : h.raw < r.entries.size, r'.entries = r.entries.set h.raw v hi := by
  unfold set at hs
  split at hs
  · cases hs
    rename_i hi
    exact ⟨hi, rfl⟩
  · cases hs

-- Taking an entry out and setting it back replaces the entry in place.
theorem take_eq_ok [Inhabited α] {r r' : Registry k α} {h : Handle k} {v : α}
    (ht : r.take h = .ok (v, r')) :
    r.entries[h.raw]? = some v ∧ ∃ hi : h.raw < r.entries.size,
      r'.entries = r.entries.set h.raw default hi := by
  unfold take at ht
  split at ht
  · cases ht
    rename_i hi
    exact ⟨Array.getElem?_eq_getElem hi, hi, rfl⟩
  · cases ht

theorem take_set [Inhabited α] {r r₁ r₂ : Registry k α} {h : Handle k} {v w : α}
    (ht : r.take h = .ok (v, r₁)) (hs : r₁.set h w = .ok r₂) :
    r.entries[h.raw]? = some v ∧ ∃ hi : h.raw < r.entries.size,
      r₂.entries = r.entries.set h.raw w hi := by
  obtain ⟨hv, hi, he₁⟩ := take_eq_ok ht
  obtain ⟨_, he₂⟩ := set_eq_ok hs
  refine ⟨hv, hi, ?_⟩
  rw [he₂]
  simp only [he₁, Array.set_set]

theorem ext_entries {r r' : Registry k α} (h : r.entries = r'.entries) : r = r' := by
  cases r
  cases r'
  simp only at h
  subst h
  rfl

-- A handle with an entry is no sentinel: the sentinel's index is the capacity, past every entry.
theorem isValid_of_getElem? {r : Registry k α} {h : Handle k} {v : α}
    (hv : r.entries[h.raw]? = some v) : h.isValid = true := by
  have hlt := (Array.getElem?_eq_some_iff.mp hv).1
  have hle := r.size_le
  exact (Handle.isValid_iff h).mpr (by omega)

-- The registry with the entry of `h` replaced by `v`; a handle never issued changes nothing.
def replace (r : Registry k α) (h : Handle k) (v : α) : Registry k α :=
  ⟨r.entries.set! h.raw v, by simpa using r.size_le⟩

theorem take_of_getElem? [Inhabited α] {r : Registry k α} {h : Handle k} {v : α}
    (hv : r.entries[h.raw]? = some v) : ∃ r₁, r.take h = .ok (v, r₁) := by
  obtain ⟨hi, rfl⟩ := Array.getElem?_eq_some_iff.mp hv
  unfold take
  rw [dif_pos hi]
  exact ⟨_, rfl⟩

-- An entry taken out and another set in its place: the entry is replaced.
theorem take_set_eq_ok [Inhabited α] {r r₁ : Registry k α} {h : Handle k} {v w : α}
    (ht : r.take h = .ok (v, r₁)) : r₁.set h w = .ok (r.replace h w) := by
  obtain ⟨-, hi, he⟩ := take_eq_ok ht
  have hi₁ : h.raw < r₁.entries.size := by simpa [he] using hi
  simp only [set, hi₁, ↓reduceDIte, Except.ok.injEq]
  apply ext_entries
  simp [replace, he, Array.set!_eq_setIfInBounds, Array.setIfInBounds_def, hi]

end Registry

end GpuFrontend

import Mathlib.Data.List.Zip
import GpuFrontend.Proofs.Replay

namespace GpuFrontend

namespace Registry

variable {k : HandleKind} {α : Type} {r : Registry k α} {h : Handle k} {v : α}

-- A registry is read as the list of its entries in issue order; every operation below is stated
-- on that list. It never holds more entries than its kind's handles can name.
theorem length_toList_le (r : Registry k α) : r.entries.toList.length ≤ k.capacity := by
  simpa using r.size_le

theorem ofIndex_of_lt {n : Nat} (hn : n < k.capacity) :
    Handle.ofIndex k n = .ok (Handle.ofIndexLt n hn) := by
  simp [Handle.ofIndex, hn]

-- A full registry refuses one more entry, in the capacity check as in the allocation, and the
-- refusal is the exhausted range, never an index that does not fit.
theorem allocate_of_full (hf : r.size = k.capacity) :
    r.allocate v = .error (.rangeExhausted k) := by
  have hn : ¬ r.entries.size < k.capacity := by
    simp only [size] at hf
    omega
  simp [allocate, hn]

theorem ensureCapacity_of_full (hf : r.size = k.capacity) :
    r.ensureCapacity = .error (.rangeExhausted k) := by
  simp [ensureCapacity, hf]

theorem ensureCapacity_of_lt (hl : r.size < k.capacity) : r.ensureCapacity = .ok () := by
  simp [ensureCapacity, hl]

-- Below the capacity, allocation issues the handle of the next index and appends the entry.
theorem allocate_of_lt_eq (hl : r.size < k.capacity) :
    ∃ r', r.allocate v = .ok (Handle.ofIndexLt r.size hl, r') ∧
      r'.entries.toList = r.entries.toList ++ [v] := by
  refine ⟨_, dif_pos hl, ?_⟩
  simp

theorem resolve_of_lt (hi : h.raw < r.entries.toList.length) :
    r.resolve h = .ok r.entries.toList[h.raw] := by
  have hs : h.raw < r.entries.size := by simpa using hi
  simp [resolve, hs]

theorem resolve_of_le (hi : r.entries.toList.length ≤ h.raw) :
    r.resolve h = .error (.outOfRange k h.raw r.entries.toList.length) := by
  have hs : ¬ h.raw < r.entries.size := by simpa using hi
  simp [resolve, hs, size]

theorem set_of_lt (hi : h.raw < r.entries.toList.length) :
    ∃ r', r.set h v = .ok r' ∧ r'.entries.toList = r.entries.toList.set h.raw v := by
  have hs : h.raw < r.entries.size := by simpa using hi
  refine ⟨_, dif_pos hs, ?_⟩
  simp

theorem set_of_le (hi : r.entries.toList.length ≤ h.raw) :
    r.set h v = .error (.outOfRange k h.raw r.entries.toList.length) := by
  have hs : ¬ h.raw < r.entries.size := by simpa using hi
  simp [set, hs, size]

-- The sentinel's index is the capacity, past every entry: it never resolves, and `get?` alone
-- answers nothing for it.
theorem resolve_invalid (r : Registry k α) :
    r.resolve (Handle.invalid k) = .error (.outOfRange k k.capacity r.entries.toList.length) :=
  resolve_of_le (length_toList_le r)

theorem get?_invalid (r : Registry k α) : r.get? (Handle.invalid k) = .ok none := by
  simp [get?, Handle.invalid_isValid]

theorem get?_of_ne_invalid (hh : h ≠ Handle.invalid k) : r.get? h = (r.resolve h).map some := by
  have hv : h.isValid = true := by
    have hlt : h.raw ≠ k.capacity := fun heq => hh (Handle.ext_raw heq)
    exact (Handle.isValid_iff h).mpr (by have := h.raw_le; omega)
  simp [get?, hv]

theorem contains_iff_ne_invalid :
    r.contains h = true ↔ h ≠ Handle.invalid k ∧ h.raw < r.entries.toList.length := by
  rw [contains_iff, Array.length_toList]
  constructor
  · intro hlt
    refine ⟨fun heq => ?_, hlt⟩
    have := r.size_le
    rw [heq] at hlt
    exact absurd hlt (by simp only [Handle.invalid]; omega)
  · exact fun hc => hc.2

-- The search answers the first index whose entry satisfies the predicate, or nothing.
theorem findIndex?_eq_some_iff {p : α → Bool} {i : Nat} :
    r.findIndex? p = some i ↔ ∃ hi : i < r.entries.toList.length,
      p r.entries.toList[i] = true ∧ ∀ j (hj : j < i), p r.entries.toList[j] = false := by
  rcases r with ⟨⟨es⟩, hle⟩
  simp [findIndex?, List.findIdx?_eq_some_iff_getElem]

theorem findIndex?_eq_none_iff {p : α → Bool} :
    r.findIndex? p = none ↔ ∀ x ∈ r.entries.toList, p x = false := by
  rcases r with ⟨⟨es⟩, hle⟩
  simp [findIndex?]

-- Iteration pairs each index with its entry, in issue order; every index has a handle.
theorem toList_eq_zip (r : Registry k α) :
    r.toList = (List.range r.entries.toList.length).zip r.entries.toList := by
  rw [toList, List.zipIdx_eq_zip_range', ← List.range_eq_range']
  exact List.zip_swap _ _

theorem ofIndex_of_lt_length {i : Nat} (hi : i < r.entries.toList.length) :
    ∃ h : Handle k, Handle.ofIndex k i = .ok h ∧ h.raw = i :=
  ⟨_, ofIndex_of_lt (Nat.lt_of_lt_of_le hi (length_toList_le r)), rfl⟩

-- A registry refines the list of its entries, which never outgrows the capacity: allocation
-- appends at the next index and faults as exhausted at the capacity, resolution and replacement
-- work at a handle's index, and the sentinel never resolves.
theorem registry_is_entry_list (r : Registry k α) (v : α) (h : Handle k) (p : α → Bool) :
    r.entries.toList.length ≤ k.capacity ∧
    (r.entries.toList.length = k.capacity →
      r.allocate v = .error (.rangeExhausted k) ∧ r.ensureCapacity = .error (.rangeExhausted k)) ∧
    (∀ hl : r.entries.toList.length < k.capacity,
      Handle.ofIndex k r.entries.toList.length = .ok (Handle.ofIndexLt _ hl) ∧
      r.ensureCapacity = .ok () ∧
      ∃ r', r.allocate v = .ok (Handle.ofIndexLt _ hl, r') ∧
        r'.entries.toList = r.entries.toList ++ [v]) ∧
    (∀ hi : h.raw < r.entries.toList.length, r.resolve h = .ok r.entries.toList[h.raw] ∧
      ∃ r', r.set h v = .ok r' ∧ r'.entries.toList = r.entries.toList.set h.raw v) ∧
    (r.entries.toList.length ≤ h.raw →
      r.resolve h = .error (.outOfRange k h.raw r.entries.toList.length) ∧
      r.set h v = .error (.outOfRange k h.raw r.entries.toList.length)) ∧
    r.resolve (Handle.invalid k) = .error (.outOfRange k k.capacity r.entries.toList.length) ∧
    r.get? (Handle.invalid k) = .ok none ∧
    (h ≠ Handle.invalid k → r.get? h = (r.resolve h).map some) ∧
    (r.contains h = true ↔ h ≠ Handle.invalid k ∧ h.raw < r.entries.toList.length) ∧
    (∀ i, r.findIndex? p = some i ↔ ∃ hi : i < r.entries.toList.length,
      p r.entries.toList[i] = true ∧ ∀ j (hj : j < i), p r.entries.toList[j] = false) ∧
    (r.findIndex? p = none ↔ ∀ x ∈ r.entries.toList, p x = false) ∧
    r.toList = (List.range r.entries.toList.length).zip r.entries.toList ∧
    (∀ i < r.entries.toList.length, ∃ h : Handle k, Handle.ofIndex k i = .ok h ∧ h.raw = i) :=
  ⟨length_toList_le r,
    fun hf => ⟨allocate_of_full hf, ensureCapacity_of_full hf⟩,
    fun hl => ⟨ofIndex_of_lt hl, ensureCapacity_of_lt hl, allocate_of_lt_eq hl⟩,
    fun hi => ⟨resolve_of_lt hi, set_of_lt hi⟩,
    fun hi => ⟨resolve_of_le hi, set_of_le hi⟩,
    resolve_invalid r, get?_invalid r, get?_of_ne_invalid, contains_iff_ne_invalid,
    fun _ => findIndex?_eq_some_iff, findIndex?_eq_none_iff, toList_eq_zip r,
    fun _ hi => ofIndex_of_lt_length hi⟩

-- Two textures registered: the second resolves to its entry, the search for it answers index 1,
-- and the next allocation issues handle 2.
theorem registry_is_entry_list_two_entries :
    let r : Registry .texture Int := ⟨#[10, 20], by decide⟩
    r.resolve ⟨1, by decide⟩ = .ok 20 ∧ r.findIndex? (· == 20) = some 1 ∧
      ∃ r', r.allocate 30 = .ok (⟨2, by decide⟩, r') ∧ r'.entries.toList = [10, 20, 30] := by
  intro r
  obtain ⟨-, -, hl, hi, -, -, -, -, -, hfind, -⟩ :=
    registry_is_entry_list r 30 ⟨1, by decide⟩ (· == 20)
  obtain ⟨-, -, r', ha, he⟩ := hl (by decide)
  exact ⟨(hi (by decide)).1, (hfind 1).mpr ⟨by decide, by decide, by decide⟩, r', ha, he⟩

end Registry

end GpuFrontend

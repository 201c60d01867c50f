import GpuFrontend.Fault

/-!
Registries: the entries of one kind of resource, in issue order.

A registry hands out the indices 0, 1, 2, ... and never takes one back. It
holds at most as many entries as its kind's handles can name; one more is a
fault. Looking up a handle that was never issued, the sentinel included, is a
fault; `get?` alone answers nothing for the sentinel.
-/

namespace GpuFrontend

namespace Handle

-- The handle of index `n`, or a fault when `n` does not fit below the capacity.
def ofIndex (k : HandleKind) (n : Nat) : Except Fault (Handle k) :=
  if h : n < k.capacity then .ok (ofIndexLt n h) else .error (.indexTooWide k n)

end Handle

-- The entries of kind `k`, in issue order; entry `i` belongs to the handle of index `i`.
structure Registry (k : HandleKind) (α : Type) where
  entries : Array α
  size_le : entries.size ≤ k.capacity

namespace Registry

variable {k : HandleKind} {α : Type}

def empty : Registry k α := ⟨#[], Nat.zero_le _⟩

instance : Inhabited (Registry k α) := ⟨empty⟩

def size (r : Registry k α) : Nat := r.entries.size

def ensureCapacity (r : Registry k α) : Except Fault Unit :=
  if r.size < k.capacity then .ok () else .error (.rangeExhausted k)

-- Adds an entry and returns its handle, the next index; a fault when full.
def allocate (r : Registry k α) (v : α) : Except Fault (Handle k × Registry k α) :=
  if h : r.entries.size < k.capacity then
    .ok (Handle.ofIndexLt r.entries.size h,
      ⟨r.entries.push v, by simp only [Array.size_push]; omega⟩)
  else .error (.rangeExhausted k)

-- The entry of a handle; a fault when the handle was never issued.
def resolve (r : Registry k α) (h : Handle k) : Except Fault α :=
  if hi : h.raw < r.entries.size then .ok r.entries[h.raw]
  else .error (.outOfRange k h.raw r.size)

-- The entry of a handle, nothing for the sentinel, a fault for an index never issued.
def get? (r : Registry k α) (h : Handle k) : Except Fault (Option α) :=
  if h.isValid then (r.resolve h).map some else .ok none

-- Replaces the entry of a handle; a fault when the handle was never issued.
def set (r : Registry k α) (h : Handle k) (v : α) : Except Fault (Registry k α) :=
  if hi : h.raw < r.entries.size then
    .ok ⟨r.entries.set h.raw v hi, by simp only [Array.size_set]; exact r.size_le⟩
  else .error (.outOfRange k h.raw r.size)

-- The entry of a handle, taken out with `default` left in its place, so that the entry can change
-- in place before `set` puts it back; a fault when the handle was never issued.
def take [Inhabited α] (r : Registry k α) (h : Handle k) : Except Fault (α × Registry k α) :=
  if hi : h.raw < r.entries.size then
    .ok (r.entries[h.raw], ⟨r.entries.set h.raw default hi, by simp only [Array.size_set]; exact r.size_le⟩)
  else .error (.outOfRange k h.raw r.size)

def contains (r : Registry k α) (h : Handle k) : Bool := h.isValid && h.raw < r.size

def findIndex? (r : Registry k α) (p : α → Bool) : Option Nat := r.entries.findIdx? p

def toList (r : Registry k α) : List (Nat × α) := r.entries.toList.zipIdx.map fun (v, i) => (i, v)

-- The debug form, such as `HandleRegistry { kind: "texture", len: 3 }`.
def debugText (r : Registry k α) : String :=
  "HandleRegistry \x7b kind: " ++ Text.quote k.label ++ ", len: " ++ toString r.size ++ " \x7d"

end Registry

end GpuFrontend

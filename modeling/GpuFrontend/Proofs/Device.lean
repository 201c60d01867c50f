import GpuFrontend.Device

namespace GpuFrontend

namespace Stats

-- Counting an object touches only the counter of its kind.
@[simp] theorem bump_bindingWrites (s : Stats) (k : ObjectKind) :
    (s.bump k).bindingWrites = s.bindingWrites := by
  cases k <;> rfl

@[simp] theorem bump_commandStreams (s : Stats) (k : ObjectKind) :
    (s.bump k).commandStreams = s.commandStreams := by
  cases k <;> rfl

@[simp] theorem bump_bufferBytesWritten (s : Stats) (k : ObjectKind) :
    (s.bump k).bufferBytesWritten = s.bufferBytesWritten := by
  cases k <;> rfl

theorem created_bump (s : Stats) (k k' : ObjectKind) :
    (s.bump k).created k' = if k = k' then s.created k' + 1 else s.created k' := by
  cases k <;> cases k' <;> rfl

@[simp] theorem created_bump_self (s : Stats) (k : ObjectKind) :
    (s.bump k).created k = s.created k + 1 := by
  simp [created_bump]

theorem created_bump_of_ne (s : Stats) {k k' : ObjectKind} (hne : k ≠ k') :
    (s.bump k).created k' = s.created k' := by
  simp [created_bump, hne]

@[simp] theorem bump_texture_textures (s : Stats) : (s.bump .texture).textures = s.textures + 1 := rfl

theorem bump_textures_of_ne (s : Stats) {k : ObjectKind} (hk : k ≠ .texture) :
    (s.bump k).textures = s.textures :=
  created_bump_of_ne s hk

end Stats

-- Below its width a counter steps exactly as the number it counts.
theorem toNat_add_toUInt64 {a : UInt64} {n : Nat} (h : a.toNat + n < UInt64.size) :
    (a + n.toUInt64).toNat = a.toNat + n := by
  rw [UInt64.toNat_add, Nat.toUInt64_eq, UInt64.toNat_ofNat', Nat.add_mod_mod]
  exact Nat.mod_eq_of_lt h

theorem toNat_add_one_of_lt {a : UInt32} (h : a.toNat + 1 < UInt32.size) :
    (a + 1).toNat = a.toNat + 1 := by
  rw [UInt32.toNat_add, UInt32.toNat_one]
  exact Nat.mod_eq_of_lt h

namespace Device

variable {d d' : Device} {n : Nat}

-- A creation either spends a standing request to fail, or counts one object.
theorem create_of_failNext (h : d.failNext = true) (kind : ObjectKind) (name : String) :
    d.create kind name = ({ d with failNext := false },
      .error (.invalidParameter (kind.label ++ " '" ++ name ++ "' rejected by dummy backend"))) := by
  simp [create, h]

theorem create_of_not_failNext (h : d.failNext = false) (kind : ObjectKind) (name : String) :
    d.create kind name = ({ d with stats := d.stats.bump kind }, .ok (d.stats.created kind)) := by
  simp [create, h]

@[simp] theorem writeBinding_stats (t : BindingTable) (i n : Nat) :
    (d.writeBinding t i n).1.stats = { d.stats with bindingWrites := d.stats.bindingWrites + 1 } := rfl

@[simp] theorem writeBinding_slots (t : BindingTable) (i n : Nat) :
    (d.writeBinding t i n).2.slots = t.slots.set! i n := rfl

@[simp] theorem writeBinding_id (t : BindingTable) (i n : Nat) :
    (d.writeBinding t i n).2.id = t.id := rfl

-- Writing to a buffer counts its bytes while the count stays below its width, and is the
-- overflow fault once it would not.
theorem writeBuffer_of_lt (h : d.stats.bufferBytesWritten.toNat + n < UInt64.size) :
    d.writeBuffer n = .ok { d with stats := { d.stats with
      bufferBytesWritten := d.stats.bufferBytesWritten + n.toUInt64 } } := by
  rw [writeBuffer, if_pos h]

theorem writeBuffer_of_overflow (h : UInt64.size ≤ d.stats.bufferBytesWritten.toNat + n) :
    d.writeBuffer n = .error .addOverflow := by
  rw [writeBuffer, if_neg (Nat.not_lt.mpr h)]

theorem writeBuffer_eq_ok_iff :
    d.writeBuffer n = .ok d' ↔ d.stats.bufferBytesWritten.toNat + n < UInt64.size ∧
      d' = { d with stats := { d.stats with
        bufferBytesWritten := d.stats.bufferBytesWritten + n.toUInt64 } } := by
  by_cases hlt : d.stats.bufferBytesWritten.toNat + n < UInt64.size
  · rw [writeBuffer_of_lt hlt, Except.ok.injEq, eq_comm]
    exact (and_iff_right hlt).symm
  · rw [writeBuffer_of_overflow (Nat.not_lt.mp hlt)]
    simp [hlt]

theorem writeBuffer_eq_error {e : Fault} (h : d.writeBuffer n = .error e) : e = .addOverflow := by
  by_cases hlt : d.stats.bufferBytesWritten.toNat + n < UInt64.size
  · rw [writeBuffer_of_lt hlt] at h
    cases h
  · rw [writeBuffer_of_overflow (Nat.not_lt.mp hlt)] at h
    exact (Except.error.inj h).symm

theorem writeBuffer_bytes (h : d.writeBuffer n = .ok d') :
    d'.stats.bufferBytesWritten.toNat = d.stats.bufferBytesWritten.toNat + n := by
  obtain ⟨hlt, rfl⟩ := writeBuffer_eq_ok_iff.mp h
  exact toNat_add_toUInt64 hlt

theorem writeBuffer_eq_ok (h : d.writeBuffer n = .ok d') :
    d' = { d with stats := { d.stats with bufferBytesWritten := d'.stats.bufferBytesWritten } } := by
  obtain ⟨-, rfl⟩ := writeBuffer_eq_ok_iff.mp h
  rfl

-- The streams: opening one needs none open and a stream count below its width, and every call
-- goes to the open one.
theorem beginStream_of_closed (h : d.openStream = none)
    (hs : d.stats.commandStreams.toNat + 1 < UInt32.size) :
    d.beginStream = .ok
      ({ d with stats := { d.stats with commandStreams := d.stats.commandStreams + 1 },
                calls := d.calls.push (.beginStream d.stats.commandStreams.toNat),
                openStream := some d.stats.commandStreams.toNat },
        d.stats.commandStreams.toNat) := by
  rw [beginStream, h, Option.isSome_none, if_neg Bool.false_ne_true, if_pos hs]

theorem beginStream_of_open {s : Nat} (h : d.openStream = some s) :
    d.beginStream = .error .streamAlreadyOpen := by
  simp [beginStream, h]

theorem beginStream_of_full (h : d.openStream = none)
    (hs : UInt32.size ≤ d.stats.commandStreams.toNat + 1) :
    d.beginStream = .error .addOverflow := by
  rw [beginStream, h, Option.isSome_none, if_neg Bool.false_ne_true, if_neg (Nat.not_lt.mpr hs)]

theorem send_of_open {s : Nat} (h : d.openStream = some s) (c : DeviceCall) :
    d.send s c = .ok { d with calls := d.calls.push c } := by
  simp [send, h, record]

theorem endStream_of_open {s : Nat} (h : d.openStream = some s) :
    d.endStream s = .ok { d with calls := d.calls.push (.endStream s), openStream := none } := by
  simp [endStream, send_of_open h, bind, Except.bind, pure, Except.pure]

end Device

end GpuFrontend

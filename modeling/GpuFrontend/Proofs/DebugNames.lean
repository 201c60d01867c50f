import GpuFrontend.Proofs.RecordChecks

namespace GpuFrontend

-- A text's own bytes are valid UTF-8, so decoding them gives the text back.
theorem fromUTF8?_toByteArray (s : String) : String.fromUTF8? s.toByteArray = some s :=
  dif_pos s.isValidUTF8

theorem isAsciiText_iff (s : String) : isAsciiText s = true ↔ ∀ c ∈ s.toList, c.toNat < 128 := by
  simp [isAsciiText]

theorem isAsciiText_eq_false_iff (s : String) :
    isAsciiText s = false ↔ ∃ c ∈ s.toList, 128 ≤ c.toNat := by
  simp [isAsciiText]

namespace DebugName

variable {n m : DebugName} {s t : String} {e : DebugNameError}

section Storage

theorem store_len (n : DebugName) : n.store.len.toNat = n.length := by
  have hshort := n.short
  simp only [store, length, maxLength] at hshort ⊢
  simp only [Nat.toUInt8_eq, UInt8.toNat_ofNat']
  omega

-- The bytes a name holds at the front of its buffer are the bytes of its text.
theorem store_bytes_of_lt (n : DebugName) {i : Nat} (hi : i < maxLength)
    (hl : i < n.text.toByteArray.size) : n.store.bytes[i] = n.text.toByteArray[i] := by
  simp only [store, Vector.getElem_mk]
  rw [Array.getElem_append_left hl]
  rfl

theorem store_bytes_of_le (n : DebugName) {i : Nat} (hi : i < maxLength) (hl : n.length ≤ i) :
    n.store.bytes[i] = 0 := by
  simp only [store, Vector.getElem_mk]
  rw [Array.getElem_append_right hl]
  simp

-- The bytes in use are the text's UTF-8, so reading the name back gives its text.
theorem store_read (n : DebugName) : n.store.read = n.text := by
  have hused : n.store.bytes.toArray.extract 0 n.store.len.toNat = n.text.toByteArray.data := by
    rw [store_len]
    simp only [store, length]
    rw [← String.size_toByteArray]
    exact Array.extract_append_left.trans Array.extract_size
  rw [InlineName.read, hused, fromUTF8?_toByteArray]
  rfl

theorem ext_text (h : n.text = m.text) : n = m := by
  cases n
  cases m
  simp only at h
  subst h
  rfl

-- Two names are held alike exactly when they are the same name: the text read back tells them
-- apart, which is why the bytes past the name must be zero.
theorem store_inj : n.store = m.store ↔ n = m := by
  constructor
  · intro h
    apply ext_text
    rw [← store_read n, ← store_read m, h]
  · rintro rfl
    rfl

theorem isEmpty_iff (n : DebugName) : n.isEmpty = true ↔ n.text = "" := by
  rw [isEmpty, beq_iff_eq, ← UInt8.toNat_inj, store_len, length, ← String.utf8ByteSize_eq_zero_iff]
  rfl

end Storage

section Check

theorem make_of_not_ascii (h : isAsciiText s = false) : make s = .error (.notAscii s) := by
  simp [make, h]

theorem make_of_long (ha : isAsciiText s = true) (hl : maxLength < s.utf8ByteSize) :
    make s = .error (.tooLong s s.utf8ByteSize) := by
  simp [make, ha, Nat.not_le.mpr hl]

theorem make_of_short (ha : isAsciiText s = true) (hl : s.utf8ByteSize ≤ maxLength) :
    make s = .ok ⟨s, ha, hl⟩ := by
  simp [make, ha, hl]

-- The three outcomes of a check, in the order of its tests: the ASCII test comes first, so a
-- text beyond ASCII is refused as such whatever its length.
theorem make_cases (s : String) :
    (isAsciiText s = false ∧ make s = .error (.notAscii s)) ∨
    (isAsciiText s = true ∧ maxLength < s.utf8ByteSize ∧
      make s = .error (.tooLong s s.utf8ByteSize)) ∨
    (∃ ha hl, make s = .ok ⟨s, ha, hl⟩) := by
  by_cases ha : isAsciiText s = true
  · by_cases hl : s.utf8ByteSize ≤ maxLength
    · exact .inr (.inr ⟨ha, hl, make_of_short ha hl⟩)
    · exact .inr (.inl ⟨ha, Nat.not_le.mp hl, make_of_long ha (Nat.not_le.mp hl)⟩)
  · have ha : isAsciiText s = false := by simpa using ha
    exact .inl ⟨ha, make_of_not_ascii ha⟩

-- A refusal names the refused text: as not ASCII, or as too long with its length in bytes.
theorem make_eq_error (h : make s = .error e) : e = .notAscii s ∨ e = .tooLong s s.utf8ByteSize := by
  rcases make_cases s with ⟨-, hm⟩ | ⟨-, -, hm⟩ | ⟨_, _, hm⟩ <;> rw [hm] at h
  · exact .inl (Except.error.inj h).symm
  · exact .inr (Except.error.inj h).symm
  · cases h

theorem make_eq_notAscii_iff : make s = .error (.notAscii s) ↔ isAsciiText s = false := by
  rcases make_cases s with ⟨ha, hm⟩ | ⟨ha, -, hm⟩ | ⟨ha, _, hm⟩ <;> simp [hm, ha]

theorem make_eq_tooLong_iff :
    make s = .error (.tooLong s s.utf8ByteSize) ↔
      isAsciiText s = true ∧ maxLength < s.utf8ByteSize := by
  rcases make_cases s with ⟨ha, hm⟩ | ⟨ha, hl, hm⟩ | ⟨ha, hl, hm⟩
  · simp [hm, ha]
  · simp [hm, ha, hl]
  · simp [hm, Nat.not_lt.mpr hl]

-- The outcomes of two checks, with the names in them as they are held, are equal exactly when
-- the texts are: a name reads back as its text and a refusal names its text.
theorem make_store_inj : store <$> make s = store <$> make t ↔ s = t := by
  constructor
  · intro h
    cases hs : make s with
    | error e =>
      cases ht : make t with
      | error e' =>
        rw [hs, ht] at h
        obtain rfl : e = e' := Except.error.inj h
        rcases make_eq_error hs with rfl | rfl <;> rcases make_eq_error ht with h' | h' <;>
          simp_all
      | ok m =>
        rw [hs, ht] at h
        cases h
    | ok n =>
      cases ht : make t with
      | error e' =>
        rw [hs, ht] at h
        cases h
      | ok m =>
        rw [hs, ht] at h
        have hnm : n = m := store_inj.mp (Except.ok.inj h)
        rw [← make_text hs, ← make_text ht, hnm]
  · rintro rfl
    rfl

theorem require_eq_error_iff {f : Fault} :
    require s = .error f ↔ ∃ e, make s = .error e ∧ f = .badName e := by
  cases hm : make s with
  | error e =>
    rw [require_of_make_error hm]
    constructor
    · intro h
      exact ⟨e, rfl, (Except.error.inj h).symm⟩
    · rintro ⟨e', he', rfl⟩
      rw [Except.error.inj he']
  | ok n =>
    rw [require_of_make_ok hm]
    simp

theorem require_eq_ok_iff : require s = .ok n ↔ make s = .ok n := by
  cases hm : make s with
  | error e => simp [require_of_make_error hm]
  | ok n' => simp [require_of_make_ok hm]

end Check

-- Checking a text as a debug name: the ASCII test first, then a length of at most fifteen bytes,
-- each the only way to its refusal; an accepted name is held so that it reads back as the text,
-- and the outcomes of two checks are equal exactly when the texts are.
theorem make_checks_and_holds (s : String) :
    (make s = .error (.notAscii s) ↔ ∃ c ∈ s.toList, 128 ≤ c.toNat) ∧
    (make s = .error (.tooLong s s.utf8ByteSize) ↔
      (∀ c ∈ s.toList, c.toNat < 128) ∧ maxLength < s.utf8ByteSize) ∧
    (∀ e, make s = .error e → e = .notAscii s ∨ e = .tooLong s s.utf8ByteSize) ∧
    ((∀ c ∈ s.toList, c.toNat < 128) → s.utf8ByteSize ≤ maxLength →
      ∃ n, make s = .ok n ∧ n.asStr = s ∧ n.text = s ∧ n.store.len.toNat = s.utf8ByteSize ∧
        (n.isEmpty = true ↔ s = "") ∧
        ∀ i (hi : i < maxLength), s.utf8ByteSize ≤ i → n.store.bytes[i] = 0) ∧
    (∀ t, store <$> make s = store <$> make t ↔ s = t) ∧
    (∀ f, require s = .error f ↔
      ∃ e, make s = .error e ∧ f = .badName e ∧ f.message = e.message) ∧
    (∀ n, require s = .ok n ↔ make s = .ok n) := by
  refine ⟨make_eq_notAscii_iff.trans (isAsciiText_eq_false_iff s),
    make_eq_tooLong_iff.trans (by rw [isAsciiText_iff]), fun e => make_eq_error,
    fun ha hl => ?_, fun t => make_store_inj, fun f => ?_, fun n => require_eq_ok_iff⟩
  · -- the accepted text, held and read back
    have ha : isAsciiText s = true := (isAsciiText_iff s).mpr ha
    let n : DebugName := ⟨s, ha, hl⟩
    refine ⟨n, make_of_short ha hl, store_read n, rfl, store_len n, isEmpty_iff n,
      fun i hi hle => store_bytes_of_le n hi hle⟩
  · rw [require_eq_error_iff]
    constructor
    · rintro ⟨e, he, rfl⟩
      exact ⟨e, he, rfl, rfl⟩
    · rintro ⟨e, he, rfl, -⟩
      exact ⟨e, he, rfl⟩

-- The name of fifteen bytes is accepted and held whole, its length byte fifteen; one byte more
-- and it is refused as too long, with its sixteen bytes; a character beyond ASCII is refused as
-- such.
theorem make_checks_and_holds_fifteen :
    (∃ n, make "abcdefghijklmno" = .ok n ∧ n.asStr = "abcdefghijklmno" ∧
      n.store.len.toNat = 15 ∧ n.isEmpty = false) ∧
    make "abcdefghijklmnop" = .error (.tooLong "abcdefghijklmnop" 16) ∧
    make "näme" = .error (.notAscii "näme") := by
  obtain ⟨-, -, -, hok, -⟩ := make_checks_and_holds "abcdefghijklmno"
  -- the ASCII test is evaluated as the check runs it, over the text's characters
  obtain ⟨n, hn, hread, -, hlen, hempty, -⟩ :=
    hok ((isAsciiText_iff _).mp (by decide)) (by decide)
  have hsixteen : "abcdefghijklmnop".utf8ByteSize = 16 := by decide
  refine ⟨⟨n, hn, hread, hlen, ?_⟩, ?_, ?_⟩
  · exact Bool.eq_false_iff.mpr fun h => absurd (hempty.mp h) (by decide)
  · rw [← hsixteen]
    exact (make_checks_and_holds _).2.1.mpr ⟨(isAsciiText_iff _).mp (by decide), by decide⟩
  · exact (make_checks_and_holds _).1.mpr ⟨'ä', by decide, by decide⟩

end DebugName

end GpuFrontend

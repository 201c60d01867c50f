import GpuFrontend.Proofs.SingleUse

namespace GpuFrontend

-- What the typed recordings check of their arguments: a valid model, non-zero counts, and a
-- marker name that is a debug name. Popping is checked against the list's depth instead.
def Recording.argsValid : Recording → Bool
  | .draw model => model.isValid
  | .drawBindless vertices instances => vertices != 0 && instances != 0
  | .drawIndexedBindless model indices instances => model.isValid && indices != 0 && instances != 0
  | .dispatch x y z => x != 0 && y != 0 && z != 0
  | .pushMarker name _ => isAsciiText name && decide (name.utf8ByteSize ≤ DebugName.maxLength)
  | _ => true

def Recording.isTyped : Recording → Bool
  | .raw .. => false
  | _ => true

-- A command fit to be replayed: a valid model, non-zero counts, a short ASCII marker name.
def Command.wellFormed : Command → Bool
  | .draw model => model.isValid
  | .drawBindless vertices instances => vertices != 0 && instances != 0
  | .drawIndexedBindless model indices instances => model.isValid && indices != 0 && instances != 0
  | .dispatch x y z => x != 0 && y != 0 && z != 0
  | .pushMarker name _ =>
    isAsciiText name.text && decide (name.text.utf8ByteSize ≤ DebugName.maxLength)
  | _ => true

theorem DebugName.require_of_make_error {s : String} {e : DebugNameError}
    (h : DebugName.make s = .error e) : DebugName.require s = .error (.badName e) := by
  rw [DebugName.require, h]
  rfl

theorem DebugName.require_of_make_ok {s : String} {n : DebugName} (h : DebugName.make s = .ok n) :
    DebugName.require s = .ok n := by
  rw [DebugName.require, h]
  rfl

theorem DebugName.text_of_require {s : String} {n : DebugName} (h : DebugName.require s = .ok n) :
    n.text = s := by
  cases hm : DebugName.make s with
  | error e =>
    rw [DebugName.require_of_make_error hm] at h
    cases h
  | ok n' =>
    rw [DebugName.require_of_make_ok hm] at h
    cases h
    exact DebugName.make_text hm

theorem DebugName.require_of_invalid {s : String}
    (h : (isAsciiText s && decide (s.utf8ByteSize ≤ DebugName.maxLength)) = false) :
    ∃ e, DebugName.require s = .error (.badName e) := by
  by_cases ha : isAsciiText s = true
  · have hs : ¬s.utf8ByteSize ≤ DebugName.maxLength := by simpa [ha] using h
    have hm : DebugName.make s = .error (.tooLong s s.utf8ByteSize) := by
      simp [DebugName.make, ha, hs]
    exact ⟨_, DebugName.require_of_make_error hm⟩
  · have hm : DebugName.make s = .error (.notAscii s) := by
      simp [DebugName.make, ha]
    exact ⟨_, DebugName.require_of_make_error hm⟩

namespace CommandList

def Op.isTyped : Op → Bool
  | .record r => r.isTyped
  | _ => true

variable {l l' : CommandList} {r : Recording}

-- A typed recording appends exactly one command, and only once its arguments passed their
-- checks; the command it appends is then fit to be replayed.
theorem record_appends_checked (ht : r.isTyped = true) (h : l.record r = .ok l') :
    r.argsValid = true ∧ ∃ c, l'.commands = l.commands.push c ∧ c.wellFormed = true := by
  cases r with
  | raw => cases ht
  | pushMarker name color =>
    simp only [record, bind_eq_ok, pure_eq_ok] at h
    obtain ⟨n, hn, m, hm, rfl⟩ := h
    obtain rfl := append_eq_ok hm
    have hname := DebugName.text_of_require hn
    subst hname
    exact ⟨by simp [Recording.argsValid, n.ascii, n.short], _, rfl,
      by simp [Command.wellFormed, n.ascii, n.short]⟩
  | popMarker =>
    simp only [record] at h
    split at h
    · cases h
    · obtain ⟨m, hm, hl'⟩ := bind_eq_ok.mp h
      obtain rfl := append_eq_ok hm
      obtain rfl := pure_eq_ok.mp hl'
      exact ⟨rfl, _, rfl, rfl⟩
  -- the other typed recordings append through `append` behind guards on their arguments
  | _ =>
    simp only [record] at h
    repeat' split at h
    all_goals first
      | cases h
      | obtain rfl := append_eq_ok h
        exact ⟨by simp_all [Recording.argsValid], _, rfl, by simp_all [Command.wellFormed]⟩

-- A recording whose arguments fail their check faults before it reads the list: the same fault
-- on every list, replayed or not, whatever its commands and depth.
theorem record_of_args_invalid (h : r.argsValid = false) :
    ∃ f, ∀ m : CommandList, m.record r = .error f := by
  cases r with
  | draw model =>
    have hv : model.isValid = false := h
    exact ⟨.drawInvalidModel, fun m => by simp [record, hv]⟩
  | drawBindless vertices instances =>
    by_cases hv : vertices = 0
    · exact ⟨.bindlessZeroVertices, fun m => by simp [record, hv]⟩
    · have hi : instances = 0 := by simpa [Recording.argsValid, hv] using h
      exact ⟨.bindlessZeroInstances, fun m => by simp [record, hv, hi]⟩
  | drawIndexedBindless model indices instances =>
    by_cases hv : model.isValid = false
    · exact ⟨.indexedInvalidModel, fun m => by simp [record, hv]⟩
    · have hv' : model.isValid = true := by simpa using hv
      by_cases hn : indices = 0
      · exact ⟨.indexedZeroIndices, fun m => by simp [record, hv', hn]⟩
      · have hi : instances = 0 := by simpa [Recording.argsValid, hv', hn] using h
        exact ⟨.indexedZeroInstances, fun m => by simp [record, hv', hn, hi]⟩
  | dispatch x y z =>
    have hz : x = 0 ∨ y = 0 ∨ z = 0 := by
      simp only [Recording.argsValid, Bool.and_eq_false_iff, bne_eq_false_iff_eq] at h
      omega
    exact ⟨.emptyWorkgroup x y z, fun m => by simp [record, hz]⟩
  | pushMarker name color =>
    obtain ⟨e, he⟩ := DebugName.require_of_invalid h
    exact ⟨.badName e, fun m => by simp [record, he, bind, Except.bind]⟩
  | _ => cases h

-- A list reached by typed recordings, replays and resets holds only commands fit to be replayed.
theorem apply_wellFormed {op : Op} (ht : op.isTyped = true)
    (hl : ∀ c ∈ l.commands, c.wellFormed = true) (h : Op.apply l op = .ok l') :
    ∀ c ∈ l'.commands, c.wellFormed = true := by
  cases op with
  | record r =>
    obtain ⟨-, c, hc, hwf⟩ := record_appends_checked ht h
    intro c' hc'
    rw [hc] at hc'
    rcases Array.mem_push.mp hc' with hc' | rfl
    · exact hl c' hc'
    · exact hwf
  | execute dev res =>
    obtain ⟨-, rfl⟩ := apply_execute h
    exact hl
  | reset =>
    cases h
    intro c hc
    simp [reset, empty] at hc

theorem runOps_wellFormed {ops : List Op} (ht : ∀ op ∈ ops, op.isTyped = true)
    (hl : ∀ c ∈ l.commands, c.wellFormed = true) (h : l.runOps ops = .ok l') :
    ∀ c ∈ l'.commands, c.wellFormed = true := by
  induction ops generalizing l with
  | nil =>
    cases h
    exact hl
  | cons op ops ih =>
    simp only [runOps, List.foldlM_cons, bind_eq_ok] at h
    obtain ⟨m, hm, hrest⟩ := h
    exact ih (fun o ho => ht o (List.mem_cons_of_mem _ ho))
      (apply_wellFormed (ht op List.mem_cons_self) hl hm) hrest

-- Through the typed recordings every recorded command is fit to be replayed: a recording whose
-- arguments fail faults before it touches the list, and a replay sends exactly these commands.
theorem typed_recordings_checked (ops : List Op) (l : CommandList)
    (htyped : ∀ op ∈ ops, op.isTyped = true) (hrun : empty.runOps ops = .ok l) :
    (∀ c ∈ l.commands, c.wellFormed = true) ∧
    (∀ r : Recording, r.argsValid = false → ∃ f, ∀ m : CommandList, m.record r = .error f) ∧
    (∀ m : CommandList, m.depth = 0 → m.record .popMarker = .error .unmatchedPop) ∧
    (∀ (dev : Device) (res : Resources) l' dev', l.execute dev res = .ok (l', dev') →
      dev'.calls = dev.calls ++ #[.beginStream dev.stats.commandStreams.toNat] ++
        l.commands.map res.call ++ #[.endStream dev.stats.commandStreams.toNat]) := by
  refine ⟨runOps_wellFormed htyped (fun _ h => by simp [empty] at h) hrun,
    fun _ h => record_of_args_invalid h, fun m hd => by simp [record, hd], ?_⟩
  intro dev res l' dev' hx
  obtain ⟨-, -, -, -, -, -, rfl⟩ := execute_eq_ok hx
  rfl

-- A marker around a draw and a dispatch, recorded through the typed operations: every command is
-- fit to be replayed, and a dispatch with an empty workgroup count is refused on that list.
theorem typed_recordings_checked_frame :
    let ops : List Op := [.record (.pushMarker "Opaque" .white), .record (.draw ⟨0, by decide⟩),
      .record (.dispatch 8 8 1), .record .popMarker]
    let l : CommandList := { commands := #[.pushMarker ⟨"Opaque", by decide, by decide⟩ .white,
      .draw ⟨0, by decide⟩, .dispatch 8 8 1, .popMarker] }
    (∀ op ∈ ops, op.isTyped = true) ∧ empty.runOps ops = .ok l ∧
      (∀ c ∈ l.commands, c.wellFormed = true) ∧ ∃ f, l.record (.dispatch 8 0 1) = .error f := by
  intro ops l
  have htyped : ∀ op ∈ ops, op.isTyped = true := by decide
  have hrun : empty.runOps ops = .ok l := by rfl
  obtain ⟨hwf, hargs, -, -⟩ := typed_recordings_checked ops l htyped hrun
  obtain ⟨f, hf⟩ := hargs (.dispatch 8 0 1) rfl
  exact ⟨htyped, hrun, hwf, f, hf l⟩

end CommandList

end GpuFrontend

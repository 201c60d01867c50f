import GpuFrontend.CommandList.Replay
import GpuFrontend.Proofs.Registry
import GpuFrontend.Proofs.Device

namespace GpuFrontend

namespace Registry

variable {k : HandleKind} {α : Type} {r : Registry k α} {h : Handle k}

-- A handle is issued exactly when its index is below the registry's size: the sentinel's
-- index is the capacity, which no registry reaches.
theorem contains_iff : r.contains h = true ↔ h.raw < r.entries.size := by
  have hle := r.size_le
  simp only [contains, size, Bool.and_eq_true, Handle.isValid_iff]
  constructor
  · exact fun hc => of_decide_eq_true hc.2
  · exact fun hlt => ⟨by omega, decide_eq_true hlt⟩

-- The device id kept in the entry of a handle, read by `id`; zero for a handle never issued.
def idOf (r : Registry k α) (id : α → Nat) (h : Handle k) : Nat := ((r.entries[h.raw]?).map id).getD 0

theorem getElem?_of_contains (hc : r.contains h = true) : ∃ v, r.entries[h.raw]? = some v :=
  ⟨_, Array.getElem?_eq_getElem (contains_iff.mp hc)⟩

theorem resolve_of_not_contains (hc : r.contains h = false) : ∃ f, r.resolve h = .error f := by
  have hlt : ¬ h.raw < r.entries.size := fun hlt => by simp [contains_iff.mpr hlt] at hc
  exact ⟨.outOfRange k h.raw r.size, by simp [resolve, hlt]⟩

end Registry

namespace Resources

def issued (res : Resources) : Command → Bool
  | .clearImage image _ => res.images.contains image
  | .clearDepthImage image _ _ _ => res.depthImages.contains image
  | .draw model => res.models.contains model
  | .drawBindless _ _ => true
  | .drawIndexedBindless model _ _ => res.models.contains model
  | .dispatch _ _ _ => true
  | .pushMarker _ _ => true
  | .popMarker => true
  | .beginPipeline p => res.graphicsPipelines.contains p
  | .endPipeline p => res.graphicsPipelines.contains p
  | .setComputePipeline p => res.computePipelines.contains p
  | .setViewport _ => true
  | .setScissorRect _ => true
  | .setConstantBuffer _ b => res.buffers.contains b
  | .setStorageBuffer _ b => res.buffers.contains b
  | .setSampler _ s => res.samplers.contains s
  | .setTexture _ t => res.textures.contains t
  | .setTextureArray _ a => res.textureArrays.contains a
  | .setVertexBuffer _ m => res.models.contains m
  | .setIndexBuffer m => res.models.contains m

-- The device call a command stands for: every handle becomes the device object of its entry
-- (the binding table, for a texture array), and a marker's name becomes its text.
def call (res : Resources) : Command → DeviceCall
  | .clearImage image color => .clearImage (res.images.idOf (·.object.id) image) color
  | .clearDepthImage image flags depth stencil =>
    .clearDepthImage (res.depthImages.idOf (·.object.id) image) flags depth stencil
  | .draw model => .draw (res.models.idOf (·.object.id) model)
  | .drawBindless vertices instances => .drawBindless vertices instances
  | .drawIndexedBindless model indices instances =>
    .drawIndexedBindless (res.models.idOf (·.object.id) model) indices instances
  | .dispatch x y z => .dispatch x y z
  | .pushMarker name _ => .pushMarker name.text
  | .popMarker => .popMarker
  | .beginPipeline p => .beginPipeline (res.graphicsPipelines.idOf (·.object.id) p)
  | .endPipeline p => .endPipeline (res.graphicsPipelines.idOf (·.object.id) p)
  | .setComputePipeline p => .setComputePipeline (res.computePipelines.idOf (·.object.id) p)
  | .setViewport v => .setViewport v
  | .setScissorRect rect => .setScissorRect rect
  | .setConstantBuffer slot b => .setConstantBuffer slot (res.buffers.idOf (·.object.id) b)
  | .setStorageBuffer slot b => .setStorageBuffer slot (res.buffers.idOf (·.object.id) b)
  | .setSampler slot s => .setSampler slot (res.samplers.idOf (·.object.id) s)
  | .setTexture slot t => .setTexture slot (res.textures.idOf (·.object.id) t)
  | .setTextureArray slot a => .setTextureArray slot (res.textureArrays.idOf (·.table.id) a)
  | .setVertexBuffer slot m => .setVertexBuffer slot (res.models.idOf (·.object.id) m)
  | .setIndexBuffer m => .setIndexBuffer (res.models.idOf (·.object.id) m)

variable {res : Resources} {c : Command}

theorem translate_of_issued (h : res.issued c = true) : res.translate c = .ok (res.call c) := by
  cases c <;> simp only [issued] at h
  -- the commands that name no handle translate as they are
  all_goals try rfl
  -- the others resolve their one handle to the entry whose id the call carries
  all_goals
    obtain ⟨v, hv⟩ := Registry.getElem?_of_contains h
    simp [translate, call, Registry.resolve_of_getElem? hv, Registry.idOf, hv, bind, Except.bind,
      pure, Except.pure]

theorem translate_of_not_issued (h : res.issued c = false) : ∃ f, res.translate c = .error f := by
  cases c <;> simp only [issued, Bool.true_eq_false] at h
  all_goals
    obtain ⟨f, hf⟩ := Registry.resolve_of_not_contains h
    exact ⟨f, by simp [translate, hf, bind, Except.bind]⟩

end Resources

namespace Device

variable {d : Device} {n : Nat} {res : Resources}

-- Sending commands to the open stream: each is translated, and its call is recorded in order.
theorem foldlM_send_of_issued (hs : d.openStream = some n) (cs : List Command)
    (hc : ∀ c ∈ cs, res.issued c = true) :
    cs.foldlM (fun d c => do d.send n (← res.translate c)) d =
      .ok { d with calls := d.calls ++ (cs.map res.call).toArray } := by
  induction cs generalizing d with
  | nil => simp [pure, Except.pure]
  | cons c cs ih =>
    have hrest : ∀ c ∈ cs, res.issued c = true := fun c' h => hc c' (List.mem_cons_of_mem _ h)
    have hsend : (do d.send n (← res.translate c)) = .ok { d with calls := d.calls.push (res.call c) } := by
      rw [Resources.translate_of_issued (hc c List.mem_cons_self), ok_bind, send_of_open hs]
    simp only [List.foldlM_cons]
    rw [hsend, ok_bind, ih (d := { d with calls := d.calls.push (res.call c) }) hs hrest]
    simp

-- A command naming a handle never issued stops the stream with a fault.
theorem foldlM_send_of_not_issued (hs : d.openStream = some n) (cs : List Command)
    (hc : ∃ c ∈ cs, res.issued c = false) :
    ∃ f, cs.foldlM (fun d c => do d.send n (← res.translate c)) d = .error f := by
  induction cs generalizing d with
  | nil => simp at hc
  | cons c cs ih =>
    simp only [List.foldlM_cons]
    rcases Bool.eq_false_or_eq_true (res.issued c) with hi | hi
    · -- the first command translates, and the handle never issued comes later
      obtain ⟨c', hc', hn⟩ := hc
      have hrest : ∃ c ∈ cs, res.issued c = false := by
        rcases List.mem_cons.mp hc' with rfl | hc'
        · rw [hi] at hn
          cases hn
        · exact ⟨c', hc', hn⟩
      rw [Resources.translate_of_issued hi, ok_bind, send_of_open hs, ok_bind]
      exact ih hs hrest
    · obtain ⟨f, hf⟩ := Resources.translate_of_not_issued hi
      exact ⟨f, by rw [hf, error_bind, error_bind]⟩

end Device

namespace CommandList

variable {l : CommandList} {dev : Device} {res : Resources}

-- The guards of a replay, in the order they are checked: an open marker, a second replay, a
-- stream already open. None of them reaches the device.
theorem execute_of_depth_ne_zero (h : l.depth ≠ 0) :
    l.execute dev res = .error (.unbalancedMarkers l.depth) := by
  simp [execute, h]

theorem execute_of_executed (h : l.depth = 0) (he : l.executed = true) :
    l.execute dev res = .error .executedTwice := by
  simp [execute, h, he]

theorem execute_of_stream_open (h : l.depth = 0) (he : l.executed = false) {n : Nat}
    (ho : dev.openStream = some n) : l.execute dev res = .error .streamAlreadyOpen := by
  simp [execute, h, he, Device.beginStream_of_open ho, bind, Except.bind]

-- A stream count at its width is the overflow fault as the stream would open.
theorem execute_of_full (h : l.depth = 0) (he : l.executed = false) (ho : dev.openStream = none)
    (hs : UInt32.size ≤ dev.stats.commandStreams.toNat + 1) :
    l.execute dev res = .error .addOverflow := by
  simp only [execute, h, he, ne_eq, not_true_eq_false, Bool.false_eq_true, ↓reduceIte,
    Device.beginStream_of_full ho hs]
  rfl

-- Past the guards, the stream opened is the one numbered by the streams counted so far.
theorem execute_of_guards (h : l.depth = 0) (he : l.executed = false) (ho : dev.openStream = none)
    (hs : dev.stats.commandStreams.toNat + 1 < UInt32.size) :
    l.execute dev res = (do
      let d ← l.commands.toList.foldlM
        (fun d c => do d.send dev.stats.commandStreams.toNat (← res.translate c))
        { dev with stats := { dev.stats with commandStreams := dev.stats.commandStreams + 1 },
                   calls := dev.calls.push (.beginStream dev.stats.commandStreams.toNat),
                   openStream := some dev.stats.commandStreams.toNat }
      let d ← d.endStream dev.stats.commandStreams.toNat
      pure ({ l with executed := true }, d)) := by
  simp only [execute, h, he, ne_eq, not_true_eq_false, Bool.false_eq_true, ↓reduceIte,
    Device.beginStream_of_closed ho hs, Array.foldlM_toList]
  rfl

-- A replay with every handle issued records the whole stream on the device.
theorem execute_of_issued (h : l.depth = 0) (he : l.executed = false) (ho : dev.openStream = none)
    (hs : dev.stats.commandStreams.toNat + 1 < UInt32.size)
    (hc : ∀ c ∈ l.commands, res.issued c = true) :
    l.execute dev res = .ok ({ l with executed := true },
      { dev with stats := { dev.stats with commandStreams := dev.stats.commandStreams + 1 },
                 calls := dev.calls ++ #[.beginStream dev.stats.commandStreams.toNat] ++
                   l.commands.map res.call ++ #[.endStream dev.stats.commandStreams.toNat],
                 openStream := none }) := by
  have hc' : ∀ c ∈ l.commands.toList, res.issued c = true := fun c h => hc c (Array.mem_toList_iff.mp h)
  rw [execute_of_guards h he ho hs, Device.foldlM_send_of_issued rfl _ hc']
  simp only [bind, Except.bind]
  rw [Device.endStream_of_open rfl]
  simp only [pure, Except.pure, Except.ok.injEq, Prod.mk.injEq, true_and]
  -- the calls recorded: the stream's opening, the commands' calls, its closing
  congr 1
  apply Array.toList_inj.mp
  simp

-- A handle never issued is a fault, whether the stream opened or the count overflowed first.
theorem execute_of_not_issued (h : l.depth = 0) (he : l.executed = false) (ho : dev.openStream = none)
    (hc : ∃ c ∈ l.commands, res.issued c = false) : ∃ f, l.execute dev res = .error f := by
  by_cases hs : dev.stats.commandStreams.toNat + 1 < UInt32.size
  · obtain ⟨c, hc, hn⟩ := hc
    obtain ⟨f, hf⟩ := Device.foldlM_send_of_not_issued (d := { dev with
        stats := { dev.stats with commandStreams := dev.stats.commandStreams + 1 },
        calls := dev.calls.push (.beginStream dev.stats.commandStreams.toNat),
        openStream := some dev.stats.commandStreams.toNat }) rfl l.commands.toList
      ⟨c, Array.mem_toList_iff.mpr hc, hn⟩
    rw [execute_of_guards h he ho hs, hf]
    exact ⟨f, rfl⟩
  · exact ⟨_, execute_of_full h he ho (Nat.not_lt.mp hs)⟩

-- A replay that succeeded passed every guard, found the stream count below its width, and
-- recorded the whole stream.
theorem execute_eq_ok {l' : CommandList} {dev' : Device} (hx : l.execute dev res = .ok (l', dev')) :
    l.depth = 0 ∧ l.executed = false ∧ dev.openStream = none ∧
    dev.stats.commandStreams.toNat + 1 < UInt32.size ∧
    (∀ c ∈ l.commands, res.issued c = true) ∧ l' = { l with executed := true } ∧
    dev' = { dev with stats := { dev.stats with commandStreams := dev.stats.commandStreams + 1 },
                      calls := dev.calls ++ #[.beginStream dev.stats.commandStreams.toNat] ++
                        l.commands.map res.call ++ #[.endStream dev.stats.commandStreams.toNat],
                      openStream := none } := by
  -- each guard in turn: failing it would have been a fault
  have h : l.depth = 0 := guard_of_eq_ok hx fun h => ⟨_, execute_of_depth_ne_zero h⟩
  have he : l.executed = false := guard_of_eq_ok hx fun he =>
    ⟨_, execute_of_executed h (Bool.of_not_eq_false he)⟩
  have ho : dev.openStream = none := guard_of_eq_ok hx fun ho => by
    obtain ⟨n, hn⟩ := Option.ne_none_iff_exists'.mp ho
    exact ⟨_, execute_of_stream_open h he hn⟩
  have hs : dev.stats.commandStreams.toNat + 1 < UInt32.size := guard_of_eq_ok hx fun hs =>
    ⟨_, execute_of_full h he ho (Nat.not_lt.mp hs)⟩
  have hc : ∀ c ∈ l.commands, res.issued c = true := fun c hc => guard_of_eq_ok hx fun hi =>
    execute_of_not_issued h he ho ⟨c, hc, Bool.of_not_eq_true hi⟩
  rw [execute_of_issued h he ho hs hc] at hx
  simp only [Except.ok.injEq, Prod.mk.injEq] at hx
  exact ⟨h, he, ho, hs, hc, hx.1.symm, hx.2.symm⟩

-- Replaying a list: the guards in the order they are checked, the stream count's overflow, a
-- fault for a handle never issued, and otherwise exactly one stream, numbered by the streams
-- counted before, holding the call of every command in recording order.
theorem execute_outcome (l : CommandList) (dev : Device) (res : Resources) :
    (l.depth ≠ 0 → l.execute dev res = .error (.unbalancedMarkers l.depth)) ∧
    (l.depth = 0 → l.executed = true → l.execute dev res = .error .executedTwice) ∧
    (l.depth = 0 → l.executed = false → dev.openStream ≠ none →
      l.execute dev res = .error .streamAlreadyOpen) ∧
    (l.depth = 0 → l.executed = false → dev.openStream = none →
      UInt32.size ≤ dev.stats.commandStreams.toNat + 1 → l.execute dev res = .error .addOverflow) ∧
    (l.depth = 0 → l.executed = false → dev.openStream = none →
      (∃ c ∈ l.commands, res.issued c = false) → ∃ f, l.execute dev res = .error f) ∧
    (l.depth = 0 → l.executed = false → dev.openStream = none →
      dev.stats.commandStreams.toNat + 1 < UInt32.size →
      (∀ c ∈ l.commands, res.issued c = true) →
      l.execute dev res = .ok ({ l with executed := true },
        { dev with stats := { dev.stats with commandStreams := dev.stats.commandStreams + 1 },
                   calls := dev.calls ++ #[.beginStream dev.stats.commandStreams.toNat] ++
                     l.commands.map res.call ++ #[.endStream dev.stats.commandStreams.toNat],
                   openStream := none })) := by
  refine ⟨execute_of_depth_ne_zero, execute_of_executed, ?_, execute_of_full, execute_of_not_issued,
    execute_of_issued⟩
  intro h he ho
  obtain ⟨n, hn⟩ := Option.ne_none_iff_exists'.mp ho
  exact execute_of_stream_open h he hn

-- A list that draws model 0, replayed on a fresh device: the call names the model's device
-- object, 7.
theorem execute_draw_stream :
    ({ commands := #[.draw ⟨0, by decide⟩, .dispatch 1 2 3] } : CommandList).execute {}
      { Resources.empty default with models := ⟨#[⟨⟨7, "quad"⟩, "quad", .none⟩], by decide⟩ } =
    .ok ({ commands := #[.draw ⟨0, by decide⟩, .dispatch 1 2 3], executed := true },
      { stats := { commandStreams := 1 },
        calls := #[.beginStream 0, .draw 7, .dispatch 1 2 3, .endStream 0] }) := by
  rw [(execute_outcome _ _ _).2.2.2.2.2 rfl rfl rfl (by decide) (by decide)]
  simp [Resources.call, Registry.idOf]

end CommandList

end GpuFrontend

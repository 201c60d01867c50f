import GpuFrontend.Proofs.Render

namespace GpuFrontend

namespace Markers

section

variable {α β : Type}

-- Markers opened minus markers closed, where `δ` says how each item moves the marker depth.
def net (δ : α → Int) : List α → Int
  | [] => 0
  | x :: xs => δ x + net δ xs

-- No prefix closes a marker that it did not open.
def Nested (δ : α → Int) (xs : List α) : Prop := ∀ p, p <+: xs → 0 ≤ net δ p

-- Nested, and every marker opened is closed again.
structure Balanced (δ : α → Int) (xs : List α) : Prop where
  nested : Nested δ xs
  closed : net δ xs = 0

variable {δ : α → Int} {xs ys : List α}

@[simp] theorem net_nil : net δ [] = 0 := rfl

@[simp] theorem net_cons (x : α) (xs : List α) : net δ (x :: xs) = δ x + net δ xs := rfl

@[simp] theorem net_append (xs ys : List α) : net δ (xs ++ ys) = net δ xs + net δ ys := by
  induction xs with
  | nil => simp
  | cons x xs ih =>
    simp only [List.cons_append, net_cons, ih]
    omega

theorem net_replicate {x : α} (hx : δ x = -1) (n : Nat) : net δ (List.replicate n x) = -n := by
  induction n with
  | zero => rfl
  | succ n ih =>
    simp only [List.replicate_succ, net_cons, hx, ih]
    omega

theorem net_map {δ' : β → Int} {f : β → α} (hf : ∀ y, δ (f y) = δ' y) (ys : List β) :
    net δ (ys.map f) = net δ' ys := by
  induction ys with
  | nil => rfl
  | cons y ys ih => simp [hf, ih]

theorem prefix_append_cases {p : List α} (h : p <+: xs ++ ys) :
    p <+: xs ∨ ∃ q, q <+: ys ∧ p = xs ++ q := by
  rcases List.prefix_or_prefix_of_prefix h (List.prefix_append xs ys) with hp | ⟨q, rfl⟩
  · exact .inl hp
  · exact .inr ⟨q, (List.prefix_append_right_inj xs).mp h, rfl⟩

theorem nested_nil : Nested δ [] := by
  intro p hp
  rw [List.prefix_nil.mp hp]
  exact Int.le_refl 0

theorem Nested.cons_of_zero {x : α} (hx : δ x = 0) (h : Nested δ xs) : Nested δ (x :: xs) := by
  intro p hp
  rcases List.prefix_cons_iff.mp hp with rfl | ⟨t, rfl, ht⟩
  · exact Int.le_refl 0
  · rw [net_cons, hx, Int.zero_add]
    exact h t ht

-- Reading on past a nested list stays nested while the depth, counted from its start, stays
-- non-negative.
theorem Nested.append (hx : Nested δ xs) (hy : ∀ q, q <+: ys → 0 ≤ net δ xs + net δ q) :
    Nested δ (xs ++ ys) := by
  intro p hp
  rcases prefix_append_cases hp with hp | ⟨q, hq, rfl⟩
  · exact hx p hp
  · rw [net_append]
    exact hy q hq

theorem Nested.concat {x : α} (hx : Nested δ xs) (h : 0 ≤ net δ (xs ++ [x])) :
    Nested δ (xs ++ [x]) := by
  intro p hp
  rcases List.prefix_concat_iff.mp hp with rfl | hp
  · exact h
  · exact hx p hp

theorem Nested.map {δ' : β → Int} {f : β → α} (hf : ∀ y, δ (f y) = δ' y) {ys : List β}
    (h : Nested δ' ys) : Nested δ (ys.map f) := by
  intro p hp
  have hp' : ys.take p.length <+: ys := List.take_prefix _ _
  rw [List.prefix_iff_eq_take.mp hp, ← List.map_take, net_map hf]
  exact h _ hp'

-- A marker opened, a nested run of items, and as many closes as the run leaves open plus one:
-- the whole is balanced.
theorem balanced_bracket (hxs : Nested δ xs) {o c : α} (ho : δ o = 1) (hc : δ c = -1) {k : Nat}
    (hk : (k : Int) = net δ xs + 1) : Balanced δ (o :: (xs ++ List.replicate k c)) := by
  constructor
  · intro p hp
    rcases List.prefix_cons_iff.mp hp with rfl | ⟨t, rfl, ht⟩
    · exact Int.le_refl 0
    · rw [net_cons, ho]
      rcases prefix_append_cases ht with ht | ⟨u, hu, rfl⟩
      · have := hxs t ht
        omega
      · -- a prefix of the closes is some of them, at most all
        rw [List.prefix_iff_eq_take.mp hu, List.take_replicate, net_append, net_replicate hc]
        omega
  · rw [net_cons, net_append, net_replicate hc, ho]
    omega

theorem balanced_nil : Balanced δ [] := ⟨nested_nil, rfl⟩

-- Balanced runs one after another are balanced: the first closes all it opens, so the second
-- is read from depth zero.
theorem Balanced.append (hx : Balanced δ xs) (hy : Balanced δ ys) : Balanced δ (xs ++ ys) where
  nested := hx.nested.append fun q hq => by
    rw [hx.closed, Int.zero_add]
    exact hy.nested q hq
  closed := by rw [net_append, hx.closed, hy.closed, Int.add_zero]

theorem balanced_flatMap {f : β → List α} {ys : List β} (h : ∀ y ∈ ys, Balanced δ (f y)) :
    Balanced δ (ys.flatMap f) := by
  induction ys with
  | nil => exact balanced_nil
  | cons y ys ih =>
    rw [List.flatMap_cons]
    exact (h y List.mem_cons_self).append (ih fun y' hy' => h y' (List.mem_cons_of_mem y hy'))

instance (δ : α → Int) (xs : List α) : Decidable (Nested δ xs) :=
  decidable_of_iff (∀ n, n ≤ xs.length → 0 ≤ net δ (xs.take n)) (by
    constructor
    · intro h p hp
      rw [List.prefix_iff_eq_take.mp hp]
      exact h _ (List.IsPrefix.length_le hp)
    · intro h n _
      exact h _ (List.take_prefix _ _))

end

end Markers

-- How a command of a kind moves the marker depth: a push opens a marker and a pop closes one.
def CommandKind.markerDelta : CommandKind → Int
  | .pushMarker => 1
  | .popMarker => -1
  | _ => 0

def Command.markerDelta (c : Command) : Int := c.kind.markerDelta

-- How a device call moves the marker depth.
def DeviceCall.markerDelta : DeviceCall → Int
  | .pushMarker _ => 1
  | .popMarker => -1
  | _ => 0

-- How a recording moves the depth a list keeps: only the typed push and pop move it.
def Recording.depthDelta : Recording → Int
  | .pushMarker .. => 1
  | .popMarker => -1
  | _ => 0

-- Whether a recording appends a marker as a raw command, which the depth does not count.
def Recording.addsRawMarker : Recording → Bool
  | .raw kind _ => kind.markerDelta != 0
  | _ => false

theorem Command.kind_assemble {k : CommandKind} {f : CommandFields} {c : Command}
    (h : Command.assemble k f = some c) : c.kind = k := by
  cases k <;> simp only [Command.assemble, Option.map_eq_some_iff, Option.some.injEq] at h <;>
    first | (subst h; rfl) | (obtain ⟨_, -, rfl⟩ := h; rfl)

theorem Resources.call_markerDelta (res : Resources) (c : Command) :
    (res.call c).markerDelta = c.markerDelta := by
  cases c <;> rfl

namespace CommandList

variable {l l' : CommandList} {r : Recording}

theorem append_eq_ok {c : Command} (h : l.append c = .ok l') :
    l' = { l with commands := l.commands.push c } := by
  unfold append at h
  split at h
  · cases h
  · cases h
    rfl

-- A recording moves the depth by its own delta and appends at most one command; unless it is a
-- raw marker, the command it appends moves the markers as the recording moves the depth.
theorem record_markers (h : l.record r = .ok l') :
    (l'.depth : Int) = l.depth + r.depthDelta ∧
    (l'.commands = l.commands ∧ r.depthDelta = 0 ∨
      ∃ c, l'.commands = l.commands.push c ∧
        (r.addsRawMarker = false → c.markerDelta = r.depthDelta)) := by
  cases r with
  | pushMarker name color =>
    simp only [record, bind_eq_ok, pure_eq_ok] at h
    obtain ⟨n, -, m, hm, rfl⟩ := h
    obtain rfl := append_eq_ok hm
    exact ⟨by simp [Recording.depthDelta], .inr ⟨_, rfl, fun _ => rfl⟩⟩
  | popMarker =>
    simp only [record] at h
    split at h
    · cases h
    · rename_i hd
      obtain ⟨m, hm, hl'⟩ := bind_eq_ok.mp h
      obtain rfl := append_eq_ok hm
      obtain rfl := pure_eq_ok.mp hl'
      exact ⟨by simp [Recording.depthDelta]; omega, .inr ⟨_, rfl, fun _ => rfl⟩⟩
  | raw kind fields =>
    simp only [record] at h
    split at h
    · cases h
      exact ⟨by simp [Recording.depthDelta], .inl ⟨rfl, rfl⟩⟩
    · rename_i c hc
      -- a raw command never moves the depth, and moves the markers as its kind does
      have hmark : ∀ c' : Command, c'.kind = c.kind →
          Recording.addsRawMarker (.raw kind fields) = false →
          c'.markerDelta = Recording.depthDelta (.raw kind fields) := by
        intro c' hk hr
        rw [Command.markerDelta, hk, Command.kind_assemble hc]
        simpa [Recording.addsRawMarker, Recording.depthDelta] using hr
      split at h
      · cases h
      · split at h
        · obtain ⟨n, -, hl'⟩ := bind_eq_ok.mp h
          obtain rfl := pure_eq_ok.mp hl'
          exact ⟨by simp [Recording.depthDelta], .inr ⟨_, rfl, hmark _ rfl⟩⟩
        · cases h
          exact ⟨by simp [Recording.depthDelta], .inr ⟨_, rfl, hmark _ rfl⟩⟩
  -- the other typed operations append one command that is no marker, behind guards on their
  -- arguments only
  | _ =>
    simp only [record] at h
    repeat' split at h
    all_goals first
      | cases h
      | obtain rfl := append_eq_ok h
        exact ⟨by simp [Recording.depthDelta], .inr ⟨_, rfl, fun _ => rfl⟩⟩

-- The depth a list keeps is the net of the markers its commands open, and no prefix of its commands
-- closes a marker it did not open.
structure MarkersTracked (l : CommandList) : Prop where
  depth_eq : (l.depth : Int) = Markers.net Command.markerDelta l.commands.toList
  nested : Markers.Nested Command.markerDelta l.commands.toList

theorem markersTracked_empty : MarkersTracked empty := ⟨rfl, Markers.nested_nil⟩

-- A recording that is no raw marker keeps the depth in step with the commands; the new commands
-- stay nested because the depth they leave is a count, never negative.
theorem MarkersTracked.record (hl : MarkersTracked l) (hr : r.addsRawMarker = false)
    (h : l.record r = .ok l') : MarkersTracked l' := by
  obtain ⟨hd, hc⟩ := record_markers h
  rcases hc with ⟨hc, h0⟩ | ⟨c, hc, hδ⟩
  · refine ⟨?_, ?_⟩
    · rw [hc, hd, h0, Int.add_zero]
      exact hl.depth_eq
    · rw [hc]
      exact hl.nested
  · have hdepth : (l'.depth : Int) = Markers.net Command.markerDelta l'.commands.toList := by
      rw [hc, Array.toList_push, Markers.net_append, hd, hl.depth_eq]
      simp [hδ hr]
    refine ⟨hdepth, ?_⟩
    rw [hc, Array.toList_push]
    apply hl.nested.concat
    rw [← Array.toList_push, ← hc, ← hdepth]
    exact Int.natCast_nonneg _

inductive Op
  | record (r : Recording)
  | execute (dev : Device) (res : Resources)
  | reset

def Op.apply (l : CommandList) : Op → Except Fault CommandList
  | .record r => l.record r
  | .execute dev res => (l.execute dev res).map Prod.fst
  | .reset => .ok l.reset

def Op.addsRawMarker : Op → Bool
  | .record r => r.addsRawMarker
  | _ => false

def runOps (l : CommandList) (ops : List Op) : Except Fault CommandList := ops.foldlM Op.apply l

-- A replay that succeeded marks the list replayed and keeps its commands and its depth, which
-- the replay needed to be zero.
theorem apply_execute {dev : Device} {res : Resources} (h : Op.apply l (.execute dev res) = .ok l') :
    l.depth = 0 ∧ l' = { l with executed := true } := by
  simp only [Op.apply] at h
  cases hx : l.execute dev res with
  | error f =>
    rw [hx] at h
    cases h
  | ok p =>
    rw [hx] at h
    cases h
    obtain ⟨hd, -, -, -, -, hp, -⟩ := execute_eq_ok hx
    exact ⟨hd, hp⟩

-- A replay only marks the list replayed, and a reset empties it.
theorem MarkersTracked.apply (hl : MarkersTracked l) {op : Op} (hr : op.addsRawMarker = false)
    (h : Op.apply l op = .ok l') : MarkersTracked l' := by
  cases op with
  | record r => exact hl.record hr h
  | execute dev res =>
    obtain ⟨-, rfl⟩ := apply_execute h
    exact ⟨hl.depth_eq, hl.nested⟩
  | reset =>
    cases h
    exact markersTracked_empty

theorem MarkersTracked.runOps (hl : MarkersTracked l) {ops : List Op}
    (hr : ∀ op ∈ ops, op.addsRawMarker = false) (h : l.runOps ops = .ok l') :
    MarkersTracked l' := by
  induction ops generalizing l with
  | nil =>
    cases h
    exact hl
  | cons op ops ih =>
    simp only [runOps, List.foldlM_cons, bind_eq_ok] at h
    obtain ⟨m, hm, hrest⟩ := h
    exact ih (hl.apply (hr op List.mem_cons_self) hm) (fun o ho => hr o (List.mem_cons_of_mem _ ho))
      hrest

-- A replay needs every marker closed; the stream's opening and closing move no marker, so the
-- markers it sends are those of the commands, balanced.
theorem MarkersTracked.execute_balanced (hl : MarkersTracked l) {dev dev' : Device}
    {res : Resources} {l'' : CommandList} (h : l.execute dev res = .ok (l'', dev')) :
    ∃ made : Array DeviceCall, dev'.calls = dev.calls ++ made ∧
      Markers.Balanced DeviceCall.markerDelta made.toList := by
  obtain ⟨hd, -, -, -, -, -, rfl⟩ := execute_eq_ok h
  have hnet : Markers.net DeviceCall.markerDelta (l.commands.toList.map res.call) = 0 := by
    rw [Markers.net_map res.call_markerDelta, ← hl.depth_eq, hd]
    rfl
  have hcalls : Markers.Nested DeviceCall.markerDelta (l.commands.toList.map res.call ++
      [.endStream dev.stats.commandStreams.toNat]) :=
    (hl.nested.map res.call_markerDelta).concat (by simp [hnet, DeviceCall.markerDelta])
  refine ⟨#[.beginStream dev.stats.commandStreams.toNat] ++ l.commands.map res.call ++
    #[.endStream dev.stats.commandStreams.toNat], by simp, ?_, ?_⟩
  · have hmade : Markers.Nested DeviceCall.markerDelta (.beginStream dev.stats.commandStreams.toNat ::
        (l.commands.toList.map res.call ++ [.endStream dev.stats.commandStreams.toNat])) :=
      hcalls.cons_of_zero rfl
    simpa using hmade
  · simp [hnet, DeviceCall.markerDelta]

-- In a run from an empty list in which no raw command is a marker, the depth a list keeps is the
-- markers its commands leave open, and no prefix of them closes a marker it did not open; so a
-- replay sends balanced markers. A raw command, a marker included, never moves the depth.
theorem marker_depth_counts_markers (ops : List Op) (l : CommandList)
    (hraw : ∀ op ∈ ops, op.addsRawMarker = false) (hrun : empty.runOps ops = .ok l) :
    (l.depth : Int) = Markers.net Command.markerDelta l.commands.toList ∧
    Markers.Nested Command.markerDelta l.commands.toList ∧
    (∀ dev res l' dev', l.execute dev res = .ok (l', dev') →
      ∃ made : Array DeviceCall, dev'.calls = dev.calls ++ made ∧
        Markers.Balanced DeviceCall.markerDelta made.toList) ∧
    ∀ (m m' : CommandList) kind fields, m.record (.raw kind fields) = .ok m' →
      m'.depth = m.depth := by
  have hl := markersTracked_empty.runOps hraw hrun
  refine ⟨hl.depth_eq, hl.nested, fun _ _ _ _ hx => hl.execute_balanced hx, ?_⟩
  intro m m' kind fields h
  have hd := (record_markers h).1
  simp only [Recording.depthDelta, Int.add_zero, Int.natCast_inj] at hd
  exact hd

-- A marker appended as a raw command is among the commands but not in the depth.
theorem raw_marker_uncounted :
    ∃ l, empty.runOps [.record (.raw .pushMarker {})] = .ok l ∧
      (l.depth : Int) ≠ Markers.net Command.markerDelta l.commands.toList :=
  ⟨{ commands := #[.pushMarker .empty .zero] }, rfl, by decide⟩

-- A marker closed, a raw dispatch, a replay and a reset, then one marker left open.
theorem marker_depth_counts_markers_after_replay :
    let ops : List Op := [.record (.pushMarker "Opaque" .white),
      .record (.raw .dispatch { x := some 1 }),
      .record .popMarker, .execute {} (Resources.empty default), .reset,
      .record (.pushMarker "Shadows" .white)]
    let l : CommandList :=
      { commands := #[.pushMarker ⟨"Shadows", by decide, by decide⟩ .white], depth := 1 }
    (∀ op ∈ ops, op.addsRawMarker = false) ∧ empty.runOps ops = .ok l ∧
      (l.depth : Int) = Markers.net Command.markerDelta l.commands.toList := by
  intro ops l
  have hraw : ∀ op ∈ ops, op.addsRawMarker = false := by decide
  have hrun : empty.runOps ops = .ok l := by rfl
  exact ⟨hraw, hrun, (marker_depth_counts_markers ops l hraw hrun).1⟩

-- Recording a body with no raw marker moves the depth by the net of its recordings; every prefix
-- of the commands it appends has the net of some prefix of the body.
theorem recordAll_markers {rs : List Recording} (hr : ∀ r ∈ rs, r.addsRawMarker = false)
    (h : l.recordAll rs = .ok l') :
    (l'.depth : Int) = l.depth + Markers.net Recording.depthDelta rs ∧
    ∃ cs, l'.commands.toList = l.commands.toList ++ cs ∧
      Markers.net Command.markerDelta cs = Markers.net Recording.depthDelta rs ∧
      ∀ q, q <+: cs → ∃ ps, ps <+: rs ∧
        Markers.net Command.markerDelta q = Markers.net Recording.depthDelta ps := by
  induction rs generalizing l with
  | nil =>
    cases h
    refine ⟨by simp, [], by simp, by simp, fun q hq => ⟨[], List.nil_prefix, ?_⟩⟩
    rw [List.prefix_nil.mp hq]
    rfl
  | cons r rs ih =>
    simp only [recordAll, List.foldlM_cons, bind_eq_ok] at h
    obtain ⟨m, hm, hrest⟩ := h
    obtain ⟨hd, hcm⟩ := record_markers hm
    obtain ⟨hd', cs, hcs, hnet, hpre⟩ :=
      ih (fun r' h' => hr r' (List.mem_cons_of_mem _ h')) hrest
    refine ⟨by rw [hd', hd, Markers.net_cons]; omega, ?_⟩
    rcases hcm with ⟨hc, h0⟩ | ⟨c, hc, hδ⟩
    · -- the recording appended nothing, and moved no marker
      refine ⟨cs, by rw [hcs, hc], by rw [Markers.net_cons, h0, hnet]; omega, fun q hq => ?_⟩
      obtain ⟨ps, hps, hq⟩ := hpre q hq
      exact ⟨r :: ps, (List.prefix_cons_inj r).mpr hps, by rw [Markers.net_cons, h0, hq]; omega⟩
    · -- the recording appended one command, which moves the markers as it moved the depth
      have hc' := hδ (hr r List.mem_cons_self)
      refine ⟨c :: cs, by rw [hcs, hc]; simp, by rw [Markers.net_cons, Markers.net_cons, hc', hnet],
        fun q hq => ?_⟩
      rcases List.prefix_cons_iff.mp hq with rfl | ⟨t, rfl, ht⟩
      · exact ⟨[], List.nil_prefix, rfl⟩
      · obtain ⟨ps, hps, ht⟩ := hpre t ht
        exact ⟨r :: ps, (List.prefix_cons_inj r).mpr hps,
          by rw [Markers.net_cons, Markers.net_cons, hc', ht]⟩

end CommandList

namespace RenderPass

variable {p : RenderPass} {l l' : CommandList}

-- A body that never pops a marker it did not push, and appends no raw marker, leaves the depth
-- it found raised by the markers its commands leave open, and those commands are nested.
theorem body_markers {lp : CommandList} (hraw : ∀ r ∈ p.script.body, r.addsRawMarker = false)
    (hnest : Markers.Nested Recording.depthDelta p.script.body)
    (hb : ({ depth := l.depth + 1 } : CommandList).recordAll p.script.body = .ok lp) :
    (lp.depth : Int) = l.depth + 1 + Markers.net Command.markerDelta lp.commands.toList ∧
    Markers.Nested Command.markerDelta lp.commands.toList := by
  obtain ⟨hd, cs, hcs, hnet, hpre⟩ := CommandList.recordAll_markers hraw hb
  simp only [List.nil_append] at hcs
  rw [hcs]
  refine ⟨by simp only [hd, hnet, Int.natCast_add, Int.natCast_one], fun q hq => ?_⟩
  obtain ⟨ps, hps, hq⟩ := hpre q hq
  rw [hq]
  exact hnest ps hps

-- In a frame such a body is recorded one marker deep, and the pass sends its marker, the body's
-- calls and a pop for every marker left open: these balance.
theorem frameCalls_balanced (res : Resources) {lp : CommandList}
    (hraw : ∀ r ∈ p.script.body, r.addsRawMarker = false)
    (hnest : Markers.Nested Recording.depthDelta p.script.body)
    (hb : ({ depth := 1 } : CommandList).recordAll p.script.body = .ok lp) :
    Markers.Balanced DeviceCall.markerDelta (p.frameCalls res lp).toList := by
  obtain ⟨hd, hcs⟩ := body_markers (l := .empty) hraw hnest hb
  have hk : (lp.depth : Int) =
      Markers.net DeviceCall.markerDelta (lp.commands.toList.map res.call) + 1 := by
    rw [Markers.net_map res.call_markerDelta, hd]
    simp only [CommandList.empty]
    omega
  have hbracket := Markers.balanced_bracket (hcs.map res.call_markerDelta)
    (o := .pushMarker p.name.text) (c := .popMarker) rfl rfl hk
  simpa [frameCalls] using hbracket

-- A body that appends a marker as a raw command, run on an empty list: the depth does not count
-- the marker, so the pass pops its own marker only and the segment leaves the raw one open.
theorem execute_raw_marker_body_leaves_marker_open :
    let p : RenderPass :=
      ⟨⟨"P", by decide, by decide⟩, { body := [.raw .pushMarker { name := some "R" }] }, false⟩
    ∃ l', p.execute .empty = .ok l' ∧ l'.depth = 0 ∧ l'.commands.size = 3 ∧
      l'.commands.toList.getLast? = some .popMarker ∧
      Markers.net Command.markerDelta l'.commands.toList = 1 :=
  ⟨_, rfl, rfl, rfl, rfl, by decide⟩

end RenderPass

namespace RenderGraph

-- The calls of a frame whose running passes have bodies that append no raw marker and never pop
-- a marker they did not push are balanced: one balanced bracket for each pass that runs.
theorem frameCalls_balanced (res : Resources) {body : RenderPass → CommandList} {g : RenderGraph}
    (hbody : ∀ n ∈ g.nodes, n.runs = true →
      (∀ r ∈ n.pass.script.body, r.addsRawMarker = false) ∧
      Markers.Nested Recording.depthDelta n.pass.script.body ∧
      ({ depth := 1 } : CommandList).recordAll n.pass.script.body = .ok (body n.pass)) :
    Markers.Balanced DeviceCall.markerDelta (g.frameCalls res body).toList := by
  rw [frameCalls, Array.toList_flatMap]
  apply Markers.balanced_flatMap
  intro n hn
  cases hr : n.runs with
  | false => exact Markers.balanced_nil
  | true =>
    obtain ⟨hraw, hnest, hb⟩ := hbody n (Array.mem_toList_iff.mp hn) hr
    simpa using RenderPass.frameCalls_balanced res hraw hnest hb

end RenderGraph

end GpuFrontend

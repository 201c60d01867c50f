import GpuFrontend.Proofs.Operations

namespace GpuFrontend

theorem DebugName.require_text (n : DebugName) : DebugName.require n.text = .ok n := by
  have hmake : DebugName.make n.text = .ok n := by simp [DebugName.make, n.ascii, n.short]
  rw [DebugName.require, hmake]
  rfl

namespace CommandList

variable {l l' : CommandList}

-- Recording never reads the commands already in a list: after a prefix it appends what it
-- appends to the list without them, and fails as that list fails.
theorem append_prefixed (pre : Array Command) (l : CommandList) (c : Command) :
    { l with commands := pre ++ l.commands }.append c =
      (l.append c).map fun m => { m with commands := pre ++ m.commands } := by
  unfold append
  cases l.executed <;> simp [Except.map]

theorem record_prefixed (pre : Array Command) (l : CommandList) (r : Recording) :
    { l with commands := pre ++ l.commands }.record r =
      (l.record r).map fun m => { m with commands := pre ++ m.commands } := by
  cases r with
  | pushMarker name color =>
    simp only [record, append]
    cases DebugName.require name <;> cases l.executed <;>
      simp [Except.map, bind, Except.bind, pure, Except.pure]
  | popMarker =>
    simp only [record, append]
    by_cases hd : l.depth = 0 <;> cases l.executed <;> simp [hd, Except.map, Functor.map]
  | raw kind fields =>
    simp only [record]
    cases Command.assemble kind fields with
    | none => simp [Except.map]
    | some c =>
      cases l.executed
      · simp only [Bool.false_eq_true, ↓reduceIte]
        split
        · cases DebugName.require _ <;> simp [Except.map, bind, Except.bind, pure, Except.pure]
        · simp [Except.map]
      · rfl
  -- the typed operations append through append, behind guards on their arguments only
  | _ => simp only [record, append_prefixed, apply_ite (Except.map _)] <;> rfl

theorem recordAll_prefixed (pre : Array Command) (l : CommandList) (rs : List Recording) :
    { l with commands := pre ++ l.commands }.recordAll rs =
      (l.recordAll rs).map fun m => { m with commands := pre ++ m.commands } := by
  induction rs generalizing l with
  | nil => rfl
  | cons r rs ih =>
    simp only [recordAll, List.foldlM_cons] at ih ⊢
    rw [record_prefixed]
    cases l.record r with
    | error f => rfl
    | ok m => exact ih m

theorem append_executed {c : Command} (h : l.append c = .ok l') : l'.executed = l.executed := by
  unfold append at h
  split at h
  · cases h
  · cases h; rfl

theorem record_executed {r : Recording} (h : l.record r = .ok l') : l'.executed = l.executed := by
  cases r <;> simp only [record] at h
  all_goals grind [append_executed, bind_eq_ok, pure_eq_ok]

theorem recordAll_executed {rs : List Recording} (h : l.recordAll rs = .ok l') :
    l'.executed = l.executed := by
  induction rs generalizing l with
  | nil => cases h; rfl
  | cons r rs ih =>
    simp only [recordAll, List.foldlM_cons, bind_eq_ok] at h
    obtain ⟨m, hm, hrest⟩ := h
    rw [ih hrest, record_executed hm]

theorem record_pushMarker (n : DebugName) (color : Rgb) (he : l.executed = false) :
    l.record (.pushMarker n.text color) =
      .ok { l with commands := l.commands.push (.pushMarker n color), depth := l.depth + 1 } := by
  simp [record, append, DebugName.require_text, he, Functor.map, Except.map]

theorem record_popMarker (hd : l.depth ≠ 0) (he : l.executed = false) :
    l.record .popMarker =
      .ok { l with commands := l.commands.push .popMarker, depth := l.depth - 1 } := by
  simp [record, append, hd, he, Functor.map, Except.map]

-- Popping as many markers as are open, or fewer, appends one pop for each.
theorem popMany_of_le {k : Nat} (hk : k ≤ l.depth) (he : l.executed = false) :
    l.popMany k = .ok
      { l with commands := l.commands ++ Array.replicate k .popMarker, depth := l.depth - k } := by
  induction k generalizing l with
  | zero => simp [popMany]
  | succ k ih =>
    have hk' : k ≤ l.depth - 1 := by omega
    have hrest := ih (l := { l with commands := l.commands.push .popMarker, depth := l.depth - 1 })
      hk' he
    rw [popMany, record_popMarker (by omega) he, ok_bind, hrest]
    simp [Array.replicate_succ', Nat.sub_sub, Nat.add_comm]

end CommandList

namespace RenderPass

variable {p : RenderPass} {l lp : CommandList}

-- The commands a pass records at marker depth zero, given what its body records inside the
-- pass's marker: the marker with the pass's name, the body's commands, and one pop for each
-- marker still open, the pass's own included.
def bracket (p : RenderPass) (lp : CommandList) : Array Command :=
  #[.pushMarker p.name .passMarker] ++ lp.commands ++ Array.replicate lp.depth .popMarker

-- The device calls that stand for a pass in a frame.
def frameCalls (res : Resources) (p : RenderPass) (lp : CommandList) : Array DeviceCall :=
  #[.pushMarker p.name.text] ++ lp.commands.map res.call ++ Array.replicate lp.depth .popMarker

theorem bracket_call (res : Resources) (p : RenderPass) (lp : CommandList) :
    (p.bracket lp).map res.call = p.frameCalls res lp := by
  simp [bracket, frameCalls, Resources.call]

theorem setup_eq_ok {b : Builder} (hp : p.deinit = false)
    (hb : ({} : Builder).declareAll p.script.declarations = .ok b) :
    p.setup = .ok (p.script.accepts, b) := by
  simp [setup, hp, hb, bind, Except.bind, pure, Except.pure]

-- Executing a pass records its body as from a fresh list one marker deep, after the pass's
-- marker, and then closes every marker the body left open above the list's own depth.
theorem execute_eq_ok_of_body (hp : p.deinit = false) (he : l.executed = false)
    (hb : ({ depth := l.depth + 1 } : CommandList).recordAll p.script.body = .ok lp)
    (hd : l.depth + 1 ≤ lp.depth) :
    p.execute l = .ok { l with commands := l.commands ++ (#[.pushMarker p.name .passMarker] ++
      lp.commands ++ Array.replicate (lp.depth - l.depth) .popMarker) } := by
  have hle : lp.executed = false := CommandList.recordAll_executed hb
  -- the body after the marker, by the prefix law
  have hbody := CommandList.recordAll_prefixed (l.commands.push (.pushMarker p.name .passMarker))
    { depth := l.depth + 1 } p.script.body
  simp only [Array.append_empty, hb, Except.map] at hbody
  have hk : lp.depth - (l.depth + 1) ≤ lp.depth := by omega
  unfold execute
  rw [hp, if_neg Bool.false_ne_true, CommandList.record_pushMarker _ _ he, ok_bind]
  simp only [he]
  rw [hbody, ok_bind]
  dsimp only
  rw [CommandList.popMany_of_le
      (l := { lp with commands := l.commands.push (.pushMarker p.name .passMarker) ++ lp.commands })
      hk hle, ok_bind, CommandList.record_popMarker (by simp; omega) (by simpa using hle)]
  have hpops : lp.depth - l.depth = lp.depth - (l.depth + 1) + 1 := by omega
  simp only [hpops, Array.replicate_succ, hle]
  simp
  omega

end RenderPass

namespace PassNode

-- Whether a pass of a graph is recorded when the graph renders: it is ready, or it is still
-- declared and its setup accepts.
def runs (n : PassNode) : Bool :=
  n.state == .ready || (n.state == .declared && n.pass.script.accepts)

-- The form a node takes when its graph is set up, given the builder its pass's setup fills: a
-- declared pass becomes ready or skipped by its answer and keeps its declarations.
def setUp (decl : RenderPass → Builder) (n : PassNode) : PassNode :=
  if n.state = .declared then
    { n with
      state := if n.pass.script.accepts then .ready else .skipped
      usage := (decl n.pass).accesses }
  else n

variable {decl : RenderPass → Builder} {n : PassNode}

@[simp] theorem setUp_pass : (n.setUp decl).pass = n.pass := by
  unfold setUp; split <;> rfl

@[simp] theorem setUp_usage :
    (n.setUp decl).usage = if n.state = .declared then (decl n.pass).accesses else n.usage := by
  unfold setUp; split <;> rfl

theorem setUp_state_eq_ready : (n.setUp decl).state = .ready ↔ n.runs = true := by
  unfold setUp runs
  cases h : n.state <;> cases n.pass.script.accepts <;> simp [h]

theorem setUp_state_ne_declared : (n.setUp decl).state ≠ .declared := by
  unfold setUp
  cases h : n.state <;> cases n.pass.script.accepts <;> simp [h]

end PassNode

namespace RenderGraph

variable {g : RenderGraph}

private theorem mapM_eq_ok_map {α β ε : Type} {f : α → Except ε β} {F : α → β} :
    ∀ {xs : List α}, (∀ x ∈ xs, f x = .ok (F x)) → xs.mapM f = .ok (xs.map F)
  | [], _ => rfl
  | x :: xs, h => by
    rw [List.mapM_cons, h x List.mem_cons_self, ok_bind,
      mapM_eq_ok_map fun y hy => h y (List.mem_cons_of_mem _ hy), ok_bind]
    rfl

-- Setting up a graph with no released pass sets up each declared pass: it becomes ready or
-- skipped by its answer and keeps the declarations of its setup; the other passes stay.
theorem setup_eq_ok (decl : RenderPass → Builder)
    (hstate : ∀ n ∈ g.nodes, n.state ≠ .deinit)
    (hsetup : ∀ n ∈ g.nodes, n.state = .declared → n.pass.deinit = false ∧
      ({} : Builder).declareAll n.pass.script.declarations = .ok (decl n.pass)) :
    g.setup = .ok { g with nodes := g.nodes.map (·.setUp decl) } := by
  have hany : (g.nodes.any fun n => n.state == .deinit) = false := by
    rw [Array.any_eq_false]
    intro i hi
    simpa using hstate _ (Array.getElem_mem hi)
  unfold setup
  rw [if_neg (by simp [hany]), Array.mapM_eq_mapM_toList, mapM_eq_ok_map (F := (·.setUp decl))]
  · simp only [Functor.map, Except.map, ok_bind, pure, Except.pure, Except.ok.injEq,
      RenderGraph.mk.injEq]
    apply Array.toList_inj.mp
    simp
  intro n hn
  by_cases hd : n.state = .declared
  · obtain ⟨hp, hb⟩ := hsetup n (Array.mem_toList_iff.mp hn) hd
    simp [hd, PassNode.setUp, RenderPass.setup_eq_ok hp hb, bind, Except.bind, pure, Except.pure]
  · simp [hd, PassNode.setUp, pure, Except.pure]

-- The fold that executes a graph, when each node's step pushes the node's new form and appends
-- its commands to a list at depth zero: the nodes are pushed and their commands appended in
-- order.
private theorem foldlM_push_append
    {step : Array PassNode × CommandList → PassNode → Except Fault (Array PassNode × CommandList)}
    (next : PassNode → PassNode) (cmds : PassNode → Array Command) (ns : List PassNode)
    (hstep : ∀ n ∈ ns, ∀ acc (l : CommandList), l.depth = 0 → l.executed = false →
      step (acc, l) n = .ok (acc.push (next n), { l with commands := l.commands ++ cmds n }))
    (acc : Array PassNode) (l : CommandList) (hl : l.depth = 0) (he : l.executed = false) :
    ns.foldlM step (acc, l) = .ok (acc ++ (ns.map next).toArray,
      { l with commands := l.commands ++ ns.toArray.flatMap cmds }) := by
  induction ns generalizing acc l with
  | nil => simp [pure, Except.pure]
  | cons n ns ih =>
    rw [List.foldlM_cons, hstep n List.mem_cons_self acc l hl he, ok_bind,
      ih (fun m hm => hstep m (List.mem_cons_of_mem _ hm)) (acc.push (next n))
        { l with commands := l.commands ++ cmds n } hl he]
    simp only [Array.append_assoc, Except.ok.injEq, Prod.mk.injEq, CommandList.mk.injEq, and_true]
    constructor <;> apply Array.toList_inj.mp <;> simp

-- The commands a graph records into a list at marker depth zero, given what each pass's body
-- records: each ready pass's, bracketed in its marker, in order.
def recorded (body : RenderPass → CommandList) (g : RenderGraph) : Array Command :=
  g.nodes.flatMap fun n => if n.state = .ready then n.pass.bracket (body n.pass) else #[]

-- Executing a graph in which no pass is left declared records each ready pass after the ones
-- before it, bracketed in its marker, and marks it executed; the other passes stay as they are
-- and record nothing.
theorem execute_eq_ok_of_bodies (body : RenderPass → CommandList) {l : CommandList}
    (hstate : ∀ n ∈ g.nodes, n.state ≠ .declared)
    (hready : ∀ n ∈ g.nodes, n.state = .ready → n.pass.deinit = false ∧
      ({ depth := 1 } : CommandList).recordAll n.pass.script.body = .ok (body n.pass) ∧
      1 ≤ (body n.pass).depth)
    (hl : l.depth = 0) (he : l.executed = false) :
    g.execute l = .ok ({ g with nodes := g.nodes.map fun n =>
        if n.state = .ready then { n with state := .executed } else n },
      { l with commands := l.commands ++ g.recorded body }) := by
  unfold execute
  dsimp only
  rw [← Array.foldlM_toList, foldlM_push_append
    (fun n => if n.state = .ready then { n with state := .executed } else n)
    (fun n => if n.state = .ready then n.pass.bracket (body n.pass) else #[]) _ ?_ _ _ hl he]
  · simp only [ok_bind, pure, Except.pure, Except.ok.injEq, Prod.mk.injEq, Array.toArray_toList,
      RenderGraph.mk.injEq, recorded, and_true]
    apply Array.toList_inj.mp
    simp
  intro n hn acc l hl he
  have hn : n ∈ g.nodes := Array.mem_toList_iff.mp hn
  cases hs : n.state with
  | declared => exact absurd hs (hstate n hn)
  | ready =>
    obtain ⟨hp, hb, hd⟩ := hready n hn hs
    dsimp only
    rw [RenderPass.execute_eq_ok_of_body hp he (by rw [hl]; exact hb) (by rw [hl]; exact hd),
      ok_bind]
    simp [RenderPass.bracket, hl, pure, Except.pure]
  | _ => simp [pure, Except.pure]

-- The device calls that stand for a graph's passes in a frame: those of each pass that runs, in
-- order, and none for the others.
def frameCalls (res : Resources) (body : RenderPass → CommandList) (g : RenderGraph) :
    Array DeviceCall :=
  g.nodes.flatMap fun n => if n.runs then n.pass.frameCalls res (body n.pass) else #[]

-- Every command a graph records names only issued handles when the body of each ready pass
-- does: the markers name none.
theorem recorded_issued {res : Resources} {body : RenderPass → CommandList}
    (hi : ∀ n ∈ g.nodes, n.state = .ready → ∀ c ∈ (body n.pass).commands, res.issued c = true) :
    ∀ c ∈ g.recorded body, res.issued c = true := by
  intro c hc
  obtain ⟨n, hn, hc⟩ := Array.mem_flatMap.mp hc
  split at hc
  · rename_i hr
    simp only [RenderPass.bracket, Array.mem_append] at hc
    rcases hc with (hc | hc) | hc
    · rw [Array.mem_singleton.mp hc]; rfl
    · exact hi n hn hr c hc
    · rw [Array.eq_of_mem_replicate hc]; rfl
  · simp at hc

variable {decl : RenderPass → Builder}

-- Once a graph is set up no pass is declared, and the ready passes are those that run.
theorem setUp_ne_declared : ∀ n ∈ g.nodes.map (·.setUp decl), n.state ≠ .declared := by
  intro n hn
  obtain ⟨m, -, rfl⟩ := Array.mem_map.mp hn
  exact PassNode.setUp_state_ne_declared

theorem setUp_ready {n : PassNode} (hn : n ∈ g.nodes.map (·.setUp decl)) (hr : n.state = .ready) :
    ∃ m ∈ g.nodes, m.runs = true ∧ n.pass = m.pass := by
  obtain ⟨m, hm, rfl⟩ := Array.mem_map.mp hn
  exact ⟨m, hm, PassNode.setUp_state_eq_ready.mp hr, PassNode.setUp_pass⟩

-- What a graph records once set up stands, call for call, for the frame calls of its passes.
theorem recorded_call (res : Resources) (body : RenderPass → CommandList) :
    (recorded body { g with nodes := g.nodes.map (·.setUp decl) }).map res.call =
      g.frameCalls res body := by
  rw [recorded, Array.map_flatMap, Array.flatMap_map, frameCalls]
  congr 1
  funext n
  by_cases hr : n.runs = true
  · simp [hr, PassNode.setUp_state_eq_ready, RenderPass.bracket_call]
  · simp [hr, PassNode.setUp_state_eq_ready]

theorem deinit_executed_setUp :
    ({ nodes := (g.nodes.map (·.setUp decl)).map fun n =>
        if n.state = .ready then { n with state := .executed } else n } : RenderGraph).deinit =
      { nodes := g.nodes.map fun n =>
          { pass := n.pass.release, state := .deinit,
            usage := if n.state = .declared then (decl n.pass).accesses else n.usage } } := by
  simp only [deinit, Array.map_map, RenderGraph.mk.injEq]
  congr 1
  funext n
  by_cases hr : (n.setUp decl).state = .ready <;> simp [hr]

end RenderGraph

namespace Renderer

-- A frame in which every pass is alive and every callback succeeds: the device receives one
-- stream, holding the frame calls of each pass that runs in the graph's order, and every pass
-- comes back released with the declarations of its setup.
theorem render_frame (r : Renderer) (g : RenderGraph) (decl : RenderPass → Builder)
    (body : RenderPass → CommandList)
    (halive : ∀ n ∈ g.nodes, n.state ≠ .deinit ∧ n.pass.deinit = false)
    (hsetup : ∀ n ∈ g.nodes, n.state = .declared →
      ({} : Builder).declareAll n.pass.script.declarations = .ok (decl n.pass))
    (hbody : ∀ n ∈ g.nodes, n.runs = true →
      ({ depth := 1 } : CommandList).recordAll n.pass.script.body = .ok (body n.pass) ∧
      1 ≤ (body n.pass).depth ∧ ∀ c ∈ (body n.pass).commands, r.resources.issued c = true)
    (hopen : r.device.openStream = none)
    (hstreams : r.device.stats.commandStreams.toNat + 1 < UInt32.size) :
    ∃ made, made = #[.beginStream r.device.stats.commandStreams.toNat] ++
        g.frameCalls r.resources body ++ #[.endStream r.device.stats.commandStreams.toNat] ∧
      r.render g = .ok (
        { r with
          device := { r.device with
            stats := { r.device.stats with commandStreams := r.device.stats.commandStreams + 1 }
            calls := r.device.calls ++ made }
          frameIndex := r.frameIndex + 1 },
        { nodes := g.nodes.map fun n =>
            { pass := n.pass.release, state := .deinit,
              usage := if n.state = .declared then (decl n.pass).accesses else n.usage } },
        made) := by
  have hset := RenderGraph.setup_eq_ok decl (fun n hn => (halive n hn).1)
    fun n hn hd => ⟨(halive n hn).2, hsetup n hn hd⟩
  -- once set up, the ready passes are those that run, and their bodies record as assumed
  have hready : ∀ n ∈ g.nodes.map (·.setUp decl), n.state = .ready → n.pass.deinit = false ∧
      ({ depth := 1 } : CommandList).recordAll n.pass.script.body = .ok (body n.pass) ∧
      1 ≤ (body n.pass).depth ∧ ∀ c ∈ (body n.pass).commands, r.resources.issued c = true := by
    intro n hn hr
    obtain ⟨m, hm, hruns, hpass⟩ := RenderGraph.setUp_ready hn hr
    rw [hpass]
    exact ⟨(halive m hm).2, hbody m hm hruns⟩
  have hexec := RenderGraph.execute_eq_ok_of_bodies
    (g := { g with nodes := g.nodes.map (·.setUp decl) }) body (l := .empty)
    RenderGraph.setUp_ne_declared (fun n hn hr => ⟨(hready n hn hr).1, (hready n hn hr).2.1,
      (hready n hn hr).2.2.1⟩) rfl rfl
  have hissued : ∀ c ∈ RenderGraph.recorded body { g with nodes := g.nodes.map (·.setUp decl) },
      r.resources.issued c = true :=
    RenderGraph.recorded_issued fun n hn hr => (hready n hn hr).2.2.2
  refine ⟨_, rfl, ?_⟩
  unfold render
  rw [hset, ok_bind, hexec, ok_bind]
  simp only [Renderer.execute, Device.takeCalls]
  -- the recorded list is replayed as one stream on the device, its calls taken for the frame
  rw [CommandList.execute_of_issued (by rfl) (by rfl) (by exact hopen) (by exact hstreams)
    (by simpa [CommandList.empty] using hissued)]
  simp only [ok_bind, pure, Except.pure, Except.ok.injEq, Prod.mk.injEq, CommandList.empty,
    Array.empty_append, RenderGraph.recorded_call, RenderGraph.deinit_executed_setUp]
  simp [hopen]

-- Four passes: one set up now that leaves a marker of its own open, one whose setup declines,
-- one executed in an earlier frame, one ready from an earlier setup. Only the first and the
-- last reach the device, the first with a pop for its own marker and one for the body's.
theorem render_frame_four_passes :
    let r : Renderer := { device := {}, resources := Resources.empty default, framesInFlight := 2 }
    let g : RenderGraph := { nodes := #[
      { pass := ⟨⟨"shadow", by decide, by decide⟩,
          { declarations := [(.write, .image ⟨0, by decide⟩)],
            body := [.dispatch 8 8 1, .pushMarker "cascade" .passMarker] }, false⟩ },
      { pass := ⟨⟨"bloom", by decide, by decide⟩, { accepts := false, body := [.dispatch 1 1 1] },
          false⟩ },
      { pass := ⟨⟨"ui", by decide, by decide⟩, { body := [.drawBindless 6 1] }, false⟩,
        state := .executed },
      { pass := ⟨⟨"post", by decide, by decide⟩, { body := [.drawBindless 3 1] }, false⟩,
        state := .ready }] }
    ∃ r' g', r.render g = .ok (r', g', #[.beginStream 0, .pushMarker "shadow", .dispatch 8 8 1,
      .pushMarker "cascade", .popMarker, .popMarker, .pushMarker "post", .drawBindless 3 1,
      .popMarker, .endStream 0]) := by
  intro r g
  obtain ⟨made, hmade, h⟩ := render_frame r g
    (fun p => ⟨(p.script.declarations.map fun d => ⟨d.2, d.1⟩).toArray⟩)
    (fun p => match ({ depth := 1 } : CommandList).recordAll p.script.body with
      | .ok l => l
      | .error _ => {})
    (by decide)
    (fun n hn _ => by
      simp [g] at hn
      rcases hn with rfl | rfl | rfl | rfl <;>
        simp [Builder.declareAll, Builder.declare, GraphResource.isValid, Handle.isValid,
          HandleKind.capacity, HandleKind.narrow, pure, Except.pure])
    (fun n hn _ => by
      simp [g] at hn
      rcases hn with rfl | rfl | rfl | rfl <;> exact ⟨rfl, by decide, by decide⟩)
    rfl (by decide)
  have hcalls : made = #[.beginStream 0, .pushMarker "shadow", .dispatch 8 8 1,
      .pushMarker "cascade", .popMarker, .popMarker, .pushMarker "post", .drawBindless 3 1,
      .popMarker, .endStream 0] := by
    have hshadow : ({ depth := 1 } : CommandList).recordAll
        [.dispatch 8 8 1, .pushMarker "cascade" .passMarker] =
        .ok {
          commands := #[.dispatch 8 8 1, .pushMarker ⟨"cascade", by decide, by decide⟩ .passMarker]
          depth := 2 } := rfl
    have hpost : ({ depth := 1 } : CommandList).recordAll [.drawBindless 3 1] =
        .ok { commands := #[.drawBindless 3 1], depth := 1 } := rfl
    rw [hmade]
    simp [RenderGraph.frameCalls, PassNode.runs, RenderPass.frameCalls, g, r, hshadow, hpost,
      Resources.call]
  exact ⟨_, _, hcalls ▸ h⟩

end Renderer

end GpuFrontend

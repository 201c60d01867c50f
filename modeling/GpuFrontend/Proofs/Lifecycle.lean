import GpuFrontend.Proofs.Render

namespace GpuFrontend

section Plumbing

variable {α β ε : Type} {f : α → Except ε β}

-- A traversal that succeeded, each of whose steps gives a result fixed by its element, is a map.
theorem mapM_eq_ok_map_of {F : α → β} (hf : ∀ x y, f x = .ok y → y = F x) :
    ∀ {xs : List α} {ys : List β}, xs.mapM f = .ok ys → ys = xs.map F
  | [], ys, h => by
    obtain rfl := pure_eq_ok.mp h
    rfl
  | x :: xs, ys, h => by
    rw [List.mapM_cons] at h
    obtain ⟨y, hy, h⟩ := bind_eq_ok.mp h
    obtain ⟨ys', hys, h⟩ := bind_eq_ok.mp h
    obtain rfl := pure_eq_ok.mp h
    rw [hf x y hy, mapM_eq_ok_map_of hf hys, List.map_cons]

theorem map_eq_ok {g : α → β} {x : Except ε α} {b : β} :
    g <$> x = .ok b ↔ ∃ a, x = .ok a ∧ g a = b := by
  cases x <;> simp [Functor.map, Except.map]

theorem bind_eq_error {γ : Type} {x : Except ε α} {g : α → Except ε γ} {e : ε} :
    x >>= g = .error e ↔ x = .error e ∨ ∃ a, x = .ok a ∧ g a = .error e := by
  cases x <;> simp [bind, Except.bind]

-- A fold that faulted faulted at a step on one of the elements.
theorem foldlM_eq_error {σ : Type} {f : σ → α → Except ε σ} :
    ∀ {xs : List α} {s : σ} {e : ε}, xs.foldlM f s = .error e → ∃ x ∈ xs, ∃ t, f t x = .error e
  | [], _, _, h => by cases h
  | x :: xs, s, e, h => by
    rw [List.foldlM_cons] at h
    rcases bind_eq_error.mp h with hx | ⟨t, -, ht⟩
    · exact ⟨x, List.mem_cons_self, s, hx⟩
    · obtain ⟨y, hy, u, hu⟩ := foldlM_eq_error ht
      exact ⟨y, List.mem_cons_of_mem _ hy, u, hu⟩

theorem mapM_ok_of_mem :
    ∀ {xs : List α} {ys : List β}, xs.mapM f = .ok ys → ∀ x ∈ xs, ∃ y, f x = .ok y
  | [], _, _ => by simp
  | x :: xs, ys, h => by
    rw [List.mapM_cons] at h
    obtain ⟨y, hy, h⟩ := bind_eq_ok.mp h
    obtain ⟨ys', hys, -⟩ := bind_eq_ok.mp h
    exact List.forall_mem_cons.mpr ⟨⟨y, hy⟩, mapM_ok_of_mem hys⟩

-- A fold that carries a value, each of whose steps either passes it through `run` on the element
-- or keeps it, as `keep` says: run to the end, it passed the value through `run` on the kept
-- elements, in order.
theorem foldlM_snd_eq_ok {σ γ : Type} {g : σ × γ → α → Except ε (σ × γ)} (keep : α → Bool)
    (run : α → γ → Except ε γ)
    (hg : ∀ acc x r, g acc x = .ok r → if keep x then run x acc.2 = .ok r.2 else r.2 = acc.2) :
    ∀ {xs : List α} {acc r : σ × γ}, xs.foldlM g acc = .ok r →
      (xs.filter keep).foldlM (fun c x => run x c) acc.2 = .ok r.2
  | [], acc, r, h => by
    obtain rfl := pure_eq_ok.mp h
    rfl
  | x :: xs, acc, r, h => by
    rw [List.foldlM_cons] at h
    obtain ⟨acc', hx, h⟩ := bind_eq_ok.mp h
    have hrest := foldlM_snd_eq_ok keep run hg h
    have hstep := hg acc x acc' hx
    cases hk : keep x with
    | true =>
      simp only [hk, ↓reduceIte] at hstep
      rw [List.filter_cons_of_pos hk, List.foldlM_cons, hstep, ok_bind]
      exact hrest
    | false =>
      simp only [hk, Bool.false_eq_true, ↓reduceIte] at hstep
      rw [List.filter_cons_of_neg (by simp [hk]), ← hstep]
      exact hrest

-- A fold whose every step that succeeds pushes an image of the element it reads: run to the end,
-- it pushed the images of all the elements in order, and the step succeeded at each of them.
theorem foldlM_push_eq_ok {γ : Type} {f : Array β × γ → α → Except ε (Array β × γ)} (F : α → β)
    (hf : ∀ acc c x r, f (acc, c) x = .ok r → r.1 = acc.push (F x)) :
    ∀ {xs : List α} {acc : Array β} {c : γ} {r : Array β × γ}, xs.foldlM f (acc, c) = .ok r →
      r.1 = acc ++ (xs.map F).toArray ∧ ∀ x ∈ xs, ∃ s t, f s x = .ok t
  | [], acc, c, r, h => by
    obtain rfl := pure_eq_ok.mp h
    simp
  | x :: xs, acc, c, r, h => by
    rw [List.foldlM_cons] at h
    obtain ⟨⟨acc', c'⟩, hx, h⟩ := bind_eq_ok.mp h
    obtain ⟨hr, hall⟩ := foldlM_push_eq_ok F hf h
    obtain rfl : acc' = acc.push (F x) := hf acc c x _ hx
    refine ⟨?_, List.forall_mem_cons.mpr ⟨⟨_, _, hx⟩, hall⟩⟩
    rw [hr]
    apply Array.toList_inj.mp
    simp

end Plumbing

namespace PassNode

-- The form a node takes when its graph is executed: a ready pass becomes executed.
def executed (n : PassNode) : PassNode :=
  if n.state = .ready then { n with state := .executed } else n

def released (n : PassNode) : PassNode :=
  { n with pass := n.pass.release, state := .deinit }

variable {n : PassNode} {decl : RenderPass → Builder}

@[simp] theorem executed_pass : n.executed.pass = n.pass := by
  unfold executed; split <;> rfl

theorem executed_state : n.executed.state = if n.state = .ready then .executed else n.state := by
  unfold executed; split <;> rfl

theorem setUp_state : (n.setUp decl).state =
    if n.state = .declared then (if n.pass.script.accepts then .ready else .skipped)
    else n.state := by
  unfold setUp; split <;> rfl

end PassNode

-- The declarations a pass's setup makes; none when the setup faults.
def RenderPass.declared (p : RenderPass) : Builder := ((·.2) <$> p.setup).toOption.getD {}

namespace RenderPass

variable {p : RenderPass} {accepted : Bool} {b : Builder}

theorem declared_eq (hs : p.setup = .ok (accepted, b)) : p.declared = b := by
  simp [declared, hs, Functor.map, Except.map, Except.toOption]

-- A setup that succeeded was of a pass not released, and gave the answer of its script and the
-- declarations the pass makes.
theorem setup_eq_ok_inv (hs : p.setup = .ok (accepted, b)) :
    p.deinit = false ∧ accepted = p.script.accepts ∧ b = p.declared := by
  have hp : p.deinit = false := by
    cases hp : p.deinit
    · rfl
    · simp [setup, hp] at hs
  rw [declared_eq hs]
  simp only [setup, hp, Bool.false_eq_true, ↓reduceIte, bind_eq_ok, pure_eq_ok,
    Prod.mk.injEq] at hs
  obtain ⟨b', -, rfl, rfl⟩ := hs
  exact ⟨hp, rfl, rfl⟩

end RenderPass

-- An operation on a render graph: adding a pass, setting the graph up, executing it into a list,
-- releasing it, or rendering it as a frame of a renderer.
inductive GraphOp
  | addPass (name : String) (script : PassScript)
  | setup
  | execute (l : CommandList)
  | deinit
  | render (r : Renderer)

inductive PassCall
  | setup
  | execute
  | release
  deriving DecidableEq, Repr

namespace GraphOp

def apply (g : RenderGraph) : GraphOp → Except Fault RenderGraph
  | .addPass name script => do
    let p ← RenderPass.make name script
    pure (g.add p).2
  | .setup => g.setup
  | .execute l => Prod.fst <$> g.execute l
  | .deinit => pure g.deinit
  | .render r => (·.2.1) <$> r.render g

-- The calls an operation makes on a pass of the graph, as the graph's code makes them: setting up
-- calls the setup of a declared pass, executing calls the execution of a ready pass, releasing
-- releases every pass, and a frame does the three in turn, executing each pass that runs.
def callsOn (op : GraphOp) (n : PassNode) : List PassCall :=
  match op with
  | .addPass .. => []
  | .setup => if n.state = .declared then [.setup] else []
  | .execute _ => if n.state = .ready then [.execute] else []
  | .deinit => [.release]
  | .render _ =>
    (if n.state = .declared then [.setup] else []) ++ (if n.runs then [.execute] else []) ++
      [.release]

theorem mem_callsOn_setup {n : PassNode} : PassCall.setup ∈ setup.callsOn n ↔ n.state = .declared := by
  by_cases hd : n.state = .declared <;> simp [callsOn, hd]

theorem mem_callsOn_execute {l : CommandList} {n : PassNode} :
    PassCall.execute ∈ (execute l).callsOn n ↔ n.state = .ready := by
  by_cases hr : n.state = .ready <;> simp [callsOn, hr]

theorem mem_callsOn_render_execute {r : Renderer} {n : PassNode} :
    PassCall.execute ∈ (render r).callsOn n ↔ n.runs = true := by
  by_cases hd : n.state = .declared <;> cases hr : n.runs <;> simp [callsOn, hd, hr]

def calls (g : RenderGraph) (op : GraphOp) (i : Nat) : List PassCall :=
  (g.nodes[i]?.map op.callsOn).getD []

-- One operation of a run: the graph it leaves, and the calls made on each pass so far.
def step (acc : RenderGraph × (Nat → List PassCall)) (op : GraphOp) :
    Except Fault (RenderGraph × (Nat → List PassCall)) := do
  let g ← op.apply acc.1
  pure (g, fun i => acc.2 i ++ calls acc.1 op i)

-- Runs operations in order from a graph: the graph they leave, and the calls made on each pass.
def run (g : RenderGraph) (ops : List GraphOp) :
    Except Fault (RenderGraph × (Nat → List PassCall)) :=
  ops.foldlM step (g, fun _ => [])

-- The changes of state an operation may make to a pass: setting up moves a declared pass to ready
-- or skipped, executing moves a ready pass to executed, releasing and rendering move every pass to
-- released.
def Moves : GraphOp → PassState → PassState → Prop
  | .addPass .., s, s' => s' = s
  | .setup, s, s' => s' = s ∨ s = .declared ∧ (s' = .ready ∨ s' = .skipped)
  | .execute _, s, s' => s' = s ∨ s = .ready ∧ s' = .executed
  | .deinit, _, s' => s' = .deinit
  | .render _, _, s' => s' = .deinit

def onNode : GraphOp → PassNode → PassNode
  | .addPass .., n => n
  | .setup, n => n.setUp RenderPass.declared
  | .execute _, n => n.executed
  | .deinit, n => n.released
  | .render _, n => (n.setUp RenderPass.declared).executed.released

end GraphOp

namespace RenderGraph

variable {g g' : RenderGraph}

-- A setup that succeeded found no released pass, and set up each declared pass with the
-- declarations of its own setup; the other passes stay.
theorem setup_eq_ok_inv (h : g.setup = .ok g') :
    (∀ n ∈ g.nodes, n.state ≠ .deinit) ∧
      g' = { g with nodes := g.nodes.map (·.setUp RenderPass.declared) } := by
  unfold setup at h
  split at h
  · cases h
  rename_i hany
  refine ⟨fun n hn hd => hany (Array.any_eq_true.mpr ?_), ?_⟩
  · obtain ⟨i, hi, rfl⟩ := Array.mem_iff_getElem.mp hn
    exact ⟨i, hi, by simp [hd]⟩
  obtain ⟨nodes, hm, h⟩ := bind_eq_ok.mp h
  obtain rfl := pure_eq_ok.mp h
  rw [Array.mapM_eq_mapM_toList] at hm
  obtain ⟨ys, hys, hm⟩ := bind_eq_ok.mp hm
  obtain rfl := pure_eq_ok.mp hm
  rw [mapM_eq_ok_map_of (F := (·.setUp RenderPass.declared)) ?_ hys]
  · simp only [RenderGraph.mk.injEq]
    apply Array.toList_inj.mp
    simp
  -- the setup leaves each pass as `setUp` says
  intro x y hf
  dsimp only at hf
  split at hf
  · rename_i hd
    obtain ⟨⟨accepted, b⟩, hs, hf⟩ := bind_eq_ok.mp hf
    obtain rfl := pure_eq_ok.mp hf
    obtain ⟨-, rfl, rfl⟩ := RenderPass.setup_eq_ok_inv hs
    simp [PassNode.setUp, beq_iff_eq.mp hd]
  · rename_i hd
    obtain rfl := pure_eq_ok.mp hf
    rw [PassNode.setUp, if_neg (by simpa using hd)]

-- An execution that succeeded found no declared pass, and marked each ready pass executed; the
-- other passes stay.
theorem execute_eq_ok_inv {l l' : CommandList} (h : g.execute l = .ok (g', l')) :
    (∀ n ∈ g.nodes, n.state ≠ .declared) ∧ g'.nodes = g.nodes.map PassNode.executed := by
  unfold execute at h
  obtain ⟨⟨nodes, l₁⟩, hf, h⟩ := bind_eq_ok.mp h
  simp only [pure_eq_ok, Prod.mk.injEq] at h
  obtain ⟨rfl, -⟩ := h
  rw [← Array.foldlM_toList] at hf
  have key := foldlM_push_eq_ok PassNode.executed ?_ hf
  · obtain ⟨hnodes, hall⟩ := key
    refine ⟨fun n hn hd => ?_, ?_⟩
    · obtain ⟨s, t, hs⟩ := hall n (Array.mem_toList_iff.mpr hn)
      simp [hd] at hs
    · dsimp only at hnodes ⊢
      rw [hnodes]
      apply Array.toList_inj.mp
      simp
  -- the step pushes the node executed if it was ready, and as it was otherwise
  intro acc c n r hs
  cases hn : n.state with
  | ready =>
    simp only [hn] at hs
    obtain ⟨l₂, -, hs⟩ := bind_eq_ok.mp hs
    simp [← pure_eq_ok.mp hs, PassNode.executed, hn]
  | declared => simp [hn] at hs
  | _ =>
    simp only [hn] at hs
    simp [← pure_eq_ok.mp hs, PassNode.executed, hn]

-- A setup that succeeded set up every declared pass without fault.
theorem setup_declared_eq_ok (h : g.setup = .ok g') {n : PassNode} (hn : n ∈ g.nodes)
    (hd : n.state = .declared) : ∃ accepted b, n.pass.setup = .ok (accepted, b) := by
  unfold setup at h
  split at h
  · cases h
  obtain ⟨nodes, hm, -⟩ := bind_eq_ok.mp h
  rw [Array.mapM_eq_mapM_toList] at hm
  obtain ⟨ys, hys, -⟩ := bind_eq_ok.mp hm
  obtain ⟨n', hn'⟩ := mapM_ok_of_mem hys n (Array.mem_toList_iff.mpr hn)
  simp only [hd, beq_self_eq_true, ↓reduceIte] at hn'
  obtain ⟨⟨accepted, b⟩, hs, -⟩ := bind_eq_ok.mp hn'
  exact ⟨accepted, b, hs⟩

-- Setting a graph up calls the setup of exactly the passes `callsOn` names for it: each call
-- succeeded and its pass took the answer and the declarations it gave; every other pass stays.
theorem setup_calls_listed (h : g.setup = .ok g') {i : Nat} {n : PassNode}
    (hn : g.nodes[i]? = some n) :
    (PassCall.setup ∈ GraphOp.setup.callsOn n → ∃ accepted b, n.pass.setup = .ok (accepted, b) ∧
      g'.nodes[i]? = some
        { n with state := if accepted then .ready else .skipped, usage := b.accesses }) ∧
    (PassCall.setup ∉ GraphOp.setup.callsOn n → g'.nodes[i]? = some n) := by
  obtain ⟨-, hg'⟩ := setup_eq_ok_inv h
  have hi : g'.nodes[i]? = some (n.setUp RenderPass.declared) := by
    rw [hg']
    simp [hn]
  constructor
  · intro hc
    have hd := GraphOp.mem_callsOn_setup.mp hc
    obtain ⟨accepted, b, hs⟩ := setup_declared_eq_ok h (Array.mem_of_getElem? hn) hd
    obtain ⟨-, rfl, rfl⟩ := RenderPass.setup_eq_ok_inv hs
    refine ⟨_, _, hs, ?_⟩
    rw [hi, PassNode.setUp, if_pos hd]
  · intro hc
    rw [hi, PassNode.setUp, if_neg (mt GraphOp.mem_callsOn_setup.mpr hc)]

-- Executing a graph calls the execution of exactly the passes `callsOn` names for it, in the
-- graph's order: the list it leaves is what those executions make of the list, one after another.
theorem execute_calls_listed {l l' : CommandList} (h : g.execute l = .ok (g', l')) :
    (g.nodes.toList.filter fun n => PassCall.execute ∈ (GraphOp.execute l).callsOn n).foldlM
      (fun l n => n.pass.execute l) l = .ok l' := by
  unfold execute at h
  obtain ⟨⟨nodes, l₁⟩, hf, h⟩ := bind_eq_ok.mp h
  simp only [pure_eq_ok, Prod.mk.injEq] at h
  obtain ⟨-, rfl⟩ := h
  rw [← Array.foldlM_toList] at hf
  refine foldlM_snd_eq_ok _ (fun n l => n.pass.execute l) ?_ hf
  -- a ready pass passes the list through its execution; any other pass leaves it
  intro acc n r hs
  cases hn : n.state with
  | ready =>
    simp only [hn] at hs
    obtain ⟨l₂, hl, hs⟩ := bind_eq_ok.mp hs
    simp [GraphOp.mem_callsOn_execute, hn, hl, ← pure_eq_ok.mp hs]
  | declared => simp [hn] at hs
  | _ =>
    simp only [hn] at hs
    simp [GraphOp.mem_callsOn_execute, hn, ← pure_eq_ok.mp hs]

end RenderGraph

namespace Renderer

-- A frame that succeeded set the graph up, executed it into a fresh list and released it.
theorem render_eq_ok_graph {r r' : Renderer} {g g' : RenderGraph} {made : Array DeviceCall}
    (h : r.render g = .ok (r', g', made)) :
    ∃ g₁ g₂ l, g.setup = .ok g₁ ∧ g₁.execute .empty = .ok (g₂, l) ∧ g' = g₂.deinit := by
  unfold render at h
  obtain ⟨g₁, hs, h⟩ := bind_eq_ok.mp h
  obtain ⟨⟨g₂, l⟩, hx, h⟩ := bind_eq_ok.mp h
  obtain ⟨⟨r₁, l₁, made₁⟩, -, h⟩ := bind_eq_ok.mp h
  simp only [pure_eq_ok, Prod.mk.injEq] at h
  exact ⟨g₁, g₂, l, hs, hx, h.2.1.symm⟩

-- A frame calls the passes as `callsOn` names for it: the setups as setting the graph up calls
-- them, and then, into a fresh list and in the graph's order, the execution of each pass that
-- runs.
theorem render_calls_listed {r r' : Renderer} {g g' : RenderGraph} {made : Array DeviceCall}
    (h : r.render g = .ok (r', g', made)) :
    ∃ g₁ l, g.setup = .ok g₁ ∧
      (g.nodes.toList.filter fun n => PassCall.execute ∈ (GraphOp.render r).callsOn n).foldlM
        (fun l n => n.pass.execute l) .empty = .ok l := by
  obtain ⟨g₁, g₂, l, hs, hx, -⟩ := render_eq_ok_graph h
  have hexec := RenderGraph.execute_calls_listed hx
  obtain ⟨-, rfl⟩ := RenderGraph.setup_eq_ok_inv hs
  refine ⟨_, l, hs, ?_⟩
  -- set up, a pass is ready exactly when it runs, and it keeps its pass
  have hpred : ∀ n ∈ g.nodes.toList,
      decide (PassCall.execute ∈ (GraphOp.render r).callsOn n) =
        decide (PassCall.execute ∈ (GraphOp.execute .empty).callsOn (n.setUp RenderPass.declared)) := by
    intro n _
    simp [GraphOp.mem_callsOn_execute, GraphOp.mem_callsOn_render_execute,
      PassNode.setUp_state_eq_ready]
  rw [Array.toList_map, List.filter_map, List.foldlM_map] at hexec
  rw [List.filter_congr hpred]
  simpa [Function.comp_def] using hexec

end Renderer

namespace GraphOp

variable {g g' : RenderGraph} {op : GraphOp}

-- An operation that succeeded did its part to every pass already in the graph, and added only
-- declared passes that are not released.
theorem apply_eq_ok_nodes (h : op.apply g = .ok g') :
    ∃ extra : Array PassNode, g'.nodes = g.nodes.map op.onNode ++ extra ∧
      ∀ n ∈ extra, n.state = .declared ∧ n.pass.deinit = false := by
  cases op with
  | addPass name script =>
    obtain ⟨p, hp, h⟩ := bind_eq_ok.mp h
    obtain rfl := pure_eq_ok.mp h
    have hd : p.deinit = false := by
      obtain ⟨n, -, hp⟩ := bind_eq_ok.mp hp
      rw [← pure_eq_ok.mp hp]
    have hid : (addPass name script).onNode = id := rfl
    refine ⟨#[{ pass := p }], ?_, by simp [hd]⟩
    simp [RenderGraph.add, hid]
  | setup =>
    obtain ⟨-, rfl⟩ := RenderGraph.setup_eq_ok_inv h
    exact ⟨#[], by simp [onNode], by simp⟩
  | execute l =>
    obtain ⟨⟨g₁, l'⟩, hx, rfl⟩ := map_eq_ok.mp h
    exact ⟨#[], by simp [onNode, (RenderGraph.execute_eq_ok_inv hx).2], by simp⟩
  | deinit =>
    obtain rfl := pure_eq_ok.mp h
    exact ⟨#[], by simp [onNode, RenderGraph.deinit, PassNode.released], by simp⟩
  | render r =>
    obtain ⟨⟨r', g₁, made⟩, hr, rfl⟩ := map_eq_ok.mp h
    obtain ⟨g₁, g₂, l, hs, hx, rfl⟩ := Renderer.render_eq_ok_graph hr
    obtain ⟨-, rfl⟩ := RenderGraph.setup_eq_ok_inv hs
    refine ⟨#[], ?_, by simp⟩
    simp [onNode, RenderGraph.deinit, PassNode.released, (RenderGraph.execute_eq_ok_inv hx).2]

end GraphOp

namespace PassCall

-- The calls a pass may have seen before it is released: none, its setup, or its setup and then, if
-- the setup accepted, its execution.
def Opening (accepts : Bool) (h : List PassCall) : Prop :=
  h = [] ∨ h = [.setup] ∨ h = [.setup, .execute] ∧ accepts = true

variable {accepts : Bool} {pre a b : List PassCall} {x : PassCall}

-- A call found in an opening is its setup, first, or its execution, right after the setup.
theorem Opening.eq_append_cons (hpre : Opening accepts pre) (h : pre = a ++ x :: b) :
    x = .setup ∧ a = [] ∨ x = .execute ∧ a = [.setup] ∧ accepts = true := by
  rcases hpre with rfl | rfl | ⟨rfl, hacc⟩
  · simp at h
  · rcases a with _ | ⟨y, a⟩ <;> simp_all
  · rcases a with _ | ⟨y, _ | ⟨z, a⟩⟩ <;> simp_all

-- A call other than a release, found in an opening followed by releases, lies in the opening.
theorem mem_opening {k : Nat} (hx : x ≠ .release)
    (h : pre ++ List.replicate k .release = a ++ x :: b) : ∃ b', pre = a ++ x :: b' := by
  have hrel : x ∉ List.replicate k .release := fun hm => hx (List.eq_of_mem_replicate hm)
  rcases List.append_eq_append_iff.mp h with ⟨as, rfl, hr⟩ | ⟨bs, rfl, hb⟩
  · exact absurd (by rw [hr]; simp) hrel
  · cases bs with
    | nil => exact absurd (by rw [← List.nil_append (List.replicate k _), ← hb]; simp) hrel
    | cons y bs =>
      obtain ⟨rfl, -⟩ := List.cons_eq_cons.mp hb
      exact ⟨bs, rfl⟩

-- In an opening followed by releases, the setup is made at most once, as the first call, and
-- the execution at most once, right after the setup and only if the setup accepted.
theorem calls_of_opening {k : Nat} (hpre : Opening accepts pre) :
    (pre ++ List.replicate k release).count setup ≤ 1 ∧
      (pre ++ List.replicate k release).count execute ≤ 1 ∧
      (∀ a b, pre ++ List.replicate k .release = a ++ .setup :: b → a = []) ∧
      (∀ a b, pre ++ List.replicate k .release = a ++ .execute :: b →
        a = [.setup] ∧ accepts = true) := by
  refine ⟨?_, ?_, fun a b h => ?_, fun a b h => ?_⟩
  · rcases hpre with rfl | rfl | ⟨rfl, -⟩ <;> simp [List.count_replicate]
  · rcases hpre with rfl | rfl | ⟨rfl, -⟩ <;> simp [List.count_replicate]
  · obtain ⟨b', hb'⟩ := mem_opening (by decide) h
    rcases hpre.eq_append_cons hb' with ⟨-, ha⟩ | ⟨hx, -⟩
    · exact ha
    · cases hx
  · obtain ⟨b', hb'⟩ := mem_opening (by decide) h
    rcases hpre.eq_append_cons hb' with ⟨hx, -⟩ | ⟨-, ha, hacc⟩
    · cases hx
    · exact ⟨ha, hacc⟩

end PassCall

-- The calls a pass in a state has seen, given whether its setup accepts: a declared pass none, a
-- ready or skipped one its setup, an executed one its setup and execution, and a released one an
-- opening and then one release or more.
def PassState.History (accepts : Bool) : PassState → List PassCall → Prop
  | .declared, h => h = []
  | .ready, h => h = [.setup] ∧ accepts = true
  | .skipped, h => h = [.setup] ∧ accepts = false
  | .executed, h => h = [.setup, .execute] ∧ accepts = true
  | .deinit, h => ∃ pre k, PassCall.Opening accepts pre ∧ h = pre ++ List.replicate (k + 1) .release

namespace PassState

variable {accepts : Bool} {s : PassState} {h : List PassCall}

theorem History.shape (hh : s.History accepts h) :
    ∃ pre k, PassCall.Opening accepts pre ∧ h = pre ++ List.replicate k .release := by
  cases s with
  | declared =>
    obtain rfl : h = [] := hh
    exact ⟨[], 0, Or.inl rfl, rfl⟩
  | ready =>
    obtain ⟨rfl, -⟩ : h = [.setup] ∧ accepts = true := hh
    exact ⟨[.setup], 0, Or.inr (Or.inl rfl), rfl⟩
  | skipped =>
    obtain ⟨rfl, -⟩ : h = [.setup] ∧ accepts = false := hh
    exact ⟨[.setup], 0, Or.inr (Or.inl rfl), rfl⟩
  | executed =>
    obtain ⟨rfl, hacc⟩ : h = [.setup, .execute] ∧ accepts = true := hh
    exact ⟨[.setup, .execute], 0, Or.inr (Or.inr ⟨rfl, hacc⟩), rfl⟩
  | deinit =>
    obtain ⟨pre, k, hpre, rfl⟩ := hh
    exact ⟨pre, k + 1, hpre, rfl⟩

theorem History.release (hh : s.History accepts h) : deinit.History accepts (h ++ [.release]) := by
  obtain ⟨pre, k, hpre, rfl⟩ := hh.shape
  exact ⟨pre, k, hpre, by simp [List.replicate_succ']⟩

end PassState

namespace GraphOp

variable {n : PassNode} {h : List PassCall}

@[simp] theorem onNode_script (op : GraphOp) : (op.onNode n).pass.script = n.pass.script := by
  cases op <;> simp [onNode, PassNode.released, RenderPass.release]

theorem moves_onNode (op : GraphOp) (n : PassNode) : op.Moves n.state (op.onNode n).state := by
  cases op with
  | addPass => exact rfl
  | setup =>
    simp only [onNode, Moves, PassNode.setUp_state]
    by_cases hd : n.state = .declared
    · cases n.pass.script.accepts <;> simp [hd]
    · simp [hd]
  | execute =>
    simp only [onNode, Moves, PassNode.executed_state]
    by_cases hr : n.state = .ready <;> simp [hr]
  | deinit => exact rfl
  | render => exact rfl

-- A pass's own released flag is set exactly when its state is released, after any operation if
-- before it.
theorem released_onNode (op : GraphOp) (hr : n.pass.deinit = true ↔ n.state = .deinit) :
    (op.onNode n).pass.deinit = true ↔ (op.onNode n).state = .deinit := by
  cases op with
  | addPass => exact hr
  | setup =>
    simp only [onNode, PassNode.setUp_pass, PassNode.setUp_state]
    by_cases hd : n.state = .declared
    · cases n.pass.script.accepts <;> simp [hr, hd]
    · simp [hr, hd]
  | execute =>
    simp only [onNode, PassNode.executed_pass, PassNode.executed_state]
    by_cases hready : n.state = .ready <;> simp [hr, hready]
  | deinit => simp [onNode, PassNode.released, RenderPass.release]
  | render => simp [onNode, PassNode.released, RenderPass.release]

-- The calls of a frame are those of a setup, then of an execution of the graph set up, then of
-- a release.
theorem callsOn_render (r : Renderer) (n : PassNode) :
    (render r).callsOn n = setup.callsOn n ++
      (execute .empty).callsOn (n.setUp RenderPass.declared) ++ deinit.callsOn n := by
  simp only [callsOn]
  by_cases hr : n.runs = true
  · rw [if_pos hr, if_pos (PassNode.setUp_state_eq_ready.mpr hr)]
  · rw [if_neg hr, if_neg (fun h => hr (PassNode.setUp_state_eq_ready.mp h))]

theorem history_setUp (hh : n.state.History n.pass.script.accepts h) :
    (n.setUp RenderPass.declared).state.History n.pass.script.accepts (h ++ setup.callsOn n) := by
  rw [PassNode.setUp_state]
  by_cases hd : n.state = .declared
  · rw [hd] at hh
    obtain rfl : h = [] := hh
    cases hacc : n.pass.script.accepts <;> simp [hd, callsOn, PassState.History]
  · simpa [hd, callsOn] using hh

theorem history_executed {l : CommandList} (hh : n.state.History n.pass.script.accepts h) :
    n.executed.state.History n.pass.script.accepts (h ++ (execute l).callsOn n) := by
  rw [PassNode.executed_state]
  by_cases hr : n.state = .ready
  · rw [hr] at hh
    obtain ⟨rfl, hacc⟩ : h = [.setup] ∧ n.pass.script.accepts = true := hh
    simp [hr, hacc, callsOn, PassState.History]
  · simpa [hr, callsOn] using hh

-- The calls an operation makes on a pass extend its history to the one of its new state.
theorem history_onNode (op : GraphOp) (hh : n.state.History n.pass.script.accepts h) :
    (op.onNode n).state.History n.pass.script.accepts (h ++ op.callsOn n) := by
  cases op with
  | addPass => simpa [onNode, callsOn] using hh
  | setup => exact history_setUp hh
  | execute => exact history_executed hh
  | deinit => exact hh.release
  | render r =>
    -- a frame sets the pass up, executes it if it runs, and releases it
    have hset := history_setUp hh
    have hexec := history_executed (l := .empty) (n := n.setUp RenderPass.declared)
      (by simpa using hset)
    rw [callsOn_render, ← List.append_assoc, ← List.append_assoc]
    simpa [onNode, PassNode.released, callsOn] using hexec.release

end GraphOp

namespace RenderGraph

-- What holds of every graph a run of operations leaves, with the calls made on its passes: a pass's
-- own released flag is set exactly when its state is released, the calls made on a pass are those
-- its state tells, and none were made past the last pass.
structure Lifecycles (g : RenderGraph) (hist : Nat → List PassCall) : Prop where
  released : ∀ (i : Nat) (n : PassNode), g.nodes[i]? = some n →
    (n.pass.deinit = true ↔ n.state = .deinit)
  history : ∀ (i : Nat) (n : PassNode), g.nodes[i]? = some n →
    n.state.History n.pass.script.accepts (hist i)
  beyond : ∀ i : Nat, g.nodes.size ≤ i → hist i = []

variable {g g' : RenderGraph} {hist : Nat → List PassCall} {op : GraphOp}

theorem lifecycles_empty : Lifecycles {} fun _ => [] :=
  ⟨fun _ _ h => by simp at h, fun _ _ h => by simp at h, fun _ _ => rfl⟩

theorem getElem?_of_apply (h : op.apply g = .ok g') {i : Nat} {n' : PassNode}
    (hn' : g'.nodes[i]? = some n') :
    (∃ n, g.nodes[i]? = some n ∧ n' = op.onNode n) ∨
      g.nodes.size ≤ i ∧ n'.state = .declared ∧ n'.pass.deinit = false := by
  obtain ⟨extra, hnodes, hextra⟩ := GraphOp.apply_eq_ok_nodes h
  rw [hnodes, Array.getElem?_append, Array.size_map] at hn'
  split at hn'
  · rw [Array.getElem?_map] at hn'
    obtain ⟨n, hn, rfl⟩ := Option.map_eq_some_iff.mp hn'
    exact .inl ⟨n, hn, rfl⟩
  · exact .inr ⟨by omega, hextra n' (Array.mem_of_getElem? hn')⟩

theorem size_le_of_apply (h : op.apply g = .ok g') : g.nodes.size ≤ g'.nodes.size := by
  obtain ⟨extra, hnodes, -⟩ := GraphOp.apply_eq_ok_nodes h
  simp [hnodes]

-- One operation keeps the invariant, with its calls added to each pass's history.
theorem Lifecycles.apply (hl : Lifecycles g hist) (h : op.apply g = .ok g') :
    Lifecycles g' fun i => hist i ++ GraphOp.calls g op i := by
  refine ⟨fun i n' hn' => ?_, fun i n' hn' => ?_, fun i hi => ?_⟩
  · rcases getElem?_of_apply h hn' with ⟨n, hn, rfl⟩ | ⟨-, hd, hp⟩
    · exact GraphOp.released_onNode op (hl.released i n hn)
    · simp [hd, hp]
  · rcases getElem?_of_apply h hn' with ⟨n, hn, rfl⟩ | ⟨hi, hd, -⟩
    · simp only [GraphOp.calls, hn, Option.map_some, Option.getD_some, GraphOp.onNode_script]
      exact GraphOp.history_onNode op (hl.history i n hn)
    · rw [hl.beyond i hi, GraphOp.calls, Array.getElem?_eq_none hi, hd]
      rfl
  · have hi' : g.nodes.size ≤ i := Nat.le_trans (size_le_of_apply h) hi
    rw [hl.beyond i hi', GraphOp.calls, Array.getElem?_eq_none hi']
    rfl

-- A run keeps the invariant: induction on the operations, the invariant carried by the fold.
theorem Lifecycles.run : ∀ {ops : List GraphOp} {g g' : RenderGraph} {hist hist'},
    Lifecycles g hist → ops.foldlM GraphOp.step (g, hist) = .ok (g', hist') → Lifecycles g' hist'
  | [], _, _, _, _, hl, h => by
    obtain ⟨rfl, rfl⟩ := Prod.mk.inj (pure_eq_ok.mp h)
    exact hl
  | op :: ops, g, g', hist, hist', hl, h => by
    rw [List.foldlM_cons] at h
    obtain ⟨⟨g₁, hist₁⟩, hs, h⟩ := bind_eq_ok.mp h
    obtain ⟨g₂, ha, hs⟩ := bind_eq_ok.mp hs
    obtain ⟨rfl, rfl⟩ := Prod.mk.inj (pure_eq_ok.mp hs)
    exact Lifecycles.run (hl.apply ha) h

-- What a run leaves of a pass's calls: its setup at most once and first, its execution at most
-- once, right after the setup and only if the setup accepted.
theorem Lifecycles.calls (hl : Lifecycles g hist) (i : Nat) :
    (hist i).count .setup ≤ 1 ∧ (hist i).count .execute ≤ 1 ∧
      (∀ pre post, hist i = pre ++ .setup :: post → pre = []) ∧
      (∀ pre post, hist i = pre ++ .execute :: post →
        pre = [.setup] ∧ ∃ n, g.nodes[i]? = some n ∧ n.pass.script.accepts = true) := by
  cases hn : g.nodes[i]? with
  | none =>
    rw [hl.beyond i (Array.getElem?_eq_none_iff.mp hn)]
    simp
  | some n =>
    obtain ⟨pre, k, hpre, hh⟩ := (hl.history i n hn).shape
    obtain ⟨hs, hx, hfirst, hafter⟩ := PassCall.calls_of_opening (k := k) hpre
    rw [hh]
    exact ⟨hs, hx, hfirst, fun a b hab => ⟨(hafter a b hab).1, n, rfl, (hafter a b hab).2⟩⟩

theorem moves_of_apply (h : op.apply g = .ok g') :
    (∀ (i : Nat) (n : PassNode), g.nodes[i]? = some n →
      ∃ n', g'.nodes[i]? = some n' ∧ op.Moves n.state n'.state) ∧
    (∀ (i : Nat) (n' : PassNode), g'.nodes[i]? = some n' → g.nodes.size ≤ i →
      n'.state = .declared) := by
  obtain ⟨extra, hnodes, -⟩ := GraphOp.apply_eq_ok_nodes h
  refine ⟨fun i n hn => ⟨op.onNode n, ?_, GraphOp.moves_onNode op n⟩, fun i n' hn' hi => ?_⟩
  · have hi : i < g.nodes.size := (Array.getElem?_eq_some_iff.mp hn).1
    rw [hnodes, Array.getElem?_append_left (by simpa using hi), Array.getElem?_map, hn]
    rfl
  · rcases getElem?_of_apply h hn' with ⟨n, hn, -⟩ | ⟨-, hd, -⟩
    · exact absurd hi (Nat.not_le.mpr (Array.getElem?_eq_some_iff.mp hn).1)
    · exact hd

-- The guard of the setup: a graph with a released pass is refused before any pass is set up.
theorem setup_of_released (hd : ∃ n ∈ g.nodes, n.state = .deinit) :
    g.setup = .error .graphSetupAfterDeinit := by
  obtain ⟨n, hn, hs⟩ := hd
  have hany : g.nodes.any (·.state == .deinit) = true := by
    obtain ⟨i, hi, rfl⟩ := Array.mem_iff_getElem.mp hn
    exact Array.any_eq_true.mpr ⟨i, hi, by simp [hs]⟩
  simp [setup, hany]

-- In a graph a run left, a setup with no released pass succeeds when the declarations of each
-- declared pass are valid.
theorem Lifecycles.setup_eq_ok (hl : Lifecycles g hist) (hs : ∀ n ∈ g.nodes, n.state ≠ .deinit)
    (hdecl : ∀ n ∈ g.nodes, n.state = .declared →
      ∃ b, ({} : Builder).declareAll n.pass.script.declarations = .ok b) :
    ∃ g', g.setup = .ok g' := by
  -- a declared pass is not released, so its setup gives the declarations it makes
  have hready : ∀ n ∈ g.nodes, n.state = .declared → n.pass.deinit = false ∧
      ({} : Builder).declareAll n.pass.script.declarations = .ok n.pass.declared := by
    intro n hn hd
    obtain ⟨i, hi⟩ := Array.mem_iff_getElem?.mp hn
    have hp : n.pass.deinit = false := by
      cases hp : n.pass.deinit
      · rfl
      · exact absurd ((hl.released i n hi).mp hp) (by rw [hd]; decide)
    obtain ⟨b, hb⟩ := hdecl n hn hd
    rw [hb, RenderPass.declared_eq (RenderPass.setup_eq_ok hp hb)]
    exact ⟨hp, rfl⟩
  exact ⟨_, RenderGraph.setup_eq_ok RenderPass.declared hs hready⟩

-- Executing a graph up to its first declared pass: the passes before it are executed as a graph
-- of their own would execute them, and then the declared pass ends the execution with its fault.
theorem execute_of_declared (l : CommandList) {pre post : List PassNode} {n : PassNode}
    (hg : g.nodes.toList = pre ++ n :: post) (hd : n.state = .declared) :
    g.execute l = (({ nodes := pre.toArray } : RenderGraph).execute l >>= fun _ =>
      .error (.passBeforeSetup n.pass.name.text)) := by
  unfold execute
  dsimp only
  rw [← Array.foldlM_toList, ← Array.foldlM_toList, hg, List.toList_toArray, List.foldlM_append,
    bind_assoc, bind_assoc]
  congr 1
  funext s
  simp [hd, Functor.map, Except.map]

-- With no declared pass, an execution faults only where a ready pass's own execution faults.
theorem execute_error_of_ready {l : CommandList} {f : Fault}
    (hnd : ∀ n ∈ g.nodes, n.state ≠ .declared) (h : g.execute l = .error f) :
    ∃ n ∈ g.nodes, n.state = .ready ∧ ∃ l₀, n.pass.execute l₀ = .error f := by
  unfold execute at h
  dsimp only at h
  rw [← Array.foldlM_toList] at h
  rcases bind_eq_error.mp h with hf | ⟨⟨nodes, l'⟩, -, hk⟩
  · obtain ⟨n, hn, ⟨acc, c⟩, hs⟩ := foldlM_eq_error hf
    have hn : n ∈ g.nodes := Array.mem_toList_iff.mp hn
    refine ⟨n, hn, ?_⟩
    -- the step faults at a ready pass only through the pass's execution
    cases hst : n.state with
    | ready =>
      simp only [hst] at hs
      rcases bind_eq_error.mp hs with hx | ⟨l₁, -, hp⟩
      · exact ⟨rfl, c, hx⟩
      · simp [pure, Except.pure] at hp
    | declared => exact absurd hst (hnd n hn)
    | _ => simp [hst, pure, Except.pure] at hs
  · simp [pure, Except.pure] at hk

theorem deinit_deinit (g : RenderGraph) : g.deinit.deinit = g.deinit := by
  simp [deinit, RenderPass.release]

-- The life cycle of the passes of a graph, over every run of operations from an empty graph: each
-- pass is set up at most once, first, and executed at most once, right after a setup that
-- accepted; the setup and the execution fault only where the graph's own checks say.
theorem pass_lifecycle (ops : List GraphOp) (g : RenderGraph) (hist : Nat → List PassCall)
    (hrun : GraphOp.run {} ops = .ok (g, hist)) :
    (∀ i, (hist i).count .setup ≤ 1 ∧ (hist i).count .execute ≤ 1 ∧
      (∀ pre post, hist i = pre ++ .setup :: post → pre = []) ∧
      (∀ pre post, hist i = pre ++ .execute :: post →
        pre = [.setup] ∧ ∃ n, g.nodes[i]? = some n ∧ n.pass.script.accepts = true)) ∧
    (∀ (op : GraphOp) g', op.apply g = .ok g' →
      (∀ (i : Nat) (n : PassNode), g.nodes[i]? = some n →
        ∃ n', g'.nodes[i]? = some n' ∧ op.Moves n.state n'.state) ∧
      (∀ (i : Nat) (n' : PassNode), g'.nodes[i]? = some n' → g.nodes.size ≤ i →
        n'.state = .declared)) ∧
    ((∃ n ∈ g.nodes, n.state = .deinit) → g.setup = .error .graphSetupAfterDeinit) ∧
    ((∀ n ∈ g.nodes, n.state ≠ .deinit) →
      (∀ n ∈ g.nodes, n.state = .declared →
        ∃ b, ({} : Builder).declareAll n.pass.script.declarations = .ok b) →
      ∃ g', g.setup = .ok g') ∧
    (∀ l pre n post, g.nodes.toList = pre ++ n :: post → n.state = .declared →
      g.execute l = (({ nodes := pre.toArray } : RenderGraph).execute l >>= fun _ =>
        .error (.passBeforeSetup n.pass.name.text))) ∧
    (∀ l f, (∀ n ∈ g.nodes, n.state ≠ .declared) → g.execute l = .error f →
      ∃ n ∈ g.nodes, n.state = .ready ∧ ∃ l₀, n.pass.execute l₀ = .error f) ∧
    g.deinit.deinit = g.deinit := by
  have hl : Lifecycles g hist := lifecycles_empty.run hrun
  exact ⟨hl.calls, fun _ _ h => moves_of_apply h, setup_of_released, hl.setup_eq_ok,
    fun l _ _ _ hg hd => execute_of_declared l hg hd, fun _ _ hnd h => execute_error_of_ready hnd h,
    deinit_deinit g⟩

-- Two passes, the second declining its setup, set up, executed and released twice: the first
-- has seen its setup, its execution and two releases, the second no execution, and a setup now
-- is refused.
theorem pass_lifecycle_two_passes :
    let ops : List GraphOp := [.addPass "A" {}, .addPass "B" { accepts := false }, .setup,
      .execute .empty, .deinit, .deinit]
    ∃ g hist, GraphOp.run {} ops = .ok (g, hist) ∧
      hist 0 = [.setup, .execute, .release, .release] ∧ hist 1 = [.setup, .release, .release] ∧
      (hist 0).count .execute ≤ 1 ∧ g.setup = .error .graphSetupAfterDeinit := by
  intro ops
  -- the run, evaluated by the kernel: the calls on both passes and the states it leaves them in
  have hok : (GraphOp.run {} ops).toOption.map
      (fun r => (r.2 0, r.2 1, r.1.nodes.toList.map (·.state))) =
      some ([.setup, .execute, .release, .release], [.setup, .release, .release],
        [.deinit, .deinit]) := by
    decide +kernel
  cases hr : GraphOp.run {} ops with
  | error e => simp [hr, Except.toOption] at hok
  | ok r =>
    obtain ⟨g, hist⟩ := r
    simp only [hr, Except.toOption, Option.map_some, Option.some.injEq, Prod.mk.injEq] at hok
    obtain ⟨h0, h1, hstates⟩ := hok
    obtain ⟨hcalls, -, hrefused, -⟩ := pass_lifecycle ops g hist hr
    have hd : ∃ n ∈ g.nodes, n.state = .deinit := by
      have hm : PassState.deinit ∈ g.nodes.toList.map (·.state) := by simp [hstates]
      obtain ⟨n, hn, hs⟩ := List.mem_map.mp hm
      exact ⟨n, Array.mem_toList_iff.mp hn, hs⟩
    exact ⟨g, hist, rfl, h0, h1, (hcalls 0).2.1, hrefused hd⟩

-- A pass whose body pops the pass's own marker, in a graph set up: no pass is left declared, yet
-- executing the graph faults, at the pop that closes the pass.
theorem execute_faults_without_declared_pass :
    ∃ g hist, GraphOp.run {} [.addPass "P" { body := [.popMarker] }, .setup] = .ok (g, hist) ∧
      (∀ n ∈ g.nodes, n.state ≠ .declared) ∧ g.execute .empty = .error .unmatchedPop :=
  ⟨_, _, by with_unfolding_all rfl, by with_unfolding_all decide, by with_unfolding_all rfl⟩

end RenderGraph

end GpuFrontend

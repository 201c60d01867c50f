import GpuFrontend.Graph.Pass

/-!
Render graphs: passes in order, with a life cycle per frame.

Setting a graph up sets up every pass still declared; each becomes ready or
skipped, by its answer, and keeps its declarations. Executing records every
ready pass, which is then executed; a pass not yet set up is a fault. Deinit
releases every pass, and a graph with a released pass cannot be set up again.
-/

namespace GpuFrontend

inductive PassState
  | declared
  | ready
  | skipped
  | executed
  | deinit
  deriving DecidableEq, Repr

def PassState.name : PassState → String
  | .declared => "Declared"
  | .ready => "Ready"
  | .skipped => "Skipped"
  | .executed => "Executed"
  | .deinit => "DeInit"

structure PassNode where
  pass : RenderPass
  state : PassState := .declared
  usage : Array ResourceAccess := #[]

structure RenderGraph where
  nodes : Array PassNode := #[]
  deriving Inhabited

namespace RenderGraph

def add (g : RenderGraph) (p : RenderPass) : Nat × RenderGraph :=
  (g.nodes.size, { g with nodes := g.nodes.push { pass := p } })

-- Sets up every declared pass; a fault if any pass was released.
def setup (g : RenderGraph) : Except Fault RenderGraph :=
  if g.nodes.any (·.state == .deinit) then .error .graphSetupAfterDeinit
  else do
    let nodes ← g.nodes.mapM fun n =>
      if n.state == .declared then do
        let (accepted, b) ← n.pass.setup
        pure { n with state := if accepted then .ready else .skipped, usage := b.accesses }
      else pure n
    pure { g with nodes }

-- Records every ready pass into a list; a fault at a pass not yet set up.
def execute (g : RenderGraph) (l : CommandList) : Except Fault (RenderGraph × CommandList) := do
  let step (acc : Array PassNode × CommandList) (n : PassNode) :
      Except Fault (Array PassNode × CommandList) :=
    match n.state with
    | .ready => do
      let l ← n.pass.execute acc.2
      pure (acc.1.push { n with state := .executed }, l)
    | .declared => .error (.passBeforeSetup n.pass.name.text)
    | _ => pure (acc.1.push n, acc.2)
  let (nodes, l) ← g.nodes.foldlM step (#[], l)
  pure ({ g with nodes }, l)

def deinit (g : RenderGraph) : RenderGraph :=
  { g with nodes := g.nodes.map fun n => { n with pass := n.pass.release, state := .deinit } }

def size (g : RenderGraph) : Nat := g.nodes.size

-- The debug form: each pass's quoted name and state, such as `[("Clear", Ready)]`.
def debugText (g : RenderGraph) : String :=
  "[" ++ ", ".intercalate (g.nodes.toList.map fun n =>
    "(" ++ n.pass.name.debugText ++ ", " ++ n.state.name ++ ")") ++ "]"

end RenderGraph

end GpuFrontend

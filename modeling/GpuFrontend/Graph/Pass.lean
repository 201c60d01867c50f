import GpuFrontend.CommandList
import GpuFrontend.Graph.Builder

/-!
Render passes.

A pass has a debug name and a script: the declarations its setup makes, what
its setup answers (run or skip), and the operations its execution records.
Executing a pass brackets its operations in a marker with the pass's name: it
pushes the marker, records the operations, pops whatever they left open above
its marker, then pops its own. Once deinitialized, a pass can be neither set up
nor executed.
-/

namespace GpuFrontend

-- What a pass does, as data.
structure PassScript where
  accepts : Bool := true
  declarations : List (Access × GraphResource) := []
  body : List Recording := []

structure RenderPass where
  name : DebugName
  script : PassScript
  deinit : Bool := false

namespace RenderPass

-- A pass with a name, which must be a debug name.
def make (name : String) (script : PassScript) : Except Fault RenderPass := do
  let n ← DebugName.require name
  pure ⟨n, script, false⟩

def setup (p : RenderPass) : Except Fault (Bool × Builder) :=
  if p.deinit then .error (.setupAfterDeinit p.name.text)
  else do
    let b ← ({} : Builder).declareAll p.script.declarations
    pure (p.script.accepts, b)

-- Records the pass into a list, inside a marker of its name.
def execute (p : RenderPass) (l : CommandList) : Except Fault CommandList :=
  if p.deinit then .error (.executeAfterDeinit p.name.text)
  else do
    let depth := l.depth
    let l ← l.record (.pushMarker p.name.text .passMarker)
    let l ← l.recordAll p.script.body
    let l ← l.popMany (l.depth - (depth + 1))
    l.record .popMarker

def release (p : RenderPass) : RenderPass := { p with deinit := true }

end RenderPass

end GpuFrontend

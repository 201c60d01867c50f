import GpuFrontend.Fault

/-!
Running steps in order.

A step either could not be read, or it runs a given number of times, the last
run giving its outcome. A fault ends the session, reporting the run it
happened in when the step was repeated; so does a step that names something
that does not exist, or one that could not be read. An error the caller may
recover from is reported, and the session goes on.
-/

namespace GpuFrontend.Session

inductive Rejection
  | malformed (message : String)
  | fault (f : Fault)

inductive Missing
  | list (id count : Nat)
  | graph (id count : Nat)
  | pass (id count : Nat)
  | graphPass (id : Nat)
  | constantBuffer (id count : Nat)

def Missing.message : Missing → String
  | .list id count => "no list " ++ toString id ++ " (have " ++ toString count ++ ")"
  | .graph id count => "no graph " ++ toString id ++ " (have " ++ toString count ++ ")"
  | .pass id count => "no pass " ++ toString id ++ " (have " ++ toString count ++ ")"
  | .graphPass id => "no pass " ++ toString id
  | .constantBuffer id count => "no cb " ++ toString id ++ " (have " ++ toString count ++ ")"

inductive Halt
  | fault (f : Fault)
  | missing (m : Missing)

-- A step as given: how many times to run it, and what it asks or why it cannot be read.
structure Order (α : Type) where
  times : Nat := 1
  request : Except Rejection α

inductive Outcome (ρ : Type)
  | ok (reply : ρ)
  | failed (error : ResourceError)
  | fault (f : Fault) (run : Option Nat)
  | rejected (message : String)

variable {σ α ρ : Type}

-- Runs a step `n` more times; the last run's outcome is kept. A halt reports the index of its run
-- among `times`.
def runTimes (exec : σ → α → Except Halt (σ × Except ResourceError ρ)) (step : α) (times : Nat) :
    Nat → σ → Except ResourceError ρ → Except (Halt × Nat) (σ × Except ResourceError ρ)
  | 0, s, last => .ok (s, last)
  | n + 1, s, _ =>
    match exec s step with
    | .error h => .error (h, times - (n + 1))
    | .ok (s, a) => runTimes exec step times n s a

-- The run index a fault reports: only for a repeated step.
def runIndex (times i : Nat) : Option Nat := if times > 1 then some i else none

def runAll (exec : σ → α → Except Halt (σ × Except ResourceError ρ)) :
    σ → List (Order α) → List (Outcome ρ)
  | _, [] => []
  | s, o :: rest =>
    match o.request with
    | .error (.malformed m) => [.rejected m]
    | .error (.fault f) => [.fault f (runIndex o.times 0)]
    | .ok step =>
      match exec s step with
      | .error (.fault f) => [.fault f (runIndex o.times 0)]
      | .error (.missing m) => [.rejected m.message]
      | .ok (s, first) =>
        match runTimes exec step o.times (o.times - 1) s first with
        | .error (.fault f, i) => [.fault f (runIndex o.times i)]
        | .error (.missing m, _) => [.rejected m.message]
        | .ok (s, .ok r) => .ok r :: runAll exec s rest
        | .ok (s, .error e) => .failed e :: runAll exec s rest

end GpuFrontend.Session

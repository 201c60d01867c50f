import GpuFrontend.Registry
import GpuFrontend.Session.Run

/-!
Sessions on a single registry of integers.
-/

namespace GpuFrontend.Session

inductive RegistryStep (k : HandleKind)
  | allocate (value : Int)
  | ensureCapacity
  | get (h : Handle k)
  | resolve (h : Handle k)
  | set (h : Handle k) (value : Int)
  | contains (h : Handle k)
  | size
  | find (value : Int)
  | entries
  | debug

inductive RegistryReply
  | unit
  | index (n : Nat)
  | value (v : Int)
  | optValue (v : Option Int)
  | flag (b : Bool)
  | size (n : Nat)
  | optIndex (n : Option Nat)
  | entries (es : List (Nat × Int))
  | text (s : String)

variable {k : HandleKind}

def RegistryStep.exec (r : Registry k Int) :
    RegistryStep k → Except Halt (Registry k Int × Except ResourceError RegistryReply)
  | .allocate v =>
    match r.allocate v with
    | .ok (h, r) => .ok (r, .ok (.index h.raw))
    | .error f => .error (.fault f)
  | .ensureCapacity =>
    match r.ensureCapacity with
    | .ok () => .ok (r, .ok .unit)
    | .error f => .error (.fault f)
  | .get h =>
    match r.get? h with
    | .ok v => .ok (r, .ok (.optValue v))
    | .error f => .error (.fault f)
  | .resolve h =>
    match r.resolve h with
    | .ok v => .ok (r, .ok (.value v))
    | .error f => .error (.fault f)
  | .set h v =>
    match r.set h v with
    | .ok r => .ok (r, .ok .unit)
    | .error f => .error (.fault f)
  | .contains h => .ok (r, .ok (.flag (r.contains h)))
  | .size => .ok (r, .ok (.size r.size))
  | .find v => .ok (r, .ok (.optIndex (r.findIndex? (· == v))))
  | .entries => .ok (r, .ok (.entries r.toList))
  | .debug => .ok (r, .ok (.text r.debugText))

def runRegistry (k : HandleKind) (orders : List (Order (RegistryStep k))) :
    List (Outcome RegistryReply) :=
  runAll (fun r s => RegistryStep.exec r s) (Registry.empty : Registry k Int) orders

end GpuFrontend.Session

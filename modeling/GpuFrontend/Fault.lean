import GpuFrontend.Handle
import GpuFrontend.Text.DebugName
import GpuFrontend.Graph.Resource
import GpuFrontend.ResourceError

/-!
Faults: broken preconditions, which end the work at hand.

A fault is a misuse the library does not recover from: a handle that does not
fit its width or was never issued, a full registry, a malformed recording, a
render graph used out of order. Each cause is a constructor; `Fault.message`
holds all the wording.
-/

namespace GpuFrontend

inductive Fault
  -- An index does not fit the handle width of its kind.
  | indexTooWide (kind : HandleKind) (index : Nat)
  -- A registry of the kind already holds as many entries as its handles can name.
  | rangeExhausted (kind : HandleKind)
  -- A handle names no entry of the registry.
  | outOfRange (kind : HandleKind) (raw : Nat) (size : Nat)
  -- A text is not a debug name.
  | badName (error : DebugNameError)
  | recordedAfterExecute
  | unbalancedMarkers (depth : Nat)
  | executedTwice
  | drawInvalidModel
  | bindlessZeroVertices
  | bindlessZeroInstances
  | indexedInvalidModel
  | indexedZeroIndices
  | indexedZeroInstances
  | emptyWorkgroup (x y z : Nat)
  | unmatchedPop
  | zeroSizeBuffer (name : String)
  | writeInvalidBuffer
  | modelWithoutVertices (name : String)
  | emptyExtent (name : String) (width height layers : Nat)
  | noFormat (name : String)
  | wrongDataLength (name : String) (expected : Nat)
  | multiplyOverflow
  | addOverflow
  | zeroCapacityArray (name : String)
  | invalidArray
  | arrayFull (name : String) (capacity : Nat)
  | placeholderZeroSize
  | placeholderUnavailable (error : ResourceError)
  | noFrameInFlight
  | invalidDeclaration (access : Access) (resource : GraphResource)
  | graphSetupAfterDeinit
  | passBeforeSetup (name : String)
  | setupAfterDeinit (name : String)
  | executeAfterDeinit (name : String)
  -- A texture path hashes to the fingerprint reserved for unshared textures.
  | reservedFingerprint (path : String)
  -- A command stream is opened while another is still open.
  | streamAlreadyOpen
  -- A call is sent to a stream that is not the open one.
  | outsideStream

namespace Fault

def message : Fault → String
  | .indexTooWide k n =>
      k.label ++ " index " ++ toString n ++ " does not fit in " ++ k.widthName
  | .rangeExhausted k =>
      k.label ++ " handle range exhausted (" ++ toString k.capacity ++
        " entries), the handle type needs a wider integer"
  | .outOfRange k raw size =>
      k.label ++ " handle " ++ k.typeName ++ "(" ++ toString raw ++
        ") out of range (registry holds " ++ toString size ++ ")"
  | .badName e => e.message
  | .recordedAfterExecute =>
      "recording into a command list that was already executed; reset it first"
  | .unbalancedMarkers d => "command list executed with " ++ toString d ++ " unbalanced marker(s)"
  | .executedTwice => "command list executed twice without a reset"
  | .drawInvalidModel => "draw with an invalid model handle"
  | .bindlessZeroVertices => "bindless draw with zero vertices"
  | .bindlessZeroInstances => "bindless draw with zero instances"
  | .indexedInvalidModel => "indexed draw with an invalid model handle"
  | .indexedZeroIndices => "indexed draw with zero indices"
  | .indexedZeroInstances => "indexed draw with zero instances"
  | .emptyWorkgroup x y z =>
      "dispatch with an empty workgroup count (" ++ toString x ++ ", " ++ toString y ++ ", " ++
        toString z ++ ")"
  | .unmatchedPop => "pop_marker without a matching push_marker"
  | .zeroSizeBuffer name => "buffer '" ++ name ++ "' has zero size"
  | .writeInvalidBuffer => "write to an invalid buffer handle"
  | .modelWithoutVertices name => "model '" ++ name ++ "' has no vertices"
  | .emptyExtent name w h l =>
      "data texture '" ++ name ++ "' has an empty extent (" ++ toString w ++ "x" ++ toString h ++
        "x" ++ toString l ++ ")"
  | .noFormat name => "data texture '" ++ name ++ "' has no format"
  | .wrongDataLength name expected =>
      "data texture '" ++ name ++ "' expects " ++ toString expected ++ " bytes of pixel data"
  | .multiplyOverflow => "attempt to multiply with overflow"
  | .addOverflow => "attempt to add with overflow"
  | .zeroCapacityArray name => "texture array '" ++ name ++ "' needs a non-zero capacity"
  | .invalidArray => "load into an invalid texture array handle"
  | .arrayFull name cap => "texture array '" ++ name ++ "' is full (" ++ toString cap ++ " slots)"
  | .placeholderZeroSize => "checkerboard placeholder needs a non-zero size"
  | .placeholderUnavailable e => "failed to load placeholder texture: " ++ e.message
  | .noFrameInFlight => "renderer needs at least one frame in flight"
  | .invalidDeclaration a r =>
      "pass declared " ++ a.debugText ++ " access to an invalid handle " ++ r.debugText
  | .graphSetupAfterDeinit => "render graph set up again after deinit; build a new graph per frame"
  | .passBeforeSetup name => "pass '" ++ name ++ "' executed before setup"
  | .setupAfterDeinit name => "setup of deinitialized pass '" ++ name ++ "'"
  | .executeAfterDeinit name => "execute of deinitialized pass '" ++ name ++ "'"
  | .reservedFingerprint path =>
      "texture path '" ++ path ++ "' hashes to the reserved no-dedup fingerprint"
  | .streamAlreadyOpen => "DummyBackend: command stream already open"
  | .outsideStream => "command translated outside of its command stream"

-- The text before the first line end. A line ends at a line feed; a carriage return just before the
-- line feed belongs to the line end.
def firstLine (s : String) : String :=
  let line := s.toList.takeWhile (· ≠ '\n')
  if line.length < s.length ∧ line.getLast? = some '\r' then String.ofList line.dropLast
  else String.ofList line

-- What a report of the fault shows: the first line of its wording. A name with a line feed in it
-- cuts the report short.
def headline (f : Fault) : String := firstLine f.message

end Fault

def DebugName.require (s : String) : Except Fault DebugName :=
  (DebugName.make s).mapError Fault.badName

end GpuFrontend

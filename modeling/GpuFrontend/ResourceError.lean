import GpuFrontend.Device.Error

/-!
Errors of resource creation that the caller may recover from.

Decoding a texture file can fail, and the device can refuse to create an
object. Either way nothing is created, and the caller gets the error.
-/

namespace GpuFrontend

inductive CodecError
  | notFound (shown : String)
  | unsupported (detail : String)
  deriving DecidableEq, Repr

def CodecError.message : CodecError → String
  | .notFound shown => "I/O error: no such file: " ++ shown
  | .unsupported detail => "unsupported texture: " ++ detail

inductive ResourceError
  | decode (path : String) (cause : CodecError)
  | device (kind : String) (name : String) (cause : DeviceError)
  deriving DecidableEq, Repr

namespace ResourceError

def message : ResourceError → String
  | .decode path cause => "Failed to decode texture '" ++ path ++ "': " ++ cause.message
  | .device kind name cause =>
      "Backend failed to create " ++ kind ++ " '" ++ name ++ "': " ++ cause.message

def kindName : ResourceError → String
  | .decode _ _ => "Decode"
  | .device _ _ _ => "Backend"

end ResourceError

end GpuFrontend

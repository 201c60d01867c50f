/-!
Errors a device reports when it cannot create an object.
-/

namespace GpuFrontend

inductive DeviceError
  | textureCreationFailed (detail : String)
  | imageCreationFailed (detail : String)
  | bindingTableCreationFailed (detail : String)
  | bufferCreationFailed (detail : String)
  | samplerCreationFailed (detail : String)
  | modelCreationFailed (detail : String)
  | pipelineCreationFailed (detail : String)
  | invalidParameter (detail : String)
  | outOfMemory
  | deviceLost
  deriving DecidableEq, Repr

namespace DeviceError

def message : DeviceError → String
  | .textureCreationFailed d => "Failed to create texture: " ++ d
  | .imageCreationFailed d => "Failed to create image: " ++ d
  | .bindingTableCreationFailed d => "Failed to create binding table: " ++ d
  | .bufferCreationFailed d => "Failed to create buffer: " ++ d
  | .samplerCreationFailed d => "Failed to create sampler: " ++ d
  | .modelCreationFailed d => "Failed to create model: " ++ d
  | .pipelineCreationFailed d => "Failed to create pipeline: " ++ d
  | .invalidParameter d => "Invalid parameter: " ++ d
  | .outOfMemory => "Out of memory"
  | .deviceLost => "Device lost"

-- The error of a variant name, with its detail text where the variant has one.
def ofName? (variant detail : String) : Option DeviceError :=
  match variant with
  | "TextureCreationFailed" => some (.textureCreationFailed detail)
  | "ImageCreationFailed" => some (.imageCreationFailed detail)
  | "BindingTableCreationFailed" => some (.bindingTableCreationFailed detail)
  | "BufferCreationFailed" => some (.bufferCreationFailed detail)
  | "SamplerCreationFailed" => some (.samplerCreationFailed detail)
  | "ModelCreationFailed" => some (.modelCreationFailed detail)
  | "PipelineCreationFailed" => some (.pipelineCreationFailed detail)
  | "InvalidParameter" => some (.invalidParameter detail)
  | "OutOfMemory" => some .outOfMemory
  | "DeviceLost" => some .deviceLost
  | _ => none

end DeviceError

end GpuFrontend

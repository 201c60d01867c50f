/-!
Pixel formats and the other enumerations of resource descriptions.

Each enumeration has the names it is written with, and a reader of those names.
The texel size of a colour format is the number of bytes one pixel takes;
the unknown format takes none.
-/

namespace GpuFrontend

inductive ImageFormat
  | unknown
  | r32g32b32a32Float
  | r32g32b32a32Uint
  | r32g32b32a32Sint
  | r16g16b16a16Float
  | r16g16b16a16Unorm
  | r32g32Float
  | r32g32Uint
  | r10g10b10a2Unorm
  | r11g11b10Float
  | r8g8b8a8Unorm
  | r8g8b8a8UnormSrgb
  | r8g8b8a8Uint
  | r8g8b8a8Snorm
  | r16g16Float
  | r16g16Unorm
  | r32Float
  | r32Uint
  | r8g8Unorm
  | r16Float
  | r16Unorm
  | r8Unorm
  | r8Uint
  deriving DecidableEq, Repr, Inhabited

namespace ImageFormat

def all : List ImageFormat :=
  [.unknown, .r32g32b32a32Float, .r32g32b32a32Uint, .r32g32b32a32Sint, .r16g16b16a16Float,
    .r16g16b16a16Unorm, .r32g32Float, .r32g32Uint, .r10g10b10a2Unorm, .r11g11b10Float,
    .r8g8b8a8Unorm, .r8g8b8a8UnormSrgb, .r8g8b8a8Uint, .r8g8b8a8Snorm, .r16g16Float,
    .r16g16Unorm, .r32Float, .r32Uint, .r8g8Unorm, .r16Float, .r16Unorm, .r8Unorm, .r8Uint]

def name : ImageFormat → String
  | .unknown => "Unknown"
  | .r32g32b32a32Float => "R32G32B32A32Float"
  | .r32g32b32a32Uint => "R32G32B32A32Uint"
  | .r32g32b32a32Sint => "R32G32B32A32Sint"
  | .r16g16b16a16Float => "R16G16B16A16Float"
  | .r16g16b16a16Unorm => "R16G16B16A16Unorm"
  | .r32g32Float => "R32G32Float"
  | .r32g32Uint => "R32G32Uint"
  | .r10g10b10a2Unorm => "R10G10B10A2Unorm"
  | .r11g11b10Float => "R11G11B10Float"
  | .r8g8b8a8Unorm => "R8G8B8A8Unorm"
  | .r8g8b8a8UnormSrgb => "R8G8B8A8UnormSrgb"
  | .r8g8b8a8Uint => "R8G8B8A8Uint"
  | .r8g8b8a8Snorm => "R8G8B8A8Snorm"
  | .r16g16Float => "R16G16Float"
  | .r16g16Unorm => "R16G16Unorm"
  | .r32Float => "R32Float"
  | .r32Uint => "R32Uint"
  | .r8g8Unorm => "R8G8Unorm"
  | .r16Float => "R16Float"
  | .r16Unorm => "R16Unorm"
  | .r8Unorm => "R8Unorm"
  | .r8Uint => "R8Uint"

def ofName? (s : String) : Option ImageFormat := all.find? fun f => f.name == s

def texelSize : ImageFormat → Nat
  | .unknown => 0
  | .r32g32b32a32Float | .r32g32b32a32Uint | .r32g32b32a32Sint => 16
  | .r16g16b16a16Float | .r16g16b16a16Unorm | .r32g32Float | .r32g32Uint => 8
  | .r10g10b10a2Unorm | .r11g11b10Float | .r8g8b8a8Unorm | .r8g8b8a8UnormSrgb
  | .r8g8b8a8Uint | .r8g8b8a8Snorm | .r16g16Float | .r16g16Unorm | .r32Float
  | .r32Uint => 4
  | .r8g8Unorm | .r16Float | .r16Unorm => 2
  | .r8Unorm | .r8Uint => 1

end ImageFormat

inductive DepthFormat
  | d32Float
  | d32FloatS8Uint
  | d24UnormS8Uint
  | d16Unorm
  deriving DecidableEq, Repr, Inhabited

namespace DepthFormat

def name : DepthFormat → String
  | .d32Float => "D32Float"
  | .d32FloatS8Uint => "D32FloatS8Uint"
  | .d24UnormS8Uint => "D24UnormS8Uint"
  | .d16Unorm => "D16Unorm"

def ofName? (s : String) : Option DepthFormat :=
  [DepthFormat.d32Float, .d32FloatS8Uint, .d24UnormS8Uint, .d16Unorm].find? fun f => f.name == s

def hasStencil : DepthFormat → Bool
  | .d32FloatS8Uint | .d24UnormS8Uint => true
  | _ => false

end DepthFormat

inductive SampleCount
  | x1
  | x2
  | x4
  | x8
  deriving DecidableEq, Repr, Inhabited

namespace SampleCount

def name : SampleCount → String
  | .x1 => "X1"
  | .x2 => "X2"
  | .x4 => "X4"
  | .x8 => "X8"

def ofName? (s : String) : Option SampleCount :=
  [SampleCount.x1, .x2, .x4, .x8].find? fun c => c.name == s

def count : SampleCount → Nat
  | .x1 => 1
  | .x2 => 2
  | .x4 => 4
  | .x8 => 8

end SampleCount

inductive FilterMode
  | nearest
  | linear
  deriving DecidableEq, Repr

def FilterMode.ofName? : String → Option FilterMode
  | "Nearest" => some .nearest
  | "Linear" => some .linear
  | _ => none

inductive AddressMode
  | repeating
  | mirrorRepeat
  | clampToEdge
  deriving DecidableEq, Repr

def AddressMode.ofName? : String → Option AddressMode
  | "Repeat" => some .repeating
  | "MirrorRepeat" => some .mirrorRepeat
  | "ClampToEdge" => some .clampToEdge
  | _ => none

inductive BufferKind
  | constant
  | storage
  deriving DecidableEq, Repr

def BufferKind.ofName? : String → Option BufferKind
  | "Constant" => some .constant
  | "Storage" => some .storage
  | _ => none

end GpuFrontend

import GpuFrontend.Single

/-!
Raster state values: colours, viewports and scissor rectangles.

Their numbers are single-precision values, stored as given.
-/

namespace GpuFrontend

structure Rgba where
  r : Single
  g : Single
  b : Single
  a : Single
  deriving DecidableEq, Repr, Inhabited

structure Rgb where
  r : Single
  g : Single
  b : Single
  deriving DecidableEq, Repr, Inhabited

def Rgba.zero : Rgba := ⟨.zero, .zero, .zero, .zero⟩

def Rgb.zero : Rgb := ⟨.zero, .zero, .zero⟩

-- White, the default colour of a marker.
def Rgb.white : Rgb := ⟨.one, .one, .one⟩

-- The colour of the marker around a render pass: green at 0.4.
def Rgb.passMarker : Rgb := ⟨.zero, ⟨0x3ECCCCCD⟩, .zero⟩

structure Viewport where
  x : Single := .zero
  y : Single := .zero
  width : Single := .zero
  height : Single := .zero
  minDepth : Single := .zero
  maxDepth : Single := .one
  deriving DecidableEq, Repr, Inhabited

structure ScissorRect where
  left : Nat := 0
  right : Nat := 0
  top : Nat := 0
  bottom : Nat := 0
  deriving DecidableEq, Repr, Inhabited

end GpuFrontend

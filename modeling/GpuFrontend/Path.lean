import GpuFrontend.Text.Utf8

/-!
File paths as byte strings.

A path is kept as the bytes it was given. It is shown by reading the bytes as
UTF-8 with ill-formed parts replaced. Two paths name the same file when they
have the same components: separators repeat freely, a trailing separator and
an inner `.` component change nothing, while a leading `.` does.
-/

namespace GpuFrontend

structure Path where
  bytes : ByteArray

inductive PathPart
  | root
  | current
  | parent
  | normal (name : List UInt8)
  deriving DecidableEq, Repr

namespace Path

def ofString (s : String) : Path := ⟨s.toUTF8⟩

def separator : UInt8 := 47

def dot : UInt8 := 46

def display (p : Path) : String := Text.ofBytesLossy p.bytes.toList

-- The component a segment between separators stands for inside a path; empty segments and `.` stand
-- for none.
def bodyPart (seg : List UInt8) : Option PathPart :=
  if seg = [] ∨ seg = [dot] then none
  else if seg = [dot, dot] then some .parent
  else some (.normal seg)

-- The components of a path: a root for a leading separator, a current-directory component for a
-- leading `.` segment of a relative path, then one component per segment that is neither empty nor
-- `.`.
def parts (p : Path) : List PathPart :=
  let bs := p.bytes.toList
  let segs := bs.splitOn separator
  let body := segs.filterMap bodyPart
  match bs with
  | [] => []
  | b :: _ =>
    if b = separator then .root :: body
    else if segs.head? = some [dot] then .current :: body
    else body

def sameFile (p q : Path) : Bool := p.parts == q.parts

end Path

end GpuFrontend

import GpuFrontend.Text.Quoted

/-!
Debug names: the short ASCII names of markers and passes.

A name is accepted when every character is ASCII and it has at most fifteen
bytes. The ASCII test comes first, so a long name with a non-ASCII character is
refused as not ASCII.
-/

namespace GpuFrontend

def DebugName.maxLength : Nat := 15

inductive DebugNameError
  | tooLong (name : String) (length : Nat)
  | notAscii (name : String)
  deriving DecidableEq, Repr

namespace DebugNameError

def message : DebugNameError → String
  | .tooLong name length =>
      "debug name '" ++ name ++ "' is " ++ toString length ++
        " characters long, the maximum is " ++ toString DebugName.maxLength
  | .notAscii name => "debug name '" ++ name ++ "' is not ASCII"

def kindName : DebugNameError → String
  | .tooLong _ _ => "TooLong"
  | .notAscii _ => "NotAscii"

end DebugNameError

def isAsciiText (s : String) : Bool := s.toList.all fun c => c.toNat < 128

structure DebugName where
  text : String
  ascii : isAsciiText text = true
  short : text.utf8ByteSize ≤ DebugName.maxLength

namespace DebugName

instance : DecidableEq DebugName := fun a b =>
  if h : a.text = b.text then
    isTrue (by cases a; cases b; simp only at h; subst h; rfl)
  else
    isFalse (fun e => h (congrArg DebugName.text e))

-- The empty name, the default of a marker payload.
def empty : DebugName := ⟨"", rfl, by decide⟩

instance : Inhabited DebugName := ⟨empty⟩

-- Accepts a text as a debug name, or says why not: the ASCII test comes first.
def make (s : String) : Except DebugNameError DebugName :=
  if ha : isAsciiText s = true then
    if hs : s.utf8ByteSize ≤ maxLength then .ok ⟨s, ha, hs⟩
    else .error (.tooLong s s.utf8ByteSize)
  else .error (.notAscii s)

def length (n : DebugName) : Nat := n.text.utf8ByteSize

def debugText (n : DebugName) : String := Text.quote n.text

end DebugName

-- How a debug name is held: a buffer of fifteen bytes and the number of them in use.
structure InlineName where
  bytes : Vector UInt8 DebugName.maxLength
  len : UInt8
  deriving DecidableEq

-- The text a stored name reads as: the bytes in use decoded as UTF-8, or the empty text when they
-- are not valid UTF-8.
def InlineName.read (b : InlineName) : String :=
  (String.fromUTF8? ⟨b.bytes.toArray.extract 0 b.len.toNat⟩).getD ""

namespace DebugName

-- How a name is held: its bytes at the front of a zeroed buffer, and its length.
def store (n : DebugName) : InlineName where
  bytes := ⟨n.text.toByteArray.data ++ Array.replicate (maxLength - n.text.utf8ByteSize) 0, by
    have hs : n.text.toByteArray.data.size = n.text.utf8ByteSize := rfl
    have hshort := n.short
    rw [Array.size_append, Array.size_replicate, hs]
    omega⟩
  len := n.text.utf8ByteSize.toUInt8

-- The name's text as it is read back from where the name is held; a name displays as it.
def asStr (n : DebugName) : String := n.store.read

def isEmpty (n : DebugName) : Bool := n.store.len == 0

theorem make_text {s : String} {n : DebugName} (h : make s = .ok n) : n.text = s := by
  unfold make at h
  split at h
  · split at h
    · cases h; rfl
    · cases h
  · cases h

end DebugName

end GpuFrontend

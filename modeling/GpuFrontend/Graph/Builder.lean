import GpuFrontend.Fault

/-!
The declarations a pass makes while it is set up.

Each declaration names a resource and whether it is read or written. A
sentinel handle is a fault. The same resource with the same access is kept
once, at its first declaration; reads and writes are the declarations of each
access, in order.
-/

namespace GpuFrontend

-- The declarations of one setup, in order of first declaration.
structure Builder where
  accesses : Array ResourceAccess := #[]
  deriving Inhabited

namespace Builder

def declare (b : Builder) (access : Access) (resource : GraphResource) : Except Fault Builder :=
  if !resource.isValid then .error (.invalidDeclaration access resource)
  else if b.accesses.contains ⟨resource, access⟩ then .ok b
  else .ok { b with accesses := b.accesses.push ⟨resource, access⟩ }

def declareAll (b : Builder) (ds : List (Access × GraphResource)) : Except Fault Builder :=
  ds.foldlM (fun b d => b.declare d.1 d.2) b

def withAccess (b : Builder) (a : Access) : List GraphResource :=
  (b.accesses.toList.filter fun x => x.access == a).map (·.resource)

def reads (b : Builder) : List GraphResource := b.withAccess .read

def writes (b : Builder) : List GraphResource := b.withAccess .write

end Builder

end GpuFrontend

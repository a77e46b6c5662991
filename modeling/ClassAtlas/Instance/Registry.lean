import ClassAtlas.Config
import ClassAtlas.Instance

/-! A bounded set of program instances with distinct ids, in the order of their
insertion. Where the bound is exceeded the oldest instances leave. -/
namespace ClassAtlas

structure InstanceRegistry where
  /-- How many instances may stay, at least one. -/
  maxInstances : Nat
  /-- Oldest first. -/
  instances : List ProgramInstance := []

namespace InstanceRegistry

def new (maxInstances : Nat) : InstanceRegistry :=
  ⟨max maxInstances 1, []⟩

def ofConfig (c : ServiceConfig) : InstanceRegistry :=
  new c.maxInstances.toNat

def ids (r : InstanceRegistry) : List String :=
  r.instances.map ProgramInstance.id

def size (r : InstanceRegistry) : Nat :=
  r.instances.length

def isEmpty (r : InstanceRegistry) : Bool :=
  r.instances.isEmpty

def get? (r : InstanceRegistry) (id : String) : Option ProgramInstance :=
  r.instances.find? fun i => i.id = id

def modify (r : InstanceRegistry) (id : String) (change : ProgramInstance → ProgramInstance) :
    InstanceRegistry :=
  { r with instances := r.instances.map fun i => if i.id = id then change i else i }

def evict (r : InstanceRegistry) : List String × InstanceRegistry :=
  let excess := r.size - r.maxInstances
  ((r.instances.take excess).map ProgramInstance.id,
    { r with instances := r.instances.drop excess })

/-- Remove the instance with an id, and tell whether there was one. -/
def unload (r : InstanceRegistry) (id : String) : Bool × InstanceRegistry :=
  ((r.get? id).isSome, { r with instances := r.instances.eraseP fun i => i.id = id })

/-- Remove all instances, and tell how many there were. -/
def unloadAll (r : InstanceRegistry) : Nat × InstanceRegistry :=
  (r.size, { r with instances := [] })

/-- Insert an instance as the newest in place of one with the same id. The ids of
those that leave are returned. -/
def insert (r : InstanceRegistry) (i : ProgramInstance) : List String × InstanceRegistry :=
  let r := (r.unload i.id).2
  evict { r with instances := r.instances ++ [i] }

/-- Change the bound, to at least one. -/
def setMaxInstances (r : InstanceRegistry) (maxInstances : Nat) : List String × InstanceRegistry :=
  evict { r with maxInstances := max maxInstances 1 }

end InstanceRegistry

end ClassAtlas

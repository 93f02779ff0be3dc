import Offload.Text.Quoted

/-!
# GPU devices and contexts

A device is an index among the adapters of a system; what its adapter is like is known once the
adapter was looked up. A context is an opened device.
-/

namespace Offload.Gpu

/-- What is known about an adapter. -/
structure Adapter where
  name : String
  vendor : Nat
  device : Nat
  backend : String
  /-- The most work groups it takes on one axis. -/
  maxWorkgroups : Nat
  deriving DecidableEq, Repr

/-- The most work groups on one axis, unless an adapter says otherwise. -/
def usualWorkgroups : Nat := 65535

structure Device where
  index : Nat
  adapter? : Option Adapter := none
  deriving DecidableEq, Repr

namespace Device

def name (d : Device) : String := s!"wgpu:{d.index}"

def adapterName (d : Device) : String :=
  (d.adapter?.map Adapter.name).getD "unknown"

/-- The most work groups on one axis; the usual limit for an adapter that was not looked up. -/
def maxWorkgroups (d : Device) : Nat :=
  (d.adapter?.map Adapter.maxWorkgroups).getD usualWorkgroups

def isSame (d e : Device) : Bool := d.index == e.index

def inspect (d : Device) : String :=
  let backend := match d.adapter? with
    | some a => s!"Some({a.backend})"
    | none => "None"
  Text.record "WgpuDevice" [("index", toString d.index),
    ("adapter", Text.quoted d.adapterName), ("backend", backend)] false

end Device

/-- An opened device; its number tells it from others of the same device. -/
structure Context where
  id : Nat
  device : Device
  deriving DecidableEq, Repr

namespace Context

def isSame (c d : Context) : Bool := c.id == d.id

def inspect (c : Context) : String :=
  Text.record "WgpuContext" [("device", c.device.inspect)] true

/-- How a queue of the context reads. -/
def inspectQueue (c : Context) : String :=
  Text.record "WgpuQueue" [("context", c.inspect)] false

end Context

end Offload.Gpu

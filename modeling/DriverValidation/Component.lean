/-!
The components of a node that a validation run can be asked for, and their names.
-/

namespace DriverValidation

/-- What a run can be asked to validate. -/
inductive Component where
  | driver
  | cuda
  | plugin
  | toolkit
  | nvidiaFs
  | gdrcopy
  | nvidiaPeermem
  | mofed
  | vgpuManager
  | vgpuDevices
  | ccManager
  deriving Repr, DecidableEq

namespace Component

/-- All components, in the order in which they are listed to the user. -/
def all : List Component :=
  [driver, cuda, plugin, toolkit, nvidiaFs, gdrcopy, nvidiaPeermem, mofed, vgpuManager,
    vgpuDevices, ccManager]

/-- The name by which a component is asked for. -/
def name : Component → String
  | driver => "driver"
  | cuda => "cuda"
  | plugin => "plugin"
  | toolkit => "toolkit"
  | nvidiaFs => "nvidia-fs"
  | gdrcopy => "gdrcopy"
  | nvidiaPeermem => "nvidia-peermem"
  | mofed => "mofed"
  | vgpuManager => "vgpu-manager"
  | vgpuDevices => "vgpu-devices"
  | ccManager => "cc-manager"

/-- The component of a name; names are compared exactly. -/
def ofName? (s : String) : Option Component :=
  all.find? (·.name == s)

def isValid (s : String) : Bool := (ofName? s).isSome

/-- The components whose validation follows the feature status file. -/
def isAdditional : Component → Bool
  | nvidiaFs | gdrcopy | nvidiaPeermem => true
  | _ => false

theorem mem_all (c : Component) : c ∈ all := by
  cases c <;> decide

theorem name_injective {a b : Component} (h : a.name = b.name) : a = b := by
  revert h
  cases a <;> cases b <;> decide

theorem ofName?_name (c : Component) : ofName? c.name = some c := by
  cases c <;> decide

theorem ofName?_eq_some_iff {s : String} {c : Component} : ofName? s = some c ↔ s = c.name := by
  constructor
  · intro h
    have := List.find?_some h
    exact (beq_iff_eq.1 this).symm
  · rintro rfl
    exact ofName?_name c

end Component

end DriverValidation

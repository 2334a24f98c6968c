import DriverValidation.Component

/-!
The optional features of the driver, each with the key of its flag in the status file and the
component that stands for it.
-/

namespace DriverValidation

/-- A driver feature that is validated only where the driver container has enabled it. -/
inductive Feature where
  | gdrcopy
  | gds
  | gpuDirectRdma
  deriving Repr, DecidableEq

namespace Feature

/-- All features, in the order in which they are probed and reported. -/
def all : List Feature := [gdrcopy, gds, gpuDirectRdma]

/-- The name of a feature in messages. -/
def name : Feature → String
  | gdrcopy => "GDRCOPY"
  | gds => "GDS"
  | gpuDirectRdma => "GPU_DIRECT_RDMA"

/-- The short name of a feature in lists of the log. -/
def shortName : Feature → String
  | gdrcopy => "Gdrcopy"
  | gds => "Gds"
  | gpuDirectRdma => "GpuDirectRdma"

/-- The key of the feature's flag in the status file. -/
def statusKey : Feature → String
  | gdrcopy => "GDRCOPY_ENABLED"
  | gds => "GDS_ENABLED"
  | gpuDirectRdma => "GPU_DIRECT_RDMA_ENABLED"

def component : Feature → Component
  | gdrcopy => .gdrcopy
  | gds => .nvidiaFs
  | gpuDirectRdma => .nvidiaPeermem

theorem mem_all (f : Feature) : f ∈ all := by
  cases f <;> decide

theorem statusKey_injective {a b : Feature} (h : a.statusKey = b.statusKey) : a = b := by
  revert h
  cases a <;> cases b <;> decide

theorem component_isAdditional (f : Feature) : f.component.isAdditional = true := by
  cases f <;> rfl

end Feature

end DriverValidation

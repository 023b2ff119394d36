import Throughput.Decimal.NumberFormat
import Throughput.Kernel
import Throughput.RayTracing.Scene

/-!
Contract: the workload that renders a scene and checks the image.

Owns:
- the state of the workload: the image rendered last, and the checksum of the
  first rendering, which every later one has to repeat;
- the steps of the workload's cycle, and the kernel.

The reference outlives a cycle; the image does not.
-/

namespace Throughput.RayTracing

/-- What is rendered, on how many pixels. -/
structure Canvas where
  scene : Scene Float
  width : Nat
  height : Nat

def Canvas.standard : Canvas := ⟨.standard, 64, 64⟩

structure State where
  pixels : List (Colour Float) := []
  /-- The checksum of the first rendering. -/
  reference : Option Float := none

namespace Canvas

def image (canvas : Canvas) : List (Colour Float) :=
  canvas.scene.render canvas.width canvas.height

/-- Starts from an empty image. The first cycle renders the reference. -/
def setup (canvas : Canvas) (state : State) : Except Fault Unit × State :=
  if 2 ≤ canvas.width ∧ 2 ≤ canvas.height then
    match state.reference with
    | some _ => (.ok (), { state with pixels := [] })
    | none =>
      let pixels := canvas.image
      (.ok (), { pixels, reference := some (checksum pixels) })
  else
    (.error (.ofMessage
      ("canvas must be at least 2x2, got " ++ toString canvas.width ++ "x" ++
        toString canvas.height)),
      state)

/-- Renders the image and compares its checksum with the reference. -/
def run (canvas : Canvas) (state : State) : Except Fault Unit × State :=
  let pixels := canvas.image
  let sum := checksum pixels
  if state.reference.any (sum == ·) then
    (.ok (), { state with pixels })
  else
    (.error (.ofMessage
      ("render checksum " ++ Decimal.NumberFormat.plain.write sum ++
        " differs from reference " ++
        Decimal.NumberFormat.diagnostic.writeOption state.reference)),
      { state with pixels })

def teardown (state : State) : Except Fault Unit × State :=
  (.ok (), { state with pixels := [] })

def kernel (canvas : Canvas) : Kernel (StateM State) where
  name := "Tracer"
  setup := stateStep canvas.setup
  run := stateStep canvas.run
  teardown := stateStep teardown

end Canvas

end Throughput.RayTracing

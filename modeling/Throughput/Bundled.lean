import Throughput.Particles
import Throughput.Primes
import Throughput.RayTracing.Canvas
import Throughput.Suite

/-!
Contract: the kernels that come with the library, and the suite of them.

Owns:
- `Bundled.State`, with a part for each of the three kernels;
- `Bundled.kernels`, in the order in which they are run;
- `Bundled.suite`, which carries them to the monad of a run.
-/

namespace Throughput.Bundled

/-- The states of the three kernels. -/
structure State where
  primes : Primes.State := {}
  particles : List (Particles.Particle Float) := []
  tracer : RayTracing.State := {}

def onPrimes {β : Type} (action : StateM Primes.State β) : StateM State β :=
  focus State.primes (fun part whole => { whole with primes := part }) action

def onParticles {β : Type} (action : StateM (List (Particles.Particle Float)) β) :
    StateM State β :=
  focus State.particles (fun part whole => { whole with particles := part }) action

def onTracer {β : Type} (action : StateM RayTracing.State β) : StateM State β :=
  focus State.tracer (fun part whole => { whole with tracer := part }) action

def primeKernel (target : Primes.Target) : Kernel (StateM State) :=
  target.kernel.hoist onPrimes

def particleKernel (shape : Particles.Shape) : Kernel (StateM State) :=
  shape.kernel.hoist onParticles

def tracerKernel (canvas : RayTracing.Canvas) : Kernel (StateM State) :=
  canvas.kernel.hoist onTracer

def kernels : List (Kernel (StateM State)) :=
  [primeKernel .standard, particleKernel .standard, tracerKernel .standard]

def suiteName : String := "ton80"

/-- The suite of the bundled kernels, in the monad to which `lift` carries
their state. -/
def suite
    {m : Type → Type}
    [Monad m]
    (lift : {β : Type} → StateM State β → m β)
    (settings : Settings) :
    Suite m :=
  kernels.foldl
    (fun suite kernel => suite.register (kernel.hoist lift))
    (Suite.empty suiteName settings)

end Throughput.Bundled

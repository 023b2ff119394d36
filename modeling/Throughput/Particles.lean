import Throughput.Kernel
import Throughput.Scalar

/-!
Contract: the workload that moves particles under gravity inside a box.

Owns:
- the motion along one axis, with a bounce that loses speed at either wall;
- the layout from which every cycle starts, and the step in time;
- the steps of the workload's cycle, and the kernel.

The motion is written over `Scalar`. The state of the workload is its list of
particles, which is empty between cycles.
-/

namespace Throughput.Particles

variable {α : Type} [Scalar α]

/-- The acceleration along the upright axis. -/
def gravity : α := -9.81

/-- The part of its speed that a particle keeps at a wall. -/
def restitution : α := 0.9

/-- The length of a step in time. -/
def timeStep : α := 1.0 / 120.0

/-- The length of the box along either axis. -/
def boxSize : α := 10.0

/-- Where a particle is along one axis, and how fast. -/
structure Motion (α : Type) where
  position : α
  velocity : α

namespace Motion

/-- The motion after a bounce that brings the particle to a position. -/
@[inline]
def bounced (motion : Motion α) (position : α) : Motion α :=
  ⟨position, -motion.velocity * restitution⟩

/-- The motion one step later. Past a wall, the particle is reflected into
the box and turns round. -/
@[specialize]
def advance (motion : Motion α) : Motion α :=
  let position := motion.position + motion.velocity * timeStep
  if position < 0.0 then motion.bounced (-position)
  else if boxSize < position then motion.bounced (2.0 * boxSize - position)
  else ⟨position, motion.velocity⟩

/-- Whether the position is a number within the box. -/
@[specialize]
def isContained (motion : Motion α) : Bool :=
  Scalar.isFinite motion.position &&
    (0.0 ≤ motion.position && motion.position ≤ boxSize)

end Motion

/-- A particle: its motion along the level axis and along the upright one. -/
structure Particle (α : Type) where
  level : Motion α
  upright : Motion α

namespace Particle

/-- The particle with a number in the layout: spread over the box, with
velocities that vary. -/
@[specialize]
def initial (number : Nat) : Particle α :=
  let place : α := Scalar.ofNat number
  { level :=
      ⟨Scalar.fract (place * 0.61803398875) * boxSize, Scalar.sin (place * 1.3) * 3.0⟩
    upright :=
      ⟨Scalar.fract (place * 0.41421356237) * boxSize, Scalar.cos (place * 0.7) * 3.0⟩ }

/-- The particle one step later: gravity changes the speed first. -/
@[specialize]
def advance (particle : Particle α) : Particle α :=
  { level := particle.level.advance
    upright := Motion.advance
      ⟨particle.upright.position, particle.upright.velocity + gravity * timeStep⟩ }

@[specialize]
def isContained (particle : Particle α) : Bool :=
  particle.level.isContained && particle.upright.isContained

end Particle

@[specialize]
def layout (count : Nat) : List (Particle α) :=
  (List.range count).map Particle.initial

@[specialize]
def advance (particles : List (Particle α)) : List (Particle α) :=
  particles.map Particle.advance

@[specialize]
def advanceTimes : Nat → List (Particle α) → List (Particle α)
  | 0, particles => particles
  | steps + 1, particles => advanceTimes steps (advance particles)

@[specialize]
def contained (particles : List (Particle α)) : Bool :=
  particles.all Particle.isContained

/-- How many particles there are, and how many steps one run takes. -/
structure Shape where
  count : Nat
  steps : Nat
deriving DecidableEq, Repr

def Shape.standard : Shape := ⟨256, 50⟩

namespace Shape

/-- Every cycle starts from the same layout. -/
@[specialize]
def setup (shape : Shape) (_ : List (Particle α)) :
    Except Fault Unit × List (Particle α) :=
  (.ok (), layout shape.count)

/-- Moves the particles and checks that none has left the box. -/
@[specialize]
def run (shape : Shape) (particles : List (Particle α)) :
    Except Fault Unit × List (Particle α) :=
  let moved := advanceTimes shape.steps particles
  if contained moved then (.ok (), moved)
  else (.error (.ofMessage "a particle escaped the box"), moved)

def teardown (_ : List (Particle α)) : Except Fault Unit × List (Particle α) :=
  (.ok (), [])

/-- The kernel of a shape, over any scalar. -/
@[specialize]
def kernelOver (α : Type) [Scalar α] (shape : Shape) :
    Kernel (StateM (List (Particle α))) where
  name := "ParticleMotion"
  setup := stateStep shape.setup
  run := stateStep shape.run
  teardown := stateStep teardown

/-- The kernel of a shape in double precision. -/
def kernel (shape : Shape) : Kernel (StateM (List (Particle Float))) :=
  shape.kernelOver Float

end Shape

end Throughput.Particles

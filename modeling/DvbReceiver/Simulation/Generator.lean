import DvbReceiver.Packet.Source
import DvbReceiver.Usb.Bus

set_option autoImplicit false

namespace DvbReceiver.Simulation

structure Generator where
  source : Packet.Source
  frames : Nat := 0
  loseEvery : Option Nat := none
  deriving DecidableEq, Repr

namespace Generator

def losesFrame (g : Generator) (number : Nat) : Bool :=
  g.loseEvery.any fun n => 0 < n && number % n == 0

def lost : Status :=
  .error (-71)

/-- How much of a buffer of `size` bytes is for a frame. There is no telling when the frame begins
behind its end, be it that the end is beyond a word or that the frame lies outside of the buffer. -/
def room? (size : Nat) (f : Frame) : Option Nat :=
  let stop := min (word (f.offset + f.length)) size
  if f.offset ≤ stop then some (stop - f.offset) else none

def fillFrame (g : Generator) (size : Nat) (f : Frame) : Option (FrameFill × Generator) :=
  let g := { g with frames := g.frames + 1 }
  if g.losesFrame g.frames then some ({ actual := some 0, status := some lost }, g)
  else do
    let (data, source) := g.source.fit (← room? size f)
    return ({ data := some data, status := some .ok }, { g with source })

def fillFrames (g : Generator) (size : Nat) : List Frame → Option (List FrameFill × Generator)
  | [] => some ([], g)
  | f :: rest => do
    let (first, g) ← g.fillFrame size f
    let (others, g) ← fillFrames g size rest
    return (first :: others, g)

def received (frames : List FrameFill) : Bytes :=
  frames.flatMap fun fill => fill.data.getD []

def fillFor (g : Generator) (u : Urb) : Option (Fill × Generator) :=
  let size := u.buffer.bytes.length
  if u.frames.isEmpty then
    let (data, source) := g.source.fit size
    some ({ data := some data }, { g with source })
  else do
    let (frames, g) ← g.fillFrames size u.frames
    return ({ frames, actual := some (received frames).length }, g)

/-- A request with its data, unless a frame of it cannot be filled. Then the thread that fills
requests ends, and the request with it. -/
def serve (g : Generator) (u : Urb) : Option (Urb × Generator) := do
  let (fill, g) ← g.fillFor u
  return (u.fill fill, g)

theorem exists_fill {g g' : Generator} {u filled : Urb} (filling : g.serve u = some (filled, g')) :
    ∃ fill, filled = u.fill fill := by
  unfold serve at filling
  cases found : g.fillFor u with
  | none => simp [found] at filling
  | some both =>
    simp only [found, Option.bind_eq_bind, Option.bind_some, Option.pure_def, Option.some.injEq,
      Prod.mk.injEq] at filling
    exact ⟨both.1, filling.1.symm⟩

end Generator

/-- Buffers lie on pages of their own, and a refused buffer leaves a gap. -/
def busPolicy : BusPolicy where
  stride size := max ((size + (pageSize - 1)) / pageSize) 1 * pageSize
  skipsRefused := true

def newBus (speed : Speed) : Bus where
  speed
  policy := busPolicy
  nextAddress := 0x10000000

end DvbReceiver.Simulation

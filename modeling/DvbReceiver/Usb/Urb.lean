import DvbReceiver.Usb.Buffer
import DvbReceiver.Usb.Status

set_option autoImplicit false

namespace DvbReceiver

structure UrbKey where
  stream : Nat
  index : Nat
  deriving DecidableEq, Repr

structure Frame where
  offset : Nat
  length : Nat
  actual : Nat
  status : Status
  deriving DecidableEq, Repr

inductive Transfer where
  | bulk
  | isoc (interval : Nat) (asap : Bool) (frames : List Frame)
  deriving DecidableEq, Repr

structure Urb where
  key : UrbKey
  pipe : Pipe
  buffer : Buffer
  transfer : Transfer
  status : Status
  actual : Nat
  deriving DecidableEq, Repr

def Frame.settled (f : Frame) : Frame :=
  { f with actual := 0, status := .ok }

/-- Where the data of a frame ends in a buffer of `size` bytes: no further than the frame reported,
had room for, or the buffer goes. -/
def Frame.stop (size : Nat) (f : Frame) : Nat :=
  min (word (f.offset + min f.actual f.length)) size

def Frame.slice (data : Bytes) (f : Frame) : Bytes :=
  if f.status = .ok then Bytes.slice data f.offset (f.stop data.length) else []

theorem Frame.stop_le (size : Nat) (f : Frame) :
    f.stop size ≤ f.offset + f.length ∧ f.stop size ≤ size := by
  have kept := word_le (f.offset + min f.actual f.length)
  unfold stop
  omega

theorem Frame.stop_of_lt {f : Frame} (size : Nat) (small : f.offset + f.length < UInt64.size) :
    f.stop size = min (f.offset + min f.actual f.length) size := by
  rw [stop, word_of_lt (by omega)]

namespace Urb

/-- The frames of an isochronous request lie side by side from the start of its buffer, as far as
their places are words. -/
def framesOf (count size : Nat) : List Frame :=
  (List.range count).map fun i => ⟨word (i * size), size, 0, .ok⟩

def ofLayout (key : UrbKey) (layout : Layout) (buffer : Buffer) : Urb where
  key
  pipe := layout.pipe
  buffer
  transfer := match layout.shape with
    | .bulk _ => .bulk
    | .isoc frames frameSize interval => .isoc interval true (framesOf frames frameSize)
  status := .ok
  actual := 0

def frames (u : Urb) : List Frame :=
  match u.transfer with
  | .bulk => []
  | .isoc _ _ frames => frames

def withFrames (u : Urb) (frames : List Frame) : Urb :=
  match u.transfer with
  | .bulk => u
  | .isoc interval asap _ => { u with transfer := .isoc interval asap frames }

def slices (u : Urb) : List Bytes :=
  match u.transfer with
  | .bulk => [u.buffer.bytes.take u.actual].filter (!·.isEmpty)
  | .isoc _ _ frames => (frames.map (Frame.slice u.buffer.bytes)).filter (!·.isEmpty)

def frameErrors (u : Urb) : Nat :=
  u.frames.countP (·.status != .ok)

/-- As it is queued again: nothing received, and no frame at fault. -/
def settled (u : Urb) : Urb :=
  { u.withFrames (u.frames.map Frame.settled) with actual := 0 }

def record (u : Urb) : String :=
  let frame (f : Frame) := Record.closed "IsoFrame"
    [("offset", toString f.offset), ("length", toString f.length),
      ("actual_length", toString f.actual), ("status", f.status.record)]
  let transfer := match u.transfer with
    | .bulk => "Bulk"
    | .isoc interval asap frames => Record.closed "Isoc"
      [("interval", toString interval), ("asap", Record.flag asap),
        ("frames", Record.list (frames.map frame))]
  Record.partly "Urb"
    [("key", Record.closed "UrbKey"
        [("stream", toString u.key.stream), ("index", toString u.key.index)]),
      ("pipe", u.pipe.record), ("transfer", transfer), ("status", u.status.record),
      ("actual_length", toString u.actual)]

end Urb

structure FrameFill where
  offset : Option Nat := none
  length : Option Nat := none
  data : Option Bytes := none
  actual : Option Nat := none
  status : Option Status := none
  deriving DecidableEq, Repr

structure Fill where
  data : Option Bytes := none
  frames : List FrameFill := []
  status : Status := .ok
  actual : Option Nat := none
  deriving DecidableEq, Repr

def Fill.result (status : Status) (actual : Nat) : Fill :=
  { status, actual := some actual }

/-- Data goes to the frame's new place; an explicit length outweighs that of the data. -/
def FrameFill.apply (fill : FrameFill) (bytes : Bytes) (f : Frame) : Bytes × Frame :=
  let offset := fill.offset.getD f.offset
  let bytes := match fill.data with
    | none => bytes
    | some data => Bytes.overwrite bytes offset data
  let received := (fill.data.map List.length).getD f.actual
  (bytes, { offset, length := fill.length.getD f.length, actual := fill.actual.getD received,
            status := fill.status.getD f.status })

def FrameFill.applyAll : List FrameFill → Bytes → List Frame → Bytes × List Frame
  | fill :: fills, bytes, f :: frames =>
    let (bytes, f) := fill.apply bytes f
    let (bytes, frames) := applyAll fills bytes frames
    (bytes, f :: frames)
  | _, bytes, frames => (bytes, frames)

def Urb.fill (u : Urb) (fill : Fill) : Urb :=
  let size := u.buffer.bytes.length
  let start := match fill.data with
    | none => u.buffer.bytes
    | some data => Bytes.overwrite u.buffer.bytes 0 data
  let received := (fill.data.map fun data => min data.length size).getD 0
  let (bytes, frames) := FrameFill.applyAll fill.frames start u.frames
  { u.withFrames frames with
    buffer := { u.buffer with bytes }
    status := fill.status
    actual := fill.actual.getD received }

theorem FrameFill.length_apply (fill : FrameFill) (bytes : Bytes) (f : Frame) :
    (fill.apply bytes f).1.length = bytes.length := by
  unfold apply
  cases fill.data with
  | none => rfl
  | some data => simp [Bytes.length_overwrite]

theorem FrameFill.length_applyAll (fills : List FrameFill) (bytes : Bytes) (frames : List Frame) :
    (applyAll fills bytes frames).1.length = bytes.length ∧
      (applyAll fills bytes frames).2.length = frames.length := by
  induction fills generalizing bytes frames with
  | nil => simp [applyAll]
  | cons fill fills ih =>
    cases frames with
    | nil => simp [applyAll]
    | cons f frames =>
      have rest := ih (fill.apply bytes f).1 frames
      simp [applyAll, rest.1, rest.2, length_apply]

namespace Urb

theorem buffer_withFrames (u : Urb) (frames : List Frame) :
    (u.withFrames frames).buffer = u.buffer := by
  unfold withFrames
  split <;> rfl

theorem length_fill (u : Urb) (fill : Fill) :
    (u.fill fill).buffer.bytes.length = u.buffer.bytes.length := by
  unfold Urb.fill
  cases fill.data with
  | none => simp [FrameFill.length_applyAll]
  | some data => simp [FrameFill.length_applyAll, Bytes.length_overwrite]

theorem key_fill (u : Urb) (fill : Fill) : (u.fill fill).key = u.key := by
  simp only [Urb.fill, withFrames]
  split <;> rfl

theorem slices_ne_nil (u : Urb) (data : Bytes) (passed : data ∈ u.slices) : data ≠ [] := by
  unfold slices at passed
  split at passed
  next => simpa using (List.mem_filter.1 passed).2
  next => simpa using (List.mem_filter.1 passed).2

theorem frames_withFrames (u : Urb) (frames : List Frame) (isoc : u.transfer ≠ .bulk) :
    (u.withFrames frames).frames = frames := by
  unfold withFrames
  split
  next bulk => exact absurd bulk isoc
  next => rfl

end Urb

end DvbReceiver

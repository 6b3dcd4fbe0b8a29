import DvbReceiver.Memory
import DvbReceiver.Text.Record
import DvbReceiver.Usb.Pipe

set_option autoImplicit false

namespace DvbReceiver

inductive Shape where
  | bulk (size : Nat)
  | isoc (frames frameSize interval : Nat)
  deriving DecidableEq, Repr

structure Layout where
  count : Nat
  endpoint : Nat
  shape : Shape
  deriving DecidableEq, Repr

inductive LayoutProblem where
  | count (transfers : Nat)
  | emptyBuffer
  | controlEndpoint
  deriving DecidableEq, Repr

def maxTransfers : Nat := 10

def LayoutProblem.message : LayoutProblem → String
  | .count transfers => "transfer count " ++ toString transfers ++ " outside 1..=10"
  | .emptyBuffer => "transfer buffer size is zero"
  | .controlEndpoint => "endpoint 0 cannot carry a data stream"

namespace Layout

def bufferSize (l : Layout) : Nat :=
  match l.shape with
  | .bulk size => size
  | .isoc frames frameSize _ => word (frames * frameSize)

/-- A word holds the size of its buffers, also when that is rounded up to pages. -/
def Fits (l : Layout) : Prop :=
  match l.shape with
  | .bulk size => size ≤ maxBufferSize
  | .isoc frames frameSize _ => frames * frameSize ≤ maxBufferSize

instance (l : Layout) : Decidable l.Fits := by
  unfold Fits
  cases l.shape <;> infer_instance

def pipe (l : Layout) : Pipe :=
  match l.shape with
  | .bulk _ => ⟨l.endpoint, .bulk⟩
  | .isoc .. => ⟨l.endpoint, .isoc⟩

def problem? (l : Layout) : Option LayoutProblem :=
  if l.count = 0 ∨ maxTransfers < l.count then some (.count l.count)
  else if l.endpoint = 0 then some .controlEndpoint
  else if l.bufferSize = 0 then some .emptyBuffer
  else none

def record (l : Layout) : String :=
  let kind := match l.shape with
    | .bulk size => Record.closed "Bulk" [("buffer_size", toString size)]
    | .isoc frames frameSize interval =>
      Record.applied "Isoc" [Record.closed "IsocLayout"
        [("frames_per_urb", toString frames), ("frame_size", toString frameSize),
          ("interval", toString interval)]]
  Record.closed "StreamProperties"
    [("count", toString l.count), ("endpoint", toString l.endpoint), ("kind", kind)]

end Layout

end DvbReceiver

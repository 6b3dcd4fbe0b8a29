import DvbReceiver.Usb.Urb

set_option autoImplicit false

namespace DvbReceiver

/-- What the bus decides by itself. Attempts, submissions and cancellations are counted from 1. -/
structure BusPolicy where
  allocation : Nat → Option Failure := fun _ => none
  memory : Nat → Nat → UInt8 := fun _ _ => 0
  submission : Nat → Option String := fun _ => none
  halt : Option Failure := none
  cancelled : Nat → Fill := fun _ => .result .cancelled 0
  /-- How far the next buffer's address lies from that of a buffer of the given size. -/
  stride : Nat → Nat
  skipsRefused : Bool := false

structure Bus where
  speed : Speed
  policy : BusPolicy
  nextAddress : Nat
  queue : List Urb := []
  attempts : Nat := 0
  allocated : List Nat := []
  freed : List Nat := []
  submissions : Nat := 0
  cancellations : Nat := 0
  halts : List Pipe := []

namespace Bus

def allocate (b : Bus) (size : Nat) : Except Failure Buffer × Bus :=
  let b := { b with attempts := b.attempts + 1 }
  let beyond := b.nextAddress + b.policy.stride size
  let got : Except Failure Buffer := match b.policy.allocation b.attempts with
    | some e => .error e
    | none => Buffer.allocate size b.nextAddress
  match got with
  | .ok buffer =>
    let bytes := (List.range size).map (b.policy.memory b.attempts)
    (.ok { buffer with bytes }, { b with nextAddress := beyond, allocated := buffer.address :: b.allocated })
  | .error e =>
    (.error e, { b with nextAddress := if b.policy.skipsRefused then beyond else b.nextAddress })

def free (b : Bus) (buffer : Buffer) : Bus :=
  { b with freed := buffer.address :: b.freed }

def freeAll (b : Bus) (buffers : List Buffer) : Bus :=
  buffers.foldl free b

def clearHalt (b : Bus) (pipe : Pipe) : Except Failure Unit × Bus :=
  let result : Except Failure Unit := match b.policy.halt with
    | none => .ok ()
    | some e => .error e
  (result, { b with halts := pipe :: b.halts })

def submit (b : Bus) (u : Urb) : Option String × Bus :=
  let refusal := b.policy.submission (b.submissions + 1)
  let queue := if refusal.isNone then b.queue ++ [u] else b.queue
  (refusal, { b with submissions := b.submissions + 1, queue })

def cancel (b : Bus) (key : UrbKey) : Option Urb × Bus :=
  let b := { b with cancellations := b.cancellations + 1 }
  match b.queue.find? (·.key == key) with
  | none => (none, b)
  | some u =>
    (some (u.fill (b.policy.cancelled b.cancellations)),
      { b with queue := b.queue.eraseP (·.key == key) })

def takeFirst (b : Bus) (count : Nat) : List Urb × Bus :=
  (b.queue.take count, { b with queue := b.queue.drop count })

def takeAt (b : Bus) (position : Nat) : List Urb × Bus :=
  match b.queue[position]? with
  | none => ([], b)
  | some u => ([u], { b with queue := b.queue.eraseIdx position })

theorem queue_submit (b : Bus) (u : Urb) :
    (b.submit u).2.queue = if (b.submit u).1.isNone then b.queue ++ [u] else b.queue := rfl

theorem queue_cancel (b : Bus) (key : UrbKey) :
    (b.cancel key).2.queue = b.queue.eraseP (·.key == key) := by
  unfold cancel
  dsimp only
  split
  next absent =>
    refine (List.eraseP_of_forall_not fun u queued => ?_).symm
    simpa using List.find?_eq_none.1 absent u queued
  next => rfl

end Bus

end DvbReceiver

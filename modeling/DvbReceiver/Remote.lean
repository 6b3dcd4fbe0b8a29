import DvbReceiver.Failure

set_option autoImplicit false

namespace DvbReceiver

structure KeyEvent where
  scancode : Nat
  pressed : Bool
  deriving DecidableEq, Repr

structure KeyChannel where
  unread : List KeyEvent := []
  dropped : Nat := 0
  deriving DecidableEq, Repr

namespace KeyChannel

def depth : Nat := 32

/-- What a look at the remote control brings. Silence and failures leave no trace. -/
def poll (c : KeyChannel) : Except Failure (Option KeyEvent) → KeyChannel
  | .ok (some key) =>
    if c.unread.length < depth then { c with unread := c.unread ++ [key] }
    else { c with dropped := c.dropped + 1 }
  | _ => c

def read (c : KeyChannel) : Option KeyEvent × KeyChannel :=
  (c.unread.head?, { c with unread := c.unread.tail })

end KeyChannel

structure RemoteControl where
  channel : KeyChannel := {}
  polling : Bool := true
  deriving DecidableEq, Repr

namespace RemoteControl

inductive Move where
  | look (outcome : Except Failure (Option KeyEvent))
  | read
  | stop

def act (r : RemoteControl) : Move → Option KeyEvent × RemoteControl
  | .look outcome => (none, if r.polling then { r with channel := r.channel.poll outcome } else r)
  | .read =>
    let (key, channel) := r.channel.read
    (key, { r with channel })
  | .stop => (none, { r with polling := false })

def play (r : RemoteControl) : List Move → List KeyEvent × RemoteControl
  | [] => ([], r)
  | m :: rest =>
    let (key, r) := r.act m
    let (keys, r) := r.play rest
    (key.toList ++ keys, r)

end RemoteControl

end DvbReceiver

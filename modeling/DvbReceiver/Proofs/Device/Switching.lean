import DvbReceiver.Proofs.Device.Supply

set_option autoImplicit false

namespace DvbReceiver

-- Adapters never switch the power, whatever they are asked to do and whatever fails.
namespace Adapter

theorem switchings_prepareStreams (count slot : Nat) (h : Host) (a : Adapter) :
    (prepareStreams count slot h a).2.1.log switchings = h.log switchings := by
  induction count generalizing slot h a with
  | zero => rfl
  | succ count ih =>
    unfold prepareStreams
    dsimp only
    cases there : a.slots[slot]? with
    | none =>
      rw [onStream_missing h there]
      exact ih _ h a
    | some s =>
      have prepared := (hidden_onStream (fun f => Flow.log_prepare switchings f s.props.layout) h a
        slot (.ok ())).log
      dsimp only
      split
      next failed =>
        rw [failed] at prepared
        exact prepared
      next granted =>
        rw [granted] at prepared
        exact (ih _ _ _).trans prepared

theorem switchings_attach (h : Host) (adapter slot : Nat) (i2c : Option String) :
    (attach h adapter slot i2c).2.log switchings = h.log switchings := by
  have asked : (h.call (.frontendAttach adapter slot)).2.log switchings = h.log switchings :=
    h.switchings_perform _ fun _ => rfl
  unfold attach
  dsimp only
  split
  next called =>
    rw [called] at asked
    exact asked
  next called =>
    rw [called] at asked
    exact asked
  next h₁ _ _ called =>
    rw [called] at asked
    split
    next => exact (Host.log_note switchings h₁ rfl).trans asked
    next =>
      have reached := (h₁.switchings_perform (.i2cTransfer 1) fun _ => rfl).trans asked
      split
      next => exact reached
      next => exact (Host.log_note switchings _ rfl).trans reached

theorem switchings_register {h h' : Host} {what : Registration} {result : Except Failure Unit}
    (outcome : register h what = (result, h')) : h'.log switchings = h.log switchings := by
  have same : (register h what).2 = h' := congrArg Prod.snd outcome
  rw [← same]
  rfl

theorem switchings_attachFrontends (i2c : Option String) (count slot : Nat) (h : Host)
    (a : Adapter) : (attachFrontends i2c count slot h a).2.1.log switchings = h.log switchings := by
  induction count generalizing slot h a with
  | zero => rfl
  | succ count ih =>
    have attached := switchings_attach h a.id slot i2c
    unfold attachFrontends
    split
    next called =>
      rw [called] at attached
      exact attached
    next called =>
      rw [called] at attached
      exact (ih _ _ _).trans attached
    next called =>
      rw [called] at attached
      split
      next refused =>
        have known := (switchings_register refused).trans attached
        exact (Host.switchings_perform _ _ fun _ => rfl).trans known
      next accepted =>
        have known := (switchings_register accepted).trans attached
        exact (ih _ _ _).trans ((Host.switchings_perform _ _ fun _ => rfl).trans known)

theorem switchings_bringUp (h : Host) (a : Adapter) (name : String) (i2c : Option String) :
    (bringUp h a name i2c).2.1.log switchings = h.log switchings := by
  have prepared := switchings_prepareStreams a.slots.length 0 h a
  unfold bringUp
  split
  next failed =>
    rw [failed] at prepared
    exact prepared
  next ready =>
    rw [ready] at prepared
    split
    next refused => exact (switchings_register refused).trans prepared
    next adapter =>
      have adapter := (switchings_register adapter).trans prepared
      dsimp only
      split
      next refused => exact (switchings_register refused).trans adapter
      next demux =>
        have demux := (switchings_register demux).trans adapter
        split
        next refused => exact (switchings_register refused).trans demux
        next net =>
          have net := (switchings_register net).trans demux
          exact (switchings_attachFrontends i2c _ _ _ _).trans net

theorem switchings_detachFrontends (count : Nat) (h : Host) (a : Adapter) :
    (detachFrontends count h a).1.log switchings = h.log switchings := by
  induction count generalizing h a with
  | zero => rfl
  | succ slot ih =>
    unfold detachFrontends
    split
    next => exact ih h a
    next =>
      split
      next => exact (ih _ _).trans (Host.switchings_perform _ _ fun _ => rfl)
      next => exact ih h a

theorem switchings_releaseStreams (count slot : Nat) (h : Host) (a : Adapter) :
    (releaseStreams count slot h a).1.log switchings = h.log switchings := by
  induction count generalizing slot h a with
  | zero => rfl
  | succ count ih =>
    have released : Hidden switchings h a (releaseStream h a slot).1 (releaseStream h a slot).2 :=
      hidden_onStream (fun f => Flow.log_release switchings f) h a slot ()
    exact (ih _ _ _).trans released.log

theorem switchings_unregister (h : Host) (known : Bool) (place : Place) :
    (if known then unregister h place else h).log switchings = h.log switchings := by
  cases known with
  | false => rfl
  | true => rfl

theorem switchings_exit (h : Host) (a : Adapter) :
    (exit h a).1.log switchings = h.log switchings := by
  have detached := (switchings_detachFrontends a.slots.length (setGate h a 0).1
    (setGate h a 0).2).trans (hidden_setGate switchings h a 0).log
  simp only [exit, switchings_releaseStreams, switchings_unregister]
  exact detached

end Adapter

namespace Device

structure Unpowered (s s' : Host × Device) : Prop where
  log : s'.1.log switchings = s.1.log switchings
  power : s'.2.power = s.2.power

theorem unpowered_onAdapter {α : Type} {work : Host → Adapter → α × Host × Adapter}
    (kept : ∀ h a, (work h a).2.1.log switchings = h.log switchings) (h : Host) (d : Device)
    (i : Nat) (fallback : α) : Unpowered (h, d) (onAdapter h d i fallback work).2 := by
  cases there : d.adapters[i]? with
  | none =>
    rw [onAdapter_missing h there]
    exact ⟨rfl, rfl⟩
  | some a =>
    rw [onAdapter_some h there]
    exact ⟨kept h a, rfl⟩

theorem unpowered_complete (h : Host) (d : Device) (u : Urb) :
    Unpowered (h, d) (complete h d u) := by
  have kept (h : Host) (a : Adapter) :=
    (Adapter.hidden_complete switchings h a (u.key.stream % maxFrontends) u).log
  exact unpowered_onAdapter kept h d (u.key.stream / maxFrontends) ()

theorem unpowered_bringUpAdapters (id : Nat) (adapters : List (List SlotProperties)) (h : Host)
    (d : Device) : Unpowered (h, d) (bringUpAdapters id adapters h d).2 := by
  induction adapters generalizing id h d with
  | nil => exact ⟨rfl, rfl⟩
  | cons props rest ih =>
    have reached := Adapter.switchings_bringUp h
      (Adapter.new id props h.bus.speed d.config.forceFilter) d.product.name d.i2c
    unfold bringUpAdapters
    dsimp only
    split
    next => exact ⟨reached, rfl⟩
    next =>
      exact ⟨(ih (id + 1) _ _).log.trans reached, (ih (id + 1) _ _).power⟩

theorem unpowered_bringUpParts (h : Host) (d : Device) :
    Unpowered (h, d) (bringUpParts h d).2 := by
  have reached := unpowered_bringUpAdapters 0 h.driver.properties.adapters h { d with
    i2c := if h.driver.hasI2c then some (d.product.name ++ " i2c") else none
    phase := .i2cReady }
  unfold bringUpParts
  dsimp only
  split
  next failed =>
    rw [failed] at reached
    exact ⟨reached.log, reached.power⟩
  next done =>
    rw [done] at reached
    exact ⟨reached.log, reached.power⟩

theorem switchings_exitAdapters (h : Host) (adapters : List Adapter) :
    (exitAdapters h adapters).1.log switchings = h.log switchings := by
  induction adapters with
  | nil => rfl
  | cons a rest ih => exact (Adapter.switchings_exit _ a).trans ih

theorem unpowered_tearDown (h : Host) (d : Device) : Unpowered (h, d) (tearDown h d) :=
  ⟨switchings_exitAdapters h d.adapters, rfl⟩

theorem unpowered_part {adapter slot : Nat} {step : Part} (up : step ≠ .powerUp)
    (down : step ≠ .powerDown) (s : Host × Device) : Unpowered s (part adapter slot s step) := by
  cases step with
  | powerUp => exact absurd rfl up
  | powerDown => exact absurd rfl down
  | control on => exact ⟨s.1.switchings_perform _ fun _ => rfl, rfl⟩
  | demodInit => exact ⟨s.1.switchings_perform _ fun _ => rfl, rfl⟩
  | demodSleep => exact ⟨s.1.switchings_perform _ fun _ => rfl, rfl⟩
  | deselect =>
    have kept (h : Host) (a : Adapter) :=
      (Adapter.hidden_deselect Adapter.blind_switchings h a slot).log
    exact unpowered_onAdapter kept s.1 s.2 adapter ()
  | select =>
    simp only [part]
    split
    next => exact ⟨rfl, rfl⟩
    next d selected =>
      obtain ⟨a, -, -, rfl⟩ := select_ok selected
      exact ⟨rfl, rfl⟩

theorem powerUp_switching (h : Host) (d : Device) :
    (0 < d.power.users ∧ powerUp h d = (.ok (), h, { d with power := ⟨d.power.users + 1⟩ })) ∨
    (d.power.users = 0 ∧ ∃ h', h'.log switchings = (true, true) :: h.log switchings ∧
      powerUp h d = (.ok (), h', { d with power := ⟨1⟩ })) ∨
    (d.power.users = 0 ∧ ∃ e h', h'.log switchings = (true, false) :: h.log switchings ∧
      powerUp h d = (.error e, h', d)) := by
  have called := Host.log_perform switchings h (.power true)
  have seen : switchings (.power true) (h.driver.answer h.calls (.power true)) =
      some (true, (h.perform (.power true)).1.isOk) := rfl
  rw [seen] at called
  by_cases idle : d.power.users = 0
  next =>
    refine .inr ?_
    simp only [powerUp, PowerRail.acquire, if_pos idle]
    split
    next e h₁ refused =>
      rw [refused] at called
      have back : (⟨d.power.users + 1⟩ : PowerRail).release.2 = d.power := rfl
      exact .inr ⟨idle, e, h₁, called, by rw [back]⟩
    next h₁ granted =>
      rw [granted] at called
      exact .inl ⟨idle, h₁, called, by rw [idle]⟩
  next =>
    refine .inl ⟨Nat.pos_of_ne_zero idle, ?_⟩
    simp [powerUp, PowerRail.acquire, idle]

theorem powerDown_switching (h : Host) (d : Device) :
    (d.power.users ≠ 1 ∧
      (powerDown h d).2 = (h, { d with power := ⟨d.power.users - 1⟩ })) ∨
    (d.power.users = 1 ∧ ∃ done h', h'.log switchings = (false, done) :: h.log switchings ∧
      (powerDown h d).2 = (h', { d with power := ⟨0⟩ })) := by
  have called := Host.log_perform switchings h (.power false)
  have seen : switchings (.power false) (h.driver.answer h.calls (.power false)) =
      some (false, (h.perform (.power false)).1.isOk) := rfl
  rw [seen] at called
  by_cases last : d.power.users = 1
  next =>
    refine .inr ⟨last, _, _, called, ?_⟩
    simp [powerDown, PowerRail.release, last]
  next =>
    refine .inl ⟨last, ?_⟩
    simp [powerDown, PowerRail.release, last]

end Device

/-- A device from before it is brought up until after its exit, with the number of times that
somebody became a user of its power and that a user let go of it. -/
structure Lifespan where
  host : Host
  device : Device
  taken : Nat := 0
  returned : Nat := 0

namespace Lifespan

/-- What a device and those who use it do from one moment to the next. None of them holds the
power's lock for longer. -/
inductive Turn where
  | part (adapter slot : Nat) (step : Device.Part)
  | bringUpParts
  | tearDown
  | startFeed (adapter : Nat) (feed : Feed)
  | stopFeed (adapter : Nat) (feed : Feed)
  | complete (position : Nat) (fill : Fill)

def turn (l : Lifespan) : Turn → Lifespan
  | .part i slot step =>
    let (host, device) := Device.part i slot (l.host, l.device) step
    { host
      device
      taken := l.taken + (step = .powerUp ∧ (l.device.powerUp l.host).1.isOk : Bool).toNat
      returned := l.returned + (step = .powerDown ∧ 0 < l.device.power.users : Bool).toNat }
  | .bringUpParts =>
    let (_, host, device) := l.device.bringUpParts l.host
    { l with host, device }
  | .tearDown =>
    let (host, device) := l.device.tearDown l.host
    { l with host, device }
  | .startFeed i feed =>
    let (_, host, device) := l.device.startFeed l.host i feed
    { l with host, device }
  | .stopFeed i feed =>
    let (_, host, device) := l.device.stopFeed l.host i feed
    { l with host, device }
  | .complete position fill =>
    match l.host.bus.queue[position]? with
    | none => l
    | some u =>
      let queue := l.host.bus.queue.eraseIdx position
      let (host, device) :=
        l.device.complete { l.host with bus := { l.host.bus with queue } } (u.fill fill)
      { l with host, device }

def run (l : Lifespan) (turns : List Turn) : Lifespan :=
  turns.foldl turn l

/-- Whether the power is on after these switchings, the latest first. One that fails to switch it on
changes nothing, and any that switches it off counts. -/
def powerAfter : List (Bool × Bool) → Bool
  | [] => false
  | (true, done) :: earlier => done || powerAfter earlier
  | (false, _) :: _ => false

def Alternating : List (Bool × Bool) → Prop
  | [] => True
  | (on, _) :: earlier => Alternating earlier ∧ powerAfter earlier = !on

/-- The users of the power against the calls that switched it. -/
structure Switched (before calls : List (Bool × Bool)) (l : Lifespan) : Prop where
  log : l.host.log switchings = calls ++ before
  alternating : Alternating calls
  powered : 0 < l.device.power.users ↔ powerAfter calls = true
  refused : calls.head? = some (true, false) → l.device.power.users = 0
  balance : l.device.power.users + l.returned = l.taken

namespace Switched

variable {before calls : List (Bool × Bool)} {l l' : Lifespan}

theorem unpowered (switched : Switched before calls l)
    (same : Device.Unpowered (l.host, l.device) (l'.host, l'.device)) (taken : l'.taken = l.taken)
    (returned : l'.returned = l.returned) : Switched before calls l' := by
  obtain ⟨log, power⟩ := same
  dsimp only at log power
  constructor
  next => rw [log, switched.log]
  next => exact switched.alternating
  next => rw [power, switched.powered]
  next => rw [power]; exact switched.refused
  next => rw [power, taken, returned, switched.balance]

theorem off (switched : Switched before calls l) (idle : l.device.power.users = 0) :
    powerAfter calls = false := by
  have powered := switched.powered
  simpa [idle] using powered

theorem powerUp (switched : Switched before calls l) (i slot : Nat) :
    ∃ calls, Switched before calls (l.turn (.part i slot .powerUp)) := by
  have off := switched.off
  obtain ⟨log, alternating, powered, refused, balance⟩ := switched
  -- Others use the power already, it is switched on now, or it cannot be.
  obtain ⟨used, same⟩ | ⟨idle, h', called, same⟩ | ⟨idle, e, h', called, same⟩ :=
    Device.powerUp_switching l.host l.device
  next =>
    have after : l.turn (.part i slot .powerUp) =
        { l with
          device := { l.device with power := ⟨l.device.power.users + 1⟩ }
          taken := l.taken + 1 } := by
      simp [turn, Device.part, same, Except.isOk, Except.toBool]
    rw [after]
    refine ⟨calls, log, alternating, ⟨fun _ => powered.1 used, fun _ => Nat.succ_pos _⟩, ?_, ?_⟩
    next => exact fun failed => absurd (refused failed) (Nat.ne_of_gt used)
    next => dsimp only; omega
  next =>
    have after : l.turn (.part i slot .powerUp) =
        { l with
          host := h'
          device := { l.device with power := ⟨1⟩ }
          taken := l.taken + 1 } := by
      simp [turn, Device.part, same, Except.isOk, Except.toBool]
    rw [after]
    refine ⟨(true, true) :: calls, by simp [called, log], ⟨alternating, off idle⟩, ?_, by simp, ?_⟩
    next => simp [powerAfter]
    next => dsimp only; omega
  next =>
    have after : l.turn (.part i slot .powerUp) = { l with host := h' } := by
      simp [turn, Device.part, same, Except.isOk, Except.toBool]
    rw [after]
    refine ⟨(true, false) :: calls, by simp [called, log], ⟨alternating, off idle⟩, ?_,
      fun _ => idle, balance⟩
    simpa [powerAfter] using powered

theorem powerDown (switched : Switched before calls l) (i slot : Nat) :
    ∃ calls, Switched before calls (l.turn (.part i slot .powerDown)) := by
  obtain ⟨log, alternating, powered, refused, balance⟩ := switched
  obtain ⟨several, same⟩ | ⟨last, done, h', called, same⟩ :=
    Device.powerDown_switching l.host l.device
  next =>
    -- Either there is another user, or there was none to begin with.
    have after : l.turn (.part i slot .powerDown) =
        { l with
          device := { l.device with power := ⟨l.device.power.users - 1⟩ }
          returned := l.returned + (0 < l.device.power.users : Bool).toNat } := by
      simp [turn, Device.part, same]
    rw [after]
    refine ⟨calls, log, alternating, ?_, ?_, ?_⟩
    next =>
      rw [← powered]
      dsimp only
      omega
    next =>
      intro failed
      simp [refused failed]
    next =>
      by_cases used : 0 < l.device.power.users
      next => simp [used]; omega
      next => simp [used]; omega
  next =>
    have after : l.turn (.part i slot .powerDown) =
        { l with
          host := h'
          device := { l.device with power := ⟨0⟩ }
          returned := l.returned + 1 } := by
      simp [turn, Device.part, same, last]
    rw [after]
    have on : powerAfter calls = true := powered.1 (by omega)
    refine ⟨(false, done) :: calls, by simp [called, log], ⟨alternating, on⟩, ?_, by simp, ?_⟩
    next => simp [powerAfter]
    next => dsimp only; omega

end Switched

variable {before calls : List (Bool × Bool)} {l : Lifespan}

theorem switched_turn (switched : Switched before calls l) (t : Turn) :
    ∃ calls, Switched before calls (l.turn t) := by
  cases t with
  | part i slot step =>
    -- Only two of the steps have a part in the power.
    by_cases up : step = .powerUp
    next =>
      subst up
      exact switched.powerUp i slot
    next =>
      by_cases down : step = .powerDown
      next =>
        subst down
        exact switched.powerDown i slot
      next =>
        refine ⟨calls, switched.unpowered (Device.unpowered_part up down _) ?_ ?_⟩
        next => simp [turn, up]
        next => simp [turn, down]
  | bringUpParts =>
    exact ⟨calls, switched.unpowered (Device.unpowered_bringUpParts l.host l.device) rfl rfl⟩
  | tearDown =>
    exact ⟨calls, switched.unpowered (Device.unpowered_tearDown l.host l.device) rfl rfl⟩
  | startFeed i feed =>
    refine ⟨calls, switched.unpowered ?_ rfl rfl⟩
    exact Device.unpowered_onAdapter (fun h a => Adapter.switchings_startFeed h a feed) ..
  | stopFeed i feed =>
    refine ⟨calls, switched.unpowered ?_ rfl rfl⟩
    exact Device.unpowered_onAdapter (fun h a => Adapter.switchings_stopFeed h a feed) ..
  | complete position fill =>
    simp only [turn]
    split
    next => exact ⟨calls, switched⟩
    next u _ =>
      have completed := Device.unpowered_complete { l.host with bus := { l.host.bus with
        queue := l.host.bus.queue.eraseIdx position } } l.device (u.fill fill)
      exact ⟨calls, switched.unpowered ⟨completed.log, completed.power⟩ rfl rfl⟩

theorem switched_turns (switched : Switched before calls l) (turns : List Turn) :
    ∃ calls, Switched before calls (l.run turns) := by
  induction turns generalizing l calls with
  | nil => exact ⟨calls, switched⟩
  | cons t rest ih =>
    obtain ⟨between, after⟩ := switched_turn switched t
    exact ih after

def now (l : Lifespan) : Host × Device :=
  (l.host, l.device)

theorem now_run_parts (l : Lifespan) (i slot : Nat) (steps : List Device.Part) :
    (l.run (steps.map (.part i slot))).now = Device.parts i slot l.now steps := by
  induction steps generalizing l with
  | nil => rfl
  | cons step rest ih => exact ih (l.turn (.part i slot step))

theorem now_bringUp (h : Host) (product : Product) (config : Config) :
    ∃ turns, (run { host := h, device := { product, config } } turns).now =
      (Device.bringUp h product config).2 := by
  unfold Device.bringUp
  dsimp only
  split
  next => exact ⟨[], rfl⟩
  next =>
    split
    next dark => exact ⟨[.part 0 0 .powerUp], by simp [run, turn, now, Device.part, dark]⟩
    next lit =>
      split
      next failed =>
        exact ⟨[.part 0 0 .powerUp, .bringUpParts, .tearDown, .part 0 0 .powerDown], by
          simp [run, turn, now, Device.part, lit, failed]⟩
      next done =>
        exact ⟨[.part 0 0 .powerUp, .bringUpParts, .part 0 0 .powerDown], by
          simp [run, turn, now, Device.part, lit, done]⟩

/-- From before a device is brought up until after its exit, whoever wakes its frontends or puts
them to sleep, however often, and whatever fails: the power is on while it has users, it is never
switched to what it is already, and no user is let go who did not come. -/
theorem switched_run (h : Host) (product : Product) (config : Config) :
    let fresh : Lifespan := { host := h, device := { product, config } }
    (∃ turns, (fresh.run turns).now = (Device.bringUp h product config).2) ∧
      (∀ (l : Lifespan) (i slot : Nat),
        (∃ turns, (l.run turns).now = (l.device.wake l.host i slot).2) ∧
        (∃ turns, (l.run turns).now = (l.device.sleep l.host i slot).2) ∧
        ∃ turns, (l.run turns).now = l.device.exit l.host) ∧
      ∀ turns, ∃ calls, Switched (h.log switchings) calls (fresh.run turns) := by
  intro fresh
  refine ⟨now_bringUp h product config, fun l i slot => ⟨?_, ?_, ?_⟩, ?_⟩
  next =>
    obtain ⟨steps, same⟩ := Device.wake_eq_parts l.host l.device i slot
    exact ⟨_, (now_run_parts l i slot steps).trans same.symm⟩
  next =>
    have same := Device.sleep_eq_parts l.host l.device i slot
    exact ⟨_, (now_run_parts l i slot _).trans same.symm⟩
  next =>
    unfold Device.exit
    split
    next => exact ⟨[], rfl⟩
    next => exact ⟨[.tearDown], rfl⟩
  next =>
    have new : Switched (h.log switchings) [] fresh := ⟨rfl, trivial, by simp [fresh, powerAfter],
      by simp, rfl⟩
    exact switched_turns new

end Lifespan

end DvbReceiver

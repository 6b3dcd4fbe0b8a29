import DvbReceiver.Bench.Stream
import DvbReceiver.Proofs.Device.BringUp

set_option autoImplicit false

namespace DvbReceiver

namespace Device

/-- A step of a frontend that wakes up or falls asleep. Others can take theirs in between. -/
inductive Part where
  | powerUp
  | powerDown
  | control (on : Bool)
  | select
  | deselect
  | demodInit
  | demodSleep
  deriving DecidableEq, Repr

def part (adapter slot : Nat) (s : Host × Device) : Part → Host × Device
  | .powerUp => (powerUp s.1 s.2).2
  | .powerDown => (powerDown s.1 s.2).2
  | .control on => ((s.1.perform (.frontendControl adapter slot on)).2, s.2)
  | .select =>
    match s.2.select adapter slot with
    | .error _ => s
    | .ok d => (s.1, d)
  | .deselect => (onAdapter s.1 s.2 adapter () fun h a => ((), a.deselect h slot)).2
  | .demodInit => ((s.1.perform (.demodInit adapter slot)).2, s.2)
  | .demodSleep => ((s.1.perform (.demodSleep adapter slot)).2, s.2)

def parts (adapter slot : Nat) (s : Host × Device) (steps : List Part) : Host × Device :=
  steps.foldl (part adapter slot) s

theorem wake_eq_parts (h : Host) (d : Device) (adapter slot : Nat) :
    ∃ steps, (wake h d adapter slot).2 = parts adapter slot (h, d) steps := by
  unfold wake
  split
  next e h₁ d₁ dark =>
    exact ⟨[.powerUp], by simp [parts, part, dark]⟩
  next h₁ d₁ lit =>
    split
    next e h₂ refused =>
      exact ⟨[.powerUp, .control true, .powerDown], by simp [parts, part, lit, refused]⟩
    next h₂ controlled =>
      split
      next e busy =>
        exact ⟨[.powerUp, .control true, .select, .control false, .powerDown], by
          simp [parts, part, lit, controlled, busy]⟩
      next d₂ selected =>
        exact ⟨[.powerUp, .control true, .select, .demodInit], by
          simp [parts, part, lit, controlled, selected]⟩

theorem sleep_eq_parts (h : Host) (d : Device) (adapter slot : Nat) :
    (sleep h d adapter slot).2 =
      parts adapter slot (h, d) [.demodSleep, .control false, .deselect, .powerDown] := by
  simp only [sleep, parts, List.foldl_cons, List.foldl_nil, part]
  split
  next e h₁ d₁ dark => rw [dark]
  next h₁ d₁ lit => rw [lit]

section Parts

variable {h₀ h : Host} {d : Device} {r : Nat → List UrbIdentity} {adapter slot : Nat}

theorem tended_part (live : Live h₀ h d.adapters r) (known : d.hasFrontend adapter slot = true)
    (step : Part) :
    Tended h₀ d r d.feedCount (part adapter slot (h, d) step).1
      (part adapter slot (h, d) step).2 := by
  cases step with
  | powerUp =>
    obtain ⟨h₁, steady, bus, ⟨e, refused⟩ | powered⟩ := powerUp_cases h d
    next =>
      simp only [part, refused]
      exact tended_steady live steady bus d.power
    next =>
      simp only [part, powered]
      exact tended_steady live steady bus _
  | powerDown =>
    obtain ⟨result, h₁, steady, bus, powered⟩ := powerDown_cases h d
    simp only [part, powered]
    exact tended_steady live steady bus _
  | control on => exact tended_steady live (Host.steady_perform h _ rfl) rfl d.power
  | demodInit => exact tended_steady live (Host.steady_perform h _ rfl) rfl d.power
  | demodSleep => exact tended_steady live (Host.steady_perform h _ rfl) rfl d.power
  | select =>
    simp only [part]
    split
    next => exact Tended.refl live
    next d₁ selected =>
      obtain ⟨a, there, chosen, rfl⟩ := select_ok selected
      have member := List.mem_of_getElem? there
      -- A frontend that somebody holds is registered, so that its slot may be selected.
      have registered : a.isRegistered slot = true := by simpa [hasFrontend, there] using known
      obtain ⟨moved, steered, count⟩ := Adapter.select_spec (live.sound a member)
        (live.steered a member) registered chosen
      have tended := tended_set live there moved steered
      rwa [count, ← feedCount_some there, Function.update_eq_self] at tended
  | deselect =>
    simp only [part]
    cases there : d.adapters[adapter]? with
    | none =>
      rw [onAdapter_missing h there]
      exact Tended.refl live
    | some a =>
      have member := List.mem_of_getElem? there
      obtain ⟨moved, steered, count⟩ :=
        Adapter.deselect_spec (live.sound a member) (live.steered a member) slot
      have tended := tended_set live there moved steered
      rw [count, ← feedCount_some there, Function.update_eq_self] at tended
      rw [onAdapter_some h there]
      exact tended

theorem tended_parts (live : Live h₀ h d.adapters r) (known : d.hasFrontend adapter slot = true)
    (steps : List Part) :
    Tended h₀ d r d.feedCount (parts adapter slot (h, d) steps).1
      (parts adapter slot (h, d) steps).2 := by
  -- A frontend that is known stays known from step to step.
  induction steps generalizing h d with
  | nil => exact Tended.refl live
  | cons step rest ih =>
    have first := tended_part live known step
    have later := ih first.live ((first.frontends adapter slot).trans known)
    exact first.trans later

end Parts

end Device

/-- A device at work, with the number of feeds that were started and stopped on each adapter. -/
structure Session where
  host : Host
  device : Device
  started : Nat → Nat := fun _ => 0
  stopped : Nat → Nat := fun _ => 0

namespace Session

inductive Act where
  | startFeed (adapter : Nat) (feed : Feed)
  | stopFeed (adapter : Nat) (feed : Feed)
  | wake (adapter slot : Nat)
  | sleep (adapter slot : Nat)
  | part (adapter slot : Nat) (step : Device.Part)
  | complete (position : Nat) (fill : Fill)

/-- Whoever uses a frontend was given it, so that it is known. -/
def onFrontend (s : Session) (adapter slot : Nat) (work : Host × Device → Host × Device) :
    Session :=
  if s.device.hasFrontend adapter slot then
    let (host, device) := work (s.host, s.device)
    { s with host, device }
  else s

def act (s : Session) : Act → Session
  | .startFeed i feed =>
    let (result, host, device) := s.device.startFeed s.host i feed
    { s with
      host
      device
      started := Function.update s.started i (s.started i + result.isOk.toNat) }
  | .stopFeed i feed =>
    let some : Bool := 0 < s.device.feedCount i
    let (_, host, device) := s.device.stopFeed s.host i feed
    { s with host, device, stopped := Function.update s.stopped i (s.stopped i + some.toNat) }
  | .wake i slot => s.onFrontend i slot fun (h, d) => (d.wake h i slot).2
  | .sleep i slot => s.onFrontend i slot fun (h, d) => (d.sleep h i slot).2
  | .part i slot step => s.onFrontend i slot fun now => Device.part i slot now step
  | .complete position fill =>
    match s.host.bus.queue[position]? with
    | none => s
    | some u =>
      let queue := s.host.bus.queue.eraseIdx position
      let (host, device) :=
        s.device.complete { s.host with bus := { s.host.bus with queue } } (u.fill fill)
      { s with host, device }

def run (s : Session) (acts : List Act) : Session :=
  acts.foldl act s

/-- The device is alive, with `size` adapters, and its feeds are those that were started and have not
been stopped. -/
structure Sound (h₀ : Host) (size : Nat) (rosters : Nat → List UrbIdentity) (s : Session) :
    Prop where
  live : Device.Live h₀ s.host s.device.adapters rosters
  phase : s.device.phase = .ready
  size : s.device.adapters.length = size
  counts : ∀ i, s.device.feedCount i + s.stopped i = s.started i

variable {h₀ : Host} {size : Nat} {r : Nat → List UrbIdentity} {s : Session}

theorem Sound.tended (sound : Sound h₀ size r s) {counts : Nat → Nat} {s' : Session}
    (tended : Device.Tended h₀ s.device r counts s'.host s'.device)
    (balance : ∀ i, counts i + s'.stopped i = s'.started i) : Sound h₀ size r s' where
  live := tended.live
  phase := tended.phase.trans sound.phase
  size := tended.length.trans sound.size
  counts i := by
    rw [tended.feeds]
    exact balance i

theorem onFrontend_elim (Holds : Host → Device → Prop) {adapter slot : Nat}
    {work : Host × Device → Host × Device}
    (steps : ∃ steps, work (s.host, s.device) =
      Device.parts adapter slot (s.host, s.device) steps)
    (unknown : Holds s.host s.device)
    (known : s.device.hasFrontend adapter slot = true → ∀ steps,
      Holds (Device.parts adapter slot (s.host, s.device) steps).1
        (Device.parts adapter slot (s.host, s.device) steps).2) :
    Holds (s.onFrontend adapter slot work).host (s.onFrontend adapter slot work).device := by
  unfold onFrontend
  split
  next present =>
    obtain ⟨steps, same⟩ := steps
    rw [same]
    exact known present steps
  next => exact unknown

theorem act_elim {motive : Act → Prop} (s : Session)
    (startFeed : ∀ i feed, motive (.startFeed i feed))
    (stopFeed : ∀ i feed, motive (.stopFeed i feed))
    (frontend : ∀ step i slot work, s.act step = s.onFrontend i slot work →
      (∃ steps, work (s.host, s.device) = Device.parts i slot (s.host, s.device) steps) →
      motive step)
    (complete : ∀ position fill, motive (.complete position fill)) (step : Act) : motive step := by
  cases step with
  | startFeed i feed => exact startFeed i feed
  | stopFeed i feed => exact stopFeed i feed
  | wake i slot =>
    exact frontend _ i slot (fun (h, d) => (d.wake h i slot).2) rfl
      (Device.wake_eq_parts s.host s.device i slot)
  | sleep i slot =>
    exact frontend _ i slot (fun (h, d) => (d.sleep h i slot).2) rfl
      ⟨_, Device.sleep_eq_parts s.host s.device i slot⟩
  | part i slot step =>
    exact frontend _ i slot (fun now => Device.part i slot now step) rfl ⟨[step], rfl⟩
  | complete position fill => exact complete position fill

theorem sound_onFrontend (sound : Sound h₀ size r s) {adapter slot : Nat}
    {work : Host × Device → Host × Device}
    (steps : ∃ steps, work (s.host, s.device) =
      Device.parts adapter slot (s.host, s.device) steps) :
    Sound h₀ size r (s.onFrontend adapter slot work) := by
  unfold onFrontend
  split
  next known =>
    obtain ⟨steps, same⟩ := steps
    have tended := Device.tended_parts sound.live known steps
    rw [← same] at tended
    exact sound.tended tended sound.counts
  next => exact sound

theorem sound_act (sound : Sound h₀ size r s) (step : Act) : Sound h₀ size r (s.act step) := by
  induction step using act_elim s with
  | startFeed i feed =>
    refine sound.tended (Device.startFeed_spec sound.live i feed) fun j => ?_
    have balance := sound.counts j
    simp only [act]
    by_cases here : j = i
    · subst here
      rw [Function.update_self, Function.update_self]
      omega
    · rwa [Function.update_of_ne here, Function.update_of_ne here]
  | stopFeed i feed =>
    refine sound.tended (Device.stopFeed_spec sound.live i feed) fun j => ?_
    have balance := sound.counts j
    simp only [act]
    by_cases here : j = i
    · subst here
      rw [Function.update_self, Function.update_self]
      -- Only a feed that was there counts as stopped.
      by_cases some : 0 < s.device.feedCount j
      · simp [some]
        omega
      · simp [some]
        omega
    · rwa [Function.update_of_ne here, Function.update_of_ne here]
  | frontend step i slot work same steps =>
    rw [same]
    exact sound_onFrontend sound steps
  | complete position fill =>
    simp only [act]
    split
    next => exact sound
    next u there =>
      exact sound.tended (Device.complete_spec sound.live (removed_eraseIdx there) fill)
        sound.counts

theorem sound_run (sound : Sound h₀ size r s) (acts : List Act) :
    Sound h₀ size r (s.run acts) := by
  induction acts generalizing s with
  | nil => exact sound
  | cons step rest ih => exact ih (sound_act sound step)

/-- What holds of the feeds of an adapter whenever nobody is at work on them. -/
structure Controlled (s : Session) (i : Nat) (a : Adapter) : Prop extends a.Steered where
  idle : ∀ slot < a.slots.length, a.feeds.streaming ≠ some slot →
    ∀ u ∈ s.host.bus.queue, u.key.stream ≠ Adapter.streamId i slot
  balance : a.feeds.count + s.stopped i = s.started i

theorem Sound.controlled (sound : Sound h₀ size r s) {i : Nat} {a : Adapter}
    (there : s.device.adapters[i]? = some a) : s.Controlled i a :=
  have member := List.mem_of_getElem? there
  have steered := sound.live.steered a member
  { steered with
    idle := fun slot within rest => by
      have here : a.slots[slot]? = some a.slots[slot] := List.getElem?_eq_getElem within
      have stopped : a.runs slot = false := by
        rw [Bool.eq_false_iff]
        exact fun running => rest ((steered.streaming slot).1 running)
      have adapter := sound.live.sound a member
      have stream := adapter.streams slot _ here
      have none : a.slots[slot].stream.submitted = 0 := by
        refine Stream.isRunning_eq_false_iff.1 ?_
        simpa [Adapter.runs, here] using stopped
      have idle := stream.idle none
      rw [adapter.ids slot _ here, sound.live.ids i a there] at idle
      exact ofStream_eq_nil_iff.1 idle
    balance := by
      have balance := sound.counts i
      rwa [Device.feedCount_some there] at balance }

def begin (result : Except Failure Unit × Host × Device) : Session where
  host := result.2.1
  device := result.2.2

theorem sound_begin {h : Host} {result : Except Failure Unit × Host × Device}
    (settled : Device.Settled h result) (ok : result.1 = .ok ()) :
    ∃ r, Sound h h.driver.properties.adapters.length r (begin result) := by
  obtain ⟨⟨r, live⟩, phase, size, feeds⟩ := settled.ok ok
  refine ⟨r, live, phase, size, fun i => ?_⟩
  show result.2.2.feedCount i = 0
  unfold Device.feedCount
  cases there : result.2.2.adapters[i]? with
  | none => rfl
  | some a =>
    rw [Option.map_some, feeds a (List.mem_of_getElem? there)]
    rfl

/-- Whatever is done to a device that was brought up, in whatever order its frontends wake up and
fall asleep and however its requests come back, the feeds of its adapters are under control. -/
theorem controlled_run (h : Host) (product : Product) (config : Config)
    (unused : ∀ u ∈ h.bus.queue, u.key.stream ∉ streamIds)
    (ok : (Device.bringUp h product config).1 = .ok ()) (acts : List Act) :
    let s := run (begin (Device.bringUp h product config)) acts
    s.device.adapters.length = h.driver.properties.adapters.length ∧
      ∀ (i : Nat) (a : Adapter), s.device.adapters[i]? = some a → s.Controlled i a := by
  intro s
  have settled := Device.settled_bringUp h product config fun _ => ofStream_nil_of_unused unused
  obtain ⟨r, fresh⟩ := sound_begin settled ok
  have sound := sound_run fresh acts
  exact ⟨sound.size, fun i a there => sound.controlled there⟩

def benchHost : Host where
  bus := Bench.newBus .full
  driver := Bench.plainDriver
    { products := [], adapters := [[⟨.optional 16, ⟨2, 0x81, .bulk 4⟩⟩, ⟨.none, ⟨1, 0x82, .bulk 4⟩⟩]] }
  registry := { demuxDepth := 4 }

theorem controlled_run_bench :
    (∀ u ∈ benchHost.bus.queue, u.key.stream ∉ streamIds) ∧
      (Device.bringUp benchHost ⟨"receiver", [], []⟩ {}).1 = .ok () ∧
      let s := run (begin (Device.bringUp benchHost ⟨"receiver", [], []⟩ {}))
        [.wake 0 0, .startFeed 0 ⟨0x100, 0⟩, .complete 0 (.result .ok 4), .part 0 1 .select,
          .sleep 0 0, .stopFeed 0 ⟨0x100, 0⟩]
      s.device.adapters.length = benchHost.driver.properties.adapters.length ∧
        ∀ (i : Nat) (a : Adapter), s.device.adapters[i]? = some a → s.Controlled i a := by
  have unused : ∀ u ∈ benchHost.bus.queue, u.key.stream ∉ streamIds := by
    simp [benchHost, Bench.newBus]
  have ok : (Device.bringUp benchHost ⟨"receiver", [], []⟩ {}).1 = .ok () := by rfl
  exact ⟨unused, ok, controlled_run _ _ _ unused ok _⟩

end Session

end DvbReceiver

import DvbReceiver.Proofs.Adapter.Gating
import DvbReceiver.Proofs.Device.Session
import DvbReceiver.Proofs.Stream.Handover

set_option autoImplicit false

namespace DvbReceiver

namespace Adapter

structure Dormant (a : Adapter) : Prop where
  size : a.slots.length ≤ maxFrontends
  rest : ∀ s ∈ a.slots, s.stream.submitted = 0
  home : ∀ s ∈ a.slots, s.stream.AtHome

/-- What an adapter is after its exit, whatever is done with frontends that somebody kept. -/
structure Retired (a : Adapter) : Prop where
  gate : a.gate = 0
  count : a.feeds.count = 0
  streaming : a.feeds.streaming = none
  dormant : a.Dormant

variable {h : Host} {a a' : Adapter} {r : Nat → List UrbIdentity}

theorem Sound.dormant (sound : a.Sound r h.bus.queue)
    (empty : ∀ j < a.slots.length, r (streamId a.id j) = []) : a.Dormant := by
  have stream (s : Slot) (member : s ∈ a.slots) :
      Flow.Sound { host := h, stream := s.stream } [] := by
    obtain ⟨j, within, rfl⟩ := List.getElem_of_mem member
    have sound := sound.streams j _ (List.getElem?_eq_getElem within)
    rwa [empty j within] at sound
  have rest (s : Slot) (member : s ∈ a.slots) : s.stream.submitted = 0 := by
    have bare := (stream s member).prepared_pos
    have all := (stream s member).submitted
    dsimp only at bare all
    simp only [ne_eq, not_true_eq_false, iff_false] at bare
    omega
  exact ⟨sound.size, rest, fun s member => (stream s member).atHome (rest s member)⟩

theorem retired_exit (sound : a.Sound r h.bus.queue) (dormant : (a.exit h).2.Dormant) :
    (a.exit h).2.Retired where
  gate := (lowers_exit sound).2
  count := rfl
  streaming := rfl
  dormant := dormant

theorem Retired.activate (retired : a.Retired) (active : Option Nat) :
    Retired { a with feeds := { a.feeds with active } } :=
  ⟨retired.gate, retired.count, retired.streaming, { retired.dormant with }⟩

theorem Retired.asleep (retired : a.Retired) (slot : Nat) : (a.asleep slot).Retired := by
  obtain ⟨active, same⟩ := asleep_eq a slot
  rw [same]
  exact retired.activate active

theorem Retired.deselect (retired : a.Retired) (h : Host) (slot : Nat) :
    deselect h a slot = (h, a.asleep slot) := by
  rw [deselect_eq, retired.streaming]
  exact if_neg nofun

end Adapter

namespace Device

variable {h₀ h : Host} {front : List Adapter} {a : Adapter} {r : Nat → List UrbIdentity}

theorem Live.leave (live : Live h₀ h (front ++ [a]) r) :
    ∃ r', Live h₀ (a.exit h).1 front r' ∧ (a.exit h).2.id = a.id ∧ (a.exit h).2.Dormant := by
  have last : a ∈ front ++ [a] := List.mem_append_right _ (List.mem_singleton_self a)
  have early {b : Adapter} (there : b ∈ front) : b ∈ front ++ [a] := List.mem_append_left _ there
  have sound := live.sound a last
  have number : a.id = front.length := live.ids _ a (by simp)
  have different {b : Adapter} (there : b ∈ front) : a.id ≠ b.id := by
    obtain ⟨i, within, rfl⟩ := List.getElem_of_mem there
    have := live.ids i front[i] (by simp [List.getElem?_append_left within])
    omega
  have ledger : Ledger h₀ h (a.places ++ front.reverse.flatMap Adapter.places)
      (a.demods ++ front.reverse.flatMap Adapter.demods) (held r) := by
    simpa using live.ledger
  obtain ⟨r', confined, ledger, empty⟩ := Adapter.exit_spec sound ledger
  have apart {b : Adapter} (there : b ∈ front) {n : Nat} (owned : b.Owns n) : ¬ a.Owns n :=
    (live.sound b (early there)).apart sound (Ne.symm (different there)) owned
  have released : ∀ j < (a.exit h).2.slots.length,
      r' (Adapter.streamId (a.exit h).2.id j) = [] := by
    rw [confined.id, confined.length]
    exact empty
  refine ⟨r', ?_, confined.id, confined.sound.dormant released⟩
  exact
    { size := by
        have size := live.size
        rw [List.length_append] at size
        omega
      ids := fun i b there => live.ids i b (by
        rw [List.getElem?_append_left (List.getElem?_eq_some_iff.1 there).1, there])
      sound := fun b there =>
        confined.spared sound (live.sound b (early there)) (different there)
      strays := fun n known foreign => by
        by_cases owned : a.Owns n
        · exact confined.sound.deserted released ((confined.owns n).2 owned)
        · refine confined.deserted owned (live.strays n known fun b there => ?_)
          obtain earlier | same := List.mem_append.1 there
          · exact foreign b earlier
          · rwa [List.mem_singleton.1 same]
      ledger
      ready := fun b there j within => by
        rw [(confined.foreign _ (apart there ⟨j, within, rfl⟩)).2]
        exact live.ready b (early there) j within
      steered := fun b there => live.steered b (early there) }

theorem exitAdapters_concat (h : Host) (front : List Adapter) (a : Adapter) :
    exitAdapters h (front ++ [a]) =
      ((exitAdapters (a.exit h).1 front).1,
        (exitAdapters (a.exit h).1 front).2 ++ [(a.exit h).2]) := by
  induction front with
  | nil => rfl
  | cons b front ih => simp only [List.cons_append, exitAdapters, ih]

end Device

/-- A device from the time that it is up until the last of its adapters has gone through its exit.
The ones from `inUse` on have, and nobody but those who kept their frontends can get at them. -/
structure Tenure where
  host : Host
  device : Device
  inUse : Nat

namespace Tenure

inductive Turn where
  | startFeed (adapter : Nat) (feed : Feed)
  | stopFeed (adapter : Nat) (feed : Feed)
  | wake (adapter slot : Nat)
  | sleep (adapter slot : Nat)
  | part (adapter slot : Nat) (step : Device.Part)
  | complete (position : Nat) (fill : Fill)
  /-- The exit of the last adapter in use. That of the device is one of these after the other. -/
  | leave

/-- Whether somebody can have the frontend of a slot: it was given out, and taken back at most by
the exit of its adapter. -/
def held (t : Tenure) (adapter slot : Nat) : Bool :=
  t.inUse ≤ adapter || t.device.hasFrontend adapter slot

def onFrontend (t : Tenure) (adapter slot : Nat) (work : Host × Device → Host × Device) :
    Tenure :=
  if t.held adapter slot then
    let (host, device) := work (t.host, t.device)
    { t with host, device }
  else t

def turn (t : Tenure) : Turn → Tenure
  | .startFeed i feed =>
    if i < t.inUse then
      let (_, host, device) := t.device.startFeed t.host i feed
      { t with host, device }
    else t
  | .stopFeed i feed =>
    if i < t.inUse then
      let (_, host, device) := t.device.stopFeed t.host i feed
      { t with host, device }
    else t
  | .wake i slot => t.onFrontend i slot fun (h, d) => (d.wake h i slot).2
  | .sleep i slot => t.onFrontend i slot fun (h, d) => (d.sleep h i slot).2
  | .part i slot step => t.onFrontend i slot fun now => Device.part i slot now step
  | .complete position fill =>
    match t.host.bus.queue[position]? with
    | none => t
    | some u =>
      let queue := t.host.bus.queue.eraseIdx position
      let (host, device) :=
        t.device.complete { t.host with bus := { t.host.bus with queue } } (u.fill fill)
      { t with host, device }
  | .leave =>
    match t.inUse with
    | 0 => t
    | last + 1 =>
      let ((), host, device) := t.device.onAdapter t.host last () fun h a => ((), a.exit h)
      { host, device, inUse := last }

def run (t : Tenure) (turns : List Turn) : Tenure :=
  turns.foldl turn t

def begin (result : Except Failure Unit × Host × Device) : Tenure where
  host := result.2.1
  device := result.2.2
  inUse := result.2.2.adapters.length

structure Sound (h₀ : Host) (rosters : Nat → List UrbIdentity) (t : Tenure) : Prop where
  live : Device.Live h₀ t.host (t.device.adapters.take t.inUse) rosters
  within : t.inUse ≤ t.device.adapters.length
  size : t.device.adapters.length ≤ maxAdapters
  phase : t.device.phase = .ready
  retired : ∀ i a, t.inUse ≤ i → t.device.adapters[i]? = some a → a.Retired ∧ a.id = i

variable {h₀ h' : Host} {r : Nat → List UrbIdentity} {t : Tenure} {i slot : Nat} {a a' : Adapter}

theorem there_take (within : i < t.inUse) (there : t.device.adapters[i]? = some a) :
    (t.device.adapters.take t.inUse)[i]? = some a := by
  rw [List.getElem?_take_of_lt within, there]

theorem Sound.set (sound : Sound h₀ r t) (within : i < t.inUse)
    (there : t.device.adapters[i]? = some a) (moved : Adapter.Moved t.host a r h' a' r)
    (steered : a'.Steered) :
    Sound h₀ r { t with
      host := h', device := { t.device with adapters := t.device.adapters.set i a' } } where
  live := by
    rw [List.take_set]
    exact sound.live.set (there_take within there) moved steered
  within := by simpa using sound.within
  size := by simpa using sound.size
  phase := sound.phase
  retired j b beyond present := by
    have other : i ≠ j := by
      have : t.inUse ≤ j := beyond
      omega
    rw [List.getElem?_set_ne other] at present
    exact sound.retired j b beyond present

theorem Sound.kept (sound : Sound h₀ r t) (beyond : t.inUse ≤ i) (retired : a'.Retired)
    (number : a'.id = i) :
    Sound h₀ r { t with
      device := { t.device with adapters := t.device.adapters.set i a' } } where
  live := by
    rw [List.take_set_of_le beyond]
    exact sound.live
  within := by simpa using sound.within
  size := by simpa using sound.size
  phase := sound.phase
  retired j b beyond present := by
    obtain ⟨rfl, rfl⟩ | ⟨-, before⟩ := getElem?_set_cases present
    next => exact ⟨retired, number⟩
    next => exact sound.retired j b beyond before

theorem Sound.steady (sound : Sound h₀ r t) (steady : t.host.Steady h') (bus : h'.bus = t.host.bus)
    (power : PowerRail) :
    Sound h₀ r { t with host := h', device := { t.device with power } } :=
  { sound with live := sound.live.elsewhere steady fun _ _ => by rw [bus] }

theorem Sound.member (sound : Sound h₀ r t) (within : i < t.inUse)
    (there : t.device.adapters[i]? = some a) :
    a.Sound r t.host.bus.queue ∧ a.Steered ∧ a.Ready r ∧ a.id = i := by
  have here := there_take within there
  have member := List.mem_of_getElem? here
  exact ⟨sound.live.sound a member, sound.live.steered a member, sound.live.ready a member,
    sound.live.ids i a here⟩

theorem Sound.number (sound : Sound h₀ r t) (there : t.device.adapters[i]? = some a) :
    a.id = i := by
  obtain within | beyond := Nat.lt_or_ge i t.inUse
  · exact (sound.member within there).2.2.2
  · exact (sound.retired i a beyond there).2

theorem Sound.gate (sound : Sound h₀ r t) (there : t.device.adapters[i]? = some a) :
    a.gate = a.feeds.count := by
  obtain within | beyond := Nat.lt_or_ge i t.inUse
  · exact (sound.member within there).2.1.gate
  · obtain ⟨retired, -⟩ := sound.retired i a beyond there
    rw [retired.gate, retired.count]

theorem registered_of_held (held : t.held i slot = true) (within : i < t.inUse)
    (there : t.device.adapters[i]? = some a) : a.isRegistered slot = true := by
  simpa [Tenure.held, Device.hasFrontend, there, Nat.not_le.2 within] using held

theorem held_set (held : t.held i slot = true) (within : i < t.inUse)
    (there : t.device.adapters[i]? = some a) (moved : Adapter.Moved t.host a r h' a' r) :
    Tenure.held { t with
      host := h', device := { t.device with adapters := t.device.adapters.set i a' } } i slot =
        true := by
  have inside := (List.getElem?_eq_some_iff.1 there).1
  have kept := (moved.isRegistered slot).trans (registered_of_held held within there)
  simp [Tenure.held, Device.hasFrontend, inside, kept]

theorem sound_part (sound : Sound h₀ r t) (held : t.held i slot = true) (step : Device.Part) :
    Sound h₀ r (t.turn (.part i slot step)) ∧ (t.turn (.part i slot step)).held i slot = true := by
  simp only [turn, onFrontend, held, if_true]
  cases step with
  | powerUp =>
    obtain ⟨h₁, steady, bus, ⟨e, refused⟩ | powered⟩ := Device.powerUp_cases t.host t.device
    next =>
      simp only [Device.part, refused]
      exact ⟨sound.steady steady bus t.device.power, held⟩
    next =>
      simp only [Device.part, powered]
      exact ⟨sound.steady steady bus _, held⟩
  | powerDown =>
    obtain ⟨result, h₁, steady, bus, powered⟩ := Device.powerDown_cases t.host t.device
    simp only [Device.part, powered]
    exact ⟨sound.steady steady bus _, held⟩
  | control on => exact ⟨sound.steady (Host.steady_perform _ _ rfl) rfl t.device.power, held⟩
  | demodInit => exact ⟨sound.steady (Host.steady_perform _ _ rfl) rfl t.device.power, held⟩
  | demodSleep => exact ⟨sound.steady (Host.steady_perform _ _ rfl) rfl t.device.power, held⟩
  | select =>
    simp only [Device.part]
    split
    next => exact ⟨sound, held⟩
    next d₁ selected =>
      obtain ⟨a, there, chosen, rfl⟩ := Device.select_ok selected
      -- Somebody may still hold the frontend of an adapter that has left.
      obtain within | beyond := Nat.lt_or_ge i t.inUse
      next =>
        obtain ⟨soundA, steered, -, -⟩ := sound.member within there
        obtain ⟨moved, steered', -⟩ := Adapter.select_spec soundA steered
          (registered_of_held held within there) chosen
        exact ⟨sound.set within there moved steered', held_set held within there moved⟩
      next =>
        obtain ⟨retired, number⟩ := sound.retired i a beyond there
        refine ⟨sound.kept beyond (retired.activate (some slot)) number, ?_⟩
        simp [Tenure.held, beyond]
  | deselect =>
    simp only [Device.part]
    cases there : t.device.adapters[i]? with
    | none =>
      rw [Device.onAdapter_missing t.host there]
      exact ⟨sound, held⟩
    | some a =>
      rw [Device.onAdapter_some t.host there]
      obtain within | beyond := Nat.lt_or_ge i t.inUse
      next =>
        obtain ⟨soundA, steered, -, -⟩ := sound.member within there
        obtain ⟨moved, steered', -⟩ := Adapter.deselect_spec soundA steered slot
        exact ⟨sound.set within there moved steered', held_set held within there moved⟩
      next =>
        obtain ⟨retired, number⟩ := sound.retired i a beyond there
        have number' : (a.asleep slot).id = i := by
          obtain ⟨active, same⟩ := Adapter.asleep_eq a slot
          rw [same]
          exact number
        rw [retired.deselect]
        refine ⟨sound.kept beyond (retired.asleep slot) number', ?_⟩
        simp [Tenure.held, beyond]

theorem run_parts (sound : Sound h₀ r t) (held : t.held i slot = true)
    (steps : List Device.Part) :
    t.run (steps.map (.part i slot)) =
      { t with
        host := (Device.parts i slot (t.host, t.device) steps).1
        device := (Device.parts i slot (t.host, t.device) steps).2 } := by
  induction steps generalizing t with
  | nil => rfl
  | cons step rest ih =>
    obtain ⟨after, still⟩ := sound_part sound held step
    have first : t.turn (.part i slot step) =
        { t with
          host := (Device.part i slot (t.host, t.device) step).1
          device := (Device.part i slot (t.host, t.device) step).2 } := by
      simp [turn, onFrontend, held]
    have later := ih after still
    rw [first] at later
    rw [List.map_cons, run, List.foldl_cons, first]
    exact later

theorem onFrontend_eq_run (sound : Sound h₀ r t) {work : Host × Device → Host × Device}
    (steps : ∃ steps, work (t.host, t.device) =
      Device.parts i slot (t.host, t.device) steps) :
    ∃ steps : List Device.Part, t.onFrontend i slot work = t.run (steps.map (.part i slot)) := by
  unfold onFrontend
  split
  next held =>
    obtain ⟨steps, same⟩ := steps
    refine ⟨steps, ?_⟩
    rw [run_parts sound held, same]
  next => exact ⟨[], rfl⟩

theorem turn_wake (sound : Sound h₀ r t) (i slot : Nat) :
    ∃ steps : List Device.Part, t.turn (.wake i slot) = t.run (steps.map (.part i slot)) := by
  simp only [turn]
  refine onFrontend_eq_run sound ?_
  exact Device.wake_eq_parts t.host t.device i slot

theorem turn_sleep (sound : Sound h₀ r t) (i slot : Nat) :
    ∃ steps : List Device.Part, t.turn (.sleep i slot) = t.run (steps.map (.part i slot)) := by
  simp only [turn]
  refine onFrontend_eq_run sound ?_
  exact ⟨_, Device.sleep_eq_parts t.host t.device i slot⟩

theorem sound_parts (sound : Sound h₀ r t) (i slot : Nat) (steps : List Device.Part) :
    Sound h₀ r (t.run (steps.map (.part i slot))) := by
  induction steps generalizing t with
  | nil => exact sound
  | cons step rest ih =>
    cases held : t.held i slot with
    | true => exact ih (sound_part sound held step).1
    | false =>
      have idle : t.turn (.part i slot step) = t := by simp [turn, onFrontend, held]
      rw [List.map_cons, run, List.foldl_cons, idle]
      exact ih sound

theorem sound_leave (sound : Sound h₀ r t) : ∃ r', Sound h₀ r' (t.turn .leave) := by
  simp only [turn]
  split
  next => exact ⟨r, sound⟩
  next last inUse =>
    have within : last < t.device.adapters.length := by
      have := sound.within
      omega
    have there : t.device.adapters[last]? = some t.device.adapters[last] :=
      List.getElem?_eq_getElem within
    obtain ⟨soundA, -, -, number⟩ := sound.member (by omega) there
    have live := sound.live
    rw [inUse, ← List.take_append_getElem within] at live
    obtain ⟨r', left, id, dormant⟩ := live.leave
    rw [Device.onAdapter_some t.host there]
    refine ⟨r', ?_, ?_, ?_, sound.phase, fun j b beyond present => ?_⟩
    · rwa [List.take_set_of_le (Nat.le_refl last)]
    · simp [Nat.le_of_lt within]
    · simpa using sound.size
    · obtain ⟨rfl, rfl⟩ | ⟨other, before⟩ := getElem?_set_cases present
      next => exact ⟨Adapter.retired_exit soundA dormant, id.trans number⟩
      next =>
        have beyond : last ≤ j := beyond
        exact sound.retired j b (by omega) before

theorem Sound.owner (sound : Sound h₀ r t) {u : Urb} (queued : u ∈ t.host.bus.queue) :
    (∃ a, u.key.stream / maxFrontends < t.inUse ∧
      t.device.adapters[u.key.stream / maxFrontends]? = some a ∧
      u.key.stream % maxFrontends < a.slots.length ∧
      u.key.stream = Adapter.streamId a.id (u.key.stream % maxFrontends)) ∨
    u.key.stream ∉ streamIds ∧ t.device.adapters[u.key.stream / maxFrontends]? = none := by
  by_cases known : u.key.stream ∈ streamIds
  · obtain ⟨a, there, position, own⟩ := sound.live.owner queued known
    rw [List.getElem?_take] at there
    split at there
    next within => exact .inl ⟨a, within, there, position, own⟩
    next => cases there
  · refine .inr ⟨known, List.getElem?_eq_none (Nat.le_trans sound.size ?_)⟩
    simp only [streamIds, List.mem_range, maxAdapters, maxFrontends] at *
    omega

theorem sound_complete (sound : Sound h₀ r t) {u : Urb} {queue : List Urb}
    (removed : Removed t.host.bus.queue u queue) (fill : Fill) :
    let host : Host := { t.host with bus := { t.host.bus with queue } }
    let result := t.device.complete host (u.fill fill)
    Sound h₀ r { t with host := result.1, device := result.2 } := by
  intro host result
  have key : (u.fill fill).key.stream = u.key.stream := congrArg UrbKey.stream (u.key_fill fill)
  unfold result Device.complete
  rw [key]
  obtain ⟨a, within, there, position, own⟩ | ⟨unknown, missing⟩ := sound.owner removed.mem
  next =>
    obtain ⟨soundA, steered, -, -⟩ := sound.member within there
    obtain ⟨worked, runs⟩ := Adapter.worked_complete soundA position removed own fill
    rw [Device.onAdapter_some _ there]
    exact sound.set within there worked.toMoved (worked.steered runs steered)
  next =>
    rw [Device.onAdapter_missing _ missing]
    have steady : t.host.Steady host := Host.steady_bus rfl rfl rfl rfl
    have live := sound.live.elsewhere steady fun n known =>
      removed.ofStream_eq fun same => unknown (same ▸ known)
    exact { sound with live }

theorem sound_turn (sound : Sound h₀ r t) (x : Turn) : ∃ r', Sound h₀ r' (t.turn x) := by
  cases x with
  | startFeed i feed =>
    simp only [turn]
    split
    next within =>
      refine ⟨r, ?_⟩
      unfold Device.startFeed
      cases there : t.device.adapters[i]? with
      | none =>
        rw [Device.onAdapter_missing t.host there]
        exact sound
      | some a =>
        obtain ⟨soundA, steered, ready, -⟩ := sound.member within there
        obtain ⟨moved, steered', -⟩ := Adapter.startFeed_spec soundA ready steered feed
        rw [Device.onAdapter_some t.host there]
        exact sound.set within there moved steered'
    next => exact ⟨r, sound⟩
  | stopFeed i feed =>
    simp only [turn]
    split
    next within =>
      refine ⟨r, ?_⟩
      unfold Device.stopFeed
      cases there : t.device.adapters[i]? with
      | none =>
        rw [Device.onAdapter_missing t.host there]
        exact sound
      | some a =>
        obtain ⟨soundA, steered, -, -⟩ := sound.member within there
        obtain ⟨moved, steered', -⟩ := Adapter.stopFeed_spec soundA steered feed
        rw [Device.onAdapter_some t.host there]
        exact sound.set within there moved steered'
    next => exact ⟨r, sound⟩
  | wake i slot =>
    obtain ⟨steps, same⟩ := turn_wake sound i slot
    exact ⟨r, same ▸ sound_parts sound i slot steps⟩
  | sleep i slot =>
    obtain ⟨steps, same⟩ := turn_sleep sound i slot
    exact ⟨r, same ▸ sound_parts sound i slot steps⟩
  | part i slot step => exact ⟨r, sound_parts sound i slot [step]⟩
  | complete position fill =>
    simp only [turn]
    split
    next => exact ⟨r, sound⟩
    next u there => exact ⟨r, sound_complete sound (removed_eraseIdx there) fill⟩
  | leave => exact sound_leave sound

theorem sound_run (sound : Sound h₀ r t) (turns : List Turn) : ∃ r', Sound h₀ r' (t.run turns) := by
  induction turns generalizing t r with
  | nil => exact ⟨r, sound⟩
  | cons x rest ih =>
    obtain ⟨r', after⟩ := sound_turn sound x
    exact ih after

theorem sound_begin {h : Host} {result : Except Failure Unit × Host × Device}
    (settled : Device.Settled h result) (ok : result.1 = .ok ()) :
    ∃ r, Sound h r (begin result) := by
  obtain ⟨⟨r, live⟩, phase, -, -⟩ := settled.ok ok
  refine ⟨r, ?_, Nat.le_refl _, live.size, phase, fun i a beyond there => ?_⟩
  · show Device.Live h result.2.1 (result.2.2.adapters.take result.2.2.adapters.length) r
    rwa [List.take_length]
  · have beyond : result.2.2.adapters.length ≤ i := beyond
    have within : i < result.2.2.adapters.length := (List.getElem?_eq_some_iff.1 there).1
    omega

theorem run_leaves (t : Tenure) (within : t.inUse ≤ t.device.adapters.length) :
    let left := Device.exitAdapters t.host (t.device.adapters.take t.inUse)
    (t.run (List.replicate t.inUse .leave)).host = left.1 ∧
      (t.run (List.replicate t.inUse .leave)).device.adapters =
        left.2 ++ t.device.adapters.drop t.inUse := by
  obtain ⟨h, d, n⟩ := t
  -- On the number of adapters in use, the last of which goes first.
  induction n generalizing h d with
  | zero => simp [run, Device.exitAdapters]
  | succ n ih =>
    have inside : n < d.adapters.length := within
    have there : d.adapters[n]? = some d.adapters[n] := List.getElem?_eq_getElem inside
    let gone := d.adapters[n].exit h
    have first : turn ⟨h, d, n + 1⟩ .leave =
        ⟨gone.1, { d with adapters := d.adapters.set n gone.2 }, n⟩ := by
      simp only [turn]
      rw [Device.onAdapter_some h there]
    have later := ih gone.1 { d with adapters := d.adapters.set n gone.2 }
      (by simpa using Nat.le_of_lt inside)
    dsimp only at later ⊢
    rw [List.take_set_of_le (Nat.le_refl n)] at later
    rw [List.replicate_succ, run, List.foldl_cons, first, ← run,
      ← List.take_append_getElem inside, Device.exitAdapters_concat]
    refine ⟨later.1, later.2.trans ?_⟩
    rw [List.append_assoc]
    congr 1
    rw [List.drop_eq_getElem_cons (by simpa using inside), List.getElem_set_self,
      List.drop_set_of_lt (Nat.lt_succ_self n), List.singleton_append]

theorem run_exit (sound : Sound h₀ r t) (all : t.inUse = t.device.adapters.length) :
    (t.run (List.replicate t.inUse .leave)).host = (t.device.exit t.host).1 ∧
      (t.run (List.replicate t.inUse .leave)).device.adapters =
        (t.device.exit t.host).2.adapters := by
  have up : t.device.phase ≠ .uninitialized := by
    rw [sound.phase]
    decide
  have exit : t.device.exit t.host = t.device.tearDown t.host := if_neg up
  obtain ⟨host, adapters⟩ := run_leaves t sound.within
  rw [exit, host, adapters, all, List.take_length, List.drop_length, List.append_nil]
  exact ⟨rfl, rfl⟩

end Tenure

end DvbReceiver

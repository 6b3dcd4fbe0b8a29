import DvbReceiver.Proofs.Adapter.Rollback
import DvbReceiver.Proofs.Adapter.Sleeping
import DvbReceiver.Proofs.Device.Gating
import DvbReceiver.Proofs.Device.Supply

set_option autoImplicit false

namespace DvbReceiver

namespace Device

variable {h : Host} {d : Device} {i j : Nat} {a a' : Adapter}

theorem powerDown_trace (h : Host) (d : Device) :
    ∃ h' outcome, (powerDown h d).2 = (h', { d with power := ⟨d.power.users - 1⟩ }) ∧
      h'.trace = (if d.power.users = 1 then [.called (.power false) outcome] else []) ++ h.trace ∧
      h'.bus = h.bus := by
  rw [powerDown_eq]
  dsimp only
  split
  next => exact ⟨_, _, rfl, rfl, rfl⟩
  next => exact ⟨h, .done, rfl, rfl, rfl⟩

theorem sleep_eq_powerDown (there : d.adapters[i]? = some a) (h : Host) (slot : Nat) :
    let asked := ((h.perform (.demodSleep i slot)).2.perform (.frontendControl i slot false)).2
    let gone := a.deselect asked slot
    (sleep h d i slot).2 = (powerDown gone.1 { d with adapters := d.adapters.set i gone.2 }).2 := by
  intro asked gone
  rw [sleep_eq_parts]
  simp only [parts, List.foldl_cons, List.foldl_nil, part]
  rw [onAdapter_some _ there]

theorem idle_set (there : d.adapters[j]? = some a) (idle : d.streams i = false)
    (still : j = i → a.feeds.streaming = none → a'.feeds.streaming = none) :
    ({ d with adapters := d.adapters.set j a' } : Device).streams i = false := by
  rw [streams_set there]
  by_cases here : j = i
  · subst here
    rw [streams_some there, Option.isSome_eq_false_iff, Option.isNone_iff_eq_none] at idle
    rw [Function.update_self, still rfl idle]
    rfl
  · rwa [Function.update_of_ne (Ne.symm here)]

theorem idle_onAdapter {α : Type} (idle : d.streams i = false) (h : Host) (j : Nat) (missing : α)
    (f : Host → Adapter → α × Host × Adapter)
    (still : ∀ a, d.adapters[j]? = some a → j = i → a.feeds.streaming = none →
      (f h a).2.2.feeds.streaming = none) :
    (d.onAdapter h j missing f).2.2.streams i = false := by
  cases there : d.adapters[j]? with
  | none =>
    rw [onAdapter_missing h there]
    exact idle
  | some a =>
    rw [onAdapter_some h there]
    exact idle_set there idle (still a there)

theorem idle_part (idle : d.streams i = false) (h : Host) (j slot : Nat) (step : Part) :
    (part j slot (h, d) step).2.streams i = false := by
  cases step with
  | powerUp =>
    obtain ⟨h₁, -, -, ⟨e, refused⟩ | powered⟩ := powerUp_cases h d
    next =>
      simp only [part, refused]
      exact idle
    next =>
      simp only [part, powered]
      exact idle
  | powerDown =>
    obtain ⟨result, h₁, -, -, powered⟩ := powerDown_cases h d
    simp only [part, powered]
    exact idle
  | control => exact idle
  | demodInit => exact idle
  | demodSleep => exact idle
  | select =>
    simp only [part]
    split
    next => exact idle
    next selected =>
      obtain ⟨a, there, -, rfl⟩ := select_ok selected
      exact idle_set there idle fun _ still => still
  | deselect =>
    simp only [part]
    refine idle_onAdapter idle h j () _ fun a _ _ still => ?_
    -- Nothing streams here, so that falling asleep stops nothing.
    have quiet : a.feeds.streaming ≠ some slot := still ▸ (Option.some_ne_none slot).symm
    dsimp only
    rw [Adapter.deselect_eq, if_neg quiet, Adapter.asleep_filter]
    exact still

theorem idle_parts (idle : d.streams i = false) (h : Host) (j slot : Nat) (steps : List Part) :
    (parts j slot (h, d) steps).2.streams i = false := by
  induction steps generalizing h d with
  | nil => exact idle
  | cons step rest ih => exact ih (idle_part idle h j slot step) _

end Device

namespace Tenure

variable {h₀ : Host} {r : Nat → List UrbIdentity} {t : Tenure} {i slot : Nat} {a : Adapter}
  {s : Slot} {feed : Feed}

def feeds (t : Tenure) (i : Nat) : Turn → Bool
  | .startFeed j feed => j == i && decide (j < t.inUse) && (t.device.startFeed t.host j feed).1.isOk
  | _ => false

def unfed (i : Nat) : Tenure → List Turn → Bool
  | _, [] => true
  | t, x :: rest => !t.feeds i x && unfed i (t.turn x) rest

theorem idle_onFrontend (idle : t.device.streams i = false) {j : Nat}
    {work : Host × Device → Host × Device}
    (steps : ∃ steps, work (t.host, t.device) = Device.parts j slot (t.host, t.device) steps) :
    (t.onFrontend j slot work).device.streams i = false := by
  unfold onFrontend
  split
  next =>
    obtain ⟨steps, same⟩ := steps
    rw [same]
    exact Device.idle_parts idle t.host j slot steps
  next => exact idle

theorem idle_turn (sound : Sound h₀ r t) (idle : t.device.streams i = false) (x : Turn)
    (unfed : t.feeds i x = false) : (t.turn x).device.streams i = false := by
  cases x with
  | startFeed j feed =>
    simp only [turn]
    split
    next within =>
      refine Device.idle_onAdapter idle t.host j _ _ fun a there here still => ?_
      subst here
      obtain ⟨soundA, -, ready, -⟩ := sound.member within there
      -- Here it is the adapter itself that was asked, so it has refused.
      have failed : (a.startFeed t.host feed).1.isOk = false := by
        simpa [feeds, within, Device.startFeed, Device.onAdapter, there] using unfed
      cases answer : (a.startFeed t.host feed).1 with
      | ok =>
        rw [answer] at failed
        cases failed
      | error e =>
        rw [Adapter.feeds_startFeed soundA ready answer]
        exact still
    next => exact idle
  | stopFeed j feed =>
    simp only [turn]
    split
    next within =>
      refine Device.idle_onAdapter idle t.host j _ _ fun a there _ still => ?_
      obtain ⟨-, steered, -, -⟩ := sound.member within there
      exact Adapter.streaming_stopFeed steered still t.host feed
    next => exact idle
  | wake j slot => exact idle_onFrontend idle (Device.wake_eq_parts t.host t.device j slot)
  | sleep j slot => exact idle_onFrontend idle ⟨_, Device.sleep_eq_parts t.host t.device j slot⟩
  | part j slot step => exact idle_onFrontend idle ⟨[step], rfl⟩
  | complete position fill =>
    simp only [turn]
    split
    next => exact idle
    next u queued =>
      have removed := removed_eraseIdx queued
      have key : (u.fill fill).key.stream = u.key.stream := congrArg UrbKey.stream (u.key_fill fill)
      dsimp only
      unfold Device.complete
      rw [key]
      obtain ⟨a, within, there, position, own⟩ | ⟨-, missing⟩ := sound.owner removed.mem
      next =>
        obtain ⟨soundA, -, -, -⟩ := sound.member within there
        have worked := (Adapter.worked_complete soundA position removed own fill).1
        rw [Device.onAdapter_some _ there]
        refine Device.idle_set there idle fun _ still => ?_
        rw [worked.feeds]
        exact still
      next =>
        rw [Device.onAdapter_missing _ missing]
        exact idle
  | leave =>
    simp only [turn]
    split
    next => exact idle
    next last _ => exact Device.idle_onAdapter idle t.host last () _ fun _ _ _ _ => rfl

theorem idle_run (sound : Sound h₀ r t) (idle : t.device.streams i = false) (turns : List Turn)
    (unfed : t.unfed i turns = true) : (t.run turns).device.streams i = false := by
  induction turns generalizing t r with
  | nil => exact idle
  | cons x rest ih =>
    obtain ⟨first, later⟩ := Bool.and_eq_true_iff.1 unfed
    obtain ⟨r', after⟩ := sound_turn sound x
    exact ih after (idle_turn sound idle x (by simpa using first)) later

theorem Sound.abandoned (sound : Sound h₀ r t) (beyond : t.inUse ≤ i)
    (there : t.device.adapters[i]? = some a) (within : slot < a.slots.length) :
    ofStream (Adapter.streamId a.id slot) t.host.bus.queue = [] := by
  obtain ⟨retired, rfl⟩ := sound.retired i a beyond there
  have size := retired.dormant.size
  have few := sound.size
  have inside := (List.getElem?_eq_some_iff.1 there).1
  have known := Adapter.streamId_known (Nat.lt_of_lt_of_le inside few)
    (Nat.lt_of_lt_of_le within size)
  -- Numbers of streams tell adapters apart, so no adapter in use has this one.
  refine (sound.live.strays _ known fun b member owned => ?_).2
  obtain ⟨j, early, rfl⟩ := List.getElem_of_mem member
  have number := (sound.live.sound _ member).number owned
  have id := sound.live.ids j _ (List.getElem?_eq_getElem early)
  rw [List.length_take] at early
  unfold Adapter.streamId maxFrontends at *
  omega

theorem Sound.rested (sound : Sound h₀ r t) (there : t.device.adapters[i]? = some a)
    (present : a.slots[slot]? = some s) {asked : Host} (bus : asked.bus = t.host.bus) :
    a.Rested slot s (a.deselect asked slot).2 ∧
      ∃ stilled, Adapter.Stilled asked a slot stilled ∧
        (a.feeds.streaming ≠ some slot → stilled = asked) ∧
        (a.deselect asked slot).1 =
          if a.feeds.streaming = some slot then (stilled.perform (.streaming a.id false)).2
          else stilled := by
  obtain within | beyond := Nat.lt_or_ge i t.inUse
  · obtain ⟨soundA, steered, -, -⟩ := sound.member within there
    rw [← bus] at soundA
    exact Adapter.rested_deselect soundA steered present
  -- An adapter that has left has nothing on the bus to take back.
  · obtain ⟨retired, -⟩ := sound.retired i a beyond there
    have member := List.mem_of_getElem? present
    have idle : a.feeds.streaming ≠ some slot := by
      rw [retired.streaming]
      exact nofun
    have gone := sound.abandoned beyond there (List.getElem?_eq_some_iff.1 present).1
    rw [← bus] at gone
    rw [retired.deselect]
    exact ⟨Adapter.rested_asleep idle present (retired.dormant.rest s member)
      (retired.dormant.home s member), asked, Adapter.stilled_idle gone, fun _ => rfl,
      (if_neg idle).symm⟩

/-- The order in which a frontend falls asleep. First it is asked to, then its stream takes back its
requests, and only then is the device's stream switched off, if it is this one, and after that the
power, if nobody else uses it. -/
structure Descent (t : Tenure) (i slot : Nat) (a : Adapter) (asked stilled after : Host) :
    Prop where
  asking : ∃ demod control, asked.trace = .called (.frontendControl i slot false) control ::
    .called (.demodSleep i slot) demod :: t.host.trace
  bus : asked.bus = t.host.bus
  withdrawal : Adapter.Stilled asked a slot stilled
  idle : a.feeds.streaming ≠ some slot → stilled = asked
  switching : ∃ streaming power, after.trace =
    (if t.device.power.users = 1 then [.called (.power false) power] else []) ++
      (if a.feeds.streaming = some slot then [.called (.streaming i false) streaming] else []) ++
      stilled.trace
  left : after.bus = stilled.bus

def Restarts (t : Tenure) (i : Nat) (after : Tenure) : Prop :=
  ∃ b slot s b', t.device.adapters[i]? = some b ∧ b.feeds.active = some slot ∧
    b.slots[slot]? = some s ∧ 0 < s.stream.prepared ∧ after.device.adapters[i]? = some b' ∧
    b'.feeds.streaming = some slot ∧ Adapter.Restarted t.host b slot s after.host b'

/-- The frontend of a slot has fallen asleep, whatever its driver said to it. -/
structure Slept (t : Tenure) (i slot : Nat) (a : Adapter) (s : Slot) (after : Tenure) : Prop where
  adapter : ∃ a', a.Rested slot s a' ∧
    after = { t with
      host := after.host
      device := { t.device with
        power := ⟨t.device.power.users - 1⟩, adapters := t.device.adapters.set i a' } }
  order : ∃ asked stilled, t.Descent i slot a asked stilled after.host
  restart : (a.feeds.without slot).streaming = none → ∀ between feed,
    after.unfed i between = true →
    let later := after.run between
    i < later.inUse → (later.device.startFeed later.host i feed).1 = .ok () →
      later.Restarts i (later.turn (.startFeed i feed))

theorem restarts_startFeed (sound : Sound h₀ r t) (idle : t.device.streams i = false)
    (within : i < t.inUse) (ok : (t.device.startFeed t.host i feed).1 = .ok ()) :
    t.Restarts i (t.turn (.startFeed i feed)) := by
  have inside := Nat.lt_of_lt_of_le within sound.within
  have there : t.device.adapters[i]? = some t.device.adapters[i] := List.getElem?_eq_getElem inside
  obtain ⟨soundA, -, ready, -⟩ := sound.member within there
  rw [Device.streams_some there, Option.isSome_eq_false_iff, Option.isNone_iff_eq_none] at idle
  unfold Device.startFeed at ok
  rw [Device.onAdapter_some t.host there] at ok
  obtain ⟨slot, s, awake, present, prepared, streaming, restarted⟩ :=
    Adapter.restarted_startFeed soundA ready idle ok
  refine ⟨_, slot, s, _, there, awake, present, prepared, ?_, streaming, ?_⟩
  · simp only [turn, if_pos within]
    unfold Device.startFeed
    rw [Device.onAdapter_some t.host there]
    exact List.getElem?_set_self inside
  · simp only [turn, if_pos within]
    unfold Device.startFeed
    rw [Device.onAdapter_some t.host there]
    exact restarted

theorem descent_sleep (sound : Sound h₀ r t) (there : t.device.adapters[i]? = some a)
    (present : a.slots[slot]? = some s) (held : t.held i slot = true) :
    ∃ a' host asked stilled, a.Rested slot s a' ∧ t.Descent i slot a asked stilled host ∧
      t.turn (.sleep i slot) = { t with
        host
        device := { t.device with
          power := ⟨t.device.power.users - 1⟩, adapters := t.device.adapters.set i a' } } := by
  let asked := ((t.host.perform (.demodSleep i slot)).2.perform (.frontendControl i slot false)).2
  have number := sound.number there
  have bus : asked.bus = t.host.bus := rfl
  have asleep := Device.sleep_eq_powerDown there t.host slot
  obtain ⟨rested, stilled, withdrawal, idle, off⟩ := sound.rested there present bus
  rw [number] at off
  obtain ⟨host, power, down, dark, kept⟩ := Device.powerDown_trace (a.deselect asked slot).1
    { t.device with adapters := t.device.adapters.set i (a.deselect asked slot).2 }
  have asleep : (t.device.sleep t.host i slot).2 = _ := asleep.trans down
  refine ⟨_, host, asked, stilled, rested, ⟨⟨_, _, rfl⟩, bus, withdrawal, idle, ?_, ?_⟩, ?_⟩
  · have quiet : (a.deselect asked slot).1.trace =
        (if a.feeds.streaming = some slot then [.called (.streaming i false)
          (stilled.driver.answer stilled.calls (.streaming i false))] else []) ++
          stilled.trace := by
      rw [off]
      split <;> rfl
    exact ⟨_, power, by rw [dark, quiet, List.append_assoc]⟩
  · rw [kept, off]
    split <;> rfl
  · simp only [turn, onFrontend, held, if_true]
    exact congrArg (fun now : Host × Device => { t with host := now.1, device := now.2 }) asleep

theorem slept_turn (sound : Sound h₀ r t) (there : t.device.adapters[i]? = some a)
    (present : a.slots[slot]? = some s) (held : t.held i slot = true) :
    t.Slept i slot a s (t.turn (.sleep i slot)) := by
  obtain ⟨a', host, asked, stilled, rested, descent, same⟩ :=
    descent_sleep sound there present held
  obtain ⟨r', after⟩ := sound_turn sound (.sleep i slot)
  rw [same] at after ⊢
  refine ⟨⟨a', rested, rfl⟩, ⟨asked, stilled, descent⟩, ?_⟩
  intro quiet between feed unfed later within ok
  have within' := (List.getElem?_eq_some_iff.1 there).1
  have idle : (t.turn (.sleep i slot)).device.streams i = false := by
    obtain ⟨⟨stream, demux, shape, -⟩, -⟩ := rested
    rw [same, Device.streams_some (List.getElem?_set_self within'), shape]
    exact Option.isSome_eq_false_iff.2 (Option.isNone_iff_eq_none.2 quiet)
  rw [same] at idle
  obtain ⟨r'', sound'⟩ := sound_run after between
  exact restarts_startFeed sound' (idle_run after idle between unfed) within ok

/-- Whatever has been done to a device before, and whichever hooks fail as a frontend falls asleep:
its slot is at rest afterwards and off the power, and nothing else about the device has changed. -/
theorem slept_run (h : Host) (product : Product) (config : Config)
    (unused : ∀ u ∈ h.bus.queue, u.key.stream ∉ streamIds)
    (ok : (Device.bringUp h product config).1 = .ok ()) (turns : List Turn) :
    let t := (begin (Device.bringUp h product config)).run turns
    ∀ i slot a s, t.device.adapters[i]? = some a → a.slots[slot]? = some s →
      t.held i slot = true → t.Slept i slot a s (t.turn (.sleep i slot)) := by
  intro t i slot a s there present held
  have settled := Device.settled_bringUp h product config fun _ => ofStream_nil_of_unused unused
  obtain ⟨r₀, sound₀⟩ := sound_begin settled ok
  obtain ⟨r, sound⟩ := sound_run sound₀ turns
  exact slept_turn sound there present held

def unwillingHost : Host :=
  { pairHost with driver := { pairHost.driver with
      answer := fun n hook =>
        Bench.Injection.inject [.demodSleep, .frontendOff, .streamingOff, .powerOff] hook
          (pairHost.driver.answer n hook) } }

theorem slept_run_unwilling :
    let t := (begin (Device.bringUp unwillingHost ⟨"receiver", [], []⟩ {})).run
      [.wake 0 0, .startFeed 0 ⟨0x100, 0⟩]
    let after := t.turn (.sleep 0 0)
    let later := after.run [.wake 0 1]
    (∀ u ∈ unwillingHost.bus.queue, u.key.stream ∉ streamIds) ∧
      (Device.bringUp unwillingHost ⟨"receiver", [], []⟩ {}).1 = .ok () ∧
      (t.device.sleep t.host 0 0).1 = .error (.device "injected power_off") ∧
      (∃ a s, t.device.adapters[0]? = some a ∧ a.slots[0]? = some s ∧ t.held 0 0 = true ∧
        a.feeds.streaming = some 0 ∧ t.Slept 0 0 a s after) ∧
      later.Restarts 0 (later.turn (.startFeed 0 ⟨0x200, 1⟩)) := by
  have unused : ∀ u ∈ unwillingHost.bus.queue, u.key.stream ∉ streamIds := by
    simp [unwillingHost, pairHost, Session.benchHost, Bench.newBus]
  have ok : (Device.bringUp unwillingHost ⟨"receiver", [], []⟩ {}).1 = .ok () := by rfl
  intro t after later
  have known : ((t.device.adapters[0]?).bind (·.slots[0]?)).isSome = true := by rfl
  have streams : (t.device.adapters[0]?).map (·.feeds.streaming) = some (some 0) := by rfl
  have held : t.held 0 0 = true := by rfl
  obtain ⟨s, known⟩ := Option.isSome_iff_exists.1 known
  obtain ⟨a, there, present⟩ := Option.bind_eq_some_iff.1 known
  rw [there] at streams
  have busy : a.feeds.streaming = some 0 := Option.some.inj streams
  have slept : t.Slept 0 0 a s after :=
    slept_run unwillingHost _ _ unused ok _ 0 0 a s there present held
  have rested : (a.feeds.without 0).streaming = none := by
    rw [Feeds.without, busy]
    rfl
  have again := slept.restart rested [.wake 0 1] ⟨0x200, 1⟩ (by decide +kernel)
    (by decide +kernel) (by decide +kernel)
  exact ⟨unused, ok, by rfl, ⟨a, s, there, present, held, busy, slept⟩, again⟩

end Tenure

end DvbReceiver

import DvbReceiver.Proofs.Device.Filters
import DvbReceiver.Proofs.Device.Tenure

set_option autoImplicit false

namespace DvbReceiver

namespace Device

def gate (d : Device) (adapter : Nat) : Nat :=
  ((d.adapters[adapter]?).map (·.gate)).getD 0

variable {h h' h₁ h₂ h₃ : Host} {d d' d₁ d₂ d₃ : Device} {i j : Nat} {a a' : Adapter}
  {events earlier later : List Event} {opened : Option Nat}

theorem gate_some (there : d.adapters[i]? = some a) : d.gate i = a.gate := by
  simp [gate, there]

theorem gate_set (there : d.adapters[j]? = some a) (i : Nat) :
    ({ d with adapters := d.adapters.set j a' } : Device).gate i =
      if i = j then a'.gate else d.gate i := by
  have within := (List.getElem?_eq_some_iff.1 there).1
  unfold gate
  by_cases here : i = j
  · subst here
    simp [within]
  · simp [here, List.getElem?_set_ne (Ne.symm here)]

structure Conveys (h : Host) (d : Device) (h' : Host) (d' : Device) (events : List Event) :
    Prop where
  trace : h'.trace = events ++ h.trace
  length : d'.adapters.length = d.adapters.length
  follows : ∀ (i : Nat) (a a' : Adapter), d.adapters[i]? = some a →
    d'.adapters[i]? = some a' → a.Follows i events a'
  strange : ∀ i, d.adapters[i]? = none → ∀ e ∈ events, e.adapter? ≠ some i

namespace Conveys

theorem trans (first : Conveys h₁ d₁ h₂ d₂ earlier) (second : Conveys h₂ d₂ h₃ d₃ later) :
    Conveys h₁ d₁ h₃ d₃ (later ++ earlier) where
  trace := by rw [second.trace, first.trace, List.append_assoc]
  length := second.length.trans first.length
  follows i a a'' before after := by
    have within := (List.getElem?_eq_some_iff.1 before).1
    rw [← first.length] at within
    have between := List.getElem?_eq_getElem within
    exact (first.follows i a _ before between).trans (second.follows i _ a'' between after)
  strange i missing e there := by
    obtain late | soon := List.mem_append.1 there
    · refine second.strange i ?_ e late
      rwa [List.getElem?_eq_none_iff, first.length, ← List.getElem?_eq_none_iff]
    · exact first.strange i missing e soon

theorem aside (adapters : d'.adapters = d.adapters) (trace : h'.trace = events ++ h.trace)
    (none : ∀ e ∈ events, e.adapter? = none) : Conveys h d h' d' events where
  trace := trace
  length := by rw [adapters]
  follows i a a' before after := by
    rw [adapters, before] at after
    cases after
    exact Adapter.follows_elsewhere (elsewhere_of_none none) rfl rfl
  strange _ _ := elsewhere_of_none none

theorem set (there : d.adapters[j]? = some a) (number : a.id = j)
    (conveys : Adapter.Conveys h a h' a' events) :
    Conveys h d h' { d with adapters := d.adapters.set j a' } events where
  trace := conveys.trace
  length := List.length_set
  follows i b b' before after := by
    obtain ⟨rfl, rfl⟩ | ⟨other, same⟩ := getElem?_set_cases after
    · rw [there] at before
      cases before
      have follows := conveys.toFollows
      rwa [number] at follows
    · rw [before] at same
      cases same
      refine Adapter.follows_elsewhere (fun e present about => other ?_) rfl rfl
      exact (conveys.own e present i about).trans number
  strange i missing e present about := by
    have here := (conveys.own e present i about).trans number
    rw [here, there] at missing
    cases missing

end Conveys

/-- Nobody's gate was opened further but that of the adapter `opened`. Whose gate is shut now got
nothing meanwhile. -/
structure Turned (opened : Option Nat) (h : Host) (d : Device) (h' : Host) (d' : Device)
    (events : List Event) : Prop extends Conveys h d h' d' events where
  lower : ∀ i, opened ≠ some i → d'.gate i ≤ d.gate i
  shut : ∀ i, opened ≠ some i → d'.gate i = 0 → offered i events = []

structure Streamed (h : Host) (d : Device) (h' : Host) (d' : Device) : Prop where
  turned : ∃ events, Turned none h d h' d' events
  gate : ∀ i, d'.gate i = d.gate i

section Sets

theorem offered_other (number : a.id = j) (conveys : Adapter.Conveys h a h' a' events)
    (other : i ≠ j) : offered i events = [] :=
  offered_elsewhere fun e present about => other ((conveys.own e present i about).trans number)

variable (there : d.adapters[j]? = some a) (number : a.id = j)

include there number in
theorem turned_opened (conveys : Adapter.Conveys h a h' a' events) :
    Turned (some j) h d h' { d with adapters := d.adapters.set j a' } events :=
  { Conveys.set there number conveys with
    lower := fun i elsewhere => by
      have other : i ≠ j := fun here => elsewhere (congrArg some here.symm)
      exact Nat.le_of_eq ((gate_set there i).trans (if_neg other))
    shut := fun i elsewhere _ => by
      have other : i ≠ j := fun here => elsewhere (congrArg some here.symm)
      exact offered_other number conveys other }

include there number in
theorem turned_lowers (lowers : Adapter.Lowers h a h' a') :
    ∃ events, Turned none h d h' { d with adapters := d.adapters.set j a' } events := by
  obtain ⟨⟨events, conveys, shut⟩, gate⟩ := lowers
  refine ⟨events, { Conveys.set there number conveys with lower := ?_, shut := ?_ }⟩
  · intro i _
    rw [gate_set there]
    split
    next here => rwa [here, gate_some there]
    next => exact Nat.le_refl _
  · intro i _ closed
    rw [gate_set there] at closed
    split at closed
    next here => rw [here, ← number, shut closed]
    next other => exact offered_other number conveys other

include there number in
theorem streamed_set (streamed : Adapter.Streamed h a h' a') :
    Streamed h d h' { d with adapters := d.adapters.set j a' } where
  turned := turned_lowers there number streamed.lowers
  gate i := by
    rw [gate_set there]
    split
    next here => rw [here, gate_some there, streamed.gate]
    next => rfl

end Sets

theorem Streamed.trans (first : Streamed h₁ d₁ h₂ d₂) (second : Streamed h₂ d₂ h₃ d₃) :
    Streamed h₁ d₁ h₃ d₃ where
  turned := by
    obtain ⟨earlier, before⟩ := first.turned
    obtain ⟨later, after⟩ := second.turned
    have conveys := before.toConveys.trans after.toConveys
    refine ⟨later ++ earlier, { conveys with lower := ?_, shut := ?_ }⟩
    · intro i other
      exact Nat.le_trans (after.lower i other) (before.lower i other)
    · intro i other closed
      rw [offered_append, before.shut i other ((second.gate i).symm.trans closed),
        after.shut i other closed, List.append_nil]
  gate i := (second.gate i).trans (first.gate i)

theorem streamed_aside (adapters : d'.adapters = d.adapters)
    (trace : ∃ events, h'.trace = events ++ h.trace ∧ ∀ e ∈ events, e.adapter? = none) :
    Streamed h d h' d' := by
  have gate (i : Nat) : d'.gate i = d.gate i := by rw [Device.gate, adapters, Device.gate]
  obtain ⟨events, trace, none⟩ := trace
  refine ⟨⟨events, { Conveys.aside adapters trace none with lower := ?_, shut := ?_ }⟩, gate⟩
  · exact fun i _ => Nat.le_of_eq (gate i)
  · exact fun i _ _ => offered_elsewhere (elsewhere_of_none none)

theorem Streamed.refl (h : Host) (d : Device) : Streamed h d h d :=
  streamed_aside rfl ⟨[], rfl, by simp⟩

theorem turned_idle (opened : Option Nat) (h : Host) (d : Device) :
    ∃ events, Turned opened h d h d events := by
  obtain ⟨events, rest⟩ := (Streamed.refl h d).turned
  exact ⟨events, { rest with
    lower := fun i _ => rest.lower i nofun
    shut := fun i _ => rest.shut i nofun }⟩

theorem streamed_perform (h : Host) (d : Device) (hook : Hook) :
    Streamed h d (h.perform hook).2 d :=
  streamed_aside rfl ⟨[_], rfl, by simp [Event.adapter?]⟩

theorem streamed_powerUp (h : Host) (d : Device) :
    Streamed h d (powerUp h d).2.1 (powerUp h d).2.2 := by
  unfold powerUp
  split
  next => exact streamed_aside rfl ⟨[], rfl, by simp⟩
  next =>
    have asked := streamed_perform h d (.power true)
    split
    next outcome =>
      rw [outcome] at asked
      exact asked.trans (streamed_aside rfl ⟨[], rfl, by simp⟩)
    next outcome =>
      rw [outcome] at asked
      exact asked.trans (streamed_aside rfl ⟨[], rfl, by simp⟩)

theorem streamed_powerDown (h : Host) (d : Device) :
    Streamed h d (powerDown h d).2.1 (powerDown h d).2.2 := by
  unfold powerDown
  split
  next => exact streamed_aside rfl ⟨[], rfl, by simp⟩
  next => exact streamed_aside rfl ⟨[_], rfl, by simp [Event.adapter?]⟩

end Device

namespace Tenure

open Device (Turned Streamed turned_idle turned_opened turned_lowers streamed_set)

variable {h₀ : Host} {r : Nat → List UrbIdentity} {t : Tenure} {i slot : Nat}

theorem streamed_part (sound : Sound h₀ r t) (i slot : Nat) (step : Device.Part) :
    Streamed t.host t.device (t.turn (.part i slot step)).host
      (t.turn (.part i slot step)).device := by
  simp only [turn, onFrontend]
  split
  next held =>
    cases step with
    | powerUp => exact Device.streamed_powerUp t.host t.device
    | powerDown => exact Device.streamed_powerDown t.host t.device
    | control on => exact Device.streamed_perform t.host t.device _
    | demodInit => exact Device.streamed_perform t.host t.device _
    | demodSleep => exact Device.streamed_perform t.host t.device _
    | select =>
      simp only [Device.part]
      split
      next => exact Streamed.refl t.host t.device
      next selected =>
        obtain ⟨a, there, -, rfl⟩ := Device.select_ok selected
        exact streamed_set there (sound.number there) ((Adapter.Streamed.refl t.host a).adjust _)
    | deselect =>
      simp only [Device.part]
      cases there : t.device.adapters[i]? with
      | none =>
        rw [Device.onAdapter_missing t.host there]
        exact Streamed.refl t.host t.device
      | some a =>
        rw [Device.onAdapter_some t.host there]
        refine streamed_set there (sound.number there) ?_
        obtain within | beyond := Nat.lt_or_ge i t.inUse
        · exact Adapter.streamed_deselect (sound.member within there).1 slot
        · obtain ⟨retired, -⟩ := sound.retired i a beyond there
          obtain ⟨active, same⟩ := Adapter.asleep_eq a slot
          rw [retired.deselect, same]
          exact (Adapter.Streamed.refl t.host a).adjust _
  next => exact Streamed.refl t.host t.device

theorem streamed_parts (sound : Sound h₀ r t) (i slot : Nat) (steps : List Device.Part) :
    Streamed t.host t.device (t.run (steps.map (.part i slot))).host
      (t.run (steps.map (.part i slot))).device := by
  induction steps generalizing t with
  | nil => exact Streamed.refl t.host t.device
  | cons step rest ih =>
    exact (streamed_part sound i slot step).trans (ih (sound_parts sound i slot [step]))

theorem streamed_complete (sound : Sound h₀ r t) (position : Nat) (fill : Fill) :
    Streamed t.host t.device (t.turn (.complete position fill)).host
      (t.turn (.complete position fill)).device := by
  simp only [turn]
  split
  next => exact Streamed.refl t.host t.device
  next u there =>
    have removed := removed_eraseIdx there
    have key : (u.fill fill).key.stream = u.key.stream := congrArg UrbKey.stream (u.key_fill fill)
    unfold Device.complete
    rw [key]
    obtain ⟨a, within, there, position, own⟩ | ⟨-, missing⟩ := sound.owner removed.mem
    next =>
      obtain ⟨soundA, -, -, number⟩ := sound.member within there
      rw [Device.onAdapter_some _ there]
      exact streamed_set there number (Adapter.streamed_complete soundA removed own fill)
    next =>
      rw [Device.onAdapter_missing _ missing]
      exact Device.streamed_aside rfl ⟨[], rfl, by simp⟩

def Turn.opened? : Turn → Option Nat
  | .startFeed i _ => some i
  | _ => none

theorem turned_turn (sound : Sound h₀ r t) (x : Turn) :
    ∃ events, Turned x.opened? t.host t.device (t.turn x).host (t.turn x).device events := by
  cases x with
  | startFeed i feed =>
    simp only [turn]
    split
    next within =>
      unfold Device.startFeed
      cases there : t.device.adapters[i]? with
      | none =>
        rw [Device.onAdapter_missing t.host there]
        exact turned_idle ..
      | some a =>
        obtain ⟨soundA, -, -, number⟩ := sound.member within there
        obtain ⟨events, conveys⟩ := Adapter.conveys_startFeed soundA feed
        rw [Device.onAdapter_some t.host there]
        exact ⟨events, turned_opened there number conveys⟩
    next => exact turned_idle ..
  | stopFeed i feed =>
    simp only [turn]
    split
    next within =>
      unfold Device.stopFeed
      cases there : t.device.adapters[i]? with
      | none =>
        rw [Device.onAdapter_missing t.host there]
        exact turned_idle ..
      | some a =>
        obtain ⟨soundA, steered, -, number⟩ := sound.member within there
        rw [Device.onAdapter_some t.host there]
        exact turned_lowers there number (Adapter.lowers_stopFeed soundA steered feed)
    next => exact turned_idle ..
  -- Waking and sleeping are made of steps, and no step touches a gate.
  | wake i slot =>
    obtain ⟨steps, same⟩ := turn_wake sound i slot
    rw [same]
    exact (streamed_parts sound i slot steps).turned
  | sleep i slot =>
    obtain ⟨steps, same⟩ := turn_sleep sound i slot
    rw [same]
    exact (streamed_parts sound i slot steps).turned
  | part i slot step => exact (streamed_part sound i slot step).turned
  | complete position fill => exact (streamed_complete sound position fill).turned
  | leave =>
    simp only [turn]
    split
    next => exact turned_idle ..
    next last inUse =>
      cases there : t.device.adapters[last]? with
      | none =>
        rw [Device.onAdapter_missing t.host there]
        exact turned_idle ..
      | some a =>
        obtain ⟨soundA, -, -, number⟩ := sound.member (by omega) there
        rw [Device.onAdapter_some t.host there]
        exact turned_lowers there number (Adapter.lowers_exit soundA).1

theorem conveys_run (sound : Sound h₀ r t) (turns : List Turn) :
    ∃ events, Device.Conveys t.host t.device (t.run turns).host (t.run turns).device events := by
  induction turns generalizing t r with
  | nil => exact ⟨[], .aside rfl rfl (by simp)⟩
  | cons x rest ih =>
    obtain ⟨r', after⟩ := sound_turn sound x
    obtain ⟨earlier, first⟩ := turned_turn sound x
    obtain ⟨later, second⟩ := ih after
    exact ⟨later ++ earlier, first.toConveys.trans second⟩

theorem shut_run (sound : Sound h₀ r t) (closed : t.device.gate i = 0) (turns : List Turn)
    (unopened : ∀ x ∈ turns, x.opened? ≠ some i) :
    ∃ events, (t.run turns).host.trace = events ++ t.host.trace ∧ offered i events = [] := by
  induction turns generalizing t r with
  | nil => exact ⟨[], rfl, rfl⟩
  | cons x rest ih =>
    obtain ⟨first, others⟩ := List.forall_mem_cons.1 unopened
    obtain ⟨r', after⟩ := sound_turn sound x
    obtain ⟨earlier, turned⟩ := turned_turn sound x
    have still : (t.turn x).device.gate i = 0 :=
      Nat.eq_zero_of_le_zero (closed ▸ turned.lower i first)
    obtain ⟨later, trace, silent⟩ := ih after still others
    refine ⟨later ++ earlier, ?_, ?_⟩
    · exact trace.trans (by rw [turned.trace, List.append_assoc])
    · rw [offered_append, turned.shut i first still, silent, List.append_nil]

/-- What came of a device since `h₀`, when none of its adapters had a feed. -/
structure Conveyed (h₀ : Host) (t : Tenure) (events : List Event) : Prop where
  trace : t.host.trace = events ++ h₀.trace
  exact : ∀ i, offered i events = brought i 0 events
  gate : ∀ (i : Nat) (a : Adapter), t.device.adapters[i]? = some a →
    a.gate = gateAfter i 0 events ∧ a.gate = a.feeds.count
  demux : ∀ (i : Nat) (a : Adapter), t.device.adapters[i]? = some a → ∃ demux,
    a.demux = some demux ∧ demux.ring = (offered i events).take demux.capacity ∧
      demux.dropped = (offered i events).length - demux.capacity

theorem Sound.conveyed {t₀ : Tenure} (sound : Sound h₀ r t) {events : List Event}
    (conveys : Device.Conveys t₀.host t₀.device t.host t.device events)
    (fresh : ∀ a ∈ t₀.device.adapters, a.gate = 0 ∧ ∃ depth, a.demux = some (Demux.new depth)) :
    Conveyed t₀.host t events := by
  -- In the beginning nothing had been offered, and the gates were shut.
  have start {i : Nat} {a : Adapter} (there : t.device.adapters[i]? = some a) :
      ∃ depth, a.gate = gateAfter i 0 events ∧
        a.intake = some ((offered i events).foldl Demux.deliver (Demux.new depth)) ∧
        offered i events = brought i 0 events := by
    have within : i < t₀.device.adapters.length :=
      conveys.length ▸ (List.getElem?_eq_some_iff.1 there).1
    have before := List.getElem?_eq_getElem within
    obtain ⟨gate, depth, new⟩ := fresh _ (List.mem_of_getElem? before)
    have follows := conveys.follows i _ a before there
    have intake : t₀.device.adapters[i].intake = some (Demux.new depth) := by
      rw [Adapter.intake, new]
      rfl
    obtain ⟨after, same⟩ := follows.intake _ intake
    rw [gate] at same
    exact ⟨depth, gate ▸ follows.gate, after, same⟩
  refine ⟨conveys.trace, fun i => ?_, fun i a there => ?_, fun i a there => ?_⟩
  · cases there : t.device.adapters[i]? with
    | none =>
      have missing : t₀.device.adapters[i]? = none := by
        rwa [List.getElem?_eq_none_iff, ← conveys.length, ← List.getElem?_eq_none_iff]
      have elsewhere := conveys.strange i missing
      rw [offered_elsewhere elsewhere, (gate_brought_elsewhere 0 elsewhere).2]
    | some a =>
      obtain ⟨-, -, -, same⟩ := start there
      exact same
  · obtain ⟨-, gate, -⟩ := start there
    exact ⟨gate, sound.gate there⟩
  · obtain ⟨depth, -, intake, -⟩ := start there
    rw [Demux.deliverAll_new] at intake
    obtain ⟨demux, present, same⟩ := Option.map_eq_some_iff.1 intake
    have capacity : demux.intake.capacity = (Demux.new depth).capacity := by rw [same]
    have ring := congrArg Demux.ring same
    have dropped := congrArg Demux.dropped same
    rw [← capacity] at ring dropped
    exact ⟨demux, present, ring, dropped⟩

theorem gate_stopFeed (sound : Sound h₀ r t) (within : i < t.inUse) (feed : Feed) :
    (t.turn (.stopFeed i feed)).device.gate i = t.device.gate i - 1 := by
  have there := List.getElem?_eq_getElem (Nat.lt_of_lt_of_le within sound.within)
  obtain ⟨soundA, steered, -, -⟩ := sound.member within there
  obtain ⟨-, steered', count⟩ := Adapter.stopFeed_spec soundA steered feed
  simp only [turn, if_pos within]
  unfold Device.stopFeed
  rw [Device.onAdapter_some t.host there]
  dsimp only
  rw [Device.gate_set there, if_pos rfl, Device.gate_some there, steered'.gate, count, steered.gate]

theorem gate_leave (sound : Sound h₀ r t) (last : t.inUse = i + 1) :
    (t.turn .leave).device.gate i = 0 := by
  have within : i < t.inUse := by omega
  have there := List.getElem?_eq_getElem (Nat.lt_of_lt_of_le within sound.within)
  have shut := (Adapter.lowers_exit (sound.member within there).1).2
  simp only [turn, last]
  rw [Device.onAdapter_some t.host there]
  exact (Device.gate_set there i).trans ((if_pos rfl).trans shut)

/-- A demux is offered what comes back to its own adapter's streams while there are feeds, and
nothing else. From the turn that leaves an adapter without feeds, be it the end of the last one or
the adapter's exit, until the next one is started, it gets nothing, whatever comes back. -/
theorem conveyed_run (h : Host) (product : Product) (config : Config)
    (unused : ∀ u ∈ h.bus.queue, u.key.stream ∉ streamIds)
    (ok : (Device.bringUp h product config).1 = .ok ()) (turns : List Turn) :
    let t₀ := begin (Device.bringUp h product config)
    let t := t₀.run turns
    (∃ events, Conveyed t₀.host t events) ∧
    (∀ (i : Nat) (x : Turn) (later : List Turn), (∀ y ∈ x :: later, y.opened? ≠ some i) →
      (t.turn x).device.gate i = 0 →
      ∃ events, (t.run (x :: later)).host.trace = events ++ t.host.trace ∧
        offered i events = []) ∧
    (∀ i < t.inUse, ∀ feed,
      (t.turn (.stopFeed i feed)).device.gate i = t.device.gate i - 1) ∧
    (∀ i, t.inUse = i + 1 → (t.turn .leave).device.gate i = 0) ∧
    (t.inUse = t.device.adapters.length →
      let gone := t.run (List.replicate t.inUse .leave)
      gone.host = (t.device.exit t.host).1 ∧
        gone.device.adapters = (t.device.exit t.host).2.adapters) := by
  intro t₀ t
  have settled := Device.settled_bringUp h product config fun _ => ofStream_nil_of_unused unused
  obtain ⟨r₀, sound₀⟩ := sound_begin settled ok
  obtain ⟨r, sound⟩ := sound_run sound₀ turns
  obtain ⟨events, conveys⟩ := conveys_run sound₀ turns
  have fresh (a : Adapter) (there : a ∈ t₀.device.adapters) :
      a.gate = 0 ∧ ∃ depth, a.demux = some (Demux.new depth) := by
    obtain ⟨⟨r, live⟩, -, -, unfed⟩ := settled.ok ok
    refine ⟨?_, Device.demux_bringUp ok a there⟩
    rw [(live.steered a there).gate, unfed a there]
  refine ⟨⟨events, sound.conveyed conveys fresh⟩, ?_, ?_, ?_, run_exit sound⟩
  · intro i x later unopened closed
    obtain ⟨first, others⟩ := List.forall_mem_cons.1 unopened
    obtain ⟨r', after⟩ := sound_turn sound x
    -- The turn that shuts the gate may still bring something before it does.
    obtain ⟨earlier, turned⟩ := turned_turn sound x
    obtain ⟨events, trace, silent⟩ := shut_run after closed later others
    refine ⟨events ++ earlier, ?_, ?_⟩
    · exact trace.trans (by rw [turned.trace, List.append_assoc])
    · rw [offered_append, turned.shut i first closed, silent, List.append_nil]
  · exact fun i within feed => gate_stopFeed sound within feed
  · exact fun i last => gate_leave sound last

def pairHost : Host :=
  let receiver := Session.benchHost
  let slot (endpoint : Nat) : SlotProperties := ⟨.none, ⟨2, endpoint, .bulk 4⟩⟩
  { receiver with
    bus := { receiver.bus with
      policy := { receiver.bus.policy with cancelled := fun _ => { data := some [0x47] } } }
    driver := Bench.plainDriver
      { products := [], adapters := [[slot 0x81, slot 0x82], [slot 0x83]] } }

theorem conveyed_run_pair :
    let t₀ := begin (Device.bringUp pairHost ⟨"receiver", [], []⟩ {})
    let t := t₀.run
      [.wake 0 0, .startFeed 0 ⟨0x100, 0⟩, .wake 1 0, .startFeed 1 ⟨0x200, 0⟩]
    (∀ u ∈ pairHost.bus.queue, u.key.stream ∉ streamIds) ∧
      (Device.bringUp pairHost ⟨"receiver", [], []⟩ {}).1 = .ok () ∧
      (∃ events, Conveyed t₀.host t events) ∧
      ∃ events, (t.run [.stopFeed 0 ⟨0x100, 0⟩, .leave, .sleep 1 0]).host.trace =
        events ++ t.host.trace ∧ offered 0 events = [] := by
  have unused : ∀ u ∈ pairHost.bus.queue, u.key.stream ∉ streamIds := by
    simp [pairHost, Session.benchHost, Bench.newBus]
  have ok : (Device.bringUp pairHost ⟨"receiver", [], []⟩ {}).1 = .ok () := by rfl
  obtain ⟨conveyed, shut, -⟩ := conveyed_run pairHost ⟨"receiver", [], []⟩ {} unused ok
    [.wake 0 0, .startFeed 0 ⟨0x100, 0⟩, .wake 1 0, .startFeed 1 ⟨0x200, 0⟩]
  exact ⟨unused, ok, conveyed, shut 0 (.stopFeed 0 ⟨0x100, 0⟩) [.leave, .sleep 1 0] (by decide) rfl⟩

-- The stream still delivers what its cancelled requests bring, but not to the demux.
example :
    let t := (begin (Device.bringUp pairHost ⟨"receiver", [], []⟩ {})).run
      [.wake 0 0, .startFeed 0 ⟨0x100, 0⟩, .complete 0 (.result .ok 2), .stopFeed 0 ⟨0x100, 0⟩]
    offered 0 t.host.trace = [[0, 0]] ∧ passed 0 t.host.trace = [[0, 0], [0x47], [0x47]] :=
  ⟨rfl, rfl⟩

end Tenure

end DvbReceiver

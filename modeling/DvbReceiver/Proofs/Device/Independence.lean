import DvbReceiver.Proofs.Adapter.Sparing
import DvbReceiver.Proofs.Device.Gating

set_option autoImplicit false

namespace DvbReceiver.Tenure

open Host (Spares)

variable {h₀ h' : Host} {r : Nat → List UrbIdentity} {t t₁ t₂ : Tenure} {i j slot : Nat}
  {a a' : Adapter}

def party? (t : Tenure) : Turn → Option Nat
  | .startFeed i _ | .stopFeed i _ | .wake i _ | .sleep i _ | .part i .. => some i
  | .complete position _ => (t.host.bus.queue[position]?).map (·.key.adapter)
  | .leave => none

structure Local (i : Nat) (t t' : Tenure) : Prop extends Spares i t.host t'.host where
  adapters : ∀ j ≠ i, t'.device.adapters[j]? = t.device.adapters[j]?
  shared : ∃ adapters power, t'.device = { t.device with adapters, power }
  inUse : t'.inUse = t.inUse

theorem Local.refl (i : Nat) (t : Tenure) : Local i t t :=
  { Spares.refl i t.host with
    adapters := fun _ _ => rfl
    shared := ⟨_, _, rfl⟩
    inUse := rfl }

theorem Local.trans (first : Local i t t₁) (second : Local i t₁ t₂) : Local i t t₂ :=
  { first.toSpares.trans second.toSpares with
    adapters := fun j other => (second.adapters j other).trans (first.adapters j other)
    shared := by
      obtain ⟨adapters, power, same⟩ := first.shared
      obtain ⟨adapters', power', same'⟩ := second.shared
      exact ⟨adapters', power', by rw [same', same]⟩
    inUse := second.inUse.trans first.inUse }

theorem local_set (spares : Spares i t.host h') (a' : Adapter) :
    Local i t { t with
      host := h', device := { t.device with adapters := t.device.adapters.set i a' } } :=
  { spares with
    adapters := fun _ other => List.getElem?_set_ne (Ne.symm other)
    shared := ⟨_, _, rfl⟩
    inUse := rfl }

theorem local_power (spares : Spares i t.host h') (power : PowerRail) :
    Local i t { t with host := h', device := { t.device with power } } :=
  { spares with
    adapters := fun _ _ => rfl
    shared := ⟨_, _, rfl⟩
    inUse := rfl }

theorem local_perform (i : Nat) (t : Tenure) {hook : Hook}
    (own : ∀ j, hook.adapter? = some j → j = i) (other : hook.isDetach = false) :
    Local i t { t with host := (t.host.perform hook).2 } :=
  local_power ((Spares.refl i t.host).perform own other) t.device.power

theorem local_powerUp (i : Nat) (t : Tenure) :
    Local i t { t with
      host := (Device.powerUp t.host t.device).2.1
      device := (Device.powerUp t.host t.device).2.2 } := by
  have asked : Spares i t.host (t.host.perform (.power true)).2 :=
    (Spares.refl i t.host).perform (by simp [Hook.adapter?]) rfl
  unfold Device.powerUp
  split
  next rail _ => exact local_power (Spares.refl i t.host) rail
  next rail _ =>
    split
    next outcome =>
      rw [outcome] at asked
      exact local_power asked rail.release.2
    next outcome =>
      rw [outcome] at asked
      exact local_power asked rail

theorem local_powerDown (i : Nat) (t : Tenure) :
    Local i t { t with
      host := (Device.powerDown t.host t.device).2.1
      device := (Device.powerDown t.host t.device).2.2 } := by
  unfold Device.powerDown
  split
  next rail _ => exact local_power (Spares.refl i t.host) rail
  next rail _ =>
    exact local_power ((Spares.refl i t.host).perform (by simp [Hook.adapter?]) rfl) rail

theorem local_part (sound : Sound h₀ r t) (i slot : Nat) (step : Device.Part) :
    Local i t (t.turn (.part i slot step)) := by
  simp only [turn, onFrontend]
  split
  next held =>
    cases step with
    | powerUp => exact local_powerUp i t
    | powerDown => exact local_powerDown i t
    | control on => exact local_perform i t (by simp [Hook.adapter?]) rfl
    | demodInit => exact local_perform i t (by simp [Hook.adapter?]) rfl
    | demodSleep => exact local_perform i t (by simp [Hook.adapter?]) rfl
    | select =>
      simp only [Device.part]
      split
      next => exact Local.refl i t
      next selected =>
        obtain ⟨a, there, -, rfl⟩ := Device.select_ok selected
        exact local_set (Spares.refl i t.host) _
    | deselect =>
      simp only [Device.part]
      cases there : t.device.adapters[i]? with
      | none =>
        rw [Device.onAdapter_missing t.host there]
        exact Local.refl i t
      | some a =>
        rw [Device.onAdapter_some t.host there]
        refine local_set ?_ _
        obtain within | beyond := Nat.lt_or_ge i t.inUse
        next =>
          obtain ⟨soundA, -, -, number⟩ := sound.member within there
          have spares := Adapter.spares_deselect soundA slot
          rwa [number] at spares
        next =>
          -- An adapter that has been left is at rest, so that there is nothing to stop.
          rw [(sound.retired i a beyond there).1.deselect]
          exact Spares.refl i t.host
  next => exact Local.refl i t

theorem local_parts (sound : Sound h₀ r t) (i slot : Nat) (steps : List Device.Part) :
    Local i t (t.run (steps.map (.part i slot))) := by
  induction steps generalizing t with
  | nil => exact Local.refl i t
  | cons step rest ih =>
    exact (local_part sound i slot step).trans (ih (sound_parts sound i slot [step]))

theorem local_complete (sound : Sound h₀ r t) {position : Nat} {u : Urb}
    (there : t.host.bus.queue[position]? = some u) (fill : Fill) :
    Local u.key.adapter t (t.turn (.complete position fill)) := by
  have removed := removed_eraseIdx there
  have key : (u.fill fill).key.stream = u.key.stream := congrArg UrbKey.stream (u.key_fill fill)
  simp only [turn, there]
  unfold Device.complete
  rw [key]
  obtain ⟨a, within, here, -, -⟩ | ⟨-, missing⟩ := sound.owner removed.mem
  next =>
    obtain ⟨soundA, -, -, number⟩ := sound.member within here
    rw [Device.onAdapter_some _ here]
    refine local_set ?_ _
    exact Adapter.spares_complete (Spares.refl u.key.adapter t.host) soundA number removed rfl _
      fill
  next =>
    -- A request of no stream is taken from the bus, and nobody gets it.
    rw [Device.onAdapter_missing _ missing]
    let queue := t.host.bus.queue.eraseIdx position
    have spares : Spares u.key.adapter t.host { t.host with bus := { t.host.bus with queue } } :=
      (Spares.refl _ t.host).removed (Host.steady_bus rfl rfl rfl rfl) rfl removed rfl
    exact local_power spares t.device.power

theorem local_turn (sound : Sound h₀ r t) {x : Turn} (about : t.party? x = some i) :
    Local i t (t.turn x) := by
  cases x with
  | startFeed i feed =>
    obtain rfl := Option.some.inj about
    simp only [turn]
    split
    next within =>
      unfold Device.startFeed
      cases there : t.device.adapters[i]? with
      | none =>
        rw [Device.onAdapter_missing t.host there]
        exact Local.refl i t
      | some a =>
        obtain ⟨soundA, -, ready, number⟩ := sound.member within there
        have spares := Adapter.spares_startFeed soundA ready feed
        rw [number] at spares
        rw [Device.onAdapter_some t.host there]
        exact local_set spares _
    next => exact Local.refl i t
  | stopFeed i feed =>
    obtain rfl := Option.some.inj about
    simp only [turn]
    split
    next within =>
      unfold Device.stopFeed
      cases there : t.device.adapters[i]? with
      | none =>
        rw [Device.onAdapter_missing t.host there]
        exact Local.refl i t
      | some a =>
        obtain ⟨soundA, steered, -, number⟩ := sound.member within there
        have spares := Adapter.spares_stopFeed soundA steered feed
        rw [number] at spares
        rw [Device.onAdapter_some t.host there]
        exact local_set spares _
    next => exact Local.refl i t
  | wake i slot =>
    obtain rfl := Option.some.inj about
    obtain ⟨steps, same⟩ := turn_wake sound i slot
    rw [same]
    exact local_parts sound i slot steps
  | sleep i slot =>
    obtain rfl := Option.some.inj about
    obtain ⟨steps, same⟩ := turn_sleep sound i slot
    rw [same]
    exact local_parts sound i slot steps
  | part i slot step =>
    obtain rfl := Option.some.inj about
    exact local_part sound i slot step
  | complete position fill =>
    obtain ⟨u, there, rfl⟩ := Option.map_eq_some_iff.1 about
    exact local_complete sound there fill
  | leave => cases about

/-- Adapter `j` is what it was, with its streams, its demux and its requests on the bus, nothing was
asked of it, and of what all adapters share only the power was touched. -/
structure Undisturbed (j : Nat) (t t' : Tenure) : Prop where
  adapter : t'.device.adapters[j]? = t.device.adapters[j]?
  requests : t'.host.bus.queue.filter (·.key.adapter = j) =
    t.host.bus.queue.filter (·.key.adapter = j)
  events : ∃ events, t'.host.trace = events ++ t.host.trace ∧ ∀ e ∈ events, e.party? ≠ some j
  shared : ∃ adapters power, t'.device = { t.device with adapters, power }
  registry : t'.host.registry = t.host.registry
  memory : t'.host.bus.allocated = t.host.bus.allocated ∧ t'.host.bus.freed = t.host.bus.freed

theorem Local.undisturbed (spared : Local i t t₁) (other : j ≠ i) : Undisturbed j t t₁ where
  adapter := spared.adapters j other
  requests := by
    have within (queue : List Urb) :
        (ofOtherAdapters i queue).filter (·.key.adapter = j) =
          queue.filter (·.key.adapter = j) := by
      rw [ofOtherAdapters, List.filter_filter]
      refine List.filter_congr fun u _ => ?_
      by_cases own : u.key.adapter = j
      · simp [own, other]
      · simp [own]
    rw [← within, spared.queue, within]
  events := by
    obtain ⟨events, trace, own⟩ := spared.events
    exact ⟨events, trace, fun e there about => other (own e there j about)⟩
  shared := spared.shared
  registry := spared.registry
  memory := ⟨spared.allocated, spared.freed⟩

/-- Whatever is done with one adapter of a device, and whatever goes wrong in doing it, the others
do not notice. -/
theorem undisturbed_turn (h : Host) (product : Product) (config : Config)
    (unused : ∀ u ∈ h.bus.queue, u.key.stream ∉ streamIds)
    (ok : (Device.bringUp h product config).1 = .ok ()) (turns : List Turn) (x : Turn)
    (i j : Nat) (other : j ≠ i) :
    let t := (begin (Device.bringUp h product config)).run turns
    t.party? x = some i → Undisturbed j t (t.turn x) := by
  intro t about
  have settled := Device.settled_bringUp h product config fun _ => ofStream_nil_of_unused unused
  obtain ⟨r₀, sound₀⟩ := sound_begin settled ok
  obtain ⟨r, sound⟩ := sound_run sound₀ turns
  exact (local_turn sound about).undisturbed other

theorem undisturbed_turn_pair :
    let t := (begin (Device.bringUp pairHost ⟨"receiver", [], []⟩ {})).run
      [.wake 0 0, .startFeed 0 ⟨0x100, 0⟩, .wake 1 0, .startFeed 1 ⟨0x200, 0⟩]
    (∀ u ∈ pairHost.bus.queue, u.key.stream ∉ streamIds) ∧
      (Device.bringUp pairHost ⟨"receiver", [], []⟩ {}).1 = .ok () ∧ 1 ≠ 0 ∧
      t.party? (.sleep 0 0) = some 0 ∧ Undisturbed 1 t (t.turn (.sleep 0 0)) := by
  have unused : ∀ u ∈ pairHost.bus.queue, u.key.stream ∉ streamIds := by
    simp [pairHost, Session.benchHost, Bench.newBus]
  have ok : (Device.bringUp pairHost ⟨"receiver", [], []⟩ {}).1 = .ok () := by rfl
  exact ⟨unused, ok, by decide, rfl,
    undisturbed_turn pairHost _ _ unused ok _ (.sleep 0 0) 0 1 (by decide) rfl⟩

end DvbReceiver.Tenure

import DvbReceiver.Proofs.Device.Supply

set_option autoImplicit false

namespace DvbReceiver

def rousings : Hook → HookOutcome → Option (Bool × Nat × Nat)
  | .demodInit adapter slot, _ => some (true, adapter, slot)
  | .demodSleep adapter slot, _ => some (false, adapter, slot)
  | _, _ => none

/-- How many frontends keep the power on, going by what was asked of their demodulators, the latest
first. -/
def holdersAfter : List (Bool × Nat × Nat) → Nat
  | [] => 0
  | (true, _, _) :: earlier => holdersAfter earlier + 1
  | (false, _, _) :: earlier => holdersAfter earlier - 1

def awakeAfter : List (Bool × Nat × Nat) → Nat → Option Nat
  | [] => fun _ => none
  | (true, adapter, slot) :: earlier => Function.update (awakeAfter earlier) adapter (some slot)
  | (false, adapter, slot) :: earlier =>
    Function.update (awakeAfter earlier) adapter ((awakeAfter earlier adapter).filter (· != slot))

theorem Host.rousings_perform (h : Host) (hook : Hook)
    (other : ∀ outcome, rousings hook outcome = none) :
    (h.perform hook).2.log rousings = h.log rousings :=
  log_perform_unseen rousings h other

namespace Device

variable {h : Host} {d : Device} {i slot : Nat} {e : Failure}

theorem blind_rousings : Blind rousings where
  streaming _ _ _ := rfl
  control _ _ _ := rfl
  filter _ _ _ _ _ := rfl
  frontend _ _ _ _ := rfl

theorem rousings_powerUp (h : Host) (d : Device) :
    (powerUp h d).2.1.log rousings = h.log rousings := by
  have asked := h.rousings_perform (.power true) fun _ => rfl
  unfold powerUp
  split
  next => rfl
  next =>
    split
    next refused =>
      rw [refused] at asked
      exact asked
    next granted =>
      rw [granted] at asked
      exact asked

theorem rousings_powerDown (h : Host) (d : Device) :
    (powerDown h d).2.1.log rousings = h.log rousings := by
  unfold powerDown
  split
  next => rfl
  next => exact h.rousings_perform _ fun _ => rfl

theorem wake_rousings (h : Host) (d : Device) (i slot : Nat) :
    (∃ (e : Failure) (h' : Host), wake h d i slot = (.error e, h', d) ∧
        h'.log rousings = h.log rousings) ∨
      ∃ (a : Adapter) (h' : Host), d.adapters[i]? = some a ∧ h'.log rousings = h.log rousings ∧
        wake h d i slot = ((h'.perform (.demodInit i slot)).1, (h'.perform (.demodInit i slot)).2,
          d.roused i slot a) := by
  have lit := rousings_powerUp h d
  obtain ⟨e, h₁, refused, same⟩ | ⟨h₁, h₂, granted, quiet, outcome⟩ :=
    wake_cases blind_rousings h d i slot
  next =>
    rw [refused] at lit
    exact .inl ⟨e, h₁, same, lit⟩
  next =>
    rw [granted] at lit
    -- Giving the power back asks no demodulator either.
    obtain ⟨e, same⟩ | ⟨a, there, same⟩ := outcome
    next => exact .inl ⟨e, _, same, (rousings_powerDown h₂ _).trans (quiet.trans lit)⟩
    next => exact .inr ⟨a, h₂, there, quiet.trans lit, same⟩

theorem sleep_eq (h : Host) (d : Device) (i slot : Nat) :
    (sleep h d i slot).2.1.log rousings = (false, i, slot) :: h.log rousings ∧
      (sleep h d i slot).2.2.power = ⟨d.power.users - 1⟩ ∧
      (sleep h d i slot).2.2.active =
        Function.update d.active i ((d.active i).filter (· != slot)) := by
  have asked : (h.perform (.demodSleep i slot)).2.log rousings =
      (false, i, slot) :: h.log rousings := Host.log_perform rousings h _
  obtain ⟨h₁, d₁, same, quiet, power, active⟩ := sleep_cases blind_rousings h d i slot
  have dark := rousings_powerDown h₁ d₁
  obtain ⟨result, h₂, down, -⟩ := powerDown_supply h₁ d₁
  rw [down] at same dark
  rw [same]
  exact ⟨dark.trans (quiet.trans asked), by rw [power], active⟩

/-- Since `h₀`, who keeps the power on and which slots are awake has been settled by what the
demodulators were asked to do. -/
def Reckoned (h₀ h : Host) (d : Device) : Prop :=
  ∃ calls, h.log rousings = calls ++ h₀.log rousings ∧ d.power.users = holdersAfter calls ∧
    d.active = awakeAfter calls

namespace Reckoned

variable {h₀ : Host}

theorem viewed (h₀ : Host) : Viewed rousings (Reckoned h₀) := by
  rintro h h' d d' ⟨calls, before, users, awake⟩ log power active
  exact ⟨calls, log.trans before, by rw [power, users], active.trans awake⟩

theorem wake (reckoned : Reckoned h₀ h d) (i slot : Nat) :
    Reckoned h₀ (wake h d i slot).2.1 (wake h d i slot).2.2 := by
  obtain ⟨calls, before, users, awake⟩ := reckoned
  obtain ⟨e, h₁, same, quiet⟩ | ⟨a, h₁, there, quiet, same⟩ := wake_rousings h d i slot
  next =>
    rw [same]
    exact ⟨calls, quiet.trans before, users, awake⟩
  next =>
    rw [same]
    refine ⟨(true, i, slot) :: calls, ?_, congrArg (· + 1) users, ?_⟩
    · rw [Host.log_perform, quiet, before]
      rfl
    · rw [active_roused there, awake]
      rfl

theorem sleep (reckoned : Reckoned h₀ h d) (i slot : Nat) :
    Reckoned h₀ (sleep h d i slot).2.1 (sleep h d i slot).2.2 := by
  obtain ⟨calls, before, users, awake⟩ := reckoned
  obtain ⟨log, power, active⟩ := sleep_eq h d i slot
  refine ⟨(false, i, slot) :: calls, ?_, ?_, ?_⟩
  · rw [log, before]
    rfl
  · rw [power, users]
    rfl
  · rw [active, awake]
    rfl

end Reckoned

/-- The demodulator was asked in vain, and all is as if it had come up: its frontend is selected and
keeps the power on until it goes to sleep. -/
structure Owing (h : Host) (d : Device) (i slot : Nat) (e : Failure) (h' : Host) (d' : Device) :
    Prop where
  asked : h'.trace.head? = some (.called (.demodInit i slot) (.failed e))
  counted : h'.log rousings = (true, i, slot) :: h.log rousings
  roused : ∃ a, d.adapters[i]? = some a ∧ d' = d.roused i slot a
  repaid : (sleep h' d' i slot).2.2.power = d.power

theorem wake_error (failed : (wake h d i slot).1 = .error e) :
    ((wake h d i slot).2.1.log rousings = h.log rousings ∧ (wake h d i slot).2.2 = d) ∨
      Owing h d i slot e (wake h d i slot).2.1 (wake h d i slot).2.2 := by
  obtain ⟨e', h₁, same, quiet⟩ | ⟨a, h₁, there, quiet, same⟩ := wake_rousings h d i slot
  next =>
    rw [same]
    exact .inl ⟨quiet, rfl⟩
  next =>
    rw [same] at failed ⊢
    have answer : h₁.driver.answer h₁.calls (.demodInit i slot) = .failed e :=
      HookOutcome.eq_failed failed
    refine .inr ⟨?_, ?_, ⟨a, there, rfl⟩, (sleep_eq _ _ i slot).2.1⟩
    · show some (Event.called _ (h₁.driver.answer h₁.calls (.demodInit i slot))) = _
      rw [answer]
    · rw [Host.log_perform, quiet]
      rfl

end Device

namespace Session

open Device (Reckoned Owing)

variable {h₀ : Host} {size : Nat} {r : Nat → List UrbIdentity} {s : Session}

def Act.isWhole : Act → Bool
  | .part .. => false
  | _ => true

theorem reckoned_act (sound : Sound h₀ size r s) {h : Host} (reckoned : Reckoned h s.host s.device)
    (step : Act) (whole : step.isWhole = true) :
    Reckoned h (s.act step).host (s.act step).device := by
  cases step with
  | startFeed i feed =>
    exact (Reckoned.viewed h).startFeed Device.blind_rousings sound.live reckoned i feed
  | stopFeed i feed =>
    exact (Reckoned.viewed h).stopFeed Device.blind_rousings sound.live reckoned i feed
  | wake i slot =>
    simp only [act, onFrontend]
    split
    next => exact reckoned.wake i slot
    next => exact reckoned
  | sleep i slot =>
    simp only [act, onFrontend]
    split
    next => exact reckoned.sleep i slot
    next => exact reckoned
  | part => cases whole
  | complete position fill =>
    simp only [act]
    split
    next => exact reckoned
    next u there =>
      exact (Reckoned.viewed h).complete sound.live reckoned (removed_eraseIdx there) fill

theorem reckoned_acts (sound : Sound h₀ size r s) {h : Host} (reckoned : Reckoned h s.host s.device)
    (acts : List Act) (whole : acts.all Act.isWhole = true) :
    Reckoned h (s.run acts).host (s.run acts).device := by
  induction acts generalizing s with
  | nil => exact reckoned
  | cons step rest ih =>
    obtain ⟨first, later⟩ := Bool.and_eq_true_iff.1 whole
    exact ih (sound_act sound step) (reckoned_act sound reckoned step first) later

/-- Who keeps the power on and which slots are awake depends on what the demodulators were asked to
do, and not on whether they did it. So a frontend that fails to wake up has done nothing, or it owes
a sleep. -/
theorem reckoned_run (h : Host) (product : Product) (config : Config)
    (unused : ∀ u ∈ h.bus.queue, u.key.stream ∉ streamIds)
    (ok : (Device.bringUp h product config).1 = .ok ()) (acts : List Act) :
    let fresh := begin (Device.bringUp h product config)
    let s := fresh.run acts
    (acts.all Act.isWhole = true → Reckoned fresh.host s.host s.device) ∧
      ∀ i slot e, (s.device.wake s.host i slot).1 = .error e →
        ((s.device.wake s.host i slot).2.1.log rousings = s.host.log rousings ∧
          (s.device.wake s.host i slot).2.2 = s.device) ∨
        Owing s.host s.device i slot e (s.device.wake s.host i slot).2.1
          (s.device.wake s.host i slot).2.2 := by
  intro fresh s
  refine ⟨fun whole => ?_, fun i slot e failed => Device.wake_error failed⟩
  have quiet (n : Nat) : n ∈ streamIds → ofStream n h.bus.queue = [] :=
    ofStream_nil_of_unused unused
  have settled := Device.settled_bringUp h product config quiet
  obtain ⟨r, sound⟩ := sound_begin settled ok
  have users := Device.users_bringUp h product config quiet ok
  refine reckoned_acts sound ⟨[], rfl, users, ?_⟩ acts whole
  -- After bringing the device up nobody is awake.
  funext i
  refine Option.eq_none_iff_forall_not_mem.2 fun slot awake => ?_
  obtain ⟨-, -, -, unfed⟩ := settled.ok ok
  obtain ⟨a, there, active⟩ := Option.bind_eq_some_iff.1 awake
  rw [unfed a (List.mem_of_getElem? there)] at active
  cases active

def muteHost : Host :=
  { benchHost with driver := { benchHost.driver with
      answer := fun n hook =>
        Bench.Injection.inject [.demodInit] hook (benchHost.driver.answer n hook) } }

theorem reckoned_run_bench :
    let fresh := begin (Device.bringUp muteHost ⟨"receiver", [], []⟩ {})
    let s := fresh.run [.wake 0 0, .wake 0 1, .sleep 0 0]
    (∀ u ∈ muteHost.bus.queue, u.key.stream ∉ streamIds) ∧
      (Device.bringUp muteHost ⟨"receiver", [], []⟩ {}).1 = .ok () ∧
      Reckoned fresh.host s.host s.device ∧
      s.device.power.users = 1 ∧ s.device.active 0 = some 1 ∧
      (s.device.wake s.host 0 0).1 = .error (.device "injected demod_init") ∧
      ((s.device.wake s.host 0 0).2.1.log rousings = s.host.log rousings ∧
          (s.device.wake s.host 0 0).2.2 = s.device ∨
        Owing s.host s.device 0 0 (.device "injected demod_init") (s.device.wake s.host 0 0).2.1
          (s.device.wake s.host 0 0).2.2) := by
  have unused : ∀ u ∈ muteHost.bus.queue, u.key.stream ∉ streamIds := by
    simp [muteHost, benchHost, Bench.newBus]
  have ok : (Device.bringUp muteHost ⟨"receiver", [], []⟩ {}).1 = .ok () := by rfl
  have both := reckoned_run _ _ _ unused ok [.wake 0 0, .wake 0 1, .sleep 0 0]
  exact ⟨unused, ok, both.1 rfl, by decide +kernel, by decide +kernel, by rfl,
    both.2 0 0 _ (by rfl)⟩

/-- A frontend that has failed to wake up can keep the power on. -/
theorem owing_bench :
    let s := begin (Device.bringUp muteHost ⟨"receiver", [], []⟩ {})
    let result := s.device.wake s.host 0 0
    result.1 = .error (.device "injected demod_init") ∧
      (s.device.power.users, s.device.active 0) = (0, none) ∧
      (result.2.2.power.users, result.2.2.active 0) = (1, some 0) :=
  ⟨rfl, rfl, rfl⟩

end Session

end DvbReceiver

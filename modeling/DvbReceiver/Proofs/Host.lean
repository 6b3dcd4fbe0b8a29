import DvbReceiver.Proofs.Journal

set_option autoImplicit false

namespace DvbReceiver

theorem HookOutcome.eq_failed {outcome : HookOutcome} {e : Failure}
    (failed : outcome.toExcept = .error e) : outcome = .failed e := by
  cases outcome with
  | failed cause =>
    cases failed
    rfl
  | _ => cases failed

namespace Host

/-- From one host to the other nothing was registered and no demodulator attached or detached. -/
structure Calm (h h' : Host) : Prop where
  driver : h'.driver = h.driver
  registry : h'.registry = h.registry
  speed : h'.bus.speed = h.bus.speed
  policy : h'.bus.policy = h.bus.policy
  trace : ∃ events, h'.trace = events ++ h.trace ∧ events.filterMap Event.demodMark? = []

structure Steady (h h' : Host) : Prop extends Calm h h' where
  allocated : h'.bus.allocated = h.bus.allocated
  freed : h'.bus.freed = h.bus.freed

theorem Calm.refl (h : Host) : Calm h h where
  driver := rfl
  registry := rfl
  speed := rfl
  policy := rfl
  trace := ⟨[], rfl, rfl⟩

theorem Calm.trans {h₁ h₂ h₃ : Host} (first : Calm h₁ h₂) (second : Calm h₂ h₃) :
    Calm h₁ h₃ where
  driver := second.driver.trans first.driver
  registry := second.registry.trans first.registry
  speed := second.speed.trans first.speed
  policy := second.policy.trans first.policy
  trace := by
    obtain ⟨earlier, traceEarlier, quietEarlier⟩ := first.trace
    obtain ⟨later, traceLater, quietLater⟩ := second.trace
    refine ⟨later ++ earlier, by simp [traceLater, traceEarlier], ?_⟩
    simp [List.filterMap_append, quietLater, quietEarlier]

theorem Steady.refl (h : Host) : Steady h h :=
  { Calm.refl h with allocated := rfl, freed := rfl }

theorem Steady.trans {h₁ h₂ h₃ : Host} (first : Steady h₁ h₂) (second : Steady h₂ h₃) :
    Steady h₁ h₃ :=
  { first.toCalm.trans second.toCalm with
    allocated := second.allocated.trans first.allocated
    freed := second.freed.trans first.freed }

/-- Whoever held the buffers at `before` holds those at `after`: what was allocated meanwhile came on
top, and what was freed is gone. -/
structure Exchange (h h' : Host) (before after : List Nat) : Prop extends Calm h h' where
  memory : ∃ got given, h'.bus.allocated = got ++ h.bus.allocated ∧
    h'.bus.freed = given ++ h.bus.freed ∧ (got ++ before).Perm (given ++ after)

theorem Steady.exchange {h h' : Host} (steady : Steady h h') (held : List Nat) :
    Exchange h h' held held :=
  { steady.toCalm with
    memory := ⟨[], [], steady.allocated, steady.freed, List.Perm.refl _⟩ }

theorem Exchange.trans {h₁ h₂ h₃ : Host} {first second third : List Nat}
    (earlier : Exchange h₁ h₂ first second) (later : Exchange h₂ h₃ second third) :
    Exchange h₁ h₃ first third where
  toCalm := earlier.toCalm.trans later.toCalm
  memory := by
    obtain ⟨got, given, allocated, freed, balance⟩ := earlier.memory
    obtain ⟨got', given', allocated', freed', balance'⟩ := later.memory
    refine ⟨got' ++ got, given' ++ given, ?_, ?_, ?_⟩
    · rw [allocated', allocated, List.append_assoc]
    · rw [freed', freed, List.append_assoc]
    · calc got' ++ got ++ first
        _ = got' ++ (got ++ first) := List.append_assoc ..
        _ |>.Perm (got' ++ (given ++ second)) := balance.append_left got'
        _ |>.Perm (given ++ (got' ++ second)) := List.perm_append_comm_assoc ..
        _ |>.Perm (given ++ (given' ++ third)) := balance'.append_left given
        _ |>.Perm (given' ++ (given ++ third)) := List.perm_append_comm_assoc ..
        _ = given' ++ given ++ third := (List.append_assoc ..).symm

theorem steady_note (h : Host) {e : Event} (quiet : e.demodMark? = none) :
    Steady h (h.note e) :=
  { Steady.refl h with trace := ⟨[e], rfl, by simp [quiet]⟩ }

theorem noteAll_eq (h : Host) (events : List Event) :
    h.noteAll events = { h with trace := events.reverse ++ h.trace } := by
  induction events generalizing h with
  | nil => rfl
  | cons e rest ih =>
    have later := ih (h.note e)
    simpa [noteAll, note] using later

theorem steady_noteAll (h : Host) {events : List Event}
    (quiet : ∀ e ∈ events, e.demodMark? = none) : Steady h (h.noteAll events) := by
  rw [noteAll_eq]
  refine { Steady.refl h with trace := ⟨events.reverse, rfl, ?_⟩ }
  exact List.filterMap_eq_nil_iff.2 fun e present => quiet e (List.mem_reverse.1 present)

@[simp] theorem bus_note (h : Host) (e : Event) : (h.note e).bus = h.bus := rfl

@[simp] theorem bus_noteAll (h : Host) (events : List Event) : (h.noteAll events).bus = h.bus := by
  rw [noteAll_eq]

theorem steady_bus {h : Host} {bus : Bus} (speed : bus.speed = h.bus.speed)
    (policy : bus.policy = h.bus.policy) (allocated : bus.allocated = h.bus.allocated)
    (freed : bus.freed = h.bus.freed) : Steady h { h with bus } :=
  { Steady.refl h with speed, policy, allocated, freed }

theorem steady_call (h : Host) (hook : Hook) (other : hook.isDetach = false) :
    Steady h (h.call hook).2 := by
  have quiet : (Event.called hook (h.driver.answer h.calls hook)).demodMark? = none := by
    cases hook <;> first | rfl | simp [Hook.isDetach] at other
  exact { steady_note h quiet with driver := rfl }

theorem steady_perform (h : Host) (hook : Hook) (other : hook.isDetach = false) :
    Steady h (h.perform hook).2 :=
  steady_call h hook other

@[simp] theorem bus_call (h : Host) (hook : Hook) : (h.call hook).2.bus = h.bus := rfl

@[simp] theorem bus_perform (h : Host) (hook : Hook) : (h.perform hook).2.bus = h.bus := rfl

theorem queue_submit (h : Host) (u : Urb) :
    (h.submit u).2.bus.queue =
      if (h.submit u).1.isNone then h.bus.queue ++ [u] else h.bus.queue := by
  have moved := Bus.queue_submit h.bus u
  unfold submit
  split
  next taken =>
    rw [taken] at moved
    exact moved
  next refused =>
    rw [refused] at moved
    exact moved

theorem steady_submit (h : Host) (u : Urb) : Steady h (h.submit u).2 := by
  have moved : Steady h { h with bus := (h.bus.submit u).2 } := steady_bus rfl rfl rfl rfl
  unfold submit
  split
  next taken =>
    rw [taken] at moved
    exact moved.trans (steady_note _ rfl)
  next refused =>
    rw [refused] at moved
    exact moved.trans (steady_note _ rfl)

theorem steady_cancel (h : Host) (key : UrbKey) : Steady h (h.cancel key).2 := by
  unfold cancel Bus.cancel
  dsimp only
  split
  next => exact steady_bus rfl rfl rfl rfl
  next => exact steady_bus rfl rfl rfl rfl

theorem queue_cancel (h : Host) (key : UrbKey) :
    (h.cancel key).2.bus.queue = h.bus.queue.eraseP (·.key == key) :=
  Bus.queue_cancel h.bus key

theorem cancel_fst (h : Host) (key : UrbKey) :
    (h.cancel key).1 = (h.bus.queue.find? (·.key == key)).map
      (·.fill (h.bus.policy.cancelled (h.bus.cancellations + 1))) := by
  unfold cancel Bus.cancel
  dsimp only
  split
  next absent => simp [absent]
  next u queued => simp [queued]

theorem policy_submit (h : Host) (u : Urb) : (h.submit u).2.bus.policy = h.bus.policy := by
  unfold submit
  split
  next taken => exact (congrArg (·.2.policy) taken).symm
  next refused => exact (congrArg (·.2.policy) refused).symm

theorem policy_cancel (h : Host) (key : UrbKey) : (h.cancel key).2.bus.policy = h.bus.policy := by
  unfold cancel Bus.cancel
  dsimp only
  split <;> rfl

end Host

end DvbReceiver

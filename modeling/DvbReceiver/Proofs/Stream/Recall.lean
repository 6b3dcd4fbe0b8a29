import DvbReceiver.Proofs.Stream.Handover

set_option autoImplicit false

namespace DvbReceiver

namespace Traffic

variable {t : Traffic} {roster : List UrbIdentity}

def Blocked (t : Traffic) : Prop :=
  (∃ answer, t.admin = .waiting answer) ∧ t.flow.stream.parked.any Option.isNone = true

theorem Sound.not_blocked (sound : t.Sound roster) (landed : t.flight = []) : ¬ t.Blocked := by
  obtain ⟨f, admin, flight⟩ := t
  rintro ⟨⟨answer, waiting⟩, missing⟩
  cases waiting
  cases landed
  -- With nothing queued any more and nothing on its way, each request is where it belongs.
  have full := Custody.full sound.custody sound.phase.2
  obtain ⟨place, there, vacant⟩ := List.any_eq_true.1 missing
  have parked := List.all_eq_true.1 full place there
  cases place with
  | none => cases parked
  | some => cases vacant

theorem flight_administer (t : Traffic) : t.administer.flight = t.flight := by
  obtain ⟨f, admin, flight⟩ := t
  cases admin with
  | resting => rfl
  | taking index =>
    simp only [administer]
    split
    next => rfl
    next => split <;> rfl
  | handing =>
    simp only [administer]
    split <;> rfl
  | refused => rfl
  | raising => rfl
  | cancelling todo => cases todo <;> rfl
  | returning =>
    simp only [administer]
    split <;> rfl
  | waiting =>
    simp only [administer]
    split <;> rfl

theorem Sound.never_blocked (sound : t.Sound roster) (landed : t.flight = []) (count : Nat) :
    ¬ (t.run (List.replicate count .administer)).Blocked := by
  induction count generalizing t with
  | zero => exact sound.not_blocked landed
  | succ count ih => exact ih (sound_administer sound) ((flight_administer t).trans landed)

end Traffic

namespace Flow

variable {f : Flow} {roster : List UrbIdentity}

/-- A stream that was stopped, by what it is afterwards and can do then. -/
structure Recalled (f f' : Flow) : Prop where
  home : f'.stream.AtHome
  queue : f'.host.bus.queue = ofOthers f.stream.id f.host.bus.queue
  submitted : f'.stream.submitted = 0
  prepared : f'.stream.prepared = f.stream.prepared
  again : f'.stop = f'
  restart : f'.host.bus.Takes f'.stream.prepared →
    f'.start.1 = .ok () ∧ HandedOver f' f'.start.2

theorem Sound.recalled (sound : f.Sound roster) : Recalled f f.stop where
  home := (sound_stop sound).atHome rfl
  queue := by
    have gone := queue_stop sound.custody sound.size sound.idle
    have kept := kept_stop f
    rw [← kept.others, ofOthers_of_ofStream gone]
  submitted := rfl
  prepared := (kept_stop f).prepared
  again := stop_stop f
  restart := (sound_stop sound).start_takes rfl

end Flow

def Admin.isResting : Admin → Bool
  | .resting _ => true
  | _ => false

namespace Career

variable {c : Career} {roster : List UrbIdentity}

structure Settled (c : Career) : Prop where
  resting : ∃ answer, c.traffic.admin = .resting answer
  landed : c.traffic.flight = []

instance : DecidablePred Settled := fun c =>
  decidable_of_iff (c.traffic.admin.isResting = true ∧ c.traffic.flight.isEmpty = true) <| by
    obtain ⟨⟨f, admin, flight⟩, n⟩ := c
    constructor
    · rintro ⟨resting, landed⟩
      cases admin with
      | resting answer => exact ⟨⟨answer, rfl⟩, List.isEmpty_iff.1 landed⟩
      | _ => cases resting
    · rintro ⟨⟨answer, resting⟩, landed⟩
      cases resting
      exact ⟨rfl, List.isEmpty_iff.2 landed⟩

theorem Sound.settled (sound : c.Sound roster) (settled : c.Settled) :
    c.traffic.flow.Sound roster := by
  obtain ⟨⟨f, admin, flight⟩, n⟩ := c
  obtain ⟨⟨answer, resting⟩, landed⟩ := settled
  cases resting
  cases landed
  have phase : f.stream.submitted = 0 ∨
      f.stream.submitted = f.stream.prepared ∧ f.stream.stopping = false := sound.traffic.phase
  exact
    { custody := sound.traffic.custody
      size := sound.traffic.size
      lane := sound.lane
      layout := sound.layout
      submitted := phase.imp_right fun all => all.1
      idle := fun rest => (sound.traffic.idle rest).1
      lowered := fun running => (phase.resolve_left running).2 }

/-- Whatever has become of its requests, a stream that is stopped gets all of them back without
waiting, once and for all, and can be started again. -/
theorem recalled_run (host : Host) (stream : Nat) (sink : Option String) (turns : List Turn)
    (unused : ∀ u ∈ host.bus.queue, u.key.stream ≠ stream) :
    let career : Career := { traffic :=
      { flow := { host, stream := { id := stream, sink } }, admin := .resting (.ok ()) } }
    let c := career.run turns
    c.Settled →
      (Traffic.Alone .administer (c.traffic.move .stop)
          ⟨c.traffic.flow.stop, .resting (.ok ()), []⟩ ∧
        ∀ n, ¬ ((c.traffic.move .stop).run (List.replicate n .administer)).Blocked) ∧
      Flow.Recalled c.traffic.flow c.traffic.flow.stop := by
  intro career c settled
  have fresh := sound_resting (Flow.sound_fresh sink unused) (.ok ()) 0
  obtain ⟨roster, sound⟩ := sound_run fresh turns
  have whole : c.traffic.flow.Sound roster := Sound.settled sound settled
  obtain ⟨answer, resting⟩ := settled.resting
  have same : c.traffic = ⟨c.traffic.flow, .resting answer, []⟩ := by
    rw [← resting, ← settled.landed]
  refine ⟨⟨?_, fun n => ?_⟩, whole.recalled⟩
  · have alone := Traffic.alone_stop whole answer
    rwa [← same] at alone
  · have stopping := Traffic.sound_move sound.traffic .stop
    refine stopping.never_blocked ?_ n
    rw [same]
    rfl

theorem recalled_run_bulk :
    let career : Career := { traffic :=
      { flow := { host := stubbornHost 4, stream := { id := 1, sink := some "demux" } }
        admin := .resting (.ok ()) } }
    let moves : List Traffic.Move := .start :: List.replicate 7 .administer ++
      [.pop 0 (.result .ok 4), .advance 0, .advance 0, .advance 0,
        .pop 1 (.result .noDevice 0), .advance 0, .advance 0]
    let c := career.run (.prepare ⟨3, 0x81, .bulk 4⟩ :: moves.map .move)
    (∀ u ∈ (stubbornHost 4).bus.queue, u.key.stream ≠ 1) ∧ c.Settled ∧
      c.traffic.flow.stream.parked.map Option.isSome = [true, false, true] ∧
      c.traffic.flow.host.bus.queue.map (·.key) = [⟨1, 1⟩] ∧
      Flow.Recalled c.traffic.flow c.traffic.flow.stop := by
  have unused : ∀ u ∈ (stubbornHost 4).bus.queue, u.key.stream ≠ 1 := by
    simp [stubbornHost, Bench.bareHost, Bench.newBus]
  intro career moves c
  have settled : c.Settled := by decide +kernel
  exact ⟨unused, settled, by decide +kernel, by decide +kernel,
    (recalled_run (stubbornHost 4) 1 (some "demux") _ unused settled).2⟩

end Career

end DvbReceiver

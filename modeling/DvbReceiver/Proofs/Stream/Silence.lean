import DvbReceiver.Proofs.Stream.Halting

set_option autoImplicit false

namespace DvbReceiver

def Event.isSubmission (stream : Nat) : Event → Bool
  | .submitted u | .refused u => u.key.stream == stream
  | _ => false

def submissions (stream : Nat) (h : Host) : List Event :=
  h.trace.filter (·.isSubmission stream)

theorem submissions_submit {stream : Nat} (h : Host) {u : Urb} (foreign : u.key.stream ≠ stream) :
    submissions stream (h.submit u).2 = submissions stream h := by
  unfold Host.submit
  split <;> rename_i submitted <;>
    simp [submissions, Host.note, Event.isSubmission, foreign]

namespace Flow

theorem submissions_deliver (f : Flow) (u : Urb) (stream : Nat) :
    submissions stream (f.deliver u).host = submissions stream f.host := by
  have none : ∀ e ∈ (u.slices.map (Event.delivered f.stream.id)).reverse,
      ¬ e.isSubmission stream = true := by
    simp [Event.isSubmission]
  simp only [deliver, passOn, Host.noteAll_eq, submissions, List.filter_append]
  rw [List.filter_eq_nil_iff.2 none, List.nil_append]

theorem submissions_advance (f : Flow) (back : Return) (stopping : f.stream.stopping = true)
    (stream : Nat) : submissions stream (f.advance back).2.host = submissions stream f.host := by
  cases back with
  | taken u =>
    have noted : submissions stream (f.host.note (.returned u)) = submissions stream f.host := by
      simp [submissions, Host.note, Event.isSubmission]
    simp only [advance]
    split
    next => exact noted
    next =>
      split
      next => exact noted
      next => exact (submissions_deliver _ u stream).trans noted
  | delivered u =>
    obtain ⟨-, same⟩ | ⟨lowered, -⟩ | ⟨lowered, -⟩ := requeue_cases f u.settled
    next => simp [advance, same]
    next => simp [stopping] at lowered
    next => simp [stopping] at lowered
  | leaving u => rfl

end Flow

namespace Traffic

variable {t t' : Traffic} {roster : List UrbIdentity}

/-- From one state to the other the flag stays raised: the stream hands nothing to the bus, and once
it is at rest it brings nothing. -/
structure Silent (t t' : Traffic) : Prop where
  id : t'.flow.stream.id = t.flow.stream.id
  lane : t'.flow.stream.lane.isSome = t.flow.stream.lane.isSome
  barred : t'.flow.stream.Barred
  submissions : submissions t.flow.stream.id t'.flow.host = submissions t.flow.stream.id t.flow.host
  rest : t.flow.stream.submitted = 0 → t'.flow.stream.submitted = 0
  slices : t.flow.stream.submitted = 0 → t'.flow.slices = t.flow.slices

theorem Silent.refl (barred : t.flow.stream.Barred) : Silent t t :=
  ⟨rfl, rfl, barred, rfl, fun rest => rest, fun _ => rfl⟩

theorem Silent.trans {t₁ t₂ t₃ : Traffic} (first : Silent t₁ t₂) (second : Silent t₂ t₃) :
    Silent t₁ t₃ where
  id := second.id.trans first.id
  lane := second.lane.trans first.lane
  barred := second.barred
  submissions := by
    have later := second.submissions
    rw [first.id] at later
    exact later.trans first.submissions
  rest before := second.rest (first.rest before)
  slices before := (second.slices (first.rest before)).trans (first.slices before)

theorem silent_advance {back : Return} {admin : Admin} {flight : List Return}
    (barred : t.flow.stream.Barred) (prepared : t.flow.stream.lane.isSome = true)
    (own : back.urb.key.stream = t.flow.stream.id) (running : t.flow.stream.submitted ≠ 0) :
    Silent t ⟨(t.flow.advance back).2, admin, flight⟩ := by
  have returned := Flow.returned_advance t.flow own
  exact
    { id := returned.id
      lane := returned.lane
      barred := returned.barred barred
      submissions := Flow.submissions_advance t.flow back (barred.trans prepared) _
      rest := fun rest => absurd rest running
      slices := fun rest => absurd rest running }

theorem silent_administer (sound : t.Sound roster) (barred : t.flow.stream.Barred) :
    Silent t t.administer := by
  obtain ⟨f, admin, flight⟩ := t
  cases admin with
  | resting => exact Silent.refl barred
  -- While requests are handed over the flag is down.
  | taking => exact absurd barred sound.phase.1
  | handing => exact absurd barred sound.phase.1
  | refused => exact absurd barred sound.phase
  | raising answer =>
    have kept := Flow.kept_setStopping f true
    exact ⟨kept.id, kept.lane, f.stream.barred_setStopping, rfl, fun rest => rest, fun _ => rfl⟩
  | cancelling todo answer =>
    cases todo with
    | nil => exact ⟨rfl, rfl, barred, rfl, fun rest => rest, fun _ => rfl⟩
    | cons index todo => exact ⟨rfl, rfl, barred, rfl, fun rest => rest, fun _ => rfl⟩
  | returning back todo answer =>
    have custody : f.Custody roster (back.urb :: flight.map Return.urb) := sound.custody
    have moved : Silent ⟨f, .returning back todo answer, flight⟩
        ⟨(f.advance back).2, (administer ⟨f, .returning back todo answer, flight⟩).admin, flight⟩ :=
      silent_advance barred custody.prepared custody.key_hand.1 sound.phase.2.1
    simp only [administer] at moved ⊢
    cases step : f.advance back with
    | mk next flow =>
      rw [step] at moved
      cases next with
      | none => exact moved
      | some => exact moved
  | waiting answer =>
    simp only [administer]
    split
    next => exact ⟨rfl, rfl, barred, rfl, fun _ => rfl, fun _ => rfl⟩
    next => exact Silent.refl barred

theorem silent_move (sound : t.Sound roster) (barred : t.flow.stream.Barred) {m : Move}
    (other : m ≠ .start) : Silent t (t.move m) := by
  cases m with
  | start => exact absurd rfl other
  | stop =>
    obtain ⟨f, admin, flight⟩ := t
    -- Whoever is at work already does not heed it.
    cases admin with
    | resting => exact ⟨rfl, rfl, barred, rfl, fun rest => rest, fun _ => rfl⟩
    | _ => exact Silent.refl barred
  | administer => exact silent_administer sound barred
  | expire =>
    obtain ⟨f, admin, flight⟩ := t
    cases admin with
    | waiting => exact ⟨rfl, rfl, barred, rfl, fun rest => rest, fun _ => rfl⟩
    | _ => exact Silent.refl barred
  | pop position fill =>
    simp only [move]
    split
    next => exact Silent.refl barred
    next =>
      split
      next => exact ⟨rfl, rfl, barred, rfl, fun rest => rest, fun _ => rfl⟩
      next => exact ⟨rfl, rfl, barred, rfl, fun rest => rest, fun _ => rfl⟩
  | advance which =>
    simp only [move]
    split
    next => exact Silent.refl barred
    next back there =>
      have custody := sound.custody_flight there
      exact silent_advance barred custody.prepared custody.key_hand.1 (sound.running there)
  | foreign u =>
    simp only [move]
    split
    next => exact Silent.refl barred
    next foreign =>
      exact ⟨rfl, rfl, barred, submissions_submit _ foreign, fun rest => rest, fun _ => rfl⟩

theorem silent_run (sound : t.Sound roster) (barred : t.flow.stream.Barred) (moves : List Move)
    (others : .start ∉ moves) : Silent t (t.run moves) := by
  induction moves generalizing t with
  | nil => exact Silent.refl barred
  | cons m rest ih =>
    have other : m ≠ .start := fun here => others (by simp [here])
    have later : .start ∉ rest := fun there => others (List.mem_cons_of_mem m there)
    have first := silent_move sound barred other
    exact first.trans (ih (sound_move sound m) first.barred later)

structure Gated (t : Traffic) : Prop where
  once : ∀ i < t.flow.stream.prepared,
    (t.hand ++ (t.flow.host.bus.queue ++ t.flow.stream.parked.filterMap id)).countP
      (·.key == ⟨t.flow.stream.id, i⟩) = 1
  raised : ∀ answer, t.admin = .raising answer → t.flow.stream.lane.isSome = true →
    (t.move .administer).flow.stream.stopping = true
  /-- From when the flag is raised until the next start nothing is queued again. -/
  shut : t.flow.stream.stopping = true → ∀ later, .start ∉ later →
    (t.run later).flow.stream.stopping = true ∧
      submissions t.flow.stream.id (t.run later).flow.host =
        submissions t.flow.stream.id t.flow.host
  /-- Once each request has been cancelled, those that are not parked are on their way already. -/
  cancelled : ∀ answer, t.admin = .waiting answer →
    (∀ u ∈ t.flow.host.bus.queue, u.key.stream ≠ t.flow.stream.id) ∧
    ∀ i < t.flow.stream.prepared,
      (∃ u, t.flow.stream.parked[i]? = some (some u) ∧ u.key = ⟨t.flow.stream.id, i⟩ ∧
        (t.flight.map Return.urb).countP (·.key == ⟨t.flow.stream.id, i⟩) = 0) ∨
      (t.flow.stream.parked[i]? = some none ∧
        (t.flight.map Return.urb).countP (·.key == ⟨t.flow.stream.id, i⟩) = 1)
  ending : ∀ answer, t.admin = .waiting answer →
    ∃ n, (t.run (List.replicate n (.advance 0) ++ [.administer])).admin = .resting answer
  ended : ∀ answer, t.admin = .waiting answer →
    (t.move .administer).admin = .resting answer → ∀ later, .start ∉ later →
      (∀ u ∈ ((t.move .administer).run later).flow.host.bus.queue,
        u.key.stream ≠ t.flow.stream.id) ∧
      ((t.move .administer).run later).flight = [] ∧
      ((t.move .administer).run later).flow.slices = t.flow.slices

theorem barred_of_stopping {s : Stream} (raised : s.stopping = true) : s.Barred := by
  unfold Stream.Barred
  unfold Stream.stopping at raised ⊢
  cases lane : s.lane with
  | none => simp [lane] at raised
  | some => simpa [lane] using raised

theorem alone_flight (f : Flow) (admin : Admin) (flight : List Return) :
    Alone (.advance 0) ⟨f, admin, flight⟩ ⟨flight.foldl Flow.finish f, admin, []⟩ := by
  induction flight generalizing f with
  | nil => exact Alone.refl _
  | cons back rest ih => exact (alone_advance f back admin rest).trans (ih (f.finish back))

section Waiting

variable {f : Flow} {flight : List Return} {answer : Except Failure Unit}

theorem Sound.place_waiting (sound : Sound ⟨f, .waiting answer, flight⟩ roster) {i : Nat}
    (within : i < f.stream.prepared) :
    (∃ u, f.stream.parked[i]? = some (some u) ∧ u.key = ⟨f.stream.id, i⟩ ∧
      (flight.map Return.urb).countP (·.key == ⟨f.stream.id, i⟩) = 0) ∨
    (f.stream.parked[i]? = some none ∧
      (flight.map Return.urb).countP (·.key == ⟨f.stream.id, i⟩) = 1) := by
  have custody : f.Custody roster (flight.map Return.urb) := sound.custody
  have gone : f.host.bus.queue.countP (·.key == ⟨f.stream.id, i⟩) = 0 := by
    rw [← countP_ofStream, show ofStream f.stream.id f.host.bus.queue = [] from sound.phase.2]
    rfl
  have place := custody.place (lt_of_lt_of_eq within sound.size.symm)
  rwa [List.countP_append, gone, Nat.add_zero] at place

theorem administer_waiting (full : f.stream.parked.all Option.isSome = true) :
    administer ⟨f, .waiting answer, flight⟩ =
      ⟨{ f with stream := { f.stream with submitted := 0 } }, .resting answer, flight⟩ :=
  if_pos full

theorem Sound.ending (sound : Sound ⟨f, .waiting answer, flight⟩ roster) :
    ∃ n, (run ⟨f, .waiting answer, flight⟩
      (List.replicate n (.advance 0) ++ [.administer])).admin = .resting answer := by
  obtain ⟨n, arrived⟩ := alone_flight f (.waiting answer) flight
  -- Once all have arrived none is in hand or queued, and so all are parked.
  have after := sound_run sound (List.replicate n (.advance 0))
  rw [arrived] at after
  refine ⟨n, ?_⟩
  rw [run_append, arrived]
  exact congrArg Traffic.admin (administer_waiting (after.custody.full after.phase.2))

theorem Sound.ended (sound : Sound ⟨f, .waiting answer, flight⟩ roster)
    (returned : (administer ⟨f, .waiting answer, flight⟩).admin = .resting answer)
    (later : List Move) (others : .start ∉ later) :
    (∀ u ∈ ((administer ⟨f, .waiting answer, flight⟩).run later).flow.host.bus.queue,
      u.key.stream ≠ f.stream.id) ∧
    ((administer ⟨f, .waiting answer, flight⟩).run later).flight = [] ∧
    ((administer ⟨f, .waiting answer, flight⟩).run later).flow.slices = f.slices := by
  -- The wait ends only when all requests are parked.
  have full : f.stream.parked.all Option.isSome = true := by
    by_cases full : f.stream.parked.all Option.isSome = true
    · exact full
    · have blocked : (administer ⟨f, .waiting answer, flight⟩).admin = .waiting answer :=
        congrArg Traffic.admin (if_neg full)
      rw [blocked] at returned
      cases returned
  have barred : f.stream.Barred := sound.phase.1
  have resting := sound_administer sound
  rw [administer_waiting full] at resting ⊢
  have silent := silent_run resting barred later others
  have rest := (sound_run resting later).idle (silent.rest rfl)
  refine ⟨?_, rest.2, silent.slices rfl⟩
  have gone := ofStream_eq_nil_iff.1 rest.1
  rwa [silent.id] at gone

end Waiting

theorem Sound.gated (sound : t.Sound roster) : t.Gated where
  once i within := sound.custody.once (by rwa [sound.size])
  raised answer raising prepared := by
    obtain ⟨f, admin, flight⟩ := t
    cases raising
    exact (Stream.stopping_setStopping f.stream true).trans prepared
  shut raised later others := by
    have silent := silent_run sound (barred_of_stopping raised) later others
    refine ⟨?_, silent.submissions⟩
    have flag : (t.run later).flow.stream.stopping = _ := silent.barred
    rw [flag, silent.lane, ← barred_of_stopping raised, raised]
  cancelled answer waiting := by
    obtain ⟨f, admin, flight⟩ := t
    cases waiting
    exact ⟨ofStream_eq_nil_iff.1 sound.phase.2, fun _ within => sound.place_waiting within⟩
  ending answer waiting := by
    obtain ⟨f, admin, flight⟩ := t
    cases waiting
    exact sound.ending
  ended answer waiting returned := by
    obtain ⟨f, admin, flight⟩ := t
    cases waiting
    exact sound.ended returned

/-- However the steps of starting and stopping a stream alternate with those of its requests. -/
theorem gated_run (host : Host) (stream : Nat) (sink : Option String) (acts : List Flow.Act)
    (answer : Except Failure Unit) (moves : List Move)
    (unused : ∀ u ∈ host.bus.queue, u.key.stream ≠ stream) :
    Gated (run ⟨Flow.run { host, stream := { id := stream, sink } } acts, .resting answer, []⟩
      moves) := by
  obtain ⟨roster, sound⟩ := Flow.sound_run (Flow.sound_fresh sink unused) acts
  exact (sound_run (sound_resting sound answer) moves).gated

theorem gated_run_bulk :
    (∀ u ∈ (Bench.bareHost (Bench.newBus .high)).bus.queue, u.key.stream ≠ 1) ∧
      Gated (run
        ⟨Flow.run
          { host := Bench.bareHost (Bench.newBus .high), stream := { id := 1, sink := some "demux" } }
          [.prepare ⟨1, 0x81, .bulk 4⟩], .resting (.ok ()), []⟩
        [.start, .administer, .administer, .administer, .stop, .pop 0 (.result .ok 4), .advance 0,
          .administer, .administer, .administer, .administer]) := by
  have unused : ∀ u ∈ (Bench.bareHost (Bench.newBus .high)).bus.queue, u.key.stream ≠ 1 := by
    simp [Bench.bareHost, Bench.newBus]
  exact ⟨unused, gated_run _ 1 _ _ _ _ unused⟩

end Traffic

end DvbReceiver

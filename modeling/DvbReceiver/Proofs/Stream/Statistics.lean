import DvbReceiver.Proofs.Stream.Accounting

set_option autoImplicit false

namespace DvbReceiver

open Traffic (alone_advance alone_start alone_stop)

theorem Stream.setStopping_of_barred {s : Stream} (barred : s.Barred) : s.setStopping true = s := by
  obtain ⟨id, sink, layout, lane, prepared, submitted, pool, stats⟩ := s
  cases lane with
  | none => rfl
  | some lane =>
    have raised : lane.stopping = true := barred
    simp [setStopping, ← raised]

namespace Flow

variable {f : Flow} {roster : List UrbIdentity}

theorem barred_stop (f : Flow) : f.stop.stream.Barred := by
  have raised := f.stream.barred_setStopping
  unfold stop
  dsimp only
  split
  next => exact (returned_cancelFrom _ 0 { f with stream := f.stream.setStopping true }).barred raised
  next => exact raised

theorem stop_of_rest (rest : f.stream.submitted = 0) :
    f.stop = { f with stream := f.stream.setStopping true } := by
  obtain ⟨host, stream, slices⟩ := f
  obtain ⟨id, sink, layout, lane, prepared, submitted, pool, stats⟩ := stream
  cases rest
  rfl

theorem booked_released (rest : f.stream.submitted = 0) : Booked f f.release [] 0 := by
  have stopped : Booked f f.stop [] 0 := by
    rw [stop_of_rest rest]
    exact booked_still rfl rfl rfl rfl
  exact stopped.trans (booked_free f)

theorem stop_stop (f : Flow) : f.stop.stop = f.stop := by
  rw [stop_of_rest (submitted_stop f), Stream.setStopping_of_barred (barred_stop f)]

theorem release_stop (f : Flow) : f.stop.release = f.release := by
  unfold release
  rw [stop_stop]

end Flow

namespace Traffic

variable {t : Traffic} {roster : List UrbIdentity}

structure Fitted (s s' : Stream) : Prop where
  prepared : s'.prepared = s.prepared
  lane : s'.lane.isSome = s.lane.isSome
  layout : s'.layout = s.layout

theorem Fitted.of_kept {f f' : Flow} (kept : Flow.Kept f f') : Fitted f.stream f'.stream :=
  ⟨kept.prepared, kept.lane, kept.layout⟩

theorem fitted_administer (sound : t.Sound roster) :
    Fitted t.flow.stream t.administer.flow.stream := by
  obtain ⟨f, admin, flight⟩ := t
  have same : Fitted f.stream f.stream := ⟨rfl, rfl, rfl⟩
  cases admin with
  | resting => exact same
  | taking index =>
    simp only [administer]
    split
    next => exact same
    next =>
      split
      next => exact same
      next taken => exact .of_kept (Flow.kept_takeParked taken).1
  | handing index u =>
    simp only [administer]
    split <;> exact ⟨rfl, rfl, rfl⟩
  | refused index u reason => exact .of_kept (Flow.returned_park f u).toKept
  | raising answer => exact .of_kept (Flow.kept_setStopping f true)
  | cancelling todo answer => cases todo <;> exact same
  | returning back todo answer =>
    have custody : f.Custody roster (back.urb :: flight.map Return.urb) := sound.custody
    have returned := (Flow.returned_advance f custody.key_hand.1).toKept
    simp only [administer]
    split
    next step =>
      rw [step] at returned
      exact .of_kept returned
    next step =>
      rw [step] at returned
      exact .of_kept returned
  | waiting answer =>
    simp only [administer]
    split <;> exact ⟨rfl, rfl, rfl⟩

theorem fitted_move (sound : t.Sound roster) (m : Move) :
    Fitted t.flow.stream (t.move m).flow.stream := by
  have same : Fitted t.flow.stream t.flow.stream := ⟨rfl, rfl, rfl⟩
  cases m with
  | start =>
    simp only [move]
    split
    next =>
      split
      next => exact same
      next =>
        split
        next => exact same
        next => exact .of_kept (Flow.kept_setStopping t.flow false)
    next => exact same
  | stop =>
    simp only [move]
    split <;> exact same
  | administer => exact fitted_administer sound
  | expire =>
    simp only [move]
    split <;> exact same
  | pop position fill =>
    simp only [move]
    split
    next => exact same
    next => split <;> exact same
  | advance which =>
    simp only [move]
    split
    next => exact same
    next back there =>
      exact .of_kept (Flow.returned_advance t.flow (sound.custody_flight there).key_hand.1).toKept
  | foreign u =>
    simp only [move]
    split <;> exact same

end Traffic

/-- A stream that is prepared and released any number of times, with the number of its requests that
came back of themselves and that the bus would not take again. -/
structure Career where
  traffic : Traffic
  refused : Nat := 0

namespace Career

inductive Turn where
  | move (m : Traffic.Move)
  | prepare (layout : Layout)
  | release

def turn (c : Career) : Turn → Career
  | .move m =>
    let traffic := c.traffic.move m
    let stream := c.traffic.flow.stream.id
    let newly := refusals stream traffic.flow.host.trace - refusals stream c.traffic.flow.host.trace
    { traffic, refused := c.refused + if m.isAdvance then newly else 0 }
  | .prepare layout =>
    match c.traffic.admin with
    | .resting _ =>
      let (answer, flow) := c.traffic.flow.prepare layout
      { c with traffic := { c.traffic with flow, admin := .resting answer } }
    | _ => c
  | .release =>
    match c.traffic.admin with
    | .resting _ =>
      if c.traffic.flow.stream.isRunning then c
      else { c with traffic := { c.traffic with flow := c.traffic.flow.release } }
    | _ => c

def run (c : Career) (turns : List Turn) : Career :=
  turns.foldl turn c

structure Sound (c : Career) (roster : List UrbIdentity) : Prop where
  traffic : c.traffic.Sound roster
  lane : c.traffic.flow.stream.lane.isSome = decide (0 < c.traffic.flow.stream.prepared)
  layout : c.traffic.flow.stream.layout.map (·.count) =
    if c.traffic.flow.stream.prepared = 0 then none else some c.traffic.flow.stream.prepared

variable {c c' : Career} {roster : List UrbIdentity} {f : Flow} {flight : List Return}
  {answer : Except Failure Unit} {n : Nat}

theorem sound_resting (sound : f.Sound roster) (answer : Except Failure Unit) (n : Nat) :
    Sound ⟨⟨f, .resting answer, []⟩, n⟩ roster :=
  ⟨Traffic.sound_resting sound answer, sound.lane, sound.layout⟩

theorem Sound.rest (sound : Sound ⟨⟨f, .resting answer, flight⟩, n⟩ roster)
    (rest : f.stream.submitted = 0) : f.Sound roster ∧ flight = [] := by
  obtain ⟨gone, landed⟩ := sound.traffic.idle rest
  have landed : flight = [] := landed
  subst landed
  refine ⟨?_, rfl⟩
  exact
    { custody := sound.traffic.custody
      size := sound.traffic.size
      lane := sound.lane
      layout := sound.layout
      submitted := .inl rest
      idle := fun _ => gone
      lowered := fun running => absurd rest running }

theorem sound_move (sound : c.Sound roster) (m : Traffic.Move) :
    (c.turn (.move m)).Sound roster := by
  have fitted := Traffic.fitted_move sound.traffic m
  constructor
  next => exact Traffic.sound_move sound.traffic m
  next => exact (fitted.lane.trans sound.lane).trans (by rw [← fitted.prepared]; rfl)
  next =>
    have layout := sound.layout
    rw [← fitted.layout, ← fitted.prepared] at layout
    exact layout

theorem sound_prepare (sound : c.Sound roster) (layout : Layout) :
    ∃ roster', (c.turn (.prepare layout)).Sound roster' := by
  obtain ⟨⟨f, admin, flight⟩, n⟩ := c
  cases admin with
  | resting answer =>
    by_cases prepared : 0 < f.stream.prepared
    · have same : f.prepare layout = (.error .streamPrepared, f) := if_pos prepared
      refine ⟨roster, ?_⟩
      simp only [turn, same]
      obtain ⟨traffic, lane, fits⟩ := sound
      exact ⟨⟨traffic.custody, traffic.size, traffic.idle, traffic.phase⟩, lane, fits⟩
    · have bare : f.stream.prepared = 0 := by omega
      have rest : f.stream.submitted = 0 :=
        sound.traffic.phase.elim (fun rest => rest) fun all => all.1.trans bare
      obtain ⟨whole, landed⟩ := sound.rest rest
      obtain ⟨roster', provided⟩ := Flow.provided_prepare whole layout
      subst landed
      exact ⟨roster', sound_resting provided.sound (f.prepare layout).1 n⟩
  | _ => exact ⟨roster, sound⟩

theorem sound_release (sound : c.Sound roster) : ∃ roster', (c.turn .release).Sound roster' := by
  obtain ⟨⟨f, admin, flight⟩, n⟩ := c
  cases admin with
  | resting answer =>
    simp only [turn]
    split
    next => exact ⟨roster, sound⟩
    next halted =>
      have rest : f.stream.submitted = 0 := by simpa [Stream.isRunning_iff] using halted
      obtain ⟨whole, landed⟩ := sound.rest rest
      subst landed
      exact ⟨[], sound_resting (Flow.step_release whole).sound answer n⟩
  | _ => exact ⟨roster, sound⟩

theorem sound_turn (sound : c.Sound roster) (t : Turn) : ∃ roster', (c.turn t).Sound roster' := by
  cases t with
  | move m => exact ⟨roster, sound_move sound m⟩
  | prepare layout => exact sound_prepare sound layout
  | release => exact sound_release sound

open DvbReceiver.Flow (Booked booked_still)

theorem booked_turn (sound : c.Sound roster) (t : Turn) :
    ∃ events refused, Booked c.traffic.flow (c.turn t).traffic.flow events refused ∧
      (c.turn t).refused = c.refused + refused := by
  cases t with
  | move m =>
    obtain ⟨events, booked⟩ := Traffic.booked_move sound.traffic m
    refine ⟨events, _, booked, ?_⟩
    simp only [turn, booked.trace, refusals_append, Nat.add_sub_cancel]
  | prepare layout =>
    obtain ⟨⟨f, admin, flight⟩, n⟩ := c
    cases admin with
    | resting => exact ⟨[], 0, f.booked_prepare layout, rfl⟩
    | _ => exact ⟨[], 0, booked_still rfl rfl rfl rfl, rfl⟩
  | release =>
    obtain ⟨⟨f, admin, flight⟩, n⟩ := c
    cases admin with
    | resting answer =>
      simp only [turn]
      split
      next => exact ⟨[], 0, booked_still rfl rfl rfl rfl, rfl⟩
      next halted =>
        have rest : f.stream.submitted = 0 := by simpa [Stream.isRunning_iff] using halted
        exact ⟨[], 0, Flow.booked_released rest, rfl⟩
    | _ => exact ⟨[], 0, booked_still rfl rfl rfl rfl, rfl⟩

theorem booked_run (sound : c.Sound roster) (turns : List Turn) :
    ∃ events refused, Booked c.traffic.flow (c.run turns).traffic.flow events refused ∧
      (c.run turns).refused = c.refused + refused := by
  induction turns generalizing c roster with
  | nil => exact ⟨[], 0, booked_still rfl rfl rfl rfl, rfl⟩
  | cons t rest ih =>
    obtain ⟨earlier, n, first, count⟩ := booked_turn sound t
    obtain ⟨roster', between⟩ := sound_turn sound t
    obtain ⟨later, m, second, total⟩ := ih between
    refine ⟨later ++ earlier, n + m, first.trans second, ?_⟩
    rw [← Nat.add_assoc, ← count]
    exact total

theorem traffic_run_moves (c : Career) (moves : List Traffic.Move) :
    (c.run (moves.map .move)).traffic = c.traffic.run moves := by
  induction moves generalizing c with
  | nil => rfl
  | cons m rest ih => exact ih (c.turn (.move m))

theorem run_append (c : Career) (first second : List Turn) :
    c.run (first ++ second) = (c.run first).run second :=
  List.foldl_append ..

/-- By some turns from a stream at rest to another one. -/
def Reaches (c : Career) (f : Flow) : Prop :=
  ∃ turns answer, (c.run turns).traffic = ⟨f, .resting answer, []⟩

theorem reaches_alone {m who : Traffic.Move} {f' : Flow}
    (alone : Traffic.Alone who (c.traffic.move m) ⟨f', .resting answer, []⟩) : c.Reaches f' := by
  obtain ⟨count, reached⟩ := alone
  refine ⟨(m :: List.replicate count who).map .move, answer, ?_⟩
  rw [traffic_run_moves]
  exact reached

theorem Reaches.release {f' : Flow} (stopped : c.Reaches f'.stop) : c.Reaches f'.release := by
  obtain ⟨turns, answer, reached⟩ := stopped
  have halted : ¬ f'.stop.stream.isRunning = true := by
    simp [Stream.isRunning_iff, Flow.submitted_stop]
  refine ⟨turns ++ [.release], answer, ?_⟩
  rw [run_append]
  simp only [run, List.foldl_cons, List.foldl_nil, turn]
  simp only [run] at reached
  simp [reached, halted, Flow.release_stop]

theorem reaches_act (sound : f.Sound roster) (resting : c.traffic = ⟨f, .resting answer, []⟩)
    (step : Flow.Act) : c.Reaches (f.act step) := by
  obtain ⟨traffic, n⟩ := c
  cases resting
  have stopped : Reaches ⟨⟨f, .resting answer, []⟩, n⟩ f.stop :=
    reaches_alone (alone_stop sound answer)
  cases step with
  | prepare layout => exact ⟨[.prepare layout], (f.prepare layout).1, rfl⟩
  | start => exact reaches_alone (alone_start sound answer)
  | stop => exact stopped
  | release => exact stopped.release
  | complete position fill =>
    simp only [Flow.act]
    split
    next => exact ⟨[], answer, rfl⟩
    next u there =>
      split
      next own =>
        let queue := f.host.bus.queue.eraseIdx position
        let f₁ : Flow := { f with host := { f.host with bus := { f.host.bus with queue } } }
        -- What `complete` does at one go: a request is taken off the bus and arrives undisturbed.
        have popped : Traffic.move ⟨f, .resting answer, []⟩ (.pop position fill) =
            ⟨f₁, .resting answer, [.taken (u.fill fill)]⟩ := by
          simp [Traffic.move, there, own, f₁, queue]
        have arrived := alone_advance f₁ (.taken (u.fill fill)) (.resting answer) []
        rw [← popped] at arrived
        exact reaches_alone arrived
      next foreign =>
        refine ⟨[.move (.pop position fill)], answer, ?_⟩
        simp [run, turn, Traffic.move, there, foreign]
  | foreign u =>
    refine ⟨[.move (.foreign u)], answer, ?_⟩
    simp only [run, List.foldl_cons, List.foldl_nil, turn, Traffic.move, Flow.act]
    split
    next => rfl
    next => rfl

theorem reaches_run (sound : f.Sound roster) (resting : c.traffic = ⟨f, .resting answer, []⟩)
    (acts : List Flow.Act) : c.Reaches (f.run acts) := by
  induction acts generalizing c f roster answer with
  | nil => exact ⟨[], answer, resting⟩
  | cons step rest ih =>
    obtain ⟨turns, answer', first⟩ := reaches_act sound resting step
    obtain ⟨roster', between⟩ := Flow.sound_act sound step
    obtain ⟨later, answer'', second⟩ := ih between first
    refine ⟨turns ++ later, answer'', ?_⟩
    rw [run_append]
    exact second

/-- What became of the requests of a stream while `events` came about, `refused` of them not being
taken again when they came back: the statistics say just that, and nothing but what came back reached
the sink. -/
structure Exact (f : Flow) (events : List Event) (refused : Nat) : Prop where
  slices : f.slices = passed f.stream.id events
  passed : passed f.stream.id events = (completions f.stream.id events).flatMap Urb.slices
  filled : ∀ data ∈ DvbReceiver.passed f.stream.id events, data ≠ []
  completed : f.stream.stats.completed = (completions f.stream.id events).length
  bytesDelivered :
    f.stream.stats.bytesDelivered = (DvbReceiver.passed f.stream.id events).flatten.length
  frameErrors : f.stream.stats.frameErrors =
    ((completions f.stream.id events).flatMap Urb.frames).countP (·.status != .ok)
  transportErrors : f.stream.stats.transportErrors =
    (completions f.stream.id events).countP (·.status.isError)
  resubmitFailures : f.stream.stats.resubmitFailures = refused

theorem foldl_add (urbs : List Urb) (stats : StreamStats) :
    urbs.foldl StreamStats.add stats =
      { completed := stats.completed + urbs.length
        bytesDelivered := stats.bytesDelivered + (urbs.flatMap Urb.slices).flatten.length
        frameErrors := stats.frameErrors + (urbs.flatMap Urb.frames).countP (·.status != .ok)
        transportErrors := stats.transportErrors + urbs.countP (·.status.isError)
        resubmitFailures := stats.resubmitFailures } := by
  induction urbs generalizing stats with
  | nil => rfl
  | cons u rest ih =>
    rw [List.foldl_cons, ih]
    simp [StreamStats.add, Urb.frameErrors, List.countP_cons, List.countP_append]
    omega

theorem Exact.of_booked {host : Host} {stream : Nat} {sink : Option String} {events : List Event}
    (booked : Booked { host, stream := { id := stream, sink } } f events n) : Exact f events n := by
  obtain ⟨-, id, -, passed, slices, stats⟩ := booked
  have counted := stats.trans (congrArg (·.refuse n) (foldl_add _ _))
  rw [← id] at passed slices counted
  constructor
  next => exact slices
  next => exact passed
  next =>
    intro data there
    rw [passed] at there
    obtain ⟨u, -, present⟩ := List.mem_flatMap.1 there
    exact u.slices_ne_nil data present
  next => simp [counted, StreamStats.refuse]
  next => simp [counted, StreamStats.refuse, passed]
  next => simp [counted, StreamStats.refuse]
  next => simp [counted, StreamStats.refuse]
  next => simp [counted, StreamStats.refuse]

/-- Through any number of preparations, and however the steps of starting and stopping a stream
alternate with those of its requests, its statistics say what has happened. -/
theorem exact_run (host : Host) (stream : Nat) (sink : Option String)
    (unused : ∀ u ∈ host.bus.queue, u.key.stream ≠ stream) :
    let fresh : Flow := { host, stream := { id := stream, sink } }
    let career : Career := { traffic := { flow := fresh, admin := .resting (.ok ()) } }
    (∀ acts, career.Reaches (fresh.run acts)) ∧
      ∀ turns, ∃ events,
        (career.run turns).traffic.flow.host.trace = events ++ host.trace ∧
          Exact (career.run turns).traffic.flow events (career.run turns).refused := by
  intro fresh career
  have sound := Flow.sound_fresh sink unused
  refine ⟨fun acts => reaches_run sound rfl acts, fun turns => ?_⟩
  obtain ⟨events, refused, booked, count⟩ := booked_run (sound_resting sound (.ok ()) 0) turns
  rw [Nat.zero_add] at count
  rw [← count] at booked
  exact ⟨events, booked.trace, Exact.of_booked booked⟩

def onceHost : Host :=
  Bench.bareHost { Bench.newBus .high with policy := Bench.BusFaults.policy { submission := some 2 } }

theorem exact_run_bulk :
    let career : Career := { traffic :=
      { flow := { host := onceHost, stream := { id := 1, sink := some "demux" } }
        admin := .resting (.ok ()) } }
    let c := career.run
      ([.prepare ⟨1, 0x81, .bulk 4⟩] ++
        [.start, .administer, .administer, .administer, .pop 0 (.result .ok 3), .advance 0,
          .advance 0, .advance 0, .stop, .administer, .administer, .administer, .administer].map
          .move ++
        [.release, .prepare ⟨2, 0x81, .bulk 4⟩])
    (∀ u ∈ onceHost.bus.queue, u.key.stream ≠ 1) ∧
      (∃ events, c.traffic.flow.host.trace = events ++ onceHost.trace ∧
        Exact c.traffic.flow events c.refused) ∧
      c.traffic.flow.stream.stats =
        { completed := 1, bytesDelivered := 3, frameErrors := 0, transportErrors := 0,
          resubmitFailures := 1 } ∧
      c.traffic.flow.stream.prepared = 2 := by
  have unused : ∀ u ∈ onceHost.bus.queue, u.key.stream ≠ 1 := by
    simp [onceHost, Bench.bareHost, Bench.newBus]
  exact ⟨unused, (exact_run onceHost 1 (some "demux") unused).2 _, rfl, rfl⟩

end Career

end DvbReceiver

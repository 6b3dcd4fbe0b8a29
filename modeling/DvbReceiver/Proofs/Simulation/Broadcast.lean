import DvbReceiver.Bench.Stream
import DvbReceiver.Proofs.Simulation.Streams
import Mathlib.Logic.Function.Basic

set_option autoImplicit false

namespace DvbReceiver.Simulation

open Packet (Source)

/-- Streams that share the simulated bus, each by its own number. -/
structure Broadcast where
  host : Host
  streams : Nat → Stream
  generator : Generator
  halted : Bool := false

namespace Broadcast

inductive Act where
  | prepare (stream : Nat) (layout : Layout)
  | start (stream : Nat)
  | stop (stream : Nat)
  | release (stream : Nat)
  | complete

def Act.Fits : Act → Prop
  | .prepare _ layout => layout.Fits
  | _ => True

def flow (b : Broadcast) (i : Nat) : Flow :=
  { host := b.host, stream := b.streams i }

def put (b : Broadcast) (i : Nat) (f : Flow) : Broadcast :=
  { b with host := f.host, streams := Function.update b.streams i f.stream }

def completeNext (b : Broadcast) : Broadcast :=
  if b.halted then b
  else
    match b.host.bus.takeFirst 1 with
    | ([], _) => b
    | (u :: _, bus) =>
      match b.generator.serve u with
      | none => { b with host := { b.host with bus }, halted := true }
      | some (filled, generator) =>
        let f : Flow := { b.flow u.key.stream with host := { b.host with bus } }
        { b with generator }.put u.key.stream (f.complete filled)

def act (b : Broadcast) : Act → Broadcast
  | .prepare i layout => b.put i ((b.flow i).prepare layout).2
  | .start i => b.put i (b.flow i).start.2
  | .stop i => b.put i (b.flow i).stop
  | .release i => b.put i (b.flow i).release
  | .complete => b.completeNext

def run (b : Broadcast) (acts : List Act) : Broadcast :=
  acts.foldl act b

def begin (speed : Speed) (driver : Driver) (registry : Registry) (sinks : Nat → Option String)
    (pids : List Nat) (loseEvery : Option Nat) : Broadcast where
  host := { bus := newBus speed, driver, registry }
  streams i := { id := i, sink := sinks i }
  generator := { source := Source.ofPids pids, loseEvery }

/-- The streams are sound, with all requests in shape; `sent` was passed on, and the requests in
`log` came back with a result. -/
structure Sound (sent : List Bytes) (log : List Urb) (b : Broadcast) : Prop where
  working : b.halted = false
  ids : ∀ i, (b.streams i).id = i
  streams : ∀ i, ∃ roster, (b.streams i).Sound roster b.host.bus.queue
  fillable : ∀ i, (b.flow i).Fillable sent log

variable {b : Broadcast} {sent sent' : List Bytes} {log log' : List Urb} {i : Nat} {f : Flow}
  {roster roster' : List UrbIdentity}

theorem streams_put (b : Broadcast) (i : Nat) (f : Flow) : (b.put i f).streams i = f.stream :=
  Function.update_self ..

theorem streams_put_of_ne {j : Nat} (other : j ≠ i) : (b.put i f).streams j = b.streams j :=
  Function.update_of_ne other ..

theorem Sound.put (sound : b.Sound sent log) (step : (b.flow i).Step roster f roster')
    (fillable : f.Fillable sent' log') : (b.put i f).Sound sent' log' := by
  have own : (b.flow i).stream.id = i := sound.ids i
  constructor
  next => exact sound.working
  next =>
    intro j
    by_cases same : j = i
    · rw [same, streams_put, step.id, own]
    · rw [streams_put_of_ne same, sound.ids j]
  next =>
    intro j
    by_cases same : j = i
    · rw [same, streams_put]
      exact ⟨roster', step.sound⟩
    -- Of the queue the others see what they saw before.
    · obtain ⟨listed, before⟩ := sound.streams j
      have others := step.others
      rw [own] at others
      rw [streams_put_of_ne same]
      refine ⟨listed, before.of_ofStream_eq ?_⟩
      rw [sound.ids j]
      exact ofStream_eq_of_ofOthers others same
  next =>
    intro j
    refine ⟨fillable.policy, fillable.sent, fillable.served, fun u there => ?_⟩
    obtain queued | parked := there
    next => exact fillable.shaped u (.inl queued)
    next =>
      by_cases same : j = i
      · rw [flow, same, streams_put] at parked
        exact fillable.shaped u (.inr parked)
      · rw [flow, streams_put_of_ne same] at parked
        exact (sound.fillable j).shaped u (.inr parked)

theorem sound_begin (speed : Speed) (driver : Driver) (registry : Registry)
    (sinks : Nat → Option String) (pids : List Nat) (loseEvery : Option Nat) :
    (begin speed driver registry sinks pids loseEvery).Sound [] [] where
  working := rfl
  ids _ := rfl
  streams i := ⟨[], Flow.sound_fresh (sinks i) (by simp [begin, newBus])⟩
  fillable i := ⟨rfl, rfl, rfl, by simp [begin, flow, newBus, Stream.parked]⟩

theorem completeNext_idle (idle : b.host.bus.queue = []) : b.completeNext = b := by
  simp [completeNext, Bus.takeFirst, idle]

structure Completed (b : Broadcast) (sent : List Bytes) (log : List Urb) (u : Urb) (fill : Fill)
    (g : Generator) : Prop where
  filled : b.generator.fillFor u = some (fill, g)
  served : Generator.Served b.generator u fill g
  generator : b.completeNext.generator = g
  sound : b.completeNext.Sound (sent ++ (u.fill fill).slices) (log ++ [u.fill fill])

theorem completed_completeNext (sound : b.Sound sent log) {u : Urb} {rest : List Urb}
    (queue : b.host.bus.queue = u :: rest) : ∃ fill g, Completed b sent log u fill g := by
  let f := b.flow u.key.stream
  have own : u.key.stream = f.stream.id := (sound.ids u.key.stream).symm
  have removed : Removed f.host.bus.queue u rest := ⟨[], rest, queue, rfl⟩
  have fillable := sound.fillable u.key.stream
  obtain ⟨fill, g, found, served⟩ := b.generator.served (fillable.shaped u (.inl removed.mem))
  let filled := u.fill fill
  let unqueued : Flow :=
    { f with host := { f.host with bus := { f.host.bus with queue := rest } } }
  have next : b.completeNext =
      { b with generator := g }.put u.key.stream (unqueued.complete filled) := by
    simp [completeNext, sound.working, Bus.takeFirst, queue, Generator.serve_of_fillFor found,
      unqueued, filled, f, flow]
  obtain ⟨roster, (whole : f.Sound roster)⟩ := sound.streams u.key.stream
  -- A request that is queued belongs to a stream that is prepared.
  have prepared : f.stream.lane.isSome = true := by
    have mine : u ∈ ofStream f.stream.id f.host.bus.queue :=
      List.mem_filter.2 ⟨removed.mem, by simp [own]⟩
    refine Stream.isSome_lane (whole.custody.key_eq (u := u) ?_).2
    exact List.mem_append_right _ (List.mem_append_left _ mine)
  have step : f.Step roster (unqueued.complete filled) roster := by
    have ownFilled : filled.key.stream = f.stream.id :=
      (congrArg (·.stream) (u.key_fill _)).trans own
    have returned := Flow.returned_complete unqueued ownFilled
    have after : (unqueued.complete filled).Sound roster :=
      Flow.sound_complete whole removed own fill
    exact .of_kept ((Flow.kept_unqueue removed own).trans returned.toKept) after
  have taken : unqueued.Fillable sent log :=
    fillable.of_trace rfl rfl fun v there => .inr (there.imp_left removed.mem_of_mem)
  have more : ¬ filled.status.isTerminal = true := by
    rw [show filled.status = .ok from served.status]
    decide
  have same : ({ b with generator := g } : Broadcast).Sound sent log :=
    ⟨sound.working, sound.ids, sound.streams, sound.fillable⟩
  refine ⟨fill, g, found, served, by rw [next]; rfl, ?_⟩
  rw [next]
  exact same.put step (Flow.fillable_complete taken served.shaped more prepared)

/-- After `sent` was passed on, by the requests in `log`, the source stands right behind it. -/
structure Unbroken (pids : List Nat) (loseEvery : Option Nat) (sent : List Bytes) (log : List Urb)
    (g : Generator) : Prop where
  sequence : ∃ count, sent.flatten = Packet.sequence pids count ∧
    g.source = ((Source.ofPids pids).take count).2
  whole : ∀ data ∈ sent, data ≠ [] ∧ Packet.size ∣ data.length
  slices : sent = log.flatMap Urb.slices
  packets : ∀ u ∈ log, u.slices = u.packets
  numbered : Generator.Numbered { source := Source.ofPids pids, loseEvery }
    (log.flatMap Urb.frames) g

variable {pids : List Nat} {loseEvery : Option Nat} {g g' : Generator} {u : Urb} {fill : Fill}

theorem unbroken_begin (pids : List Nat) (loseEvery : Option Nat) :
    Unbroken pids loseEvery [] [] { source := Source.ofPids pids, loseEvery } :=
  ⟨⟨0, rfl, rfl⟩, by simp, rfl, by simp, rfl, rfl, rfl⟩

theorem Unbroken.serve (unbroken : Unbroken pids loseEvery sent log g)
    (served : Generator.Served g u fill g') :
    Unbroken pids loseEvery (sent ++ (u.fill fill).slices) (log ++ [u.fill fill]) g' := by
  constructor
  next =>
    obtain ⟨count, before, source⟩ := unbroken.sequence
    obtain ⟨n, taken⟩ := served.taken
    -- Taken one after the other, the two parts are what is taken at one go.
    have both := Source.take_add count n (Source.ofPids pids)
    rw [← source, taken] at both
    refine ⟨count + n, ?_, by rw [both]⟩
    have all := congrArg Prod.fst both
    rw [Source.take_ofPids, Source.take_ofPids] at all
    rw [List.flatten_append, before]
    exact all.symm
  next =>
    intro data there
    obtain earlier | now := List.mem_append.1 there
    next => exact unbroken.whole data earlier
    next =>
      refine ⟨Urb.slices_ne_nil _ data now, ?_⟩
      rw [served.packets] at now
      exact served.shaped.dvd_packets data now
  next => rw [unbroken.slices, List.flatMap_append, List.flatMap_singleton]
  next =>
    intro v there
    obtain earlier | now := List.mem_append.1 there
    next => exact unbroken.packets v earlier
    next =>
      rw [List.mem_singleton.1 now]
      exact served.packets
  next =>
    rw [List.flatMap_append, List.flatMap_singleton]
    exact unbroken.numbered.append served.numbered

theorem sound_act (sound : b.Sound sent log)
    (unbroken : Unbroken pids loseEvery sent log b.generator) {a : Act} (fits : a.Fits) :
    ∃ sent' log', (b.act a).Sound sent' log' ∧
      Unbroken pids loseEvery sent' log' (b.act a).generator := by
  have at_work (i : Nat) : ∃ roster, (b.flow i).Sound roster := sound.streams i
  cases a with
  | prepare i layout =>
    obtain ⟨roster, whole⟩ := at_work i
    obtain ⟨roster', provided⟩ := Flow.provided_prepare whole layout
    exact ⟨sent, log, sound.put provided.toStep (Flow.fillable_prepare (sound.fillable i) fits),
      unbroken⟩
  | start i =>
    obtain ⟨roster, whole⟩ := at_work i
    obtain ⟨kept, after⟩ := Flow.kept_sound_start whole
    exact ⟨sent, log, sound.put (.of_kept kept after) (Flow.fillable_start (sound.fillable i)),
      unbroken⟩
  | stop i =>
    obtain ⟨roster, whole⟩ := at_work i
    exact ⟨sent, log, sound.put (.of_kept (Flow.kept_stop _) (Flow.sound_stop whole))
      (Flow.fillable_stop (sound.fillable i)), unbroken⟩
  | release i =>
    obtain ⟨roster, whole⟩ := at_work i
    exact ⟨sent, log, sound.put (Flow.step_release whole)
      (Flow.fillable_release (sound.fillable i)), unbroken⟩
  | complete =>
    cases queue : b.host.bus.queue with
    | nil =>
      rw [act, completeNext_idle queue]
      exact ⟨sent, log, sound, unbroken⟩
    | cons u rest =>
      obtain ⟨fill, g, completed⟩ := completed_completeNext sound queue
      refine ⟨_, _, completed.sound, ?_⟩
      rw [act, completed.generator]
      exact unbroken.serve completed.served

theorem sound_run (sound : b.Sound sent log)
    (unbroken : Unbroken pids loseEvery sent log b.generator) {acts : List Act}
    (fits : ∀ a ∈ acts, a.Fits) :
    ∃ sent' log', (b.run acts).Sound sent' log' ∧
      Unbroken pids loseEvery sent' log' (b.run acts).generator := by
  induction acts generalizing b sent log with
  | nil => exact ⟨sent, log, sound, unbroken⟩
  | cons a rest ih =>
    obtain ⟨here, later⟩ := List.forall_mem_cons.1 fits
    obtain ⟨sent', log', after, still⟩ := sound_act sound unbroken here
    exact ih after still later

-- A frame that begins behind the end of the buffer is not filled at all.
example :
    let plain := Bench.bareHost (newBus .high)
    ((begin .high plain.driver plain.registry (fun _ => some "demux") [0x100] none).run
      [.prepare 0 ⟨1, 2, .isoc 4 4611686018427387951 1⟩, .start 0, .complete]).halted = true := by
  decide +kernel

end Broadcast

end DvbReceiver.Simulation

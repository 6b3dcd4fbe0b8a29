import DvbReceiver.Proofs.Stream.Statistics
import Mathlib.Data.List.ReduceOption

set_option autoImplicit false

namespace DvbReceiver

namespace Bus

def Takes (b : Bus) (count : Nat) : Prop :=
  ∀ i < count, b.policy.submission (b.submissions + i + 1) = none

def Refuses (b : Bus) (index : Nat) (reason : String) : Prop :=
  b.Takes index ∧ b.policy.submission (b.submissions + index + 1) = some reason

theorem takes_or_refuses (b : Bus) (count : Nat) :
    b.Takes count ∨ ∃ index < count, ∃ reason, b.Refuses index reason := by
  induction count with
  | zero => exact .inl fun i within => absurd within i.not_lt_zero
  | succ count ih =>
    obtain takes | ⟨index, within, refuses⟩ := ih
    next =>
      cases answer : b.policy.submission (b.submissions + count + 1) with
      | none =>
        refine .inl fun i within => ?_
        obtain earlier | rfl := Nat.lt_succ_iff_lt_or_eq.1 within
        next => exact takes i earlier
        next => exact answer
      | some reason => exact .inr ⟨count, count.lt_succ_self, reason, takes, answer⟩
    next => exact .inr ⟨index, Nat.lt_succ_of_lt within, refuses⟩

end Bus

namespace Host

variable {h : Host} {count index : Nat} {reason : String}

theorem submit_fst (h : Host) (u : Urb) :
    (h.submit u).1 = h.bus.policy.submission (h.bus.submissions + 1) := by
  unfold submit
  split
  next taken => exact (congrArg (·.1) taken).symm
  next refused => exact (congrArg (·.1) refused).symm

theorem submissions_submit (h : Host) (u : Urb) :
    (h.submit u).2.bus.submissions = h.bus.submissions + 1 := by
  unfold submit
  split
  next taken => exact (congrArg (·.2.submissions) taken).symm
  next refused => exact (congrArg (·.2.submissions) refused).symm

theorem takes_succ (u : Urb) (takes : h.bus.Takes (count + 1)) :
    (h.submit u).1 = none ∧ (h.submit u).2.bus.Takes count := by
  refine ⟨(submit_fst h u).trans (takes 0 count.succ_pos), fun i within => ?_⟩
  have later := takes (i + 1) (Nat.succ_lt_succ within)
  rw [policy_submit, submissions_submit]
  rwa [← Nat.add_assoc, Nat.add_right_comm h.bus.submissions i 1] at later

theorem refuses_zero (u : Urb) (refuses : h.bus.Refuses 0 reason) :
    (h.submit u).1 = some reason :=
  (submit_fst h u).trans refuses.2

theorem refuses_succ (u : Urb) (refuses : h.bus.Refuses (index + 1) reason) :
    (h.submit u).1 = none ∧ (h.submit u).2.bus.Refuses index reason := by
  obtain ⟨first, later⟩ := takes_succ u refuses.1
  refine ⟨first, later, ?_⟩
  have answer := refuses.2
  rw [policy_submit, submissions_submit]
  rwa [← Nat.add_assoc, Nat.add_right_comm h.bus.submissions index 1] at answer

end Host

theorem ofOthers_of_ofStream {stream : Nat} {queue : List Urb} (gone : ofStream stream queue = []) :
    ofOthers stream queue = queue :=
  List.filter_eq_self.2 fun u queued => by
    simpa using ofStream_eq_nil_iff.1 gone u queued

namespace Stream

def stock (s : Stream) : List Urb :=
  s.parked.reduceOption

structure AtHome (s : Stream) : Prop where
  full : s.parked = s.stock.map some
  keys : s.stock.map (·.key) = (List.range s.prepared).map (UrbKey.mk s.id)

variable {s : Stream} {index : Nat} {u : Urb} {rest : List Urb}

theorem AtHome.length (home : s.AtHome) : s.stock.length = s.prepared := by
  simpa using congrArg List.length home.keys

theorem takeParked_of_drop (stock : s.parked.drop index = (u :: rest).map some) :
    (s.takeParked index).1 = some u ∧
      (s.takeParked index).2.parked.drop (index + 1) = rest.map some := by
  have first : s.parked[index]? = some (some u) := by
    rw [← Nat.add_zero index, ← List.getElem?_drop, stock]
    rfl
  refine ⟨by rw [takeParked_fst, first]; rfl, ?_⟩
  rw [parked_takeParked, List.drop_set_of_lt index.lt_succ_self, ← List.tail_drop, stock]
  rfl

end Stream

namespace Flow

variable {f : Flow} {roster : List UrbIdentity} {index i : Nat} {urbs : List Urb} {reason : String}

theorem Custody.atHome (c : f.Custody roster [])
    (size : f.stream.parked.length = f.stream.prepared)
    (gone : ofStream f.stream.id f.host.bus.queue = []) : f.stream.AtHome := by
  have present (places : List (Option Urb)) (all : places.all Option.isSome = true) :
      places = places.reduceOption.map some := by
    induction places with
    | nil => rfl
    | cons place rest ih =>
      rw [List.all_cons, Bool.and_eq_true] at all
      obtain ⟨u, rfl⟩ := Option.isSome_iff_exists.1 all.1
      exact congrArg _ (ih all.2)
  have full := present f.stream.parked (c.full gone)
  refine ⟨full, List.ext_getElem? fun i => ?_⟩
  have place : f.stream.parked[i]? = f.stream.stock[i]?.map some :=
    (congrArg (·[i]?) full).trans List.getElem?_map
  simp only [List.getElem?_map]
  -- Place by place: there are as many as requests, and what lies at a place has its index.
  cases there : f.stream.stock[i]? with
  | none =>
    have beyond : f.stream.parked.length ≤ i := by
      rw [there] at place
      exact List.getElem?_eq_none_iff.1 place
    have absent : (List.range f.stream.prepared)[i]? = none := by simpa [← size] using beyond
    rw [absent]
    rfl
  | some u =>
    have parked : f.stream.parked[i]? = some (some u) := place.trans (by rw [there]; rfl)
    have within : i < f.stream.prepared := by
      rw [← size]
      exact (List.getElem?_eq_some_iff.1 parked).1
    rw [List.getElem?_range within]
    exact congrArg some (DvbReceiver.Custody.key_parked c parked)

theorem Sound.atHome (sound : f.Sound roster) (rest : f.stream.submitted = 0) : f.stream.AtHome :=
  Custody.atHome sound.custody sound.size (sound.idle rest)

theorem submitFrom_cons {u : Urb} {rest : List Urb}
    (stock : f.stream.parked.drop index = (u :: rest).map some) :
    (∃ (reason : String) (host : Host) (stream : Stream), f.host.submit u = (some reason, host) ∧
      submitFrom (u :: rest).length index f =
        (.error (.transfer index reason), (park { f with host, stream } u).stop)) ∨
    ∃ (host : Host) (stream : Stream), f.host.submit u = (none, host) ∧
      stream.parked.drop (index + 1) = rest.map some ∧
      submitFrom (u :: rest).length index f = submitFrom rest.length (index + 1)
        { f with host, stream := { stream with submitted := index + 1 } } := by
  obtain ⟨first, left⟩ := Stream.takeParked_of_drop stock
  cases place : f.stream.takeParked index with
  | mk urb stream =>
    rw [place] at first left
    cases first
    cases outcome : f.host.submit u with
    | mk answer host =>
      cases answer with
      | some reason => exact .inl ⟨reason, host, stream, rfl, by simp [submitFrom, place, outcome]⟩
      | none => exact .inr ⟨host, stream, rfl, left, by simp [submitFrom, place, outcome]⟩

theorem submitFrom_takes (stock : f.stream.parked.drop index = urbs.map some)
    (takes : f.host.bus.Takes urbs.length) :
    (submitFrom urbs.length index f).1 = .ok () ∧
      (submitFrom urbs.length index f).2.host.bus.queue = f.host.bus.queue ++ urbs := by
  -- On the requests that are left, each of which is in its place while those before it are queued.
  induction urbs generalizing index f with
  | nil => exact ⟨rfl, (List.append_nil _).symm⟩
  | cons u rest ih =>
    obtain ⟨taken, later⟩ := Host.takes_succ u takes
    have queue := Host.queue_submit f.host u
    obtain ⟨reason, host, stream, refused, -⟩ | ⟨host, stream, accepted, left, same⟩ :=
      submitFrom_cons stock
    next =>
      rw [refused] at taken
      cases taken
    next =>
      rw [accepted] at later queue
      have queue : host.bus.queue = f.host.bus.queue ++ [u] := queue
      obtain ⟨ok, queued⟩ := @ih
        { f with host, stream := { stream with submitted := index + 1 } } (index + 1) left later
      rw [same]
      exact ⟨ok, queued.trans (by simp [queue])⟩

theorem submitFrom_refuses (stock : f.stream.parked.drop index = urbs.map some)
    (within : i < urbs.length) (refuses : f.host.bus.Refuses i reason) :
    (submitFrom urbs.length index f).1 = .error (.transfer (index + i) reason) := by
  -- On the requests that are left; the one that the bus refuses draws nearer with each step.
  induction urbs generalizing index i f with
  | nil => exact absurd within i.not_lt_zero
  | cons u rest ih =>
    have split := submitFrom_cons stock
    cases i with
    | zero =>
      have answer := Host.refuses_zero u refuses
      obtain ⟨reason', host, stream, refused, same⟩ | ⟨host, stream, accepted, -⟩ := split
      next =>
        rw [refused] at answer
        cases answer
        rw [same]
        rfl
      next =>
        rw [accepted] at answer
        cases answer
    | succ i =>
      obtain ⟨taken, later⟩ := Host.refuses_succ u refuses
      obtain ⟨reason', host, stream, refused, -⟩ | ⟨host, stream, accepted, left, same⟩ := split
      next =>
        rw [refused] at taken
        cases taken
      next =>
        rw [accepted] at later
        have answered := @ih { f with host, stream := { stream with submitted := index + 1 } }
          (index + 1) i left (Nat.lt_of_succ_lt_succ within) later
        rw [same, ← Nat.add_assoc, Nat.add_right_comm]
        exact answered

theorem Sound.start_eq (sound : f.Sound roster) (prepared : f.stream.lane.isSome = true)
    (rest : f.stream.submitted = 0) :
    ∃ f', f.start = submitFrom f.stream.stock.length 0 f' ∧ f'.host = f.host ∧
      f'.stream.parked.drop 0 = f.stream.stock.map some := by
  have home := sound.atHome rest
  have running : ¬ f.stream.isRunning = true := by simp [Stream.isRunning_iff, rest]
  refine ⟨{ f with stream := f.stream.setStopping false }, ?_, rfl, ?_⟩
  · unfold start
    rw [if_neg (by simp [Option.isSome_iff_ne_none.1 prepared]), if_neg running, home.length]
    rfl
  · rw [List.drop_zero, Stream.parked_setStopping]
    exact home.full

structure HandedOver (f f' : Flow) : Prop where
  submitted : f'.stream.submitted = f.stream.prepared
  prepared : f'.stream.prepared = f.stream.prepared
  queue : f'.host.bus.queue = f.host.bus.queue ++ f.stream.stock

structure HandedBack (f f' : Flow) : Prop where
  submitted : f'.stream.submitted = 0
  prepared : f'.stream.prepared = f.stream.prepared
  home : f'.stream.AtHome
  queue : f'.host.bus.queue = f.host.bus.queue

theorem Sound.start_takes (sound : f.Sound roster) (rest : f.stream.submitted = 0)
    (takes : f.host.bus.Takes f.stream.prepared) :
    f.start.1 = .ok () ∧ HandedOver f f.start.2 := by
  have home := sound.atHome rest
  cases prepared : f.stream.lane.isSome with
  | false =>
    -- Nothing is parked without a lane, and nothing is prepared.
    have bare : f.stream.prepared = 0 := by
      have lane := sound.lane
      simpa [prepared] using lane
    have nothing : f.stream.stock = [] := List.eq_nil_of_length_eq_zero (home.length.trans bare)
    rw [start_unprepared prepared]
    exact ⟨rfl, rest.trans bare.symm, rfl, by simp [nothing]⟩
  | true =>
    have started := started_start sound prepared rest
    obtain ⟨f', same, host, stocked⟩ := sound.start_eq prepared rest
    have handed := submitFrom_takes stocked (by rwa [host, home.length])
    rw [← same, host] at handed
    exact ⟨handed.1, (started.ok handed.1).1, started.kept.prepared, handed.2⟩

theorem Sound.start_refuses (sound : f.Sound roster) (rest : f.stream.submitted = 0)
    (within : i < f.stream.prepared) (refuses : f.host.bus.Refuses i reason) :
    f.start.1 = .error (.transfer i reason) ∧ HandedBack f f.start.2 := by
  have home := sound.atHome rest
  have prepared : f.stream.lane.isSome = true := by
    rw [sound.lane]
    exact decide_eq_true (Nat.zero_lt_of_lt within)
  have started := started_start sound prepared rest
  obtain ⟨f', same, host, stocked⟩ := sound.start_eq prepared rest
  have answered := submitFrom_refuses stocked (by rwa [home.length]) (by rwa [host])
  rw [← same, Nat.zero_add] at answered
  obtain ⟨none, gone⟩ := started.error _ answered
  refine ⟨answered, none, started.kept.prepared, ?_, ?_⟩
  · exact (started.sound sound prepared).atHome none
  · have others := started.kept.others
    rwa [ofOthers_of_ofStream gone, ofOthers_of_ofStream (sound.idle rest)] at others

/-- Handing a stream at rest to the bus succeeds with all its requests or leaves no trace on the
queue. -/
structure AllOrNothing (f : Flow) : Prop where
  ok_iff : f.start.1 = .ok () ↔ f.host.bus.Takes f.stream.prepared
  all : f.start.1 = .ok () → f.stream.AtHome ∧ HandedOver f f.start.2
  nothing : ∀ i < f.stream.prepared, ∀ reason, f.host.bus.Refuses i reason →
    f.start.1 = .error (.transfer i reason) ∧ HandedBack f f.start.2

theorem Sound.allOrNothing (sound : f.Sound roster) (rest : f.stream.submitted = 0) :
    f.AllOrNothing := by
  have nothing (i : Nat) (within : i < f.stream.prepared) (reason : String)
      (refuses : f.host.bus.Refuses i reason) := sound.start_refuses rest within refuses
  have takes (ok : f.start.1 = .ok ()) : f.host.bus.Takes f.stream.prepared := by
    refine (f.host.bus.takes_or_refuses f.stream.prepared).resolve_right ?_
    rintro ⟨i, within, reason, refuses⟩
    rw [(nothing i within reason refuses).1] at ok
    cases ok
  exact
    { ok_iff := ⟨takes, fun taken => (sound.start_takes rest taken).1⟩
      all := fun ok => ⟨sound.atHome rest, (sound.start_takes rest (takes ok)).2⟩
      nothing }

end Flow

namespace Career

variable {c : Career} {roster : List UrbIdentity}

theorem sound_run (sound : c.Sound roster) (turns : List Turn) :
    ∃ roster', (c.run turns).Sound roster' := by
  induction turns generalizing c roster with
  | nil => exact ⟨roster, sound⟩
  | cons t rest ih =>
    obtain ⟨between, after⟩ := sound_turn sound t
    exact ih after

structure Idle (c : Career) : Prop where
  resting : ∃ answer, c.traffic.admin = .resting answer
  rest : c.traffic.flow.stream.submitted = 0

def attempt (c : Career) : Career :=
  let (answer, flow) := c.traffic.flow.start
  { c with traffic := { flow, admin := .resting answer } }

theorem Sound.idle (sound : c.Sound roster) (idle : c.Idle) :
    c.traffic.flow.Sound roster ∧ c.traffic.flight = [] := by
  obtain ⟨⟨f, admin, flight⟩, n⟩ := c
  obtain ⟨⟨answer, resting⟩, rest⟩ := idle
  have resting : admin = .resting answer := resting
  subst resting
  exact sound.rest rest

/-- Whatever has been done to a stream before, whichever requests the bus refuses, and however it
gives back those that are cancelled. After an attempt that failed the next one is as good as any. -/
theorem allOrNothing_run (host : Host) (stream : Nat) (sink : Option String) (turns : List Turn)
    (unused : ∀ u ∈ host.bus.queue, u.key.stream ≠ stream) :
    let career : Career := { traffic :=
      { flow := { host, stream := { id := stream, sink } }, admin := .resting (.ok ()) } }
    let c := career.run turns
    c.Idle → c.traffic.flow.AllOrNothing ∧
      ∀ later, (c.attempt.run later).Idle → (c.attempt.run later).traffic.flow.AllOrNothing := by
  intro career c idle
  have fresh := sound_resting (Flow.sound_fresh sink unused) (.ok ()) 0
  obtain ⟨roster, sound⟩ := sound_run fresh turns
  have whole : c.traffic.flow.Sound roster := (Sound.idle sound idle).1
  refine ⟨whole.allOrNothing idle.rest, fun later again => ?_⟩
  have attempted : c.attempt.Sound roster :=
    sound_resting (Flow.kept_sound_start whole).2 c.traffic.flow.start.1 c.refused
  obtain ⟨roster', sound'⟩ := sound_run attempted later
  exact (Sound.idle sound' again).1.allOrNothing again.rest

def stubbornHost (n : Nat) : Host :=
  Bench.bareHost { Bench.newBus .high with
    policy := Bench.BusFaults.policy { submission := some n, cancelled := some (.result .ok 4) } }

theorem allOrNothing_run_bulk :
    let career : Career := { traffic :=
      { flow := { host := stubbornHost 2, stream := { id := 1, sink := some "demux" } }
        admin := .resting (.ok ()) } }
    let c := career.run [.prepare ⟨3, 0x81, .bulk 4⟩]
    (∀ u ∈ (stubbornHost 2).bus.queue, u.key.stream ≠ 1) ∧ c.Idle ∧
      c.traffic.flow.AllOrNothing ∧ c.attempt.traffic.flow.AllOrNothing ∧
      c.traffic.flow.host.bus.Refuses 1 "injected submit failure" ∧
      c.attempt.traffic.flow.host.bus.Takes 3 := by
  have unused : ∀ u ∈ (stubbornHost 2).bus.queue, u.key.stream ≠ 1 := by
    simp [stubbornHost, Bench.bareHost, Bench.newBus]
  intro career c
  have idle : c.Idle := ⟨⟨.ok (), rfl⟩, rfl⟩
  have again : c.attempt.Idle :=
    ⟨⟨.error (.transfer 1 "injected submit failure"), rfl⟩, rfl⟩
  have both := allOrNothing_run (stubbornHost 2) 1 (some "demux") [.prepare ⟨3, 0x81, .bulk 4⟩]
    unused idle
  refine ⟨unused, idle, both.1, both.2 [] again, ⟨?_, rfl⟩, ?_⟩
  · show ∀ i < 1, c.traffic.flow.host.bus.policy.submission
      (c.traffic.flow.host.bus.submissions + i + 1) = none
    decide
  · show ∀ i < 3, c.attempt.traffic.flow.host.bus.policy.submission
      (c.attempt.traffic.flow.host.bus.submissions + i + 1) = none
    decide

end Career

end DvbReceiver

import DvbReceiver.Proofs.Host
import DvbReceiver.Proofs.Stream.Custody

set_option autoImplicit false

namespace DvbReceiver

def Removed (queue : List Urb) (u : Urb) (queue' : List Urb) : Prop :=
  ∃ before after, queue = before ++ u :: after ∧ queue' = before ++ after

namespace Removed

variable {queue queue' : List Urb} {u : Urb} {stream : Nat}

theorem mem (removed : Removed queue u queue') : u ∈ queue := by
  obtain ⟨before, after, rfl, -⟩ := removed
  simp

theorem mem_of_mem {v : Urb} (removed : Removed queue u queue') (left : v ∈ queue') :
    v ∈ queue := by
  obtain ⟨before, after, rfl, rfl⟩ := removed
  exact List.mem_append.2 ((List.mem_append.1 left).imp_right (List.mem_cons_of_mem u))

theorem ofStream_perm (removed : Removed queue u queue') (own : u.key.stream = stream) :
    (ofStream stream queue).Perm (u :: ofStream stream queue') := by
  obtain ⟨before, after, rfl, rfl⟩ := removed
  rw [ofStream_append, ofStream_cons_own own, ofStream_append]
  exact List.perm_middle

theorem ofOthers_eq (removed : Removed queue u queue') (own : u.key.stream = stream) :
    ofOthers stream queue' = ofOthers stream queue := by
  obtain ⟨before, after, rfl, rfl⟩ := removed
  rw [ofOthers_append, ofOthers_append, ofOthers_cons_own own]

theorem ofStream_eq (removed : Removed queue u queue') (foreign : u.key.stream ≠ stream) :
    ofStream stream queue' = ofStream stream queue := by
  obtain ⟨before, after, rfl, rfl⟩ := removed
  rw [ofStream_append, ofStream_append, ofStream_cons_foreign foreign]

theorem key_ne (removed : Removed queue u queue') (own : u.key.stream = stream)
    {roster : List UrbIdentity} {hand : List Urb} {parked : List (Option Urb)}
    (c : Custody stream roster queue hand parked) {v : Urb} (left : v ∈ ofStream stream queue') :
    v.key ≠ u.key := by
  intro same
  have separate := c.keys_nodup
  simp only [List.map_append, List.nodup_append] at separate
  have alone := ((removed.ofStream_perm own).map (·.key)).nodup_iff.1 separate.2.1.1
  exact (List.nodup_cons.1 alone).1 (List.mem_map.2 ⟨v, left, same⟩)

end Removed

theorem removed_eraseIdx {queue : List Urb} {position : Nat} {u : Urb}
    (there : queue[position]? = some u) : Removed queue u (queue.eraseIdx position) := by
  obtain ⟨within, rfl⟩ := List.getElem?_eq_some_iff.1 there
  refine ⟨queue.take position, queue.drop (position + 1), ?_, List.eraseIdx_eq_take_drop_succ ..⟩
  rw [List.getElem_cons_drop, List.take_append_drop]

theorem removed_eraseP {queue : List Urb} {key : UrbKey} {u : Urb}
    (found : queue.find? (·.key == key) = some u) :
    u.key = key ∧ Removed queue u (queue.eraseP (·.key == key)) := by
  obtain ⟨matching, before, after, rfl, earlier⟩ := List.find?_eq_some_iff_append.1 found
  refine ⟨by simpa using matching, before, after, rfl, ?_⟩
  rw [List.eraseP_append_right _ (by simpa using earlier)]
  simp [matching]

namespace Stream

def parked (s : Stream) : List (Option Urb) :=
  (s.lane.map (·.parked)).getD []

def stopping (s : Stream) : Bool :=
  s.lane.any (·.stopping)

theorem isSome_lane {s : Stream} {index : Nat} (within : index < s.parked.length) :
    s.lane.isSome = true := by
  cases unprepared : s.lane with
  | none => simp [parked, unprepared] at within
  | some => rfl

@[simp] theorem parked_park (s : Stream) (u : Urb) :
    (s.park u).parked = s.parked.set u.key.index (some u) := by
  cases h : s.lane <;> simp [parked, park, h]

@[simp] theorem parked_setStopping (s : Stream) (on : Bool) :
    (s.setStopping on).parked = s.parked := by
  cases h : s.lane <;> simp [parked, setStopping, h]

@[simp] theorem stopping_park (s : Stream) (u : Urb) : (s.park u).stopping = s.stopping := by
  cases h : s.lane <;> simp [stopping, park, h]

theorem stopping_setStopping (s : Stream) (on : Bool) :
    (s.setStopping on).stopping = (on && s.lane.isSome) := by
  cases h : s.lane <;> simp [stopping, setStopping, h]

theorem takeParked_fst (s : Stream) (index : Nat) :
    (s.takeParked index).1 = (s.parked[index]?).join := by
  cases h : s.lane <;> simp [takeParked, parked, h]

theorem takeParked_snd (s : Stream) (index : Nat) :
    (s.takeParked index).2 = { s with lane := s.lane.map fun lane =>
      { lane with parked := lane.parked.set index none } } := by
  obtain ⟨id, sink, layout, lane, prepared, submitted, pool, stats⟩ := s
  cases lane <;> rfl

@[simp] theorem parked_takeParked (s : Stream) (index : Nat) :
    (s.takeParked index).2.parked = s.parked.set index none := by
  rw [takeParked_snd]
  cases h : s.lane <;> simp [parked, h]

@[simp] theorem stopping_takeParked (s : Stream) (index : Nat) :
    (s.takeParked index).2.stopping = s.stopping := by
  rw [takeParked_snd]
  cases h : s.lane <;> simp [stopping, h]

theorem takeParked_some {s : Stream} {index : Nat} {u : Urb}
    (taken : (s.takeParked index).1 = some u) : s.parked[index]? = some (some u) := by
  rw [takeParked_fst] at taken
  exact Option.join_eq_some_iff.1 taken

end Stream

namespace Flow

variable {f f' : Flow} {roster : List UrbIdentity} {hand : List Urb} {u : Urb}

def Custody (f : Flow) (roster : List UrbIdentity) (hand : List Urb) : Prop :=
  DvbReceiver.Custody f.stream.id roster f.host.bus.queue hand f.stream.parked

/-- What moving requests about leaves alone: most of the host, the requests of other streams, and how
the stream was prepared. -/
structure Kept (f f' : Flow) : Prop where
  host : f.host.Steady f'.host
  others : ofOthers f.stream.id f'.host.bus.queue = ofOthers f.stream.id f.host.bus.queue
  id : f'.stream.id = f.stream.id
  sink : f'.stream.sink = f.stream.sink
  layout : f'.stream.layout = f.stream.layout
  prepared : f'.stream.prepared = f.stream.prepared
  pool : f'.stream.pool = f.stream.pool
  lane : f'.stream.lane.isSome = f.stream.lane.isSome
  size : f'.stream.parked.length = f.stream.parked.length

theorem Kept.refl (f : Flow) : Kept f f where
  host := Host.Steady.refl f.host
  others := rfl
  id := rfl
  sink := rfl
  layout := rfl
  prepared := rfl
  pool := rfl
  lane := rfl
  size := rfl

theorem Kept.trans {f₁ f₂ f₃ : Flow} (first : Kept f₁ f₂) (second : Kept f₂ f₃) : Kept f₁ f₃ where
  host := first.host.trans second.host
  others := by
    have later := second.others
    rw [first.id] at later
    exact later.trans first.others
  id := second.id.trans first.id
  sink := second.sink.trans first.sink
  layout := second.layout.trans first.layout
  prepared := second.prepared.trans first.prepared
  pool := second.pool.trans first.pool
  lane := second.lane.trans first.lane
  size := second.size.trans first.size

structure Returned (f f' : Flow) : Prop extends Kept f f' where
  submitted : f'.stream.submitted = f.stream.submitted
  stopping : f'.stream.stopping = f.stream.stopping

theorem Returned.refl (f : Flow) : Returned f f :=
  { Kept.refl f with submitted := rfl, stopping := rfl }

theorem Returned.trans {f₁ f₂ f₃ : Flow} (first : Returned f₁ f₂) (second : Returned f₂ f₃) :
    Returned f₁ f₃ :=
  { first.toKept.trans second.toKept with
    submitted := second.submitted.trans first.submitted
    stopping := second.stopping.trans first.stopping }

theorem returned_note (f : Flow) (u : Urb) :
    Returned f { f with host := f.host.note (.returned u) } :=
  { Returned.refl f with host := Host.steady_note _ rfl }

theorem returned_park (f : Flow) (u : Urb) : Returned f (f.park u) :=
  { Returned.refl f with
    lane := by simp [park, Stream.park]
    size := by simp [park]
    stopping := by simp [park] }

theorem custody_park (c : f.Custody roster (u :: hand)) : (f.park u).Custody roster hand := by
  have parked := DvbReceiver.Custody.park c
  rwa [← Stream.parked_park] at parked

theorem bus_deliver (f : Flow) (u : Urb) : (f.deliver u).host.bus = f.host.bus := by
  simp [deliver, passOn]

theorem returned_deliver (f : Flow) (u : Urb) : Returned f (f.deliver u) :=
  { Returned.refl f with
    host := Host.steady_noteAll _ (by simp [Event.demodMark?])
    others := by rw [bus_deliver] }

theorem custody_deliver (c : f.Custody roster hand) : (f.deliver u).Custody roster hand := by
  have same := bus_deliver f u
  unfold Custody
  rw [same]
  exact c

theorem requeue_cases (f : Flow) (u : Urb) :
    (f.stream.stopping = true ∧ f.requeue u = (some u, f)) ∨
    (f.stream.stopping = false ∧ (f.requeue u).1 = none ∧
      (f.requeue u).2 = { f with host := (f.host.submit u).2 } ∧
      (f.requeue u).2.host.bus.queue = f.host.bus.queue ++ [u]) ∨
    (f.stream.stopping = false ∧ (f.requeue u).1 = some u ∧
      (f.requeue u).2.host = (f.host.submit u).2 ∧
      (f.requeue u).2.host.bus.queue = f.host.bus.queue ∧
      ∃ stats, (f.requeue u).2.stream = { f.stream with stats }) := by
  have moved := Host.queue_submit f.host u
  unfold requeue
  by_cases flag : f.stream.stopping = true
  · exact .inl ⟨flag, if_pos flag⟩
  · simp only [Bool.not_eq_true] at flag
    have lowered : ¬ (f.stream.lane.any (·.stopping) = true) := by
      simpa [Stream.stopping] using flag
    rw [if_neg lowered]
    split
    next host taken =>
      rw [taken] at moved
      exact .inr (.inl ⟨flag, rfl, by rw [taken], moved⟩)
    next reason host refused =>
      rw [refused] at moved
      exact .inr (.inr ⟨flag, rfl, by rw [refused], moved, _, rfl⟩)

theorem returned_requeue (f : Flow) (own : u.key.stream = f.stream.id) :
    Returned f (f.requeue u).2 := by
  obtain ⟨-, same⟩ | ⟨-, -, flow, queued⟩ | ⟨-, -, host, queued, stats, stream⟩ := requeue_cases f u
  next =>
    rw [same]
    exact Returned.refl f
  next =>
    have steady := Host.steady_submit f.host u
    have others : ofOthers f.stream.id (f.requeue u).2.host.bus.queue =
        ofOthers f.stream.id f.host.bus.queue := by
      rw [queued, ofOthers_append, ofOthers_cons_own own, ofOthers_nil, List.append_nil]
    rw [flow] at others ⊢
    exact { Returned.refl f with host := steady, others }
  next =>
    have steady := Host.steady_submit f.host u
    rw [← host] at steady
    -- The statistics are all that a refusal leaves on the stream.
    have restated : Returned f { (f.requeue u).2 with stream := { f.stream with stats } } :=
      { Returned.refl f with host := steady, others := by rw [queued] }
    rwa [← stream] at restated

theorem custody_requeue (c : f.Custody roster (u :: hand)) :
    (f.requeue u).2.Custody roster ((f.requeue u).1.toList ++ hand) := by
  obtain ⟨-, same⟩ | ⟨-, left, flow, queued⟩ | ⟨-, left, -, queued, stats, stream⟩ :=
    requeue_cases f u
  next =>
    rw [same]
    exact c
  next =>
    have after := DvbReceiver.Custody.submit c
    rw [left]
    unfold Custody
    rw [queued, flow]
    exact after
  next =>
    rw [left]
    unfold Custody
    rw [queued, stream]
    exact c

end Flow

end DvbReceiver

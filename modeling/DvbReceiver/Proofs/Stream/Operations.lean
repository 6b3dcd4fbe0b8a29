import DvbReceiver.Proofs.Stream.Moves

set_option autoImplicit false

namespace DvbReceiver

structure Stream.Sound (s : Stream) (roster : List UrbIdentity) (queue : List Urb) : Prop where
  custody : Custody s.id roster queue [] s.parked
  size : s.parked.length = s.prepared
  lane : s.lane.isSome = decide (0 < s.prepared)
  layout : s.layout.map (·.count) = if s.prepared = 0 then none else some s.prepared
  submitted : s.submitted = 0 ∨ s.submitted = s.prepared
  idle : s.submitted = 0 → ofStream s.id queue = []
  lowered : s.submitted ≠ 0 → s.stopping = false

theorem Stream.Sound.of_ofStream_eq {s : Stream} {roster : List UrbIdentity}
    {queue queue' : List Urb} (sound : s.Sound roster queue)
    (same : ofStream s.id queue' = ofStream s.id queue) : s.Sound roster queue' :=
  { sound with
    custody := sound.custody.of_ofStream_eq same
    idle := fun rest => same.trans (sound.idle rest) }

theorem Stream.isRunning_iff {s : Stream} : s.isRunning = true ↔ 0 < s.submitted :=
  decide_eq_true_iff

theorem Stream.isRunning_eq_false_iff {s : Stream} : s.isRunning = false ↔ s.submitted = 0 := by
  simp [isRunning]

namespace Flow

variable {f f' : Flow} {roster : List UrbIdentity} {hand : List Urb} {u : Urb}

def Sound (f : Flow) (roster : List UrbIdentity) : Prop :=
  f.stream.Sound roster f.host.bus.queue

theorem Sound.of_kept (sound : f.Sound roster) (kept : Kept f f') (custody : f'.Custody roster [])
    (submitted : f'.stream.submitted = 0 ∨ f'.stream.submitted = f'.stream.prepared)
    (idle : f'.stream.submitted = 0 → ofStream f'.stream.id f'.host.bus.queue = [])
    (lowered : f'.stream.submitted ≠ 0 → f'.stream.stopping = false) :
    f'.Sound roster where
  custody := custody
  size := by rw [kept.size, kept.prepared, sound.size]
  lane := by rw [kept.lane, kept.prepared, sound.lane]
  layout := by rw [kept.layout, kept.prepared, sound.layout]
  submitted := submitted
  idle := idle
  lowered := lowered

theorem returned_complete (f : Flow) (own : u.key.stream = f.stream.id) :
    Returned f (f.complete u) := by
  have noted := returned_note f u
  unfold complete
  dsimp only
  split
  next => exact noted
  next =>
    split
    next => exact noted.trans (returned_park _ u)
    next =>
      have ownSettled : u.settled.key.stream = f.stream.id := by rw [u.key_settled, own]
      have moved := (noted.trans (returned_deliver _ u)).trans (returned_requeue _ ownSettled)
      split
      next requeued =>
        rw [requeued] at moved
        exact moved
      next left _ requeued =>
        rw [requeued] at moved
        exact moved.trans (returned_park _ left)

theorem custody_complete (c : f.Custody roster (u :: hand)) :
    (f.complete u).Custody roster hand := by
  have noted : Custody { f with host := f.host.note (.returned u) } roster (u :: hand) := c
  unfold complete
  dsimp only
  split
  next unprepared =>
    have prepared := Stream.isSome_lane c.key_hand.2
    simp [Option.isNone_iff_eq_none.1 unprepared] at prepared
  next =>
    split
    next => exact custody_park noted
    next =>
      have delivered := (custody_deliver (u := u) noted).rewrite u.identity_settled
      have moved := custody_requeue delivered
      split
      next requeued =>
        rw [requeued] at moved
        exact moved
      next left _ requeued =>
        rw [requeued] at moved
        exact custody_park moved

theorem queue_complete (f : Flow) (u : Urb) (stopping : f.stream.stopping = true) :
    (f.complete u).host.bus.queue = f.host.bus.queue := by
  have kept : Returned f (Flow.deliver { f with host := f.host.note (.returned u) } u) :=
    (returned_note f u).trans (returned_deliver _ u)
  unfold complete
  dsimp only
  split
  next => rfl
  next =>
    split
    next => rfl
    next =>
      obtain ⟨-, same⟩ | ⟨lowered, -⟩ | ⟨lowered, -⟩ :=
        requeue_cases (Flow.deliver { f with host := f.host.note (.returned u) } u) u.settled
      next =>
        rw [same]
        exact congrArg Bus.queue (bus_deliver _ u)
      next => simp [kept.stopping, stopping] at lowered
      next => simp [kept.stopping, stopping] at lowered

theorem cancel_cases (f : Flow) (index : Nat) :
    (∃ host, (∀ u ∈ f.host.bus.queue, u.key ≠ ⟨f.stream.id, index⟩) ∧
      f.host.cancel ⟨f.stream.id, index⟩ = (none, host) ∧ f.cancel index = { f with host } ∧
      host.bus.queue = f.host.bus.queue) ∨
    (∃ u fill host, u.key = ⟨f.stream.id, index⟩ ∧
      f.host.cancel ⟨f.stream.id, index⟩ = (some (u.fill fill), host) ∧
      f.cancel index = complete { f with host } (u.fill fill) ∧
      Removed f.host.bus.queue u host.bus.queue) := by
  have urb := Host.cancel_fst f.host ⟨f.stream.id, index⟩
  have queue := Host.queue_cancel f.host ⟨f.stream.id, index⟩
  cases cancelled : f.host.cancel ⟨f.stream.id, index⟩ with
  | mk back host =>
    rw [cancelled] at urb queue
    cases found : f.host.bus.queue.find? (·.key == ⟨f.stream.id, index⟩) with
    | none =>
      rw [found] at urb
      have urb : back = none := urb
      have absent : ∀ u ∈ f.host.bus.queue, u.key ≠ ⟨f.stream.id, index⟩ := fun u present => by
        simpa using List.find?_eq_none.1 found u present
      refine .inl ⟨host, absent, by rw [urb], by simp [cancel, cancelled, urb], queue.trans ?_⟩
      exact List.eraseP_of_forall_not fun u present => by simpa using absent u present
    | some u =>
      rw [found] at urb
      have urb : back = some (u.fill _) := urb
      obtain ⟨key, removed⟩ := removed_eraseP found
      -- `eraseP` takes the one that `find?` came upon.
      rw [← show host.bus.queue = _ from queue] at removed
      exact .inr ⟨u, _, host, key, by rw [urb], by simp [cancel, cancelled, urb], removed⟩

theorem returned_cancel (f : Flow) (index : Nat) : Returned f (f.cancel index) := by
  have steady := Host.steady_cancel f.host ⟨f.stream.id, index⟩
  obtain ⟨host, -, cancelled, same, queue⟩ | ⟨u, fill, host, key, cancelled, completed, removed⟩ :=
    cancel_cases f index
  next =>
    rw [cancelled] at steady
    rw [same]
    exact { Returned.refl f with host := steady, others := by rw [queue] }
  next =>
    rw [cancelled] at steady
    rw [completed]
    have own : u.key.stream = f.stream.id := by rw [key]
    have unqueued : Returned f { f with host } :=
      { Returned.refl f with host := steady, others := removed.ofOthers_eq own }
    exact unqueued.trans (returned_complete _ (by rw [u.key_fill, own]))

theorem custody_cancel (c : f.Custody roster hand) (index : Nat) :
    (f.cancel index).Custody roster hand := by
  obtain ⟨host, -, -, same, queue⟩ | ⟨u, fill, host, key, -, completed, removed⟩ :=
    cancel_cases f index
  next =>
    rw [same]
    exact c.of_ofStream_eq (by rw [queue])
  next =>
    rw [completed]
    have own : u.key.stream = f.stream.id := by rw [key]
    have unqueued := c.unqueue (removed.ofStream_perm own)
    exact custody_complete (unqueued.rewrite (u.identity_fill fill))

theorem queue_cancel (c : f.Custody roster hand) (stopping : f.stream.stopping = true)
    {index : Nat} {v : Urb} (queued : v ∈ ofStream f.stream.id (f.cancel index).host.bus.queue) :
    v ∈ ofStream f.stream.id f.host.bus.queue ∧ v.key.index ≠ index := by
  have keyed (here : v.key.index = index) (mine : v.key.stream = f.stream.id) :
      v.key = ⟨f.stream.id, index⟩ := by
    rw [← here, ← mine]
  obtain ⟨host, absent, -, same, queue⟩ | ⟨u, fill, host, key, -, completed, removed⟩ :=
    cancel_cases f index
  next =>
    rw [same, show ofStream f.stream.id _ = _ from congrArg _ queue] at queued
    obtain ⟨present, own⟩ := List.mem_filter.1 queued
    exact ⟨queued, fun here => absent v present (keyed here (eq_of_beq own))⟩
  next =>
    rw [completed, queue_complete { f with host } (u.fill fill) stopping] at queued
    have own : u.key.stream = f.stream.id := by rw [key]
    have split := removed.ofStream_perm own
    refine ⟨split.mem_iff.2 (List.mem_cons_of_mem u queued), fun here => ?_⟩
    -- The queue holds one request of each key, and that one has just left it.
    refine removed.key_ne own c queued ?_
    rw [key, keyed here (eq_of_beq (List.mem_filter.1 queued).2)]

theorem returned_cancelFrom (count index : Nat) (f : Flow) :
    Returned f (cancelFrom count index f) := by
  induction count generalizing index f with
  | zero => exact Returned.refl f
  | succ count ih => exact (returned_cancel f index).trans (ih (index + 1) (f.cancel index))

theorem custody_cancelFrom (c : f.Custody roster hand) (count index : Nat) :
    (cancelFrom count index f).Custody roster hand := by
  induction count generalizing index f with
  | zero => exact c
  | succ count ih => exact ih (custody_cancel c index) (index + 1)

theorem queue_cancelFrom (c : f.Custody roster hand) (stopping : f.stream.stopping = true)
    (count index : Nat) (below : ∀ v ∈ ofStream f.stream.id f.host.bus.queue, index ≤ v.key.index) :
    ∀ v ∈ ofStream f.stream.id (cancelFrom count index f).host.bus.queue,
      index + count ≤ v.key.index := by
  induction count generalizing index f with
  | zero => exact below
  | succ count ih =>
    have returned := returned_cancel f index
    intro v queued
    have later := ih (custody_cancel c index) (returned.stopping.trans stopping) (index + 1)
      (fun w here => by
        rw [returned.id] at here
        obtain ⟨before, other⟩ := queue_cancel c stopping here
        have := below w before
        omega)
    rw [returned.id] at later
    have := later v queued
    omega

theorem kept_setStopping (f : Flow) (on : Bool) :
    Kept f { f with stream := f.stream.setStopping on } :=
  { Kept.refl f with
    lane := by simp [Stream.setStopping]
    size := by simp }

theorem custody_setStopping (c : f.Custody roster hand) (on : Bool) :
    Custody { f with stream := f.stream.setStopping on } roster hand := by
  unfold Custody
  rw [Stream.parked_setStopping]
  exact c

theorem submitted_stop (f : Flow) : f.stop.stream.submitted = 0 := rfl

theorem kept_stop (f : Flow) : Kept f f.stop := by
  have raised := kept_setStopping f true
  unfold stop
  dsimp only
  split
  next =>
    have cancelled := (returned_cancelFrom f.stream.prepared 0
      { f with stream := f.stream.setStopping true }).toKept
    exact { raised.trans cancelled with }
  next => exact { raised with }

theorem custody_stop (c : f.Custody roster hand) : f.stop.Custody roster hand := by
  have raised := custody_setStopping c true
  unfold stop
  dsimp only
  split
  next => exact custody_cancelFrom raised f.stream.prepared 0
  next => exact raised

theorem queue_stop (c : f.Custody roster hand) (size : f.stream.parked.length = f.stream.prepared)
    (idle : f.stream.submitted = 0 → ofStream f.stream.id f.host.bus.queue = []) :
    ofStream f.stream.id f.stop.host.bus.queue = [] := by
  have raised := custody_setStopping c true
  unfold stop
  dsimp only
  split
  next running =>
    simp only [Bool.and_eq_true] at running
    have prepared : f.stream.lane.isSome = true := by
      simpa [Stream.setStopping] using running.2
    have stopping : (f.stream.setStopping true).stopping = true := by
      rw [Stream.stopping_setStopping, prepared]
      rfl
    -- Whatever were still queued would have an index beyond all those that were cancelled.
    have later := queue_cancelFrom raised stopping f.stream.prepared 0 (by simp)
    have after := custody_cancelFrom raised f.stream.prepared 0
    have returned := returned_cancelFrom f.stream.prepared 0
      { f with stream := f.stream.setStopping true }
    refine List.eq_nil_iff_forall_not_mem.2 fun v queued => ?_
    have beyond := later v queued
    have own : v ∈ ofStream f.stream.id (cancelFrom f.stream.prepared 0
        { f with stream := f.stream.setStopping true }).host.bus.queue := queued
    rw [← show _ = f.stream.id from returned.id] at own
    have within := (after.key_eq (List.mem_append_right _ (List.mem_append_left _ own))).2
    rw [returned.size] at within
    simp [size] at within
    omega
  next halted =>
    by_cases rest : f.stream.submitted = 0
    · exact idle rest
    -- A stream that claims to run without a lane has no requests that could be queued.
    · have unprepared : f.stream.lane = none := by
        have running : (f.stream.setStopping true).isRunning = true :=
          Stream.isRunning_iff.2 (Nat.pos_of_ne_zero rest)
        rw [running, Bool.true_and] at halted
        simpa [Stream.setStopping] using halted
      refine List.eq_nil_iff_forall_not_mem.2 fun v queued => ?_
      have prepared := Stream.isSome_lane (c.key_eq (u := v) (by simp [queued])).2
      simp [unprepared] at prepared

theorem sound_stop (sound : f.Sound roster) : f.stop.Sound roster := by
  refine sound.of_kept (kept_stop f) (custody_stop sound.custody) (.inl rfl) (fun _ => ?_)
    fun running => absurd rfl running
  rw [(kept_stop f).id]
  exact queue_stop sound.custody sound.size sound.idle

theorem kept_unqueue {queue : List Urb} (removed : Removed f.host.bus.queue u queue)
    (own : u.key.stream = f.stream.id) :
    Kept f { f with host := { f.host with bus := { f.host.bus with queue } } } :=
  { Kept.refl f with host := Host.steady_bus rfl rfl rfl rfl, others := removed.ofOthers_eq own }

theorem sound_complete (sound : f.Sound roster) {queue : List Urb}
    (removed : Removed f.host.bus.queue u queue) (own : u.key.stream = f.stream.id) (fill : Fill) :
    Sound (Flow.complete { f with host := { f.host with bus := { f.host.bus with queue } } }
      (u.fill fill)) roster := by
  have ownFilled : (u.fill fill).key.stream = f.stream.id := by rw [u.key_fill, own]
  have returned := returned_complete
    { f with host := { f.host with bus := { f.host.bus with queue } } } ownFilled
  -- A stream at rest has nothing queued, so that this one is running.
  have busy : f.stream.submitted ≠ 0 := fun rest => by
    have present : u ∈ ofStream f.stream.id f.host.bus.queue :=
      List.mem_filter.2 ⟨removed.mem, by simp [own]⟩
    simp [sound.idle rest] at present
  refine sound.of_kept ((kept_unqueue removed own).trans returned.toKept) ?_ ?_ ?_ ?_
  · have unqueued := sound.custody.unqueue (removed.ofStream_perm own)
    exact custody_complete (unqueued.rewrite (u.identity_fill fill))
  · rw [returned.submitted, returned.prepared]
    exact sound.submitted
  · rw [returned.submitted]
    exact fun rest => absurd rest busy
  · rw [returned.submitted, returned.stopping]
    exact sound.lowered

theorem kept_takeParked {urb : Option Urb} {index : Nat} {stream : Stream}
    (taken : f.stream.takeParked index = (urb, stream)) :
    Kept f { f with stream } ∧ stream.submitted = f.stream.submitted ∧
      stream.stopping = f.stream.stopping := by
  have size := congrArg List.length (f.stream.parked_takeParked index)
  have flag := f.stream.stopping_takeParked index
  have rest := f.stream.takeParked_snd index
  rw [taken] at size flag rest
  rw [List.length_set] at size
  dsimp only at size flag rest
  refine ⟨?_, by rw [rest], flag⟩
  have lane : stream.lane.isSome = f.stream.lane.isSome := by simp [rest]
  rw [rest] at lane size ⊢
  exact { Kept.refl f with lane, size }

theorem custody_takeParked {index : Nat} {stream : Stream} (c : f.Custody roster hand)
    (taken : f.stream.takeParked index = (some u, stream)) :
    Custody { f with stream } roster (u :: hand) := by
  have parked := f.stream.parked_takeParked index
  have present : f.stream.parked[index]? = some (some u) := Stream.takeParked_some (by rw [taken])
  have id := (kept_takeParked taken).1.id
  rw [taken] at parked
  unfold Custody
  rw [id, parked]
  exact c.take present

structure Started (f : Flow) (roster : List UrbIdentity) (goal : Nat)
    (result : Except Failure Unit × Flow) : Prop where
  kept : Kept f result.2
  custody : result.2.Custody roster []
  ok : result.1 = .ok () → result.2.stream.submitted = goal ∧ result.2.stream.stopping = false
  error : ∀ e, result.1 = .error e →
    result.2.stream.submitted = 0 ∧ ofStream f.stream.id result.2.host.bus.queue = []

theorem started_stop {goal : Nat} (kept : Kept f f') (c : f'.Custody roster [])
    (size : f.stream.parked.length = f.stream.prepared)
    (idle : f'.stream.submitted = 0 → ofStream f.stream.id f'.host.bus.queue = [])
    (e : Failure) : Started f roster goal (.error e, f'.stop) where
  kept := kept.trans (kept_stop f')
  custody := custody_stop c
  ok impossible := by cases impossible
  error _ _ := by
    rw [← kept.id] at idle ⊢
    exact ⟨rfl, queue_stop c (by rw [kept.size, kept.prepared, size]) idle⟩

theorem handing_refused {index : Nat} {stream : Stream} {host : Host} {reason : String}
    (c : f.Custody roster []) (taken : f.stream.takeParked index = (some u, stream))
    (refused : f.host.submit u = (some reason, host)) :
    Kept f (park { f with host, stream } u) ∧ (park { f with host, stream } u).Custody roster [] ∧
      host.bus.queue = f.host.bus.queue ∧ stream.submitted = f.stream.submitted := by
  have custody := custody_takeParked c taken
  obtain ⟨kept, submitted, -⟩ := kept_takeParked taken
  have queue := Host.queue_submit f.host u
  have steady := Host.steady_submit f.host u
  rw [refused] at queue steady
  have queue : host.bus.queue = f.host.bus.queue := queue
  have untouched : Custody { f with host, stream } roster [u] :=
    custody.of_ofStream_eq (congrArg (ofStream stream.id) queue)
  refine ⟨?_, custody_park untouched, queue, submitted⟩
  exact
    { (kept.trans (returned_park _ u).toKept) with
      host := steady
      others := congrArg (ofOthers f.stream.id) queue }

theorem handing_accepted {index : Nat} {stream : Stream} {host : Host}
    (c : f.Custody roster []) (taken : f.stream.takeParked index = (some u, stream))
    (accepted : f.host.submit u = (none, host)) :
    Kept f { f with host, stream := { stream with submitted := index + 1 } } ∧
      Custody { f with host, stream := { stream with submitted := index + 1 } } roster [] ∧
      stream.stopping = f.stream.stopping := by
  have custody := custody_takeParked c taken
  obtain ⟨kept, -, flag⟩ := kept_takeParked taken
  have queue := Host.queue_submit f.host u
  have steady := Host.steady_submit f.host u
  rw [accepted] at queue steady
  have own : u.key.stream = f.stream.id := by rw [← kept.id]; exact custody.key_hand.1
  have queued : host.bus.queue = f.host.bus.queue ++ [u] := queue
  refine ⟨?_, ?_, flag⟩
  · exact
      { kept with
        host := steady
        others := by
          rw [queued, ofOthers_append, ofOthers_cons_own own, ofOthers_nil, List.append_nil] }
  · unfold Custody
    rw [queued]
    exact DvbReceiver.Custody.submit custody

theorem started_submitFrom (count index : Nat) (c : f.Custody roster [])
    (size : f.stream.parked.length = f.stream.prepared) (reached : f.stream.submitted = index)
    (lowered : f.stream.stopping = false)
    (idle : index = 0 → ofStream f.stream.id f.host.bus.queue = []) :
    Started f roster (index + count) (submitFrom count index f) := by
  induction count generalizing index f with
  | zero =>
    exact ⟨Kept.refl f, c, fun _ => ⟨reached, lowered⟩, fun e impossible => by cases impossible⟩
  | succ count ih =>
    have still : f.stream.submitted = 0 → ofStream f.stream.id f.host.bus.queue = [] :=
      fun rest => idle (reached ▸ rest)
    unfold submitFrom
    split
    -- Every way out but the last stops the stream, which takes back what was queued before.
    next => exact started_stop (Kept.refl f) c size still _
    next u stream taken =>
      split
      next reason host refused =>
        obtain ⟨kept, custody, queue, submitted⟩ := handing_refused c taken refused
        refine started_stop kept custody size (fun rest => ?_) _
        rw [show (park { f with host, stream } u).host.bus.queue = f.host.bus.queue from queue]
        exact still (submitted ▸ rest)
      next host accepted =>
        obtain ⟨kept, custody, flag⟩ := handing_accepted c taken accepted
        have later := ih (index + 1) custody (by rw [kept.size, kept.prepared, size])
          rfl (flag.trans lowered) (by omega)
        have goal : index + 1 + count = index + (count + 1) := by omega
        rw [goal] at later
        refine ⟨kept.trans later.kept, later.custody, later.ok, fun e failed => ?_⟩
        obtain ⟨rest, gone⟩ := later.error e failed
        exact ⟨rest, (congrArg (ofStream · _) kept.id.symm).trans gone⟩

/-- Handing over a prepared stream at rest either succeeds with all requests, or leaves none queued. -/
theorem started_start (sound : f.Sound roster) (prepared : f.stream.lane.isSome = true)
    (rest : f.stream.submitted = 0) : Started f roster f.stream.prepared f.start := by
  have running : ¬ f.stream.isRunning = true := by simp [Stream.isRunning_iff, rest]
  have lowered := kept_setStopping f false
  have handed := started_submitFrom (f := { f with stream := f.stream.setStopping false })
    f.stream.prepared 0 (custody_setStopping sound.custody false)
    (by rw [lowered.size, lowered.prepared, sound.size]) rest
    (Stream.stopping_setStopping ..) (fun _ => sound.idle rest)
  unfold start
  rw [if_neg (by simp [Option.isSome_iff_ne_none.1 prepared]), if_neg running]
  rw [Nat.zero_add] at handed
  exact ⟨lowered.trans handed.kept, handed.custody, handed.ok, handed.error⟩

theorem Started.sound {result : Except Failure Unit × Flow} (sound : f.Sound roster)
    (prepared : f.stream.lane.isSome = true)
    (started : Started f roster f.stream.prepared result) : result.2.Sound roster := by
  have positive : 0 < f.stream.prepared := by simpa [prepared] using sound.lane
  cases outcome : result.1 with
  | ok =>
    obtain ⟨all, lowered⟩ := started.ok outcome
    refine sound.of_kept started.kept started.custody (.inr ?_) (fun rest => ?_) fun _ => lowered
    · rw [all, started.kept.prepared]
    · omega
  | error e =>
    obtain ⟨none, gone⟩ := started.error e outcome
    refine sound.of_kept started.kept started.custody (.inl none) (fun _ => ?_)
      fun running => absurd none running
    rw [started.kept.id]
    exact gone

theorem start_unprepared (unprepared : f.stream.lane.isSome = false) : f.start = (.ok (), f) := by
  simp [start, Option.isNone_iff_eq_none.2 (by simpa using unprepared)]

theorem start_running (running : f.stream.submitted ≠ 0) (prepared : f.stream.lane.isSome = true) :
    f.start = (.error .streamRunning, f) := by
  have at_work : f.stream.isRunning = true := Stream.isRunning_iff.2 (Nat.pos_of_ne_zero running)
  unfold start
  rw [if_neg (by simp [Option.isSome_iff_ne_none.1 prepared]), if_pos at_work]

theorem kept_sound_start (sound : f.Sound roster) :
    Kept f f.start.2 ∧ f.start.2.Sound roster := by
  cases prepared : f.stream.lane.isSome with
  | false =>
    rw [start_unprepared prepared]
    exact ⟨Kept.refl f, sound⟩
  | true =>
    by_cases rest : f.stream.submitted = 0
    · have started := started_start sound prepared rest
      exact ⟨started.kept, started.sound sound prepared⟩
    · rw [start_running rest prepared]
      exact ⟨Kept.refl f, sound⟩

end Flow

end DvbReceiver

import DvbReceiver.Proofs.Stream.Interleaving

set_option autoImplicit false

namespace DvbReceiver

namespace Flow

variable {f : Flow} {roster : List UrbIdentity} {hand : List Urb} {back : Return}

theorem returned_advance (f : Flow) (own : back.urb.key.stream = f.stream.id) :
    Returned f (f.advance back).2 := by
  cases back with
  | taken u =>
    have noted := returned_note f u
    simp only [advance]
    split
    next => exact noted
    next =>
      split
      next => exact noted
      next => exact noted.trans (returned_deliver _ u)
  | delivered u =>
    have moved := returned_requeue (u := u.settled) f (by rw [u.key_settled]; exact own)
    simp only [advance]
    split
    next requeued =>
      rw [requeued] at moved
      exact moved
    next requeued =>
      rw [requeued] at moved
      exact moved
  | leaving u => exact returned_park f u

theorem custody_advance (c : f.Custody roster (back.urb :: hand)) :
    (f.advance back).2.Custody roster ((f.advance back).1.toList.map Return.urb ++ hand) := by
  cases back with
  | taken u =>
    have noted : Custody { f with host := f.host.note (.returned u) } roster (u :: hand) := c
    simp only [advance]
    split
    next unprepared =>
      have prepared := Stream.isSome_lane c.key_hand.2
      simp [Option.isNone_iff_eq_none.1 unprepared] at prepared
    next =>
      split
      next => exact noted
      next => exact custody_deliver noted
  | delivered u =>
    have moved := custody_requeue (u := u.settled) (c.rewrite u.identity_settled)
    simp only [advance]
    split
    next requeued =>
      rw [requeued] at moved
      exact moved
    next requeued =>
      rw [requeued] at moved
      exact moved
  | leaving u => exact custody_park c

theorem queue_advance (f : Flow) (back : Return) (stopping : f.stream.stopping = true) :
    (f.advance back).2.host.bus.queue = f.host.bus.queue := by
  cases back with
  | taken u =>
    simp only [advance]
    split
    next => rfl
    next =>
      split
      next => rfl
      next => exact congrArg Bus.queue (bus_deliver _ u)
  | delivered u =>
    obtain ⟨-, same⟩ | ⟨lowered, -⟩ | ⟨lowered, -⟩ := requeue_cases f u.settled
    next => simp [advance, same]
    next => simp [stopping] at lowered
    next => simp [stopping] at lowered
  | leaving u => rfl

theorem Custody.prepared {u : Urb} (c : f.Custody roster (u :: hand)) :
    f.stream.lane.isSome = true :=
  Stream.isSome_lane c.key_hand.2

end Flow

def Admin.hand : Admin → List Urb
  | .handing _ u | .refused _ u _ => [u]
  | .returning back _ _ => [back.urb]
  | _ => []

/-- Nothing goes to the bus again: the flag is raised, or there are no requests. -/
def Stream.Barred (s : Stream) : Prop :=
  s.stopping = s.lane.isSome

theorem Stream.not_barred_iff {s : Stream} :
    ¬ s.Barred ↔ s.stopping = false ∧ s.lane.isSome = true := by
  unfold Barred stopping
  cases s.lane with
  | none => simp
  | some lane => simp

theorem Stream.barred_setStopping (s : Stream) : (s.setStopping true).Barred := by
  unfold Barred
  rw [stopping_setStopping, Bool.true_and]
  simp [setStopping]

theorem Flow.Returned.barred {f f' : Flow} (returned : Flow.Returned f f')
    (barred : f.stream.Barred) : f'.stream.Barred := by
  unfold Stream.Barred
  rw [returned.stopping, returned.lane]
  exact barred

namespace Traffic

variable {t : Traffic} {roster : List UrbIdentity}

def hand (t : Traffic) : List Urb :=
  t.admin.hand ++ t.flight.map Return.urb

def queued (t : Traffic) : List Urb :=
  ofStream t.flow.stream.id t.flow.host.bus.queue

def Phase (t : Traffic) : Prop :=
  match t.admin with
  | .resting _ =>
    t.flow.stream.submitted = 0 ∨
      t.flow.stream.submitted = t.flow.stream.prepared ∧ t.flow.stream.stopping = false
  | .taking index =>
    ¬ t.flow.stream.Barred ∧ t.flow.stream.submitted = index ∧ index ≤ t.flow.stream.prepared
  | .handing index _ =>
    ¬ t.flow.stream.Barred ∧ t.flow.stream.submitted = index ∧ index < t.flow.stream.prepared
  | .refused .. => ¬ t.flow.stream.Barred
  | .raising _ => True
  | .cancelling todo _ => t.flow.stream.Barred ∧ ∀ u ∈ t.queued, u.key.index ∈ todo
  | .returning _ todo _ =>
    t.flow.stream.Barred ∧ t.flow.stream.submitted ≠ 0 ∧ ∀ u ∈ t.queued, u.key.index ∈ todo
  | .waiting _ => t.flow.stream.Barred ∧ t.queued = []

structure Sound (t : Traffic) (roster : List UrbIdentity) : Prop where
  custody : t.flow.Custody roster t.hand
  size : t.flow.stream.parked.length = t.flow.stream.prepared
  idle : t.flow.stream.submitted = 0 → t.queued = [] ∧ t.flight = []
  phase : t.Phase

theorem sound_resting {f : Flow} (sound : f.Sound roster) (answer : Except Failure Unit) :
    Sound ⟨f, .resting answer, []⟩ roster where
  custody := sound.custody
  size := sound.size
  idle rest := ⟨sound.idle rest, rfl⟩
  phase := by
    by_cases rest : f.stream.submitted = 0
    · exact .inl rest
    · exact .inr ⟨sound.submitted.resolve_left rest, sound.lowered rest⟩

theorem Phase.of_kept {flow : Flow} {flight : List Return} (phase : t.Phase)
    (submitted : flow.stream.submitted = t.flow.stream.submitted)
    (prepared : flow.stream.prepared = t.flow.stream.prepared)
    (stopping : flow.stream.stopping = t.flow.stream.stopping)
    (lane : flow.stream.lane.isSome = t.flow.stream.lane.isSome)
    (narrower : t.flow.stream.Barred →
      ∀ u ∈ ofStream flow.stream.id flow.host.bus.queue, u ∈ t.queued) :
    Phase { t with flow, flight } := by
  have barred : flow.stream.Barred ↔ t.flow.stream.Barred := by
    unfold Stream.Barred
    rw [stopping, lane]
  obtain ⟨before, admin, earlier⟩ := t
  -- Only the phases behind the raised flag speak of the queue, and there it can only get shorter.
  cases admin with
  | resting => simpa [Phase, submitted, prepared, stopping] using phase
  | taking => simpa [Phase, submitted, prepared, barred] using phase
  | handing => simpa [Phase, submitted, prepared, barred] using phase
  | refused => simpa [Phase, barred] using phase
  | raising => exact phase
  | cancelling todo answer =>
    obtain ⟨raised, among⟩ := phase
    exact ⟨barred.2 raised, fun u present => among u (narrower raised u present)⟩
  | returning back todo answer =>
    obtain ⟨raised, running, among⟩ := phase
    exact ⟨barred.2 raised, by rwa [submitted], fun u present =>
      among u (narrower raised u present)⟩
  | waiting answer =>
    obtain ⟨raised, gone⟩ := phase
    refine ⟨barred.2 raised, List.eq_nil_iff_forall_not_mem.2 fun u present => ?_⟩
    have before := narrower raised u present
    rw [gone] at before
    cases before

theorem Sound.busy (sound : t.Sound roster) {u : Urb} (present : u ∈ t.queued) :
    t.flow.stream.submitted ≠ 0 := by
  intro rest
  rw [(sound.idle rest).1] at present
  cases present

theorem sound_pop (sound : t.Sound roster) (position : Nat) (fill : Fill) :
    (t.move (.pop position fill)).Sound roster := by
  simp only [move]
  split
  next => exact sound
  next u there =>
    have removed := removed_eraseIdx there
    split
    next own =>
      have left := removed.ofStream_perm own
      have running := sound.busy (left.mem_iff.2 List.mem_cons_self)
      have unqueued := (sound.custody.unqueue left).rewrite (u.identity_fill fill)
      exact
        { custody := unqueued.of_perm (by
            simp only [hand, List.map_append, List.map_cons, List.map_nil, Return.urb]
            rw [← List.append_assoc]
            exact List.perm_append_singleton ..)
          size := sound.size
          idle := fun rest => absurd rest running
          phase := sound.phase.of_kept rfl rfl rfl rfl fun _ v present =>
            left.mem_iff.2 (List.mem_cons_of_mem u present) }
    next foreign =>
      have same := removed.ofStream_eq foreign
      exact
        { custody := sound.custody.of_ofStream_eq same
          size := sound.size
          idle := fun rest => ⟨same.trans (sound.idle rest).1, (sound.idle rest).2⟩
          phase := sound.phase.of_kept rfl rfl rfl rfl fun _ v present => by
            rwa [same] at present }

theorem sound_foreign (sound : t.Sound roster) (u : Urb) :
    (t.move (.foreign u)).Sound roster := by
  simp only [move]
  split
  next => exact sound
  next foreign =>
    have same : ofStream t.flow.stream.id (t.flow.host.submit u).2.bus.queue = t.queued := by
      rw [Host.queue_submit]
      split
      next => rw [ofStream_append, ofStream_cons_foreign foreign, ofStream_nil, List.append_nil]; rfl
      next => rfl
    exact
      { custody := sound.custody.of_ofStream_eq same
        size := sound.size
        idle := fun rest => ⟨same.trans (sound.idle rest).1, (sound.idle rest).2⟩
        phase := sound.phase.of_kept rfl rfl rfl rfl fun _ v present => by
          rwa [same] at present }

theorem Sound.custody_flight (sound : t.Sound roster) {which : Nat} {back : Return}
    (there : t.flight[which]? = some back) :
    t.flow.Custody roster
      (back.urb :: (t.admin.hand ++
        (t.flight.take which ++ t.flight.drop (which + 1)).map Return.urb)) := by
  obtain ⟨within, rfl⟩ := List.getElem?_eq_some_iff.1 there
  have whole : t.flight = t.flight.take which ++ t.flight[which] :: t.flight.drop (which + 1) := by
    rw [List.getElem_cons_drop, List.take_append_drop]
  refine sound.custody.of_perm ?_
  rw [hand]
  conv_rhs => rw [whole]
  simp only [List.map_append, List.map_cons]
  refine List.Perm.symm (List.Perm.trans ?_ List.perm_middle)
  exact List.perm_middle.append_left _

theorem Sound.running (sound : t.Sound roster) {which : Nat} {back : Return}
    (there : t.flight[which]? = some back) : t.flow.stream.submitted ≠ 0 := by
  intro rest
  rw [(sound.idle rest).2] at there
  cases there

theorem sound_advance (sound : t.Sound roster) (which : Nat) :
    (t.move (.advance which)).Sound roster := by
  simp only [move]
  split
  next => exact sound
  next back there =>
    have custody := sound.custody_flight there
    have returned := Flow.returned_advance t.flow custody.key_hand.1
    have running := sound.running there
    have moved := Flow.custody_advance custody
    exact
      { custody := by
          refine moved.of_perm ?_
          simp only [hand, List.map_append]
          refine List.Perm.trans ?_ (List.perm_append_comm_assoc ..)
          exact (List.perm_append_comm_assoc ..).append_left _
        size := by
          rw [returned.size, returned.prepared, sound.size]
        idle := fun rest => absurd (returned.submitted ▸ rest) running
        phase := by
          refine sound.phase.of_kept returned.submitted returned.prepared returned.stopping
            returned.lane fun raised v present => ?_
          -- Behind the flag a request that comes back does not go to the bus again.
          have stopping : t.flow.stream.stopping = true := raised.trans custody.prepared
          rw [returned.id, Flow.queue_advance _ _ stopping] at present
          exact present }

variable {f : Flow} {flight : List Return}

theorem sound_taking {index : Nat} (sound : Sound ⟨f, .taking index, flight⟩ roster) :
    (administer ⟨f, .taking index, flight⟩).Sound roster := by
  obtain ⟨unbarred, submitted, within⟩ := sound.phase
  simp only [administer]
  split
  next all =>
    have lowered : f.stream.stopping = false := (Stream.not_barred_iff.1 unbarred).1
    exact ⟨sound.custody, sound.size, sound.idle, .inr ⟨submitted.trans all, lowered⟩⟩
  next more =>
    split
    next => exact ⟨sound.custody, sound.size, sound.idle, trivial⟩
    next u stream taken =>
      have custody : f.Custody roster (flight.map Return.urb) := sound.custody
      have held := Flow.custody_takeParked custody taken
      obtain ⟨kept, same, flag⟩ := Flow.kept_takeParked taken
      exact
        { custody := held
          size := by
            rw [kept.size, kept.prepared]
            exact sound.size
          idle := fun rest => by
            obtain ⟨gone, landed⟩ := sound.idle (same.symm.trans rest)
            exact ⟨(congrArg (ofStream · f.host.bus.queue) kept.id).trans gone, landed⟩
          phase := by
            obtain ⟨lowered, prepared⟩ := Stream.not_barred_iff.1 unbarred
            refine ⟨?_, same.trans submitted, ?_⟩
            · exact Stream.not_barred_iff.2 ⟨flag.trans lowered, kept.lane.trans prepared⟩
            · exact lt_of_lt_of_eq (Nat.lt_of_le_of_ne within more) kept.prepared.symm }

theorem sound_handing {index : Nat} {u : Urb}
    (sound : Sound ⟨f, .handing index u, flight⟩ roster) :
    (administer ⟨f, .handing index u, flight⟩).Sound roster := by
  obtain ⟨unbarred, submitted, within⟩ := sound.phase
  have custody : f.Custody roster (u :: flight.map Return.urb) := sound.custody
  have queue := Host.queue_submit f.host u
  simp only [administer]
  split
  next reason host refused =>
    rw [refused] at queue
    have queue : host.bus.queue = f.host.bus.queue := queue
    exact
      { custody := custody.of_ofStream_eq (congrArg (ofStream f.stream.id) queue)
        size := sound.size
        idle := fun rest => by
          obtain ⟨gone, landed⟩ := sound.idle rest
          exact ⟨(congrArg (ofStream f.stream.id) queue).trans gone, landed⟩
        phase := unbarred }
  next host accepted =>
    rw [accepted] at queue
    have queue : host.bus.queue = f.host.bus.queue ++ [u] := queue
    exact
      { custody := by
          have after := custody.submit
          rw [← queue] at after
          exact after
        size := sound.size
        idle := fun rest => by cases rest
        phase := ⟨unbarred, rfl, within⟩ }

theorem sound_refused {index : Nat} {u : Urb} {reason : String}
    (sound : Sound ⟨f, .refused index u reason, flight⟩ roster) :
    (administer ⟨f, .refused index u reason, flight⟩).Sound roster := by
  have custody : f.Custody roster (u :: flight.map Return.urb) := sound.custody
  have size := (Flow.returned_park f u).size.trans sound.size
  exact ⟨Flow.custody_park custody, size, sound.idle, trivial⟩

theorem sound_raising {answer : Except Failure Unit}
    (sound : Sound ⟨f, .raising answer, flight⟩ roster) :
    (administer ⟨f, .raising answer, flight⟩).Sound roster where
  custody := Flow.custody_setStopping sound.custody true
  size := (Flow.kept_setStopping f true).size.trans sound.size
  idle := sound.idle
  phase := by
    have lane : (f.stream.setStopping true).lane.isSome = f.stream.lane.isSome :=
      (Flow.kept_setStopping f true).lane
    refine ⟨f.stream.barred_setStopping, fun u present => ?_⟩
    have present : u ∈ ofStream f.stream.id f.host.bus.queue := present
    have custody : f.Custody roster (flight.map Return.urb) := sound.custody
    have held : u ∈ flight.map Return.urb ++
        (ofStream f.stream.id f.host.bus.queue ++ f.stream.parked.filterMap id) := by simp [present]
    have within : u.key.index < f.stream.parked.length := (custody.key_eq held).2
    have running : f.stream.submitted ≠ 0 := sound.busy present
    -- Since something is queued the stream was running, and all of its indices are to be cancelled.
    have active : (f.stream.setStopping true).isRunning &&
        (f.stream.setStopping true).lane.isSome := by
      rw [lane, Stream.isSome_lane within, Bool.and_true]
      exact Stream.isRunning_iff.2 (Nat.pos_of_ne_zero running)
    rw [if_pos active, List.mem_range]
    exact lt_of_lt_of_eq within sound.size

theorem sound_cancelling {todo : List Nat} {answer : Except Failure Unit}
    (sound : Sound ⟨f, .cancelling todo answer, flight⟩ roster) :
    (administer ⟨f, .cancelling todo answer, flight⟩).Sound roster := by
  obtain ⟨barred, among⟩ := sound.phase
  cases todo with
  | nil =>
    refine ⟨sound.custody, sound.size, sound.idle, barred, ?_⟩
    exact List.eq_nil_iff_forall_not_mem.2 fun u present => by cases among u present
  | cons index todo =>
    have custody : f.Custody roster (flight.map Return.urb) := sound.custody
    obtain ⟨host, absent, cancelled, -, queue⟩ | ⟨u, fill, host, key, cancelled, -, removed⟩ :=
      f.cancel_cases index
    next =>
      have same : ofStream f.stream.id host.bus.queue = ofStream f.stream.id f.host.bus.queue :=
        congrArg _ queue
      simp only [administer, cancelled]
      exact
        { custody := custody.of_ofStream_eq same
          size := sound.size
          idle := fun rest => ⟨same.trans (sound.idle rest).1, (sound.idle rest).2⟩
          phase := by
            refine ⟨barred, fun v present => ?_⟩
            have present : v ∈ ofStream f.stream.id f.host.bus.queue := same ▸ present
            refine (List.mem_cons.1 (among v present)).resolve_left fun here => ?_
            obtain ⟨there, own⟩ := List.mem_filter.1 present
            exact absent v there (by rw [← here, ← eq_of_beq own]) }
    next =>
      have own : u.key.stream = f.stream.id := by rw [key]
      have left := removed.ofStream_perm own
      have unqueued := (custody.unqueue left).rewrite (u.identity_fill fill)
      simp only [administer, cancelled]
      have running : f.stream.submitted ≠ 0 :=
        sound.busy (left.mem_iff.2 List.mem_cons_self)
      exact
        { custody := unqueued
          size := sound.size
          idle := fun rest => absurd rest running
          phase := by
            refine ⟨barred, running, fun v present => ?_⟩
            have present : v ∈ ofStream f.stream.id host.bus.queue := present
            have before := left.mem_iff.2 (List.mem_cons_of_mem u present)
            refine (List.mem_cons.1 (among v before)).resolve_left fun here => ?_
            -- The one of this index has just been taken out, and there was no other.
            refine removed.key_ne own custody present ?_
            rw [key, ← here, ← eq_of_beq (List.mem_filter.1 present).2] }

theorem sound_returning {back : Return} {todo : List Nat} {answer : Except Failure Unit}
    (sound : Sound ⟨f, .returning back todo answer, flight⟩ roster) :
    (administer ⟨f, .returning back todo answer, flight⟩).Sound roster := by
  obtain ⟨barred, running, among⟩ := sound.phase
  have custody : f.Custody roster (back.urb :: flight.map Return.urb) := sound.custody
  have returned := Flow.returned_advance f custody.key_hand.1
  have moved := Flow.custody_advance custody
  have queue := Flow.queue_advance f back (barred.trans custody.prepared)
  simp only [administer]
  cases step : f.advance back with
  | mk next flow =>
    rw [step] at returned moved queue
    have still := returned.barred barred
    have same : ofStream flow.stream.id flow.host.bus.queue =
        ofStream f.stream.id f.host.bus.queue := by
      rw [returned.id, queue]
    have size : flow.stream.parked.length = flow.stream.prepared :=
      returned.size.trans (sound.size.trans returned.prepared.symm)
    have active : flow.stream.submitted ≠ 0 := returned.submitted ▸ running
    have within : ∀ v ∈ ofStream flow.stream.id flow.host.bus.queue, v.key.index ∈ todo := by
      rw [same]
      exact among
    cases next with
    | none => exact ⟨moved, size, fun rest => absurd rest active, still, within⟩
    | some next => exact ⟨moved, size, fun rest => absurd rest active, still, active, within⟩

theorem sound_waiting {answer : Except Failure Unit}
    (sound : Sound ⟨f, .waiting answer, flight⟩ roster) :
    (administer ⟨f, .waiting answer, flight⟩).Sound roster := by
  obtain ⟨barred, gone⟩ := sound.phase
  simp only [administer]
  split
  next full =>
    -- With all places filled nobody can hold a request any more.
    have landed : flight = [] := List.map_eq_nil_iff.1 (sound.custody.hand_eq_nil full)
    exact ⟨sound.custody, sound.size, fun _ => ⟨gone, landed⟩, .inl rfl⟩
  next => exact sound

theorem sound_administer (sound : t.Sound roster) : t.administer.Sound roster := by
  obtain ⟨f, admin, flight⟩ := t
  cases admin with
  | resting => exact sound
  | taking => exact sound_taking sound
  | handing => exact sound_handing sound
  | refused => exact sound_refused sound
  | raising => exact sound_raising sound
  | cancelling => exact sound_cancelling sound
  | returning => exact sound_returning sound
  | waiting => exact sound_waiting sound

theorem sound_start (sound : t.Sound roster) : (t.move .start).Sound roster := by
  obtain ⟨f, admin, flight⟩ := t
  cases admin with
  | resting answer =>
    have custody : f.Custody roster (flight.map Return.urb) := sound.custody
    simp only [move]
    split
    next => exact ⟨custody, sound.size, sound.idle, sound.phase⟩
    next prepared =>
      split
      next => exact ⟨custody, sound.size, sound.idle, sound.phase⟩
      next halted =>
        have rest : f.stream.submitted = 0 := by simpa [Stream.isRunning_iff] using halted
        have lowered := Flow.kept_setStopping f false
        exact
          { custody := Flow.custody_setStopping custody false
            size := lowered.size.trans sound.size
            idle := sound.idle
            phase := by
              refine ⟨Stream.not_barred_iff.2 ⟨?_, lowered.lane.trans ?_⟩, rest, Nat.zero_le _⟩
              · exact Stream.stopping_setStopping ..
              · simpa [Option.isNone_iff_eq_none, Option.isSome_iff_ne_none] using prepared }
  | _ => exact sound

theorem sound_stop (sound : t.Sound roster) : (t.move .stop).Sound roster := by
  obtain ⟨f, admin, flight⟩ := t
  cases admin with
  | resting => exact ⟨sound.custody, sound.size, sound.idle, trivial⟩
  | _ => exact sound

theorem sound_expire (sound : t.Sound roster) : (t.move .expire).Sound roster := by
  obtain ⟨f, admin, flight⟩ := t
  cases admin with
  | waiting answer =>
    obtain ⟨barred, gone⟩ := sound.phase
    refine ⟨sound.custody, sound.size, sound.idle, barred, fun u present => ?_⟩
    have present : u ∈ queued ⟨f, .waiting answer, flight⟩ := present
    rw [gone] at present
    cases present
  | _ => exact sound

theorem sound_move (sound : t.Sound roster) (m : Move) : (t.move m).Sound roster := by
  -- One lemma for each kind of move.
  cases m with
  | start => exact sound_start sound
  | stop => exact sound_stop sound
  | administer => exact sound_administer sound
  | expire => exact sound_expire sound
  | pop position fill => exact sound_pop sound position fill
  | advance which => exact sound_advance sound which
  | foreign u => exact sound_foreign sound u

theorem sound_run (sound : t.Sound roster) (moves : List Move) : (t.run moves).Sound roster := by
  induction moves generalizing t with
  | nil => exact sound
  | cons m rest ih => exact ih (sound_move sound m)

end Traffic

end DvbReceiver

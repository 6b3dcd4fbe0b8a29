import DvbReceiver.Proofs.Stream.Ownership

set_option autoImplicit false

namespace DvbReceiver

/-- How far a request has come on its way back from the bus. -/
inductive Return where
  | taken (urb : Urb)
  | delivered (urb : Urb)
  | leaving (urb : Urb)

namespace Return

def urb : Return → Urb
  | .taken u | .delivered u | .leaving u => u

def rank : Return → Nat
  | .taken _ => 3
  | .delivered _ => 2
  | .leaving _ => 1

end Return

namespace Flow

/-- One step of what `complete` does. Looking at the flag and queueing again are one step: whoever
raises the flag has to wait until the bus has answered. -/
def advance (f : Flow) : Return → Option Return × Flow
  | .taken u =>
    let f := { f with host := f.host.note (.returned u) }
    if f.stream.lane.isNone then (none, f)
    else if u.status.isTerminal then (some (.leaving u), f)
    else (some (.delivered u), f.deliver u)
  | .delivered u =>
    match f.requeue u.settled with
    | (none, f) => (none, f)
    | (some u, f) => (some (.leaving u), f)
  | .leaving u => (none, f.park u)

def finish (f : Flow) : Return → Flow
  | .taken u => f.complete u
  | .delivered u =>
    match f.requeue u.settled with
    | (none, f) => f
    | (some u, f) => f.park u
  | .leaving u => f.park u

theorem advance_cases (f : Flow) (back : Return) :
    (f.advance back = (none, f.finish back)) ∨
    ∃ next f', f.advance back = (some next, f') ∧ f'.finish next = f.finish back ∧
      next.rank < back.rank := by
  cases back with
  | taken u =>
    simp only [advance, finish, complete]
    split
    next => exact .inl rfl
    next =>
      split
      next => exact .inr ⟨_, _, rfl, rfl, by simp [Return.rank]⟩
      next => exact .inr ⟨_, _, rfl, rfl, by simp [Return.rank]⟩
  | delivered u =>
    simp only [advance, finish]
    split
    next => exact .inl rfl
    next => exact .inr ⟨_, _, rfl, rfl, by simp [Return.rank]⟩
  | leaving u => exact .inl rfl

end Flow

/-- Where the thread stands that starts and stops a stream. Once something went wrong it knows what
it will answer in the end. -/
inductive Admin where
  | resting (answer : Except Failure Unit)
  | taking (index : Nat)
  | handing (index : Nat) (urb : Urb)
  | refused (index : Nat) (urb : Urb) (reason : String)
  | raising (answer : Except Failure Unit)
  | cancelling (todo : List Nat) (answer : Except Failure Unit)
  | returning (back : Return) (todo : List Nat) (answer : Except Failure Unit)
  | waiting (answer : Except Failure Unit)

structure Traffic where
  flow : Flow
  admin : Admin
  flight : List Return := []

namespace Traffic

def missing (s : Stream) : List Nat :=
  (List.range s.parked.length).filter fun i => (s.parked[i]?).join.isNone

def administer (t : Traffic) : Traffic :=
  let f := t.flow
  match t.admin with
  | .resting _ => t
  | .taking index =>
    if index = f.stream.prepared then { t with admin := .resting (.ok ()) }
    else
      match f.stream.takeParked index with
      | (none, _) =>
        { t with admin := .raising (.error (.transfer index "urb still owned by the bus")) }
      | (some u, stream) => { t with flow := { f with stream }, admin := .handing index u }
  | .handing index u =>
    match f.host.submit u with
    | (some reason, host) => { t with flow := { f with host }, admin := .refused index u reason }
    | (none, host) =>
      { t with
        flow := { f with host, stream := { f.stream with submitted := index + 1 } }
        admin := .taking (index + 1) }
  | .refused index u reason =>
    { t with flow := f.park u, admin := .raising (.error (.transfer index reason)) }
  | .raising answer =>
    let stream := f.stream.setStopping true
    let todo := if stream.isRunning && stream.lane.isSome then List.range stream.prepared else []
    { t with flow := { f with stream }, admin := .cancelling todo answer }
  | .cancelling [] answer => { t with admin := .waiting answer }
  | .cancelling (index :: todo) answer =>
    let (urb, host) := f.host.cancel ⟨f.stream.id, index⟩
    { t with
      flow := { f with host }
      admin := match urb with
        | none => .cancelling todo answer
        | some u => .returning (.taken u) todo answer }
  | .returning back todo answer =>
    match f.advance back with
    | (none, flow) => { t with flow, admin := .cancelling todo answer }
    | (some back, flow) => { t with flow, admin := .returning back todo answer }
  | .waiting answer =>
    if f.stream.parked.all Option.isSome then
      { t with
        flow := { f with stream := { f.stream with submitted := 0 } }
        admin := .resting answer }
    else t

inductive Move where
  | start
  | stop
  | administer
  /-- It has been waited for too long, and what is missing will be cancelled again. -/
  | expire
  | pop (position : Nat) (fill : Fill)
  | advance (which : Nat)
  | foreign (urb : Urb)

def move (t : Traffic) : Move → Traffic
  | .start =>
    match t.admin with
    | .resting _ =>
      if t.flow.stream.lane.isNone then { t with admin := .resting (.ok ()) }
      else if t.flow.stream.isRunning then { t with admin := .resting (.error .streamRunning) }
      else
        { t with
          flow := { t.flow with stream := t.flow.stream.setStopping false }
          admin := .taking 0 }
    | _ => t
  | .stop =>
    match t.admin with
    | .resting _ => { t with admin := .raising (.ok ()) }
    | _ => t
  | .administer => t.administer
  | .expire =>
    match t.admin with
    | .waiting answer => { t with admin := .cancelling (missing t.flow.stream) answer }
    | _ => t
  | .pop position fill =>
    match t.flow.host.bus.queue[position]? with
    | none => t
    | some u =>
      let queue := t.flow.host.bus.queue.eraseIdx position
      let host := { t.flow.host with bus := { t.flow.host.bus with queue } }
      let flow := { t.flow with host }
      if u.key.stream = t.flow.stream.id then
        { t with flow, flight := t.flight ++ [.taken (u.fill fill)] }
      else { t with flow }
  | .advance which =>
    match t.flight[which]? with
    | none => t
    | some back =>
      let (next, flow) := t.flow.advance back
      { t with flow, flight := t.flight.take which ++ (next.toList ++ t.flight.drop (which + 1)) }
  | .foreign u =>
    if u.key.stream = t.flow.stream.id then t
    else { t with flow := { t.flow with host := (t.flow.host.submit u).2 } }

def run (t : Traffic) (moves : List Move) : Traffic :=
  moves.foldl move t

theorem run_append (t : Traffic) (first second : List Move) :
    t.run (first ++ second) = (t.run first).run second :=
  List.foldl_append ..

def Alone (who : Move) (t t' : Traffic) : Prop :=
  ∃ n, t.run (List.replicate n who) = t'

namespace Alone

variable {who : Move} {t t₁ t₂ t₃ : Traffic}

theorem refl (t : Traffic) : Alone who t t :=
  ⟨0, rfl⟩

theorem trans (first : Alone who t₁ t₂) (second : Alone who t₂ t₃) : Alone who t₁ t₃ := by
  obtain ⟨n, rfl⟩ := first
  obtain ⟨k, rfl⟩ := second
  exact ⟨n + k, by rw [List.replicate_add, run_append]⟩

theorem step (rest : Alone who (t₁.move who) t₂) : Alone who t₁ t₂ :=
  trans ⟨1, rfl⟩ rest

end Alone

theorem alone_returning (f : Flow) (back : Return) (todo : List Nat) (answer : Except Failure Unit)
    (flight : List Return) :
    Alone .administer ⟨f, .returning back todo answer, flight⟩
      ⟨f.finish back, .cancelling todo answer, flight⟩ := by
  -- Each step lowers the rank, so that after at most three steps the request has arrived.
  induction rank : back.rank using Nat.strongRecOn generalizing f back with
  | _ r ih =>
    obtain last | ⟨next, f', once, same, less⟩ := f.advance_cases back
    next => exact Alone.step ⟨0, by simp [run, move, administer, last]⟩
    next =>
      have later := ih next.rank (by omega) f' next rfl
      rw [same] at later
      refine Alone.step ?_
      simpa [move, administer, once] using later

theorem alone_cancelling (f : Flow) (count index : Nat) (answer : Except Failure Unit)
    (flight : List Return) :
    Alone .administer ⟨f, .cancelling (List.range' index count) answer, flight⟩
      ⟨Flow.cancelFrom count index f, .waiting answer, flight⟩ := by
  induction count generalizing index f with
  | zero => exact Alone.step (Alone.refl _)
  | succ count ih =>
    have later := ih (f.cancel index) (index + 1)
    rw [List.range'_succ]
    refine Alone.step ?_
    cases cancelled : f.host.cancel ⟨f.stream.id, index⟩ with
    | mk urb host =>
      cases urb with
      | none =>
        simp only [Flow.cancel, cancelled] at later
        simpa [move, administer, cancelled, Flow.cancelFrom, Flow.cancel] using later
      | some u =>
        -- The one that was cancelled comes all the way back before the next one is.
        have back := alone_returning { f with host } (.taken u) (List.range' (index + 1) count)
          answer flight
        simp only [Flow.cancel, cancelled] at later
        have both := back.trans later
        simpa [move, administer, cancelled, Flow.cancelFrom, Flow.cancel] using both

theorem alone_raising {f : Flow} {roster : List UrbIdentity} (c : f.Custody roster [])
    (size : f.stream.parked.length = f.stream.prepared)
    (idle : f.stream.submitted = 0 → ofStream f.stream.id f.host.bus.queue = [])
    (answer : Except Failure Unit) :
    Alone .administer ⟨f, .raising answer, []⟩ ⟨f.stop, .resting answer, []⟩ := by
  -- When all are parked, the one step of waiting is the last.
  have full : f.stop.stream.parked.all Option.isSome = true := by
    refine (Flow.custody_stop c).full ?_
    rw [(Flow.kept_stop f).id]
    exact Flow.queue_stop c size idle
  let raised : Flow := { f with stream := f.stream.setStopping true }
  let active := raised.stream.isRunning && raised.stream.lane.isSome
  let halted := if active then Flow.cancelFrom raised.stream.prepared 0 raised else raised
  have cancelled : Alone .administer
      ⟨raised, .cancelling (if active then List.range raised.stream.prepared else []) answer, []⟩
      ⟨halted, .waiting answer, []⟩ := by
    dsimp only [halted]
    split
    next =>
      rw [List.range_eq_range']
      exact alone_cancelling raised raised.stream.prepared 0 answer []
    next => exact Alone.step (Alone.refl _)
  have last : Alone .administer ⟨halted, .waiting answer, []⟩ ⟨f.stop, .resting answer, []⟩ := by
    have back : move ⟨halted, .waiting answer, []⟩ .administer = ⟨f.stop, .resting answer, []⟩ :=
      if_pos full
    exact Alone.step (back ▸ Alone.refl _)
  exact Alone.step (cancelled.trans last)

theorem alone_stop {f : Flow} {roster : List UrbIdentity} (sound : f.Sound roster)
    (before : Except Failure Unit) :
    Alone .administer (move ⟨f, .resting before, []⟩ .stop) ⟨f.stop, .resting (.ok ()), []⟩ :=
  alone_raising sound.custody sound.size sound.idle (.ok ())

theorem alone_taking {f : Flow} {roster : List UrbIdentity} (count index : Nat)
    (c : f.Custody roster []) (size : f.stream.parked.length = f.stream.prepared)
    (goal : index + count = f.stream.prepared) (reached : f.stream.submitted = index)
    (idle : index = 0 → ofStream f.stream.id f.host.bus.queue = []) :
    Alone .administer ⟨f, .taking index, []⟩
      ⟨(Flow.submitFrom count index f).2, .resting (Flow.submitFrom count index f).1, []⟩ := by
  -- On the requests that are still to be handed over; `index` of them are with the bus already.
  induction count generalizing index f with
  | zero =>
    have all : index = f.stream.prepared := goal
    exact Alone.step ⟨0, by simp [run, move, administer, all, Flow.submitFrom]⟩
  | succ count ih =>
    have more : index ≠ f.stream.prepared := by omega
    have still : f.stream.submitted = 0 → ofStream f.stream.id f.host.bus.queue = [] :=
      fun rest => idle (reached ▸ rest)
    refine Alone.step ?_
    cases taken : f.stream.takeParked index with
    | mk urb stream =>
      cases urb with
      | none =>
        have halted := alone_raising c size still (.error (.transfer index "urb still owned by the bus"))
        simpa [move, administer, more, taken, Flow.submitFrom] using halted
      | some u =>
        have held : move ⟨f, .taking index, []⟩ .administer =
            ⟨{ f with stream }, .handing index u, []⟩ := by
          simp [move, administer, more, taken]
        rw [held]
        refine Alone.step ?_
        cases outcome : f.host.submit u with
        | mk reason host =>
          cases reason with
          | some reason =>
            obtain ⟨kept, custody, queue, submitted⟩ := Flow.handing_refused c taken outcome
            have halted := alone_raising custody (by rw [kept.size, kept.prepared, size])
              (fun rest => by
                rw [kept.id]
                exact (congrArg _ queue).trans (still (submitted ▸ rest)))
              (.error (.transfer index reason))
            have back : move ⟨{ f with stream }, .handing index u, []⟩ .administer =
                ⟨{ f with host, stream }, .refused index u reason, []⟩ := by
              simp [move, administer, outcome]
            rw [back]
            refine Alone.step ?_
            simpa [move, administer, Flow.submitFrom, taken, outcome] using halted
          | none =>
            obtain ⟨kept, custody, -⟩ := Flow.handing_accepted c taken outcome
            have later := ih (index + 1) custody (by rw [kept.size, kept.prepared, size])
              (by rw [kept.prepared]; omega) rfl (by omega)
            simpa [move, administer, outcome, Flow.submitFrom, taken] using later

/-- Left to itself, starting a stream is `Flow.start`. -/
theorem alone_start {f : Flow} {roster : List UrbIdentity} (sound : f.Sound roster)
    (before : Except Failure Unit) :
    Alone .administer (move ⟨f, .resting before, []⟩ .start)
      ⟨f.start.2, .resting f.start.1, []⟩ := by
  by_cases unprepared : f.stream.lane.isNone
  · exact ⟨0, by simp [run, move, Flow.start, unprepared]⟩
  · by_cases running : f.stream.isRunning
    · exact ⟨0, by simp [run, move, Flow.start, unprepared, running]⟩
    · have rest : f.stream.submitted = 0 := by simpa [Stream.isRunning_iff] using running
      have lowered := Flow.kept_setStopping f false
      have all := alone_taking (f := { f with stream := f.stream.setStopping false })
        (f.stream.setStopping false).prepared 0 (Flow.custody_setStopping sound.custody false)
        (by rw [lowered.size, lowered.prepared, sound.size]) (Nat.zero_add _) rest
        (fun _ => sound.idle rest)
      simpa [move, Flow.start, unprepared, running] using all

theorem alone_advance (f : Flow) (back : Return) (admin : Admin) (rest : List Return) :
    Alone (.advance 0) ⟨f, admin, back :: rest⟩ ⟨f.finish back, admin, rest⟩ := by
  induction rank : back.rank using Nat.strongRecOn generalizing f back with
  | _ r ih =>
    obtain last | ⟨next, f', once, same, less⟩ := f.advance_cases back
    next => exact Alone.step ⟨0, by simp [run, move, last]⟩
    next =>
      have later := ih next.rank (by omega) f' next rfl
      rw [same] at later
      refine Alone.step ?_
      simpa [move, once] using later

end Traffic

end DvbReceiver

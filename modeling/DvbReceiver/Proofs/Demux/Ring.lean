import DvbReceiver.Proofs.Demux.Chunking

set_option autoImplicit false

namespace DvbReceiver

namespace Reassembly

inductive Deed where
  | watch (pid : Nat) (on : Bool)
  | consume (chunk : Bytes)
  deriving DecidableEq, Repr

def Deed.chunk? : Deed → Option Bytes
  | .watch .. => none
  | .consume chunk => some chunk

def act (r : Reassembly) : Deed → Reassembly
  | .watch pid on => r.watch pid on
  | .consume chunk => (r.consume chunk).2

end Reassembly

namespace Demux

def enqueue (d : Demux) (chunk : Bytes) : Demux :=
  { d with ring := d.ring ++ [chunk] }

/-- A demux that is fed while it is drained. Whoever drains it takes one chunk after another, and
holds the state until the ring is found empty. -/
structure Shared where
  demux : Demux
  draining : Bool := false
  matched : Nat := 0
  deriving DecidableEq, Repr

inductive Turn where
  | deliver (chunk : Bytes)
  | watch (pid : Nat) (on : Bool)
  | drain
  deriving DecidableEq, Repr

def Turn.chunk? : Turn → Option Bytes
  | .deliver chunk => some chunk
  | _ => none

def deliveries (turns : List Turn) : List Bytes :=
  turns.filterMap Turn.chunk?

theorem deliveries_append (first second : List Turn) :
    deliveries (first ++ second) = deliveries first ++ deliveries second :=
  List.filterMap_append

namespace Shared

def drain (s : Shared) : Shared :=
  if s.draining then
    match s.demux.ring with
    | [] => { s with draining := false }
    | chunk :: rest =>
      let (matched, state) := s.demux.state.consume chunk
      { s with demux := { s.demux with ring := rest, state }, matched := s.matched + matched }
  else { s with draining := true }

def turn (put : Demux → Bytes → Demux) (s : Shared) : Turn → Shared
  | .deliver chunk => { s with demux := put s.demux chunk }
  | .watch pid on => if s.draining then s else { s with demux := s.demux.watch pid on }
  | .drain => s.drain

def run (put : Demux → Bytes → Demux) (s : Shared) (turns : List Turn) : Shared :=
  turns.foldl (turn put) s

theorem run_append (put : Demux → Bytes → Demux) (s : Shared) (first second : List Turn) :
    s.run put (first ++ second) = (s.run put first).run put second :=
  List.foldl_append

def lose (s : Shared) (dropped : Nat) : Shared :=
  { s with demux := { s.demux with dropped } }

/-- A turn, unless it is a delivery that finds `limit` chunks waiting. -/
def accept (limit : Nat) (s : Shared) (t : Turn) : List Turn :=
  if t.chunk?.isSome ∧ s.demux.ring.length = limit then [] else [t]

def accepted (limit : Nat) (s : Shared) : List Turn → List Turn
  | [] => []
  | t :: rest => s.accept limit t ++ (s.turn deliver t).accepted limit rest

def deed? (s : Shared) : Turn → Option Reassembly.Deed
  | .deliver _ => none
  | .watch pid on => if s.draining then none else some (.watch pid on)
  | .drain => if s.draining then s.demux.ring.head?.map .consume else none

def deeds (s : Shared) : List Turn → List Reassembly.Deed
  | [] => []
  | t :: rest => (s.deed? t).toList ++ (s.turn deliver t).deeds rest

structure Fits (limit : Nat) (s : Shared) : Prop where
  capacity : s.demux.capacity = limit
  room : s.demux.ring.length ≤ limit

inductive Step (limit : Nat) (s : Shared) : Turn → Shared → Prop
  | dropped (chunk : Bytes) (full : s.demux.ring.length = limit) :
    Step limit s (.deliver chunk)
      { s with demux := { s.demux with dropped := s.demux.dropped + 1 } }
  | queued (chunk : Bytes) (room : s.demux.ring.length < limit) :
    Step limit s (.deliver chunk) { s with demux := s.demux.enqueue chunk }
  | waiting (pid : Nat) (on : Bool) (held : s.draining = true) : Step limit s (.watch pid on) s
  | watched (pid : Nat) (on : Bool) (free : s.draining = false) :
    Step limit s (.watch pid on) { s with demux := s.demux.watch pid on }
  | held (free : s.draining = false) : Step limit s .drain { s with draining := true }
  | consumed (chunk : Bytes) (rest : List Bytes) (held : s.draining = true)
    (queue : s.demux.ring = chunk :: rest) :
    Step limit s .drain { s with
      demux := { s.demux with ring := rest, state := (s.demux.state.consume chunk).2 }
      matched := s.matched + (s.demux.state.consume chunk).1 }
  | done (held : s.draining = true) (empty : s.demux.ring = []) :
    Step limit s .drain { s with draining := false }

variable {limit : Nat} {s s' : Shared} {t : Turn}

theorem fits_new (depth : Nat) : Fits (max depth 1) { demux := new depth } :=
  ⟨rfl, Nat.zero_le _⟩

theorem Fits.deliver_eq (fits : Fits limit s) (chunk : Bytes) :
    s.demux.deliver chunk =
      if s.demux.ring.length = limit then { s.demux with dropped := s.demux.dropped + 1 }
      else s.demux.enqueue chunk := by
  have room := fits.room
  by_cases full : s.demux.ring.length = limit
  next =>
    rw [if_pos full]
    exact if_neg (by rw [fits.capacity]; omega)
  next =>
    rw [if_neg full]
    exact if_pos (by rw [fits.capacity]; omega)

theorem Fits.step (fits : Fits limit s) (t : Turn) :
    Step limit s t (s.turn Demux.deliver t) := by
  have room := fits.room
  cases t with
  | deliver chunk =>
    rw [turn, fits.deliver_eq chunk]
    split
    next full => exact .dropped chunk full
    next => exact .queued chunk (by omega)
  | watch pid on =>
    simp only [turn]
    split
    next held => exact .waiting pid on held
    next free => exact .watched pid on (by simpa using free)
  | drain =>
    simp only [turn, drain]
    split
    next held =>
      split
      next empty => exact .done held empty
      next chunk rest queue => exact .consumed chunk rest held queue
    next free => exact .held (by simpa using free)

namespace Step

theorem fits (step : Step limit s t s') (before : Fits limit s) : Fits limit s' := by
  have room := before.room
  cases step with
  | queued chunk room =>
    refine ⟨before.capacity, ?_⟩
    simp only [enqueue, List.length_append, List.length_singleton]
    omega
  | consumed chunk rest held queue =>
    rw [queue, List.length_cons] at room
    exact ⟨before.capacity, Nat.le_of_succ_le room⟩
  | _ => exact ⟨before.capacity, room⟩

theorem dropped_add (step : Step limit s t s') :
    s'.demux.dropped + (deliveries (s.accept limit t)).length =
      s.demux.dropped + (deliveries [t]).length := by
  cases step with
  | dropped chunk full => simp [accept, deliveries, Turn.chunk?, full]
  | queued chunk room =>
    have some : s.demux.ring.length ≠ limit := by omega
    simp [accept, deliveries, Turn.chunk?, some, enqueue]
  | _ => simp [accept, deliveries, Turn.chunk?, Demux.watch]

theorem consumed_append (step : Step limit s t s') :
    (s.deed? t).toList.filterMap Reassembly.Deed.chunk? ++ s'.demux.ring =
      s.demux.ring ++ deliveries (s.accept limit t) := by
  cases step with
  | dropped chunk full => simp [deed?, accept, deliveries, Turn.chunk?, full]
  | queued chunk room =>
    have some : s.demux.ring.length ≠ limit := by omega
    simp [deed?, accept, deliveries, Turn.chunk?, some, enqueue]
  | waiting pid on held => simp [deed?, accept, deliveries, Turn.chunk?, held]
  | watched pid on free =>
    simp [deed?, accept, deliveries, Turn.chunk?, free, Reassembly.Deed.chunk?, Demux.watch,
      List.filterMap_cons]
  | held free => simp [deed?, accept, deliveries, Turn.chunk?, free]
  | consumed chunk rest held queue =>
    simp [deed?, accept, deliveries, Turn.chunk?, held, queue, Reassembly.Deed.chunk?]
  | done held empty => simp [deed?, accept, deliveries, Turn.chunk?, empty]

theorem state (step : Step limit s t s') :
    s'.demux.state = (s.deed? t).toList.foldl Reassembly.act s.demux.state := by
  cases step with
  | waiting pid on held => simp [deed?, held]
  | watched pid on free => simp [deed?, free, Reassembly.act, Demux.watch]
  | held free => simp [deed?, free]
  | consumed chunk rest held queue => simp [deed?, held, queue, Reassembly.act]
  | done held empty => simp [deed?, empty]
  | _ => rfl

theorem enqueue (step : Step limit s t s') (dropped : Nat) :
    (s.lose dropped).run Demux.enqueue (s.accept limit t) = s'.lose dropped := by
  cases step with
  | dropped chunk full => simp [accept, Turn.chunk?, full, run, lose]
  | queued chunk room =>
    have some : s.demux.ring.length ≠ limit := by omega
    simp [accept, Turn.chunk?, some, run, turn, lose, Demux.enqueue]
  | waiting pid on held => simp [accept, Turn.chunk?, run, turn, lose, held]
  | watched pid on free => simp [accept, Turn.chunk?, run, turn, lose, free, Demux.watch]
  | held free => simp [accept, Turn.chunk?, run, turn, lose, drain, free]
  | consumed chunk rest held queue =>
    simp [accept, Turn.chunk?, run, turn, lose, drain, held, queue]
  | done held empty => simp [accept, Turn.chunk?, run, turn, lose, drain, held, empty]

end Step

namespace Fits

theorem run (fits : Fits limit s) (turns : List Turn) : Fits limit (s.run deliver turns) := by
  induction turns generalizing s with
  | nil => exact fits
  | cons t rest ih => exact ih ((fits.step t).fits fits)

theorem dropped_run (fits : Fits limit s) (turns : List Turn) :
    (s.run deliver turns).demux.dropped + (deliveries (s.accepted limit turns)).length =
      s.demux.dropped + (deliveries turns).length := by
  induction turns generalizing s with
  | nil => rfl
  | cons t rest ih =>
    have step := fits.step t
    have first := step.dropped_add
    have later := ih (step.fits fits)
    rw [accepted, deliveries_append, List.length_append, ← List.singleton_append (l := rest),
      deliveries_append, List.length_append]
    have same : s.run deliver ([t] ++ rest) = (s.turn deliver t).run deliver rest := rfl
    rw [same]
    omega

theorem consumed_run (fits : Fits limit s) (turns : List Turn) :
    (s.deeds turns).filterMap Reassembly.Deed.chunk? ++ (s.run deliver turns).demux.ring =
      s.demux.ring ++ deliveries (s.accepted limit turns) := by
  induction turns generalizing s with
  | nil => simp [deeds, Shared.run, accepted, deliveries]
  | cons t rest ih =>
    have step := fits.step t
    have first := step.consumed_append
    have later := ih (step.fits fits)
    rw [deeds, accepted, List.filterMap_append, deliveries_append, List.append_assoc,
      ← List.append_assoc s.demux.ring, ← first, List.append_assoc, ← later]
    rfl

theorem state_run (fits : Fits limit s) (turns : List Turn) :
    (s.run deliver turns).demux.state =
      (s.deeds turns).foldl Reassembly.act s.demux.state := by
  induction turns generalizing s with
  | nil => rfl
  | cons t rest ih =>
    have step := fits.step t
    have later := ih (step.fits fits)
    rw [deeds, List.foldl_append, ← step.state, ← later]
    rfl

theorem enqueue_run (fits : Fits limit s) (turns : List Turn) (dropped : Nat) :
    (s.lose dropped).run enqueue (s.accepted limit turns) =
      (s.run deliver turns).lose dropped := by
  induction turns generalizing s with
  | nil => rfl
  | cons t rest ih =>
    have step := fits.step t
    have later := ih (step.fits fits)
    rw [accepted, run_append, step.enqueue, later]
    rfl

end Fits

theorem run_consumeAll (put : Demux → Bytes → Demux) (d : Demux) (matched : Nat) :
    run put ⟨d, true, matched⟩ (List.replicate d.ring.length .drain) =
      ⟨d.drain.2, true, matched + d.drain.1⟩ := by
  obtain ⟨capacity, ring, dropped, state⟩ := d
  induction ring generalizing state matched with
  | nil => rfl
  | cons chunk rest ih =>
    have later := ih (matched + (state.consume chunk).1) (state.consume chunk).2
    simpa [run, turn, drain, Demux.drain, Reassembly.consumeAll, List.replicate_succ,
      Nat.add_assoc] using later

/-- Undisturbed, the steps of a drain come to what draining at one go does. -/
theorem run_drain (put : Demux → Bytes → Demux) (d : Demux) (matched : Nat) :
    run put ⟨d, false, matched⟩ (List.replicate (1 + d.ring.length + 1) .drain) =
      ⟨d.drain.2, false, matched + d.drain.1⟩ := by
  have held : run put ⟨d, false, matched⟩ (List.replicate 1 .drain) = ⟨d, true, matched⟩ := rfl
  rw [← List.replicate_append_replicate, ← List.replicate_append_replicate, run_append, run_append,
    held, run_consumeAll]
  rfl

theorem empty_of_done (s : Shared) (done : s.drain.draining = false) : s.drain.demux.ring = [] := by
  unfold drain at done ⊢
  split at done
  next held =>
    rw [if_pos held]
    split at done
    next empty => exact empty
    next chunk rest _ =>
      rw [held] at done
      cases done
  next => cases done

theorem sublist_accepted (limit : Nat) (s : Shared) (turns : List Turn) :
    (s.accepted limit turns).Sublist turns := by
  induction turns generalizing s with
  | nil => exact List.Sublist.refl []
  | cons t rest ih =>
    have first : (s.accept limit t).Sublist [t] := by
      unfold accept
      split
      next => exact List.nil_sublist _
      next => exact List.Sublist.refl _
    exact first.append (ih _)

end Shared

/-- A ring of any depth, fed, watched and drained in any order, also in the middle of a drain. What
finds it full is dropped and nothing else is; all other chunks are consumed whole, each of them
once, in the order of their delivery, so that the demux comes to what one with a ring without
bounds comes to that is fed these chunks only. -/
theorem bounded_run (depth : Nat) (turns : List Turn) :
    let limit := max depth 1
    let fresh : Shared := { demux := new depth }
    let s := fresh.run deliver turns
    let accepted := fresh.accepted limit turns
    let deeds := fresh.deeds turns
    s.demux.ring.length ≤ limit ∧
    (∀ chunk, s.demux.deliver chunk =
      if s.demux.ring.length = limit then { s.demux with dropped := s.demux.dropped + 1 }
      else { s.demux with ring := s.demux.ring ++ [chunk] }) ∧
    s.demux.dropped = (deliveries turns).length - (deliveries accepted).length ∧
    (deliveries accepted).Sublist (deliveries turns) ∧
    deeds.filterMap Reassembly.Deed.chunk? ++ s.demux.ring = deliveries accepted ∧
    s.demux.state = deeds.foldl Reassembly.act {} ∧
    (s.drain.draining = false → s.drain.demux.ring = []) ∧
    (∃ steps, ∀ put matched,
      Shared.run put ⟨s.demux, false, matched⟩ (List.replicate steps .drain) =
        ⟨s.demux.drain.2, false, matched + s.demux.drain.1⟩) ∧
    s.demux.drain.2.ring = [] ∧
    fresh.run enqueue accepted = { s with demux := { s.demux with dropped := 0 } } := by
  intro limit fresh s accepted deeds
  have start : Shared.Fits limit fresh := Shared.fits_new depth
  have fits : Shared.Fits limit s := start.run turns
  have balance := start.dropped_run turns
  have none : fresh.demux.dropped = 0 := rfl
  rw [none, Nat.zero_add] at balance
  refine ⟨fits.room, fits.deliver_eq, Nat.eq_sub_of_add_eq balance, ?_, start.consumed_run turns,
    start.state_run turns, s.empty_of_done, ⟨_, fun put => Shared.run_drain put s.demux⟩, rfl,
    start.enqueue_run turns 0⟩
  exact (Shared.sublist_accepted limit fresh turns).filterMap _

end Demux

end DvbReceiver

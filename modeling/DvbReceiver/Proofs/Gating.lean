import DvbReceiver.Proofs.Bracket
import DvbReceiver.Proofs.Stream.Accounting
import Mathlib.Data.List.Induction

set_option autoImplicit false

namespace DvbReceiver

namespace Event

def adapter? : Event → Option Nat
  | .returned u => some u.key.adapter
  | .gated adapter _ => some adapter
  | .offered adapter _ => some adapter
  | _ => none

def chunk? (adapter : Nat) : Event → Option Bytes
  | .offered i data => if i = adapter then some data else none
  | _ => none

end Event

def offered (adapter : Nat) (events : List Event) : List Bytes :=
  (events.filterMap (Event.chunk? adapter)).reverse

def gateAfter (adapter feeds : Nat) : List Event → Nat
  | [] => feeds
  | .gated i n :: earlier => if i = adapter then n else gateAfter adapter feeds earlier
  | _ :: earlier => gateAfter adapter feeds earlier

/-- The slices of the requests that came back to an adapter's own streams while its sink saw a feed.
One that ended for good brings none. -/
def brought (adapter feeds : Nat) : List Event → List Bytes
  | [] => []
  | .returned u :: earlier =>
    brought adapter feeds earlier ++
      if u.key.adapter = adapter ∧ u.status.isTerminal = false ∧ gateAfter adapter feeds earlier ≠ 0
      then u.slices else []
  | _ :: earlier => brought adapter feeds earlier

section Traces

variable (i feeds : Nat) (later earlier : List Event)

@[simp] theorem offered_nil : offered i [] = [] := rfl

@[simp] theorem offered_append :
    offered i (later ++ earlier) = offered i earlier ++ offered i later := by
  simp [offered]

@[simp] theorem gateAfter_append :
    gateAfter i feeds (later ++ earlier) = gateAfter i (gateAfter i feeds earlier) later := by
  induction later with
  | nil => rfl
  | cons e later ih => cases e <;> simp [gateAfter, ih]

@[simp] theorem brought_append :
    brought i feeds (later ++ earlier) =
      brought i feeds earlier ++ brought i (gateAfter i feeds earlier) later := by
  induction later with
  | nil => simp [brought]
  | cons e later ih => cases e <;> simp [brought, ih]

variable {i} {events : List Event} {stream : Nat}

theorem elsewhere_of_none (none : ∀ e ∈ events, e.adapter? = none) :
    ∀ e ∈ events, e.adapter? ≠ some i := by
  intro e there
  rw [none e there]
  exact Option.some_ne_none i |>.symm

theorem offered_elsewhere (elsewhere : ∀ e ∈ events, e.adapter? ≠ some i) :
    offered i events = [] := by
  have none : events.filterMap (Event.chunk? i) = [] := by
    refine List.filterMap_eq_nil_iff.2 fun e there => ?_
    have other := elsewhere e there
    cases e <;> simp_all [Event.chunk?, Event.adapter?]
  rw [offered, none, List.reverse_nil]

theorem gate_brought_elsewhere (elsewhere : ∀ e ∈ events, e.adapter? ≠ some i) :
    gateAfter i feeds events = feeds ∧ brought i feeds events = [] := by
  induction events with
  | nil => exact ⟨rfl, rfl⟩
  | cons e events ih =>
    obtain ⟨other, elsewhere⟩ := List.forall_mem_cons.1 elsewhere
    have rest := ih elsewhere
    cases e <;> simp_all [gateAfter, brought, Event.adapter?]

theorem gate_brought_work (work : ∀ e ∈ events, e.OfWork stream)
    (own : stream / maxFrontends = i) :
    gateAfter i feeds events = feeds ∧
      brought i feeds events =
        if feeds = 0 then [] else (completions stream events).flatMap Urb.slices := by
  induction events with
  | nil => simp [gateAfter, brought]
  | cons e events ih =>
    obtain ⟨first, work⟩ := List.forall_mem_cons.1 work
    obtain ⟨gate, rest⟩ := ih work
    have more : completions stream (e :: events) =
        completions stream events ++ completions stream [e] :=
      completions_append stream [e] events
    cases e with
    | returned u =>
      have first : u.key.stream = stream := first
      have mine : u.key.adapter = i := by rw [UrbKey.adapter, first, own]
      refine ⟨gate, ?_⟩
      rw [more, completions_returned first, brought, rest, gate]
      by_cases shut : feeds = 0
      · simp [shut]
      · cases final : u.status.isTerminal <;> simp [mine, shut]
    | submitted u => exact ⟨gate, by rw [more, completions_handed rfl, List.append_nil]; exact rest⟩
    | refused u => exact ⟨gate, by rw [more, completions_handed rfl, List.append_nil]; exact rest⟩
    | delivered s data =>
      have none : completions stream [.delivered s data] = [] := rfl
      exact ⟨gate, by rw [more, none, List.append_nil]; exact rest⟩
    | called | attached | gated | offered => exact first.elim

theorem offered_work (work : ∀ e ∈ events, e.OfWork stream) : offered i events = [] := by
  have none : events.filterMap (Event.chunk? i) = [] := by
    refine List.filterMap_eq_nil_iff.2 fun e there => ?_
    have first := work e there
    cases e <;> first | rfl | exact first.elim
  rw [offered, none, List.reverse_nil]

theorem offered_offers (slices : List Bytes) :
    offered i (slices.map (.offered i)).reverse = slices := by
  have all : (slices.map (Event.offered i)).filterMap (Event.chunk? i) = slices := by
    simp [List.filterMap_map, Function.comp_def, Event.chunk?]
  simp [offered, List.filterMap_reverse, all]

theorem gate_brought_offers (i feeds : Nat) (slices : List Bytes) :
    gateAfter i feeds (slices.map (.offered i)).reverse = feeds ∧
      brought i feeds (slices.map (.offered i)).reverse = [] := by
  induction slices with
  | nil => exact ⟨rfl, rfl⟩
  | cons data rest ih => simp [ih, gateAfter, brought]

end Traces

namespace Demux

def intake (d : Demux) : Demux :=
  { d with state := {} }

theorem intake_deliver (d : Demux) (chunk : Bytes) :
    (d.deliver chunk).intake = d.intake.deliver chunk := by
  unfold deliver intake
  dsimp only
  split <;> rfl

theorem intake_deliverAll (chunks : List Bytes) (d : Demux) :
    (chunks.foldl deliver d).intake = chunks.foldl deliver d.intake := by
  induction chunks generalizing d with
  | nil => rfl
  | cons chunk rest ih => rw [List.foldl_cons, ih, intake_deliver, List.foldl_cons]

/-- A demux that nobody drains keeps the first chunks, and counts those that it has no room for. -/
theorem deliverAll_new (chunks : List Bytes) (depth : Nat) :
    chunks.foldl deliver (new depth) =
      { new depth with
        ring := chunks.take (new depth).capacity
        dropped := chunks.length - (new depth).capacity } := by
  induction chunks using List.reverseRecOn with
  | nil => simp [new]
  | append_singleton chunks chunk ih =>
    rw [List.foldl_append, ih, List.foldl_cons, List.foldl_nil]
    generalize new depth = d
    have length : (chunks ++ [chunk]).length = chunks.length + 1 := by simp
    have kept : (chunks.take d.capacity).length = min d.capacity chunks.length := List.length_take
    unfold deliver
    dsimp only
    rw [kept, length]
    -- What comes once the ring is full leaves it as it is.
    split
    next room =>
      have short : chunks.length < d.capacity := by omega
      rw [List.take_of_length_le (by omega), List.take_of_length_le (by omega)]
      congr 1
      omega
    next full =>
      have long : d.capacity ≤ chunks.length := by omega
      rw [List.take_append_of_le_length long]
      congr 1
      omega

end Demux

end DvbReceiver

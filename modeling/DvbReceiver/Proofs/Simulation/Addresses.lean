import DvbReceiver.Proofs.Stream.Memory
import DvbReceiver.Simulation.Worker
import Mathlib.Algebra.Ring.Nat

set_option autoImplicit false

namespace DvbReceiver

def Buffer.Covers (b : Buffer) (place : Nat) : Prop :=
  b.address ≤ place ∧ place < b.address + b.bytes.length

def Bus.cursor (b : Bus) : BusPolicy × Nat × Nat :=
  (b.policy, b.attempts, b.nextAddress)

namespace Simulation

def span (size : Nat) : Nat :=
  busPolicy.stride size

theorem dvd_span (size : Nat) : pageSize ∣ span size :=
  Nat.dvd_mul_left ..

theorem le_span (size : Nat) : size ≤ span size := by
  simp only [span, busPolicy, pageSize]
  omega

/-- A bus whose buffers lie on pages of their own, whatever it refuses. -/
structure Paged (b : Bus) : Prop where
  stride : b.policy.stride = span
  skips : b.policy.skipsRefused = true
  aligned : pageSize ∣ b.nextAddress

theorem Paged.congr {b b' : Bus} (paged : Paged b) (same : b'.cursor = b.cursor) : Paged b' := by
  simp only [Bus.cursor, Prod.mk.injEq] at same
  obtain ⟨policy, -, next⟩ := same
  exact ⟨policy ▸ paged.stride, policy ▸ paged.skips, next ▸ paged.aligned⟩

theorem nextAddress_allocate {b : Bus} (paged : Paged b) (size : Nat) :
    (b.allocate size).2.nextAddress = b.nextAddress + span size := by
  unfold Bus.allocate
  dsimp only
  split
  next => rw [paged.stride]
  next => rw [paged.skips, if_pos rfl, paged.stride]

theorem Paged.allocate {b : Bus} (paged : Paged b) (size : Nat) : Paged (b.allocate size).2 where
  stride := by rw [Bus.policy_allocate, paged.stride]
  skips := by rw [Bus.policy_allocate, paged.skips]
  aligned := by
    rw [nextAddress_allocate paged]
    exact (Nat.dvd_add_right paged.aligned).2 (dvd_span size)

theorem allocate_places {b b' : Bus} {size : Nat} {buffer : Buffer}
    (got : b.allocate size = (.ok buffer, b')) :
    buffer.address = b.nextAddress ∧ buffer.bytes.length = size ∧ 0 < size := by
  have positive := ((b.allocate_grants size).2.2.1 (by rw [got]; rfl)).2.1
  unfold Bus.allocate at got
  dsimp only at got
  split at got
  next plain granted =>
    cases got
    refine ⟨?_, by simp, positive⟩
    split at granted
    next => cases granted
    next =>
      unfold Buffer.allocate at granted
      split_ifs at granted
      cases granted
      rfl
  next => cases got

structure Request where
  size : Nat
  answer : Except Failure Buffer

def granted (requests : List Request) : List Buffer :=
  requests.filterMap fun r => r.answer.toOption

/-- What is known of the requests that took a bus from one address to another. -/
structure Laid (start stop : Nat) (requests : List Request) : Prop where
  reach : stop = start + (requests.map fun r => span r.size).sum
  placed : ∀ r ∈ requests, ∀ buffer, r.answer = .ok buffer →
    pageSize ∣ buffer.address ∧ buffer.bytes.length = r.size ∧ 0 < r.size ∧
      start ≤ buffer.address ∧ buffer.address + r.size ≤ stop
  apart : (granted requests).Pairwise fun first later =>
    first.address + first.bytes.length ≤ later.address

theorem laid_nil (start : Nat) : Laid start start [] :=
  ⟨rfl, by simp, .nil⟩

theorem exists_request_of_mem_granted {requests : List Request} {buffer : Buffer}
    (member : buffer ∈ granted requests) : ∃ r ∈ requests, r.answer = .ok buffer := by
  obtain ⟨r, asked, answer⟩ := List.mem_filterMap.1 member
  refine ⟨r, asked, ?_⟩
  cases found : r.answer with
  | error e => rw [found] at answer; cases answer
  | ok b => rw [found] at answer; cases answer; rfl

theorem Laid.cons {b : Bus} {size stop : Nat} {requests : List Request} (paged : Paged b)
    (later : Laid (b.allocate size).2.nextAddress stop requests) :
    Laid b.nextAddress stop (⟨size, (b.allocate size).1⟩ :: requests) := by
  have next := nextAddress_allocate paged size
  rw [next] at later
  have fits := le_span size
  -- Whatever came of it, the request took the bus on by its span.
  refine ⟨?_, ?_, ?_⟩
  · rw [later.reach, List.map_cons, List.sum_cons, Nat.add_assoc]
  · rintro r member buffer answer
    obtain rfl | member := List.mem_cons.1 member
    · obtain ⟨address, length, positive⟩ := allocate_places (Prod.ext answer rfl)
      have reach := later.reach
      dsimp only
      refine ⟨address ▸ paged.aligned, length, positive, ?_, ?_⟩ <;> omega
    · obtain ⟨aligned, length, positive, above, below⟩ := later.placed r member buffer answer
      exact ⟨aligned, length, positive, by omega, below⟩
  · cases answer : (b.allocate size).1 with
    | error e => simpa [granted, Except.toOption] using later.apart
    | ok buffer =>
      obtain ⟨address, length, -⟩ := allocate_places (Prod.ext answer rfl)
      have first : granted (⟨size, .ok buffer⟩ :: requests) = buffer :: granted requests := rfl
      rw [first, List.pairwise_cons]
      refine ⟨fun other member => ?_, later.apart⟩
      obtain ⟨r, asked, answered⟩ := exists_request_of_mem_granted member
      have above := (later.placed r asked other answered).2.2.2.1
      omega

namespace Worker

inductive Use where
  | allocate (size : Nat)
  | free (buffer : Buffer)
  | submit (u : Urb)
  | cancel (key : UrbKey)
  | clearHalt (pipe : Pipe)
  | hold
  | release

def Use.size? : Use → Option Nat
  | .allocate size => some size
  | _ => none

def use (w : Worker) : Use → Option Request × Worker
  | .allocate size =>
    let (answer, w) := w.allocate size
    (some ⟨size, answer⟩, w)
  | .free buffer => (none, w.free buffer)
  | .submit u => (none, (w.submit u).2)
  | .cancel key => (none, (w.cancel key).2)
  | .clearHalt pipe => (none, { w with bus := (w.bus.clearHalt pipe).2 })
  | .hold => (none, w.hold)
  | .release => (none, w.release.2)

def run (w : Worker) : List Use → List Request × Worker
  | [] => ([], w)
  | u :: rest =>
    let (request, w) := w.use u
    let (requests, w) := w.run rest
    (request.toList ++ requests, w)

theorem cursor_serveQueue (w : Worker) (queue : List Urb) :
    (w.serveQueue queue).2.bus.cursor = w.bus.cursor := by
  induction queue generalizing w with
  | nil => rfl
  | cons u rest ih =>
    unfold serveQueue
    dsimp only
    split
    next => rfl
    next =>
      split
      next => exact ih _
      next =>
        split
        next => exact ih _
        next => exact ih _

theorem cursor_cancel (b : Bus) (key : UrbKey) : (b.cancel key).2.cursor = b.cursor := by
  unfold Bus.cancel
  dsimp only
  split <;> rfl

theorem use_cases (w : Worker) (u : Use) :
    (u.size? = none ∧ (w.use u).1 = none ∧ (w.use u).2.bus.cursor = w.bus.cursor) ∨
    (∃ size, u.size? = some size ∧ (w.use u).1 = some ⟨size, (w.bus.allocate size).1⟩ ∧
      (w.use u).2.bus = (w.bus.allocate size).2) := by
  cases u with
  | allocate size => exact .inr ⟨size, rfl, rfl, rfl⟩
  | free buffer => exact .inl ⟨rfl, rfl, rfl⟩
  | submit u => exact .inl ⟨rfl, rfl, cursor_serveQueue ..⟩
  | cancel key => exact .inl ⟨rfl, rfl, cursor_cancel w.bus key⟩
  | clearHalt pipe => exact .inl ⟨rfl, rfl, rfl⟩
  | hold => exact .inl ⟨rfl, rfl, rfl⟩
  | release => exact .inl ⟨rfl, rfl, cursor_serveQueue ..⟩

theorem sizes_run (w : Worker) (uses : List Use) :
    (w.run uses).1.map (·.size) = uses.filterMap Use.size? := by
  induction uses generalizing w with
  | nil => rfl
  | cons u rest ih =>
    simp only [run, List.map_append, ih]
    obtain ⟨size, request, -⟩ | ⟨n, size, request, -⟩ := w.use_cases u
    · rw [request, List.filterMap_cons_none size]
      rfl
    · rw [request, List.filterMap_cons_some size]
      rfl

theorem laid_run {w : Worker} (paged : Paged w.bus) (uses : List Use) :
    Laid w.bus.nextAddress (w.run uses).2.bus.nextAddress (w.run uses).1 := by
  induction uses generalizing w with
  | nil => exact laid_nil _
  | cons u rest ih =>
    obtain ⟨-, request, same⟩ | ⟨size, -, request, bus⟩ := w.use_cases u
    · have later := ih (paged.congr same)
      rw [show (w.use u).2.bus.nextAddress = w.bus.nextAddress from congrArg (·.2.2) same] at later
      simpa [run, request] using later
    · have later := ih (bus ▸ paged.allocate size)
      rw [bus] at later
      simpa [run, request] using later.cons paged

theorem answered_run (w : Worker) (uses : List Use) (i : Nat) (r : Request)
    (asked : (w.run uses).1[i]? = some r) :
    r.answer.isOk = true ↔
      w.bus.policy.allocation (w.bus.attempts + i + 1) = none ∧ 0 < r.size ∧
        r.size < addressSpace := by
  induction uses generalizing w i with
  | nil => cases asked
  | cons u rest ih =>
    obtain ⟨-, request, same⟩ | ⟨size, -, request, bus⟩ := w.use_cases u
    · simp only [run, request] at asked
      have later := ih _ _ asked
      simp only [Bus.cursor, Prod.mk.injEq] at same
      rwa [same.1, same.2.1] at later
    · obtain ⟨policy, attempts, answered⟩ := w.bus.allocate_grants size
      simp only [run, request] at asked
      cases i with
      | zero => cases asked; exact answered
      | succ i =>
        have later := ih _ _ asked
        rwa [bus, policy, attempts, Nat.add_right_comm _ 1 i] at later

/-- Whatever a simulated bus is asked for and whatever it refuses: each buffer has the size that
was wanted and starts a page, and the buffers follow each other without overlap, up to the sum of
what all requests took. -/
theorem allocations_apart (speed : Speed) (refusal : Nat → Option Failure) (generator : Generator)
    (uses : List Use) :
    let bus := { newBus speed with policy := { busPolicy with allocation := refusal } }
    let requests := (run { bus, generator } uses).1
    requests.map (·.size) = uses.filterMap Use.size? ∧
    (∀ i r, requests[i]? = some r →
      (r.answer.isOk = true ↔ refusal (i + 1) = none ∧ 0 < r.size ∧ r.size < addressSpace)) ∧
    (∀ r ∈ requests, ∀ buffer, r.answer = .ok buffer →
      pageSize ∣ buffer.address ∧ buffer.bytes.length = r.size ∧
        ∀ place, buffer.Covers place → 0x10000000 ≤ place ∧
          place < 0x10000000 + (requests.map fun r => busPolicy.stride r.size).sum) ∧
    (granted requests).Pairwise fun first later =>
      first.address < later.address ∧ ∀ place, first.Covers place → ¬later.Covers place := by
  intro bus requests
  have paged : Paged bus := ⟨rfl, rfl, (by decide : pageSize ∣ 0x10000000)⟩
  have laid : Laid 0x10000000 _ requests := laid_run (w := { bus, generator }) paged uses
  refine ⟨sizes_run _ uses, fun i r asked => ?_, fun r member buffer answer => ?_, ?_⟩
  · simpa [bus, newBus] using answered_run _ uses i r asked
  · obtain ⟨aligned, length, -, above, below⟩ := laid.placed r member buffer answer
    rw [laid.reach] at below
    refine ⟨aligned, length, fun place covered => ?_⟩
    unfold Buffer.Covers at covered
    exact ⟨by omega, Nat.lt_of_lt_of_le (length ▸ covered.2) below⟩
  · refine laid.apart.imp_of_mem fun {first later} one _ behind => ?_
    obtain ⟨r, asked, answer⟩ := exists_request_of_mem_granted one
    obtain ⟨-, length, positive, -⟩ := laid.placed r asked first answer
    refine ⟨by omega, fun place inside other => ?_⟩
    unfold Buffer.Covers at inside other
    omega

theorem allocations_apart_pages :
    let bus := { newBus .high with policy := { busPolicy with allocation := fun _ => none } }
    let generator : Generator := { source := Packet.Source.ofPids [0x100] }
    let uses : List Use :=
      [.allocate 4096, .allocate 0, .free ⟨0x10000000, []⟩, .allocate 4097, .allocate 1]
    let requests := (run { bus, generator } uses).1
    requests.map (·.size) = [4096, 0, 4097, 1] ∧
      requests[1]? = some ⟨0, .error .zeroLengthBuffer⟩ ∧
      (granted requests).map (·.address) = [0x10000000, 0x10002000, 0x10004000] ∧
      (∀ buffer, ⟨4097, .ok buffer⟩ ∈ requests →
        pageSize ∣ buffer.address ∧ buffer.bytes.length = 4097) ∧
      (granted requests).Pairwise fun first later =>
        first.address < later.address ∧ ∀ place, first.Covers place → ¬later.Covers place := by
  intro bus generator uses requests
  obtain ⟨sizes, -, placed, apart⟩ := allocations_apart .high (fun _ => none) generator uses
  refine ⟨sizes.trans rfl, rfl, by decide +kernel, fun buffer member => ?_, apart⟩
  obtain ⟨aligned, length, -⟩ := placed _ member buffer rfl
  exact ⟨aligned, length⟩

end Worker

end Simulation

end DvbReceiver

import DvbReceiver.Proofs.Stream.Memory
import Mathlib.Data.List.Perm.Basic

set_option autoImplicit false

namespace DvbReceiver

namespace Bus

def after (size : Nat) : Nat → Bus → Bus
  | 0, b => b
  | count + 1, b => after size count (b.allocate size).2

def answer (b : Bus) (size k : Nat) : Except Failure Buffer :=
  ((b.after size k).allocate size).1

def Brings (b : Bus) (size : Nat) (got : List Buffer) : Prop :=
  ∀ k buffer, got[k]? = some buffer → b.answer size k = .ok buffer

structure Gained (b : Bus) (attempts : Nat) (got : List Buffer) (b' : Bus) : Prop where
  same : Same b b'
  attempts : b'.attempts = b.attempts + attempts
  allocated : b'.allocated = (got.map (·.address)).reverse ++ b.allocated
  freed : b'.freed = b.freed

section

variable {b b₁ b₂ b₃ : Bus} {size n m : Nat} {buffer : Buffer} {got more : List Buffer}

theorem Gained.refl (b : Bus) : Gained b 0 [] b :=
  ⟨Same.refl b, rfl, rfl, rfl⟩

theorem Gained.trans (first : Gained b₁ n got b₂) (second : Gained b₂ m more b₃) :
    Gained b₁ (n + m) (got ++ more) b₃ where
  same := first.same.trans second.same
  attempts := by rw [second.attempts, first.attempts, Nat.add_assoc]
  allocated := by rw [second.allocated, first.allocated]; simp
  freed := second.freed.trans first.freed

theorem gained_ok (got : (b.allocate size).1 = .ok buffer) :
    Gained b 1 [buffer] (b.allocate size).2 ∧ buffer.bytes.length = size := by
  have counted := (b.allocate_grants size).2.1
  obtain ⟨other, b', answer, length, allocated, freed, same⟩ | ⟨e, b', answer, -⟩ :=
    b.allocate_cases size
  next =>
    rw [answer] at got counted ⊢
    cases got
    exact ⟨⟨same, counted, allocated, freed⟩, length⟩
  next =>
    rw [answer] at got
    cases got

theorem gained_error {e : Failure} (refused : (b.allocate size).1 = .error e) :
    Gained b 1 [] (b.allocate size).2 := by
  have counted := (b.allocate_grants size).2.1
  obtain ⟨buffer, b', answer, -⟩ | ⟨other, b', answer, allocated, freed, same⟩ :=
    b.allocate_cases size
  next =>
    rw [answer] at refused
    cases refused
  next =>
    rw [answer] at counted ⊢
    exact ⟨same, counted, allocated, freed⟩

theorem brings_cons : b.Brings size (buffer :: got) ↔
    (b.allocate size).1 = .ok buffer ∧ (b.allocate size).2.Brings size got := by
  constructor
  next =>
    intro all
    exact ⟨all 0 buffer rfl, fun k other there => all (k + 1) other there⟩
  next =>
    rintro ⟨first, rest⟩ k other there
    cases k with
    | zero =>
      cases there
      exact first
    | succ k => exact rest k other there

theorem brings_nil : b.Brings size [] :=
  fun _ _ there => by simp at there

theorem Brings.concat (brings : b.Brings size got)
    (last : b.answer size got.length = .ok buffer) : b.Brings size (got ++ [buffer]) := by
  intro k other there
  rw [List.getElem?_append] at there
  split at there
  next => exact brings k other there
  next beyond =>
    obtain ⟨within, rfl⟩ := List.getElem?_eq_some_iff.1 there
    simp at within
    have here : k = got.length := by omega
    simp [here, last]

theorem Brings.sized (brings : b.Brings size got) : ∀ buffer ∈ got, buffer.bytes.length = size := by
  intro buffer present
  obtain ⟨k, there⟩ := List.mem_iff_getElem?.1 present
  exact (gained_ok (brings k buffer there)).2

theorem after_succ (b : Bus) (size k : Nat) :
    b.after size (k + 1) = ((b.after size k).allocate size).2 := by
  induction k generalizing b with
  | zero => rfl
  | succ k ih => exact ih (b.allocate size).2

theorem Brings.gained (brings : b.Brings size got) :
    Gained b got.length got (b.after size got.length) := by
  induction got generalizing b with
  | nil => exact Gained.refl b
  | cons buffer got ih =>
    obtain ⟨first, rest⟩ := brings_cons.1 brings
    have total := (gained_ok first).1.trans (ih rest)
    rwa [Nat.add_comm] at total

theorem Brings.gained_refused {e : Failure} (brings : b.Brings size got)
    (refused : b.answer size got.length = .error e) :
    Gained b (got.length + 1) got (b.after size (got.length + 1)) := by
  rw [after_succ]
  simpa using brings.gained.trans (gained_error refused)

theorem settled_brings (b : Bus) (size count : Nat) :
    ∃ got, b.Brings size got ∧
      (got.length = count ∨ got.length < count ∧ ∃ e, b.answer size got.length = .error e) := by
  induction count with
  | zero => exact ⟨[], brings_nil, .inl rfl⟩
  | succ count ih =>
    obtain ⟨got, brings, all | ⟨fewer, refused⟩⟩ := ih
    next =>
      cases answer : b.answer size count with
      | error e => exact ⟨got, brings, .inr ⟨by omega, e, by rw [all, answer]⟩⟩
      | ok buffer =>
        refine ⟨got ++ [buffer], ?_, .inl (by simp [all])⟩
        exact brings.concat (by rw [all, answer])
    next => exact ⟨got, brings, .inr ⟨by omega, refused⟩⟩

end

end Bus

namespace Pool

/-- How an attempt to have `count` buffers can end: with the buffers that the bus brought, or with
lack of memory, after the attempt that was refused, and with what was got until then given back. -/
inductive Outcome (p : Pool) (b : Bus) (count size : Nat) :
    Except Failure (List Buffer) × Pool × Bus → Prop
  | granted (got : List Buffer) : b.Brings size got → got.length = count →
    Outcome p b count size
      (.ok (got.map Buffer.cleared), { p with outstanding := p.outstanding + count },
        b.after size count)
  | refused (got : List Buffer) (e : Failure) : b.Brings size got → got.length < count →
    b.answer size got.length = .error e →
    Outcome p b count size
      (.error (.outOfMemory size), p,
        (b.after size (got.length + 1)).freeAll (got.map Buffer.cleared))

theorem collect_granted {b : Bus} {size : Nat} {got : List Buffer} (brings : b.Brings size got) :
    collect size got.length b = (true, got.map Buffer.cleared, b.after size got.length) := by
  induction got generalizing b with
  | nil => rfl
  | cons buffer got ih =>
    obtain ⟨first, rest⟩ := Bus.brings_cons.1 brings
    have attempt : b.allocate size = (.ok buffer, (b.allocate size).2) := by rw [← first]
    rw [List.length_cons, collect, attempt]
    dsimp only
    rw [ih rest]
    rfl

theorem collect_refused {b : Bus} {size count : Nat} {got : List Buffer} {e : Failure}
    (brings : b.Brings size got) (fewer : got.length < count)
    (refused : b.answer size got.length = .error e) :
    collect size count b =
      (false, got.map Buffer.cleared, b.after size (got.length + 1)) := by
  obtain ⟨count, rfl⟩ := Nat.exists_eq_add_one_of_ne_zero (Nat.ne_of_gt (Nat.zero_lt_of_lt fewer))
  induction got generalizing b count with
  | nil =>
    have attempt : b.allocate size = (.error e, (b.allocate size).2) := by rw [← refused]; rfl
    rw [collect, attempt]
    rfl
  | cons buffer got ih =>
    obtain ⟨first, rest⟩ := Bus.brings_cons.1 brings
    have attempt : b.allocate size = (.ok buffer, (b.allocate size).2) := by rw [← first]
    rw [List.length_cons] at fewer
    obtain ⟨count, rfl⟩ : ∃ n, count = n + 1 := ⟨count - 1, by omega⟩
    rw [collect, attempt]
    dsimp only
    rw [ih rest refused count (by omega)]
    rfl

theorem outcome_allocate (p : Pool) (b : Bus) (count size : Nat) :
    Outcome p b count size (p.allocate b count size) := by
  unfold allocate
  obtain ⟨got, brings, rfl | ⟨fewer, e, refused⟩⟩ := b.settled_brings size count
  next =>
    rw [collect_granted brings]
    exact .granted got brings rfl
  next =>
    rw [collect_refused brings fewer refused]
    exact .refused got e brings fewer refused

end Pool

structure Lending where
  pool : Pool
  bus : Bus
  held : List Buffer

namespace Lending

/-- Picks the buffers at these positions one after the other, each time out of those still there. -/
def pick : List Nat → List Buffer → List Buffer × List Buffer
  | [], held => ([], held)
  | position :: rest, held =>
    match held[position]? with
    | none => pick rest held
    | some buffer =>
      let (picked, kept) := pick rest (held.eraseIdx position)
      (buffer :: picked, kept)

inductive Act
  | allocate (count : Nat) (size : BufferSize)
  | release (positions : List Nat)
  | write (position offset : Nat) (data : Bytes)

/-- After a crash all is as it was, for whoever survives it. -/
def act (l : Lending) : Act → Lending
  | .allocate count size =>
    match l.pool.request l.bus count size with
    | .error _ => l
    | .ok (.ok buffers, pool, bus) => { pool, bus, held := l.held ++ buffers }
    | .ok (.error _, pool, bus) => { l with pool, bus }
  | .release positions =>
    let (picked, kept) := pick positions l.held
    let (pool, bus) := l.pool.release l.bus picked
    { pool, bus, held := kept }
  | .write position offset data =>
    { l with held := l.held.modify position fun buffer =>
        { buffer with bytes := buffer.bytes.overwrite offset data } }

def run (l : Lending) (acts : List Act) : Lending :=
  acts.foldl act l

def Roomy (count : Nat) : Prop :=
  count * Buffer.entryBytes < addressSpace

theorem pick_perm (positions : List Nat) (held : List Buffer) :
    held.Perm ((pick positions held).1 ++ (pick positions held).2) := by
  induction positions generalizing held with
  | nil => exact List.Perm.refl held
  | cons position rest ih =>
    unfold pick
    split
    next => exact ih held
    next buffer there =>
      obtain ⟨within, rfl⟩ := List.getElem?_eq_some_iff.1 there
      exact (List.getElem_cons_eraseIdx_perm within).symm.trans ((ih _).cons _)

/-- The pool, the bus and the holders agree on the buffers that were lent since `b₀`. -/
structure Balanced (b₀ : Bus) (l : Lending) : Prop where
  outstanding : l.pool.outstanding = l.held.length
  lent : l.bus.lent = b₀.lent + l.pool.outstanding
  memory : ∃ got given, l.bus.allocated = got ++ b₀.allocated ∧ l.bus.freed = given ++ b₀.freed ∧
    got.Perm (given ++ l.held.map (·.address))

variable {b₀ : Bus} {l : Lending}

theorem balanced_of_memory (outstanding : l.pool.outstanding = l.held.length)
    (memory : ∃ got given, l.bus.allocated = got ++ b₀.allocated ∧
      l.bus.freed = given ++ b₀.freed ∧ got.Perm (given ++ l.held.map (·.address))) :
    Balanced b₀ l where
  outstanding := outstanding
  lent := by
    obtain ⟨got, given, allocated, freed, balance⟩ := memory
    have lengths := balance.length_eq
    simp at lengths
    simp [Bus.lent, allocated, freed, outstanding, lengths]
    omega
  memory := memory

theorem Balanced.release (balanced : Balanced b₀ l) (positions : List Nat) :
    Balanced b₀ (l.act (.release positions)) := by
  have parts := pick_perm positions l.held
  obtain ⟨got, given, allocated, freed, balance⟩ := balanced.memory
  simp only [act, Pool.release]
  generalize pick positions l.held = split at parts ⊢
  obtain ⟨picked, kept⟩ := split
  refine balanced_of_memory ?_ ?_
  next =>
    have count := parts.length_eq
    simp only [List.length_append] at count
    simp [balanced.outstanding, count]
  next =>
    refine ⟨got, (picked.map (·.address)).reverse ++ given, by simp [Bus.freeAll_eq, allocated],
      by simp [Bus.freeAll_eq, freed], ?_⟩
    have addresses := parts.map (·.address)
    rw [List.map_append] at addresses
    calc got
      _ |>.Perm (given ++ l.held.map (·.address)) := balance
      _ |>.Perm (given ++ (picked.map (·.address) ++ kept.map (·.address))) :=
        addresses.append_left given
      _ |>.Perm (picked.map (·.address) ++ (given ++ kept.map (·.address))) :=
        List.perm_append_comm_assoc ..
      _ |>.Perm ((picked.map (·.address)).reverse ++ (given ++ kept.map (·.address))) :=
        (List.reverse_perm _).symm.append_right _
      _ = (picked.map (·.address)).reverse ++ given ++ kept.map (·.address) :=
        (List.append_assoc ..).symm

theorem crashed_request (l : Lending) {count : Nat} (crowded : ¬ Roomy count) (size : BufferSize) :
    ∃ crash, l.pool.request l.bus count size = .error crash ∧ l.act (.allocate count size) = l := by
  cases room : reserve count Buffer.entryBytes with
  | ok => exact absurd (reserve_eq_ok_iff.1 room) crowded
  | error crash =>
    have request : l.pool.request l.bus count size = .error crash := by
      rw [Pool.request, room]
      rfl
    exact ⟨crash, request, by rw [act, request]⟩

theorem Balanced.allocate (balanced : Balanced b₀ l) (count : Nat) (size : BufferSize) :
    Balanced b₀ (l.act (.allocate count size)) := by
  by_cases roomy : Roomy count
  case neg =>
    obtain ⟨-, -, same⟩ := l.crashed_request roomy size
    rwa [same]
  have outcome := l.pool.outcome_allocate l.bus count size
  obtain ⟨got, given, allocated, freed, balance⟩ := balanced.memory
  simp only [act, Pool.request_of_room roomy]
  generalize l.pool.allocate l.bus count size = result at outcome ⊢
  cases outcome with
  | granted more brings all =>
    have gained := brings.gained
    -- Clearing a buffer does not move it.
    have addresses : (more.map Buffer.cleared).map (·.address) = more.map (·.address) := by
      simp [Buffer.cleared]
    rw [all] at gained
    refine balanced_of_memory (by simp [balanced.outstanding, all]) ?_
    refine ⟨(more.map (·.address)).reverse ++ got, given, by simp [gained.allocated, allocated],
      gained.freed.trans freed, ?_⟩
    rw [List.map_append, addresses]
    calc (more.map (·.address)).reverse ++ got
      _ |>.Perm (more.map (·.address) ++ (given ++ l.held.map (·.address))) :=
        (List.reverse_perm _).append balance
      _ |>.Perm (given ++ (more.map (·.address) ++ l.held.map (·.address))) :=
        List.perm_append_comm_assoc ..
      _ |>.Perm (given ++ (l.held.map (·.address) ++ more.map (·.address))) :=
        List.perm_append_comm.append_left given
  | refused back e brings fewer refused =>
    have gained := brings.gained_refused refused
    refine balanced_of_memory balanced.outstanding ?_
    refine ⟨(back.map (·.address)).reverse ++ got, (back.map (·.address)).reverse ++ given,
      by simp [Bus.freeAll_eq, gained.allocated, allocated], ?_, ?_⟩
    · simp [Bus.freeAll_eq, gained.freed, freed, Buffer.cleared, Function.comp_def]
    · rw [List.append_assoc]
      exact balance.append_left _

theorem Balanced.write (balanced : Balanced b₀ l) (position offset : Nat) (data : Bytes) :
    Balanced b₀ (l.act (.write position offset data)) := by
  have addresses : (l.act (.write position offset data)).held.map (·.address) =
      l.held.map (·.address) := by
    refine List.ext_getElem? fun k => ?_
    simp only [act, List.getElem?_map, List.getElem?_modify]
    split <;> simp [Function.comp_def]
  refine balanced_of_memory (by simp [act, balanced.outstanding]) ?_
  rw [addresses]
  exact balanced.memory

theorem Balanced.act (balanced : Balanced b₀ l) (step : Act) : Balanced b₀ (l.act step) := by
  cases step with
  | allocate count size => exact balanced.allocate count size
  | release positions => exact balanced.release positions
  | write position offset data => exact balanced.write position offset data

theorem Balanced.run (balanced : Balanced b₀ l) (acts : List Act) : Balanced b₀ (l.run acts) := by
  induction acts generalizing l with
  | nil => exact balanced
  | cons step rest ih => exact ih (balanced.act step)

def reply (l : Lending) (count : Nat) (size : BufferSize) :
    Except Crash (Except Failure (List Buffer)) :=
  (l.pool.request l.bus count size).map (·.1)

theorem reply_roomy (l : Lending) {count : Nat} (roomy : Roomy count) (size : BufferSize) :
    l.reply count size = .ok (l.pool.allocate l.bus count size).1 := by
  rw [reply, Pool.request_of_room roomy]
  rfl

/-- A request that fails after `got`: these buffers go back, and nothing else happens. -/
structure Retracted (l : Lending) (count : Nat) (size : BufferSize) (got : List Buffer) : Prop where
  error : l.reply count size = .ok (.error (.outOfMemory size))
  pool : (l.act (.allocate count size)).pool = l.pool
  held : (l.act (.allocate count size)).held = l.held
  attempts : (l.act (.allocate count size)).bus.attempts = l.bus.attempts + (got.length + 1)
  allocated : (l.act (.allocate count size)).bus.allocated =
    (got.map (·.address)).reverse ++ l.bus.allocated
  freed : (l.act (.allocate count size)).bus.freed =
    (got.map (·.address)).reverse ++ l.bus.freed

theorem retracted_allocate (l : Lending) {count : Nat} {size : BufferSize} {got : List Buffer}
    {e : Failure} (roomy : Roomy count) (brings : l.bus.Brings size got) (fewer : got.length < count)
    (refused : l.bus.answer size got.length = .error e) : Retracted l count size got := by
  have gained := brings.gained_refused refused
  have result : l.pool.allocate l.bus count size = (.error (.outOfMemory size), l.pool,
      (l.bus.after size (got.length + 1)).freeAll (got.map Buffer.cleared)) := by
    rw [Pool.allocate, Pool.collect_refused brings fewer refused]
  constructor <;>
    simp [reply_roomy, roomy, act, Pool.request_of_room roomy, result, Bus.freeAll_eq,
      gained.attempts, gained.allocated, gained.freed, Buffer.cleared, Function.comp_def]

/-- The books are right, and so will be whatever is done next. Only for want of room for the list
of buffers there is no answer to a request. -/
structure Audited (b₀ : Bus) (l : Lending) : Prop extends Balanced b₀ l where
  settled : ∀ count (size : BufferSize), ∃ got, l.bus.Brings size got ∧
    (got.length = count ∨ got.length < count ∧ ∃ e, l.bus.answer size got.length = .error e)
  granted : ∀ count (size : BufferSize) got, Roomy count → l.bus.Brings size got →
    got.length = count → l.reply count size = .ok (.ok (got.map Buffer.cleared))
  cleared : ∀ count (size : BufferSize) buffers, l.reply count size = .ok (.ok buffers) →
    buffers.length = count ∧ ∀ buffer ∈ buffers, buffer.bytes = List.replicate size 0
  refused : ∀ count (size : BufferSize) got e, Roomy count → l.bus.Brings size got →
    got.length < count → l.bus.answer size got.length = .error e → Retracted l count size got
  crashed : ∀ count size, ¬ Roomy count →
    ∃ crash, l.reply count size = .error crash ∧ l.act (.allocate count size) = l
  released : ∀ positions,
    (l.act (.release positions)).pool.outstanding + (pick positions l.held).1.length =
        l.pool.outstanding ∧
      (l.act (.release positions)).bus.freed =
        ((pick positions l.held).1.map (·.address)).reverse ++ l.bus.freed

theorem cleared_reply (l : Lending) {count : Nat} {size : BufferSize} {buffers : List Buffer}
    (ok : l.reply count size = .ok (.ok buffers)) :
    buffers.length = count ∧ ∀ buffer ∈ buffers, buffer.bytes = List.replicate size 0 := by
  have outcome := l.pool.outcome_allocate l.bus count size
  by_cases roomy : Roomy count
  case neg =>
    obtain ⟨crash, request, -⟩ := l.crashed_request roomy size
    rw [reply, request] at ok
    cases ok
  rw [l.reply_roomy roomy] at ok
  generalize l.pool.allocate l.bus count size = result at ok outcome
  cases outcome with
  | refused => cases ok
  | granted got brings all =>
    cases ok
    refine ⟨by simp [all], fun buffer present => ?_⟩
    obtain ⟨raw, there, rfl⟩ := List.mem_map.1 present
    rw [Buffer.cleared, brings.sized raw there]

theorem Balanced.audited (balanced : Balanced b₀ l) : Audited b₀ l where
  toBalanced := balanced
  settled count size := l.bus.settled_brings size count
  granted count size got roomy brings all := by
    subst all
    rw [l.reply_roomy roomy, Pool.allocate, Pool.collect_granted brings]
  cleared count size buffers := l.cleared_reply
  refused count size got e roomy := retracted_allocate l roomy
  crashed count size crowded := by
    obtain ⟨crash, request, same⟩ := l.crashed_request crowded size
    exact ⟨crash, by rw [reply, request]; rfl, same⟩
  released positions := by
    have count := (pick_perm positions l.held).length_eq
    rw [List.length_append] at count
    refine ⟨?_, by simp [Lending.act, Pool.release, Bus.freeAll_eq]⟩
    simp only [Lending.act, Pool.release, balanced.outstanding]
    omega

/-- Whatever the bus refuses, no buffer of a pool is lost or counted twice. -/
theorem audited_run (bus : Bus) (acts : List Act) :
    Audited bus (run { pool := {}, bus, held := [] } acts) := by
  have fresh : Balanced bus { pool := {}, bus, held := [] } :=
    balanced_of_memory rfl ⟨[], [], rfl, rfl, List.Perm.refl _⟩
  exact (fresh.run acts).audited

/-- The bus is never asked for the buffer that it would refuse. -/
theorem unanswered_reply :
    let policy : BusPolicy := { stride := id, allocation := fun _ => some (.device "no memory") }
    let l : Lending := { pool := {}, bus := { speed := .high, nextAddress := 0, policy }, held := [] }
    let page : BufferSize := ⟨pageSize, by decide⟩
    l.bus.answer page 0 = .error (.device "no memory") ∧
      l.reply (UInt64.size - 1) page = .error .capacity := by
  exact ⟨rfl, by decide +kernel⟩

-- The fourth attempt is refused, which is the second one of the second request.
example :
    let refusal := fun attempt => if attempt = 4 then some Failure.zeroLengthBuffer else none
    let bus : Bus := { speed := .high, nextAddress := 64, policy :=
      { stride := id, allocation := refusal } }
    let l := run { pool := {}, bus, held := [] }
      [.allocate 2 ⟨8, by decide⟩, .allocate 3 ⟨4, by decide⟩, .release [1]]
    l.held = [⟨64, List.replicate 8 0⟩] ∧ l.bus.allocated = [80, 72, 64] ∧
      l.bus.freed = [72, 80] := by
  decide

end Lending

end DvbReceiver

import DvbReceiver.Proofs.Stream.Ownership

set_option autoImplicit false

namespace DvbReceiver

namespace Bus

def lent (b : Bus) : Int :=
  b.allocated.length - b.freed.length

def Grants (b : Bus) (count size : Nat) : Prop :=
  ∀ k < count, b.policy.allocation (b.attempts + 1 + k) = none ∧ 0 < size ∧ size < addressSpace

theorem allocate_grants (b : Bus) (size : Nat) :
    (b.allocate size).2.policy = b.policy ∧ (b.allocate size).2.attempts = b.attempts + 1 ∧
      ((b.allocate size).1.isOk = true ↔
        b.policy.allocation (b.attempts + 1) = none ∧ 0 < size ∧ size < addressSpace) := by
  have sized : (Buffer.allocate size b.nextAddress).isOk = true ↔
      0 < size ∧ size < addressSpace := by
    unfold Buffer.allocate
    by_cases empty : size = 0
    next => simp [empty, Except.isOk, Except.toBool]
    next =>
      by_cases huge : addressSpace ≤ size
      next => simp [empty, huge, Except.isOk, Except.toBool]
      next => simp [empty, huge, Except.isOk, Except.toBool, Nat.pos_of_ne_zero]; omega
  unfold allocate
  dsimp only
  cases refusal : b.policy.allocation (b.attempts + 1) with
  | some e => simp [Except.isOk, Except.toBool]
  | none =>
    cases got : Buffer.allocate size b.nextAddress with
    | error e => simpa [got, Except.isOk, Except.toBool] using sized
    | ok buffer => simpa [got, Except.isOk, Except.toBool] using sized

end Bus

theorem Pool.collect_all_iff (size count : Nat) (b : Bus) :
    (collect size count b).1 = true ↔ b.Grants count size := by
  induction count generalizing b with
  | zero => simp [collect, Bus.Grants]
  | succ count ih =>
    obtain ⟨policy, attempts, granted⟩ := b.allocate_grants size
    -- The first attempt of the rest is the one after this.
    have split : b.Grants (count + 1) size ↔
        (b.allocate size).1.isOk = true ∧ (b.allocate size).2.Grants count size := by
      rw [granted]
      constructor
      next =>
        intro all
        refine ⟨all 0 (by omega), fun k within => ?_⟩
        have later := all (k + 1) (by omega)
        rwa [policy, attempts, show b.attempts + 1 + 1 + k = b.attempts + 1 + (k + 1) by omega]
      next =>
        rintro ⟨first, rest⟩ k within
        cases k with
        | zero => exact first
        | succ k =>
          have later := rest k (by omega)
          rwa [policy, attempts, show b.attempts + 1 + 1 + k = b.attempts + 1 + (k + 1) by omega]
            at later
    rw [split, ← ih, collect]
    generalize b.allocate size = attempt
    obtain ⟨result, rest⟩ := attempt
    cases result with
    | error e => simp [Except.isOk, Except.toBool]
    | ok buffer => simp [Except.isOk, Except.toBool]

theorem Pool.isOk_allocate (p : Pool) (b : Bus) (count size : Nat) :
    (p.allocate b count size).1.isOk = true ↔ b.Grants count size := by
  rw [← collect_all_iff, allocate]
  generalize collect size count b = collected
  obtain ⟨complete, buffers, rest⟩ := collected
  cases complete with
  | false => simp [Except.isOk, Except.toBool]
  | true => simp [Except.isOk, Except.toBool]

namespace Flow

variable {h₀ : Host} {f f' : Flow} {roster : List UrbIdentity}

inductive Preparing (f : Flow) (layout : Layout) : Except Failure Unit × Flow → Prop
  | failed (e : Failure) (bus : Bus) :
    bus.queue = f.host.bus.queue → bus.lent = f.host.bus.lent →
    Preparing f layout (.error e, { f with host := { f.host with bus } })
  | prepared (g : Flow) :
    f.stream.prepared = 0 → g.stream.prepared = layout.count →
    g.stream.pool.outstanding = f.stream.pool.outstanding + layout.count →
    Preparing f layout (.ok (), g)

theorem preparing_prepare (f : Flow) (layout : Layout) :
    Preparing f layout (f.prepare layout) := by
  unfold prepare
  split
  next => exact .failed _ f.host.bus rfl rfl
  next bare =>
    split
    next => exact .failed _ f.host.bus rfl rfl
    next =>
      split
      next => exact .failed _ f.host.bus rfl rfl
      next =>
        dsimp only
        obtain ⟨buffers, bus, got, -, -, same, -, -⟩ | ⟨bus, got, refused, same, more, back⟩ :=
          f.stream.pool.allocate_cases (f.host.bus.clearHalt layout.pipe).2 layout.count
            layout.bufferSize
        next =>
          rw [got]
          exact .prepared _ (by omega) rfl rfl
        next =>
          have lent : bus.lent = f.host.bus.lent := by
            simp only [Bus.lent, Bus.clearHalt, more, back, List.length_append]
            omega
          rw [refused]
          exact .failed _ bus same.queue lent

theorem prepare_ok_iff (f : Flow) (layout : Layout) :
    (f.prepare layout).1 = .ok () ↔
      f.stream.prepared = 0 ∧ f.stream.sink.isSome = true ∧ layout.problem? = none ∧
        f.host.bus.Grants layout.count layout.bufferSize := by
  have granted : _ ↔ f.host.bus.Grants layout.count layout.bufferSize :=
    f.stream.pool.isOk_allocate (f.host.bus.clearHalt layout.pipe).2 layout.count layout.bufferSize
  unfold prepare
  by_cases busy : 0 < f.stream.prepared
  next => simp [busy, Nat.ne_of_gt busy]
  next =>
    have bare : f.stream.prepared = 0 := by omega
    cases f.stream.sink with
    | none => simp [busy]
    | some sink =>
      cases layout.problem? with
      | some problem => simp [busy]
      | none =>
        rw [← granted]
        dsimp only
        generalize f.stream.pool.allocate (f.host.bus.clearHalt layout.pipe).2 layout.count
          layout.bufferSize = attempt
        obtain ⟨result, pool, bus⟩ := attempt
        cases result with
        | error e => simp [bare, Except.isOk, Except.toBool]
        | ok buffers => simp [bare, Except.isOk, Except.toBool]

def requests (f : Flow) : List Urb :=
  ofStream f.stream.id f.host.bus.queue ++ f.stream.parked.filterMap id

/-- The buffers that a stream got since `h₀` are those it gave back and those of its requests, and
bus, pool and stream count them alike. -/
structure Balanced (h₀ : Host) (f : Flow) : Prop where
  memory : ∃ got given, f.host.bus.allocated = got ++ h₀.bus.allocated ∧
    f.host.bus.freed = given ++ h₀.bus.freed ∧
    got.Perm (given ++ f.requests.map (·.buffer.address))
  lent : f.host.bus.lent = h₀.bus.lent + f.stream.prepared
  outstanding : f.stream.pool.outstanding = f.stream.prepared
  requests : f.requests.length = f.stream.prepared

structure Funded (h₀ : Host) (f : Flow) (roster : List UrbIdentity) : Prop where
  sound : f.Sound roster
  exchange : h₀.Exchange f.host [] (addresses roster)
  outstanding : f.stream.pool.outstanding = f.stream.prepared

theorem Sound.length_roster (sound : f.Sound roster) : roster.length = f.stream.prepared := by
  have keys := congrArg List.length sound.custody.keys
  simpa [sound.size] using keys

namespace Funded

theorem balanced (funded : Funded h₀ f roster) : Balanced h₀ f := by
  obtain ⟨got, given, allocated, freed, balance⟩ := funded.exchange.memory
  have all := funded.sound.custody.all
  have size := funded.sound.length_roster
  have held : (f.requests.map (·.buffer.address)).Perm (addresses roster) := by
    simpa [addresses, Urb.identity, Function.comp_def, requests] using all.map (·.address)
  constructor
  next =>
    refine ⟨got, given, allocated, freed, ?_⟩
    simpa using balance.trans (held.symm.append_left given)
  next =>
    have lengths := balance.length_eq
    simp [addresses, size] at lengths
    simp [Bus.lent, allocated, freed]
    omega
  next => exact funded.outstanding
  next =>
    have count := all.length_eq
    rw [← size, ← count]
    simp [requests]

theorem of_kept (funded : Funded h₀ f roster) (kept : Kept f f') (sound : f'.Sound roster) :
    Funded h₀ f' roster where
  sound := sound
  exchange := funded.exchange.trans (kept.host.exchange _)
  outstanding := by rw [kept.pool, kept.prepared, funded.outstanding]

theorem setSink (funded : Funded h₀ f roster) (sink : Option String) :
    Funded h₀ { f with stream := { f.stream with sink } } roster :=
  { funded with sound := { funded.sound with } }

theorem prepare (funded : Funded h₀ f roster) (layout : Layout) :
    ∃ roster', Funded h₀ (f.prepare layout).2 roster' := by
  obtain ⟨roster', provided⟩ := provided_prepare funded.sound layout
  refine ⟨roster', provided.sound, funded.exchange.trans provided.exchange, ?_⟩
  have preparing := preparing_prepare f layout
  generalize f.prepare layout = result at preparing ⊢
  cases preparing with
  | failed e bus => exact funded.outstanding
  | prepared g bare count outstanding => simp [outstanding, count, funded.outstanding, bare]

theorem release (funded : Funded h₀ f roster) : Funded h₀ f.release [] := by
  have step := step_release funded.sound
  have kept := kept_stop f
  refine ⟨step.sound, funded.exchange.trans step.exchange, ?_⟩
  have halted := sound_stop funded.sound
  have idle := halted.idle (submitted_stop f)
  have counted : f.stop.stream.pool.outstanding = f.stop.stream.prepared := by
    rw [kept.pool, kept.prepared, funded.outstanding]
  unfold Flow.release
  dsimp only
  split
  next unprepared =>
    have lane := halted.lane
    simp [unprepared] at lane
    simp [counted, lane]
  next lane prepared =>
    -- All requests are parked, so that as many buffers go back as the pool has counted.
    have all := (halted.custody.all).length_eq
    simp [idle, Stream.parked, prepared, halted.length_roster] at all
    simp [Pool.release, counted, all]

theorem act (funded : Funded h₀ f roster) (step : Act) :
    ∃ roster', Funded h₀ (f.act step) roster' := by
  cases step with
  | prepare layout => exact funded.prepare layout
  | start =>
    obtain ⟨kept, sound⟩ := kept_sound_start funded.sound
    exact ⟨roster, funded.of_kept kept sound⟩
  | stop => exact ⟨roster, funded.of_kept (kept_stop f) (sound_stop funded.sound)⟩
  | release => exact ⟨[], funded.release⟩
  | complete position fill =>
    simp only [Flow.act]
    split
    next => exact ⟨roster, funded⟩
    next u there =>
      have removed := removed_eraseIdx there
      split
      next own =>
        have sound := sound_complete funded.sound removed own fill
        have ownFilled : (u.fill fill).key.stream = f.stream.id := by rw [u.key_fill, own]
        have returned := returned_complete { f with host := { f.host with bus :=
          { f.host.bus with queue := f.host.bus.queue.eraseIdx position } } } ownFilled
        exact ⟨roster, funded.of_kept ((kept_unqueue removed own).trans returned.toKept) sound⟩
      next foreign =>
        have sound : Sound { f with host := { f.host with bus :=
            { f.host.bus with queue := f.host.bus.queue.eraseIdx position } } } roster :=
          Stream.Sound.of_ofStream_eq funded.sound (removed.ofStream_eq foreign)
        have steady : f.host.Steady { f.host with bus := { f.host.bus with
            queue := f.host.bus.queue.eraseIdx position } } := Host.steady_bus rfl rfl rfl rfl
        exact ⟨roster, sound, funded.exchange.trans (steady.exchange _), funded.outstanding⟩
  | foreign u =>
    simp only [Flow.act]
    split
    next => exact ⟨roster, funded⟩
    next foreign =>
      have steady := Host.steady_submit f.host u
      exact ⟨roster, sound_submit_foreign funded.sound foreign,
        funded.exchange.trans (steady.exchange _), funded.outstanding⟩

theorem run (funded : Funded h₀ f roster) (acts : List Act) :
    ∃ roster', Funded h₀ (f.run acts) roster' := by
  induction acts generalizing f roster with
  | nil => exact ⟨roster, funded⟩
  | cons step rest ih =>
    obtain ⟨between, after⟩ := funded.act step
    exact ih after

end Funded

def Ready (h₀ : Host) (f : Flow) : Prop :=
  f.stream.prepared = 0 → ∀ (layout : Layout) (sink : String), layout.problem? = none →
    f.host.bus.Grants layout.count layout.bufferSize →
      ∃ g, Flow.prepare { f with stream := { f.stream with sink := some sink } } layout =
          (.ok (), g) ∧
        g.stream.prepared = layout.count ∧ Balanced h₀ g

structure LeakFree (h₀ : Host) (f : Flow) : Prop extends Balanced h₀ f where
  failed : ∀ layout e, (f.prepare layout).1 = .error e →
    (f.prepare layout).2.stream = f.stream ∧
      (f.prepare layout).2.host.bus.queue = f.host.bus.queue ∧
      (f.prepare layout).2.host.bus.lent = f.host.bus.lent ∧ Ready h₀ (f.prepare layout).2
  released : f.release.host.bus.lent = h₀.bus.lent ∧ f.release.stream.pool.outstanding = 0 ∧
    f.release.stream.prepared = 0 ∧ Ready h₀ f.release

namespace Funded

theorem ready (funded : Funded h₀ f roster) : Ready h₀ f := by
  intro bare layout sink good grants
  have granted : (Flow.prepare { f with stream := { f.stream with sink := some sink } }
      layout).1 = .ok () :=
    (prepare_ok_iff _ layout).2 ⟨bare, rfl, good, grants⟩
  have preparing :=
    preparing_prepare { f with stream := { f.stream with sink := some sink } } layout
  obtain ⟨roster', after⟩ := (funded.setSink (some sink)).prepare layout
  generalize Flow.prepare { f with stream := { f.stream with sink := some sink } } layout = result
    at granted preparing after ⊢
  cases preparing with
  | failed e bus => cases granted
  | prepared g _ count => exact ⟨g, rfl, count, after.balanced⟩

theorem leakFree (funded : Funded h₀ f roster) : LeakFree h₀ f where
  toBalanced := funded.balanced
  failed layout e refused := by
    have preparing := preparing_prepare f layout
    obtain ⟨roster', after⟩ := funded.prepare layout
    generalize f.prepare layout = result at refused preparing after ⊢
    cases preparing with
    | failed e bus queue lent => exact ⟨rfl, queue, lent, after.ready⟩
    | prepared g => cases refused
  released := by
    have after := funded.release
    have bare : f.release.stream.prepared = 0 := after.sound.length_roster.symm
    have balanced := after.balanced
    refine ⟨?_, balanced.outstanding.trans bare, bare, after.ready⟩
    rw [balanced.lent, bare]
    simp

end Funded

/-- Whatever is refused meanwhile, a stream gives back each buffer that it got. -/
theorem leakFree_run (host : Host) (stream : Nat) (sink : Option String) (acts : List Act)
    (unused : ∀ u ∈ host.bus.queue, u.key.stream ≠ stream) :
    LeakFree host (run { host, stream := { id := stream, sink } } acts) := by
  have fresh : Funded host { host, stream := { id := stream, sink } } [] :=
    ⟨sound_fresh sink unused, (Host.Steady.refl host).exchange _, rfl⟩
  obtain ⟨roster, funded⟩ := fresh.run acts
  exact funded.leakFree

theorem leakFree_run_bulk :
    (∀ u ∈ (Bench.bareHost (Bench.newBus .high)).bus.queue, u.key.stream ≠ 1) ∧
      LeakFree (Bench.bareHost (Bench.newBus .high)) (run
        { host := Bench.bareHost (Bench.newBus .high), stream := { id := 1, sink := some "demux" } }
        [.prepare ⟨2, 0x81, .bulk 4⟩, .start, .complete 0 (.result .ok 4), .release,
          .prepare ⟨3, 0x81, .bulk 8⟩]) := by
  have unused : ∀ u ∈ (Bench.bareHost (Bench.newBus .high)).bus.queue, u.key.stream ≠ 1 := by
    simp [Bench.bareHost, Bench.newBus]
  exact ⟨unused, leakFree_run _ 1 _ _ unused⟩

end Flow

end DvbReceiver

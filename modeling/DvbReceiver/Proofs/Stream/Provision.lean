import DvbReceiver.Proofs.Stream.Operations

set_option autoImplicit false

namespace DvbReceiver

namespace Bus

structure Same (b b' : Bus) : Prop where
  speed : b'.speed = b.speed
  policy : b'.policy = b.policy
  queue : b'.queue = b.queue

theorem Same.refl (b : Bus) : Same b b :=
  ⟨rfl, rfl, rfl⟩

theorem Same.trans {b₁ b₂ b₃ : Bus} (first : Same b₁ b₂) (second : Same b₂ b₃) : Same b₁ b₃ where
  speed := second.speed.trans first.speed
  policy := second.policy.trans first.policy
  queue := second.queue.trans first.queue

theorem allocate_cases (b : Bus) (size : Nat) :
    (∃ buffer b', b.allocate size = (.ok buffer, b') ∧ buffer.bytes.length = size ∧
      b'.allocated = buffer.address :: b.allocated ∧ b'.freed = b.freed ∧ Same b b') ∨
    (∃ e b', b.allocate size = (.error e, b') ∧ b'.allocated = b.allocated ∧ b'.freed = b.freed ∧
      Same b b') := by
  unfold allocate
  dsimp only
  split
  next buffer got => exact .inl ⟨_, _, rfl, by simp, rfl, rfl, rfl, rfl, rfl⟩
  next e refused => exact .inr ⟨e, _, rfl, rfl, rfl, rfl, rfl, rfl⟩

theorem policy_allocate (b : Bus) (size : Nat) : (b.allocate size).2.policy = b.policy := by
  unfold allocate
  dsimp only
  split <;> rfl

theorem freeAll_eq (b : Bus) (buffers : List Buffer) :
    b.freeAll buffers = { b with freed := (buffers.map (·.address)).reverse ++ b.freed } := by
  induction buffers generalizing b with
  | nil => rfl
  | cons buffer rest ih =>
    have later := ih (b.free buffer)
    simpa [freeAll, free] using later

end Bus

namespace Pool

structure Collected (b : Bus) (count size : Nat) (result : Bool × List Buffer × Bus) : Prop where
  same : Bus.Same b result.2.2
  allocated : result.2.2.allocated = (result.2.1.map (·.address)).reverse ++ b.allocated
  freed : result.2.2.freed = b.freed
  sizes : ∀ buffer ∈ result.2.1, buffer.bytes.length = size
  all : result.1 = true → result.2.1.length = count

theorem collected_collect (size count : Nat) (b : Bus) :
    Collected b count size (collect size count b) := by
  induction count generalizing b with
  | zero => exact ⟨Bus.Same.refl b, rfl, rfl, by simp [collect], fun _ => rfl⟩
  | succ count ih =>
    unfold collect
    obtain ⟨buffer, b', got, length, allocated, freed, same⟩ |
      ⟨e, b', refused, allocated, freed, same⟩ := b.allocate_cases size
    next =>
      rw [got]
      have later := ih b'
      exact
        { same := same.trans later.same
          allocated := by
            dsimp only
            rw [later.allocated, allocated]
            simp [Buffer.cleared]
          freed := later.freed.trans freed
          sizes := by
            intro other present
            cases List.mem_cons.1 present with
            | inl here => rw [here, Buffer.length_cleared, length]
            | inr there => exact later.sizes other there
          all := fun complete => by
            rw [List.length_cons, later.all complete] }
    next =>
      rw [refused]
      exact ⟨same, allocated, freed, by simp, fun impossible => by cases impossible⟩

theorem allocate_cases (p : Pool) (b : Bus) (count size : Nat) :
    (∃ buffers b', p.allocate b count size =
        (.ok buffers, { p with outstanding := p.outstanding + count }, b') ∧
      buffers.length = count ∧ (∀ buffer ∈ buffers, buffer.bytes.length = size) ∧ Bus.Same b b' ∧
      b'.allocated = (buffers.map (·.address)).reverse ++ b.allocated ∧ b'.freed = b.freed) ∨
    (∃ b' got, p.allocate b count size = (.error (.outOfMemory size), p, b') ∧ Bus.Same b b' ∧
      b'.allocated = got ++ b.allocated ∧ b'.freed = got ++ b.freed) := by
  have collected := collected_collect size count b
  unfold allocate
  split
  next buffers b' complete =>
    rw [complete] at collected
    exact .inl ⟨buffers, b', rfl, collected.all rfl, collected.sizes, collected.same,
      collected.allocated, collected.freed⟩
  next buffers b' partly =>
    rw [partly] at collected
    rw [Bus.freeAll_eq]
    refine .inr ⟨_, (buffers.map (·.address)).reverse, rfl,
      ⟨collected.same.speed, collected.same.policy, collected.same.queue⟩, collected.allocated, ?_⟩
    rw [collected.freed]

end Pool

theorem Layout.count_pos {layout : Layout} (good : layout.problem? = none) : 0 < layout.count := by
  unfold problem? at good
  split at good
  next => cases good
  next within => omega

def urbsFor (stream : Nat) (layout : Layout) (buffers : List Buffer) : List Urb :=
  buffers.zipIdx.map fun (buffer, index) => Urb.ofLayout ⟨stream, index⟩ layout buffer

theorem keys_urbsFor (stream : Nat) (layout : Layout) (buffers : List Buffer) :
    (urbsFor stream layout buffers).map (·.key) =
      (List.range buffers.length).map (UrbKey.mk stream) := by
  have keys : (urbsFor stream layout buffers).map (·.key) =
      (buffers.zipIdx.map Prod.snd).map (UrbKey.mk stream) := by
    rw [urbsFor, List.map_map, List.map_map]
    rfl
  rw [keys, List.zipIdx_map_snd, List.range_eq_range']

theorem addresses_urbsFor (stream : Nat) (layout : Layout) (buffers : List Buffer) :
    (urbsFor stream layout buffers).map (·.buffer.address) = buffers.map (·.address) := by
  have addresses : (urbsFor stream layout buffers).map (·.buffer.address) =
      (buffers.zipIdx.map Prod.fst).map (·.address) := by
    rw [urbsFor, List.map_map, List.map_map]
    rfl
  rw [addresses, List.zipIdx_map_fst]

theorem length_urbsFor (stream : Nat) (layout : Layout) (buffers : List Buffer) :
    (urbsFor stream layout buffers).length = buffers.length := by
  simp [urbsFor]

theorem custody_urbsFor {stream : Nat} {queue : List Urb} (layout : Layout) (buffers : List Buffer)
    (idle : ofStream stream queue = []) :
    Custody stream ((urbsFor stream layout buffers).map Urb.identity) queue []
      ((urbsFor stream layout buffers).map some) where
  all := by simp [idle]
  keys := by
    rw [List.map_map, List.length_map, length_urbsFor]
    exact keys_urbsFor stream layout buffers
  home i u present := by
    have there : (urbsFor stream layout buffers)[i]? = some u := by simpa using present
    simp only [urbsFor, List.getElem?_map, List.getElem?_zipIdx, Option.map_map,
      Option.map_eq_some_iff] at there
    obtain ⟨buffer, -, rfl⟩ := there
    simp [Urb.ofLayout]

def addresses (roster : List UrbIdentity) : List Nat :=
  roster.map (·.address)

theorem addresses_identity (urbs : List Urb) :
    addresses (urbs.map Urb.identity) = urbs.map (·.buffer.address) := by
  simp [addresses, Urb.identity, Function.comp_def]

theorem Stream.sound_fitted {s : Stream} {queue : List Urb} {layout : Layout}
    {buffers : List Buffer} (idle : ofStream s.id queue = [])
    (count : buffers.length = layout.count) (positive : 0 < layout.count) (sink : String)
    (pool : Pool) :
    Stream.Sound
      { s with
        layout := some layout
        lane := some { sink, parked := (urbsFor s.id layout buffers).map some }
        prepared := layout.count
        submitted := 0
        pool }
      ((urbsFor s.id layout buffers).map Urb.identity) queue where
  custody := custody_urbsFor layout buffers idle
  size := by simp [parked, length_urbsFor, count]
  lane := by simp [positive]
  layout := by simp [Nat.ne_of_gt positive]
  submitted := .inl rfl
  idle _ := idle
  lowered running := absurd rfl running

theorem Stream.sound_bare {s : Stream} {queue : List Urb} (idle : ofStream s.id queue = [])
    (pool : Pool) :
    Stream.Sound { s with lane := none, prepared := 0, layout := none, submitted := 0, pool }
      [] queue where
  custody := ⟨by simp [idle, parked], by simp [parked], by simp [parked]⟩
  size := by simp [parked]
  lane := by simp
  layout := by simp
  submitted := .inl rfl
  idle _ := idle
  lowered running := absurd rfl running

namespace Flow

variable {f : Flow} {roster : List UrbIdentity}

theorem Sound.prepared_pos (sound : f.Sound roster) : 0 < f.stream.prepared ↔ roster ≠ [] := by
  have count := congrArg List.length sound.custody.keys
  rw [List.length_map, List.length_map, List.length_range, sound.size] at count
  rw [← count, List.length_pos_iff]

theorem Sound.roster_nil (sound : f.Sound roster) (unprepared : f.stream.prepared = 0) :
    roster = [] := by
  by_contra some
  have positive := sound.prepared_pos.2 some
  omega

/-- Whatever was done to the stream, it is sound again, with all buffers accounted for. -/
structure Step (f : Flow) (roster : List UrbIdentity) (f' : Flow)
    (roster' : List UrbIdentity) : Prop where
  sound : f'.Sound roster'
  exchange : f.host.Exchange f'.host (addresses roster) (addresses roster')
  others : ofOthers f.stream.id f'.host.bus.queue = ofOthers f.stream.id f.host.bus.queue
  id : f'.stream.id = f.stream.id

theorem Step.of_kept {f' : Flow} (kept : Kept f f') (sound : f'.Sound roster) :
    Step f roster f' roster where
  sound := sound
  exchange := kept.host.exchange _
  others := kept.others
  id := kept.id

structure Provided (f : Flow) (roster : List UrbIdentity)
    (result : Except Failure Unit × Flow) (roster' : List UrbIdentity) : Prop
    extends Step f roster result.2 roster' where
  ok : result.1 = .ok () → 0 < result.2.stream.prepared ∧ result.2.stream.submitted = 0

theorem provided_error (sound : f.Sound roster) (e : Failure) :
    Provided f roster (.error e, f) roster :=
  { Step.of_kept (Kept.refl f) sound with ok := fun impossible => by cases impossible }

theorem provided_prepare (sound : f.Sound roster) (layout : Layout) :
    ∃ roster', Provided f roster (f.prepare layout) roster' := by
  unfold prepare
  split
  next => exact ⟨roster, provided_error sound _⟩
  next unprepared =>
    split
    next => exact ⟨roster, provided_error sound _⟩
    next sink _ =>
      split
      next => exact ⟨roster, provided_error sound _⟩
      next good =>
        -- Not being prepared it had no requests, so that what it holds from now on is all new.
        have prepared : f.stream.prepared = 0 := by omega
        have nothing : roster = [] := sound.roster_nil prepared
        have rest : f.stream.submitted = 0 := by
          cases sound.submitted with
          | inl rest => exact rest
          | inr all => rw [all, prepared]
        have positive := Layout.count_pos good
        dsimp only
        obtain ⟨buffers, bus, got, count, sizes, same, allocated, freed⟩ |
          ⟨bus, got, refused, same, allocated, freed⟩ :=
          f.stream.pool.allocate_cases (f.host.bus.clearHalt layout.pipe).2 layout.count
            layout.bufferSize
        next =>
          have queue : bus.queue = f.host.bus.queue := same.queue
          have parked : (buffers.zipIdx.map fun x =>
              some (Urb.ofLayout ⟨f.stream.id, x.2⟩ layout x.1)) =
              (urbsFor f.stream.id layout buffers).map some := by
            simp [urbsFor]
          rw [got]
          dsimp only
          rw [parked]
          refine ⟨(urbsFor f.stream.id layout buffers).map Urb.identity, ?_⟩
          have sound := Stream.sound_fitted (sound.idle rest) count positive sink
            { f.stream.pool with outstanding := f.stream.pool.outstanding + layout.count }
          rw [← queue] at sound
          exact
            { sound
              exchange :=
                { Host.Calm.refl f.host with
                  speed := same.speed
                  policy := same.policy
                  memory := by
                    refine ⟨(buffers.map (·.address)).reverse, [], allocated, freed, ?_⟩
                    rw [addresses_identity, addresses_urbsFor, nothing]
                    simp [addresses] }
              others := congrArg _ queue
              id := rfl
              ok := fun _ => ⟨positive, rfl⟩ }
        next =>
          have queue : bus.queue = f.host.bus.queue := same.queue
          have sound : f.stream.Sound roster bus.queue := by rwa [queue]
          rw [refused]
          refine ⟨roster, ?_⟩
          exact
            { sound
              exchange :=
                { Host.Calm.refl f.host with
                  speed := same.speed
                  policy := same.policy
                  memory := ⟨got, got, allocated, freed, List.Perm.refl _⟩ }
              others := congrArg _ queue
              id := rfl
              ok := fun impossible => by cases impossible }

theorem parked_perm_roster (c : f.Custody roster [])
    (idle : ofStream f.stream.id f.host.bus.queue = []) :
    ((f.stream.parked.filterMap id).map (·.buffer.address)).Perm (addresses roster) := by
  have all := c.all.map (·.address)
  simpa [idle, addresses, Urb.identity, Function.comp_def] using all

theorem step_release (sound : f.Sound roster) : Step f roster f.release [] := by
  have kept := kept_stop f
  have halted := sound_stop sound
  have idle := halted.idle (submitted_stop f)
  have calm := kept.host.exchange (addresses roster)
  unfold release
  dsimp only
  split
  next unprepared =>
    have nothing : f.stop.stream.prepared = 0 := by simpa [unprepared] using halted.lane
    have none := halted.roster_nil nothing
    subst none
    have bare := Stream.sound_bare idle f.stop.stream.pool
    rw [← unprepared, ← submitted_stop f] at bare
    exact ⟨bare, calm, kept.others, kept.id⟩
  next lane prepared =>
    let buffers := (lane.parked.filterMap id).map (·.buffer)
    -- After the stop all requests are parked, and so all of its buffers are given back.
    have all : (buffers.map (·.address)).Perm (addresses roster) := by
      have parked := parked_perm_roster halted.custody idle
      simpa [Stream.parked, prepared, buffers, Function.comp_def] using parked
    have bare := Stream.sound_bare idle (f.stop.stream.pool.release f.stop.host.bus buffers).1
    have freed : f.stop.host.Exchange
        { f.stop.host with bus := f.stop.host.bus.freeAll buffers } (addresses roster) [] := by
      rw [Bus.freeAll_eq]
      exact
        { Host.Calm.refl f.stop.host with
          memory := ⟨[], _, rfl, rfl, by simpa using (all.symm.trans (List.reverse_perm _).symm)⟩ }
    have queue : (f.stop.host.bus.freeAll buffers).queue = f.stop.host.bus.queue := by
      rw [Bus.freeAll_eq]
    rw [← submitted_stop f, ← queue] at bare
    exact ⟨bare, calm.trans freed, (congrArg _ queue).trans kept.others, kept.id⟩

end Flow

end DvbReceiver

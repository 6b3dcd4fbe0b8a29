import DvbReceiver.Proofs.Device.Standing

set_option autoImplicit false

namespace DvbReceiver.Device

variable {h₀ h : Host} {r : Nat → List UrbIdentity} {d : Device}
  {placesBefore : List Place} {demodsBefore : List (Nat × Nat)}

theorem exitAdapters_spec (adapters : List Adapter)
    (distinct : adapters.Pairwise fun a b => a.id ≠ b.id)
    (sound : ∀ a ∈ adapters, a.Sound r h.bus.queue)
    (ledger : Ledger h₀ h (adapters.reverse.flatMap Adapter.places ++ placesBefore)
      (adapters.reverse.flatMap Adapter.demods ++ demodsBefore) (held r)) :
    ∃ r', Ledger h₀ (exitAdapters h adapters).1 placesBefore demodsBefore (held r') ∧
      (∀ a ∈ adapters, ∀ n, a.Owns n → Deserted (exitAdapters h adapters).1 r' n) ∧
      ∀ n, (∀ a ∈ adapters, ¬ a.Owns n) →
        ofStream n (exitAdapters h adapters).1.bus.queue = ofStream n h.bus.queue ∧ r' n = r n := by
  -- The later adapters go first, with the places of the earlier ones still below theirs.
  induction adapters generalizing placesBefore demodsBefore with
  | nil => exact ⟨r, ledger, fun _ impossible => by simp at impossible, fun _ _ => ⟨rfl, rfl⟩⟩
  | cons a rest ih =>
    obtain ⟨others, distinctRest⟩ := List.pairwise_cons.1 distinct
    have here := sound a List.mem_cons_self
    have there (b : Adapter) (later : b ∈ rest) := sound b (List.mem_cons_of_mem _ later)
    have apart (b : Adapter) (later : b ∈ rest) {n : Nat} (owned : a.Owns n) : ¬ b.Owns n :=
      here.apart (there b later) (others b later) owned
    obtain ⟨r₁, ledger₁, deserted, spared⟩ := ih distinctRest there (by
      simpa using ledger)
    -- Their exit has left the streams of this one alone.
    have still : a.Sound r₁ (exitAdapters h rest).1.bus.queue :=
      here.spared fun n owned => spared n fun b later => apart b later owned
    obtain ⟨r₂, confined, ledger₂, empty⟩ := Adapter.exit_spec still ledger₁
    refine ⟨r₂, ledger₂, fun b member n owned => ?_, fun n foreign => ?_⟩
    · obtain rfl | later := List.mem_cons.1 member
      next =>
        refine confined.sound.deserted (fun j within => ?_) ((confined.owns n).2 owned)
        rw [confined.id]
        exact empty j (by rwa [← confined.length])
      next =>
        exact confined.deserted (fun mine => apart b later mine owned) (deserted b later n owned)
    · obtain ⟨queue, roster⟩ := confined.foreign n (foreign a List.mem_cons_self)
      obtain ⟨queueBefore, rosterBefore⟩ :=
        spared n fun b later => foreign b (List.mem_cons_of_mem _ later)
      exact ⟨queue.trans queueBefore, roster.trans rosterBefore⟩

/-- Whatever has come about since `h₀` has been undone. -/
structure TornDown (h₀ h : Host) : Prop where
  ledger : Ledger h₀ h [] [] []
  clean : h₀.registry.isClean = true → h.registry.isClean = true
  queue : ∀ u ∈ h.bus.queue, u.key.stream ∉ streamIds

theorem tornDown_of_ledger (ledger : Ledger h₀ h [] [] [])
    (deserted : ∀ n ∈ streamIds, ofStream n h.bus.queue = []) : TornDown h₀ h where
  ledger
  clean := ledger.isClean
  queue u queued known := ofStream_eq_nil_iff.1 (deserted _ known) u queued rfl

theorem TornDown.steady {h' : Host} (tornDown : TornDown h₀ h) (steady : h.Steady h')
    (bus : h'.bus = h.bus) : TornDown h₀ h' where
  ledger := tornDown.ledger.steady steady
  clean := (tornDown.ledger.steady steady).isClean
  queue := by
    rw [bus]
    exact tornDown.queue

theorem tornDown_tearDown (standing : Standing h₀ h d.adapters r) :
    TornDown h₀ (tearDown h d).1 := by
  have all : Ledger h₀ h (d.adapters.reverse.flatMap Adapter.places ++ [])
      (d.adapters.reverse.flatMap Adapter.demods ++ []) (held r) := by
    simpa using standing.ledger
  obtain ⟨r', ledger, deserted, spared⟩ :=
    exitAdapters_spec d.adapters standing.distinct standing.sound all
  have gone (n : Nat) (known : n ∈ streamIds) :
      Deserted (exitAdapters h d.adapters).1 r' n := by
    by_cases owned : ∃ a ∈ d.adapters, a.Owns n
    · obtain ⟨a, there, owned⟩ := owned
      exact deserted a there n owned
    · push Not at owned
      obtain ⟨queue, roster⟩ := spared n owned
      obtain ⟨none, idle⟩ := standing.strays n known owned
      exact ⟨roster.trans none, queue.trans idle⟩
  have nothing : held r' = [] :=
    List.flatMap_eq_nil_iff.2 fun n known => by rw [(gone n known).1]; rfl
  rw [nothing] at ledger
  exact tornDown_of_ledger ledger fun n known => (gone n known).2

end DvbReceiver.Device

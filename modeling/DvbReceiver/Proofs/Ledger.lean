import DvbReceiver.Adapter.Lifecycle
import DvbReceiver.Proofs.Host

set_option autoImplicit false

namespace DvbReceiver

/-- What has come about since `h₀`: the places that are still registered, the latest first, the
demodulators that are still attached, and the buffers that are still held. -/
structure Ledger (h₀ h : Host) (places : List Place) (demods : List (Nat × Nat))
    (buffers : List Nat) : Prop where
  journal : ∃ entries, h.registry.events = entries ++ h₀.registry.events ∧
    openAfter (entries.map RegistryEvent.mark) = some places
  demodulators : ∃ events, h.trace = events ++ h₀.trace ∧
    openAfter (events.filterMap Event.demodMark?) = some demods
  memory : ∃ got given, h.bus.allocated = got ++ h₀.bus.allocated ∧
    h.bus.freed = given ++ h₀.bus.freed ∧ got.Perm (given ++ buffers)
  demuxes : ∀ n ∈ h.registry.demuxes, n ∈ h₀.registry.demuxes ∨ Place.demux n ∈ places

namespace Registry

theorem register_cases (r : Registry) (what : Registration) :
    (∃ e, r.register what = (.error e, r)) ∨
    (∃ demuxes, r.register what =
        (.ok (), { r with events := .registered what :: r.events, demuxes }) ∧
      ∀ n ∈ demuxes, n ∈ r.demuxes ∨ what.place = .demux n) := by
  unfold register
  split
  next => exact .inl ⟨_, rfl⟩
  next =>
    refine .inr ⟨_, rfl, fun n there => ?_⟩
    cases what with
    | demux a limits =>
      obtain here | before := (Increasing.mem_insert n a r.demuxes).1 there
      next => exact .inr (congrArg Place.demux here.symm)
      next => exact .inl before
    | _ => exact .inl there

theorem mem_unregister {r : Registry} {place : Place} {n : Nat}
    (there : n ∈ (r.unregister place).demuxes) : n ∈ r.demuxes ∧ place ≠ .demux n := by
  cases place with
  | demux a =>
    obtain ⟨before, other⟩ := List.mem_filter.1 there
    exact ⟨before, fun here => by simp_all⟩
  | _ => exact ⟨there, by simp⟩

end Registry

namespace Ledger

variable {h₀ h h' : Host} {places : List Place} {demods : List (Nat × Nat)}
  {buffers buffers' : List Nat}

theorem refl (h : Host) : Ledger h h [] [] [] where
  journal := ⟨[], rfl, rfl⟩
  demodulators := ⟨[], rfl, rfl⟩
  memory := ⟨[], [], rfl, rfl, List.Perm.refl _⟩
  demuxes _ there := .inl there

theorem exchange (ledger : Ledger h₀ h places demods buffers)
    (exchange : h.Exchange h' buffers buffers') : Ledger h₀ h' places demods buffers' where
  journal := by
    rw [exchange.registry]
    exact ledger.journal
  demodulators := by
    obtain ⟨events, trace, replayed⟩ := ledger.demodulators
    obtain ⟨later, traceLater, quiet⟩ := exchange.trace
    refine ⟨later ++ events, by rw [traceLater, trace, List.append_assoc], ?_⟩
    rw [List.filterMap_append, quiet, List.nil_append, replayed]
  memory := by
    obtain ⟨got, given, allocated, freed, balance⟩ := ledger.memory
    obtain ⟨got', given', allocated', freed', balance'⟩ := exchange.memory
    refine ⟨got' ++ got, given' ++ given, ?_, ?_, ?_⟩
    · rw [allocated', allocated, List.append_assoc]
    · rw [freed', freed, List.append_assoc]
    · calc got' ++ got
        _ |>.Perm (got' ++ (given ++ buffers)) := balance.append_left got'
        _ |>.Perm (given ++ (got' ++ buffers)) := List.perm_append_comm_assoc ..
        _ |>.Perm (given ++ (given' ++ buffers')) := balance'.append_left given
        _ |>.Perm (given' ++ (given ++ buffers')) := List.perm_append_comm_assoc ..
        _ = given' ++ given ++ buffers' := (List.append_assoc ..).symm
  demuxes := by
    rw [exchange.registry]
    exact ledger.demuxes

theorem steady (ledger : Ledger h₀ h places demods buffers) (steady : h.Steady h') :
    Ledger h₀ h' places demods buffers :=
  ledger.exchange (steady.exchange buffers)

theorem register_cases (h : Host) (what : Registration) :
    (∃ e, Adapter.register h what = (.error e, h)) ∨
    (∃ h', Adapter.register h what = (.ok (), h') ∧ h'.bus = h.bus ∧
      ∀ {h₀ : Host} {places : List Place} {demods : List (Nat × Nat)} {buffers : List Nat},
        Ledger h₀ h places demods buffers →
          Ledger h₀ h' (what.place :: places) demods buffers) := by
  unfold Adapter.register
  obtain ⟨e, refused⟩ | ⟨demuxes, granted, added⟩ := h.registry.register_cases what
  next =>
    rw [refused]
    exact .inl ⟨e, rfl⟩
  next =>
    rw [granted]
    refine .inr ⟨_, rfl, rfl, fun {h₀ places demods buffers} ledger => ?_⟩
    obtain ⟨entries, journal, replayed⟩ := ledger.journal
    exact
      { ledger with
        journal := by
          refine ⟨.registered what :: entries, ?_, openAfter_opened what.place replayed⟩
          rw [List.cons_append, journal]
        demuxes := fun n there => by
          obtain before | new := added n there
          next =>
            exact (ledger.demuxes n before).imp_right (List.mem_cons_of_mem what.place)
          next => exact .inr (new ▸ List.mem_cons_self) }

theorem unregister {place : Place} (ledger : Ledger h₀ h (place :: places) demods buffers) :
    Ledger h₀ (Adapter.unregister h place) places demods buffers := by
  obtain ⟨entries, journal, replayed⟩ := ledger.journal
  exact
    { ledger with
      journal := by
        refine ⟨.unregistered place :: entries, ?_, openAfter_closed replayed⟩
        simp [Adapter.unregister, Registry.unregister, journal]
      demuxes := fun n there => by
        obtain ⟨before, other⟩ := Registry.mem_unregister there
        refine (ledger.demuxes n before).imp_right fun opened => ?_
        exact (List.mem_cons.1 opened).resolve_left (Ne.symm other) }

theorem attached (ledger : Ledger h₀ h places demods buffers) (adapter slot : Nat) :
    Ledger h₀ (h.note (.attached adapter slot)) places ((adapter, slot) :: demods) buffers := by
  obtain ⟨events, trace, replayed⟩ := ledger.demodulators
  exact
    { ledger with
      demodulators := by
        refine ⟨.attached adapter slot :: events, by simp [Host.note, trace], ?_⟩
        exact openAfter_opened _ replayed }

theorem detach {adapter slot : Nat}
    (ledger : Ledger h₀ h places ((adapter, slot) :: demods) buffers) :
    Ledger h₀ (h.perform (.demodDetach adapter slot)).2 places demods buffers := by
  obtain ⟨events, trace, replayed⟩ := ledger.demodulators
  exact
    { ledger with
      demodulators := by
        -- It counts as detached whatever the driver answers.
        let outcome := h.driver.answer h.calls (.demodDetach adapter slot)
        refine ⟨.called (.demodDetach adapter slot) outcome :: events, ?_, openAfter_closed replayed⟩
        simp [Host.perform, Host.call, Host.note, trace, outcome] }

theorem isClean (ledger : Ledger h₀ h [] demods buffers)
    (clean : h₀.registry.isClean = true) : h.registry.isClean = true := by
  obtain ⟨entries, journal, replayed⟩ := ledger.journal
  simp only [Registry.isClean, Bool.and_eq_true, List.isEmpty_iff, beq_iff_eq] at clean ⊢
  constructor
  · refine List.eq_nil_iff_forall_not_mem.2 fun n there => ?_
    have before := ledger.demuxes n there
    rw [clean.1] at before
    simp at before
  · have balance := length_openAfter replayed
    -- With nothing left open there is one closing for each opening.
    have opened : (entries.map RegistryEvent.mark).countP (·.isOpened) =
        entries.countP (·.isRegistration) := by
      rw [List.countP_map]
      exact List.countP_congr fun e _ => by rw [Function.comp_apply, RegistryEvent.isOpened_mark]
    rw [opened, List.length_map, List.length_nil] at balance
    rw [journal, List.countP_append, List.length_append]
    omega

end Ledger

end DvbReceiver

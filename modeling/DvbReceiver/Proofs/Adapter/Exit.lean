import DvbReceiver.Proofs.Adapter.Standing

set_option autoImplicit false

namespace DvbReceiver

theorem Stream.Sound.ofStream_nil {s : Stream} {queue : List Urb} (sound : s.Sound [] queue) :
    ofStream s.id queue = [] := by
  have none := List.map_eq_nil_iff.1 sound.custody.all.eq_nil
  exact (List.append_eq_nil_iff.1 (List.append_eq_nil_iff.1 none).2).1

namespace Adapter

variable {h₀ h : Host} {a : Adapter} {r : Nat → List UrbIdentity} {slot : Nat}
  {placesBefore : List Place} {demodsBefore : List (Nat × Nat)}

theorem detachFrontends_spec (count : Nat) (sound : a.Sound r h.bus.queue)
    (ledger : Ledger h₀ h ((a.frontends count).map (.frontend a.id) ++ placesBefore)
      ((a.frontends count).map (a.id, ·) ++ demodsBefore) (held r)) :
    Confined h a r (detachFrontends count h a).1 (detachFrontends count h a).2 r ∧
      Ledger h₀ (detachFrontends count h a).1 placesBefore demodsBefore (held r) ∧
      (detachFrontends count h a).2.registered = a.registered := by
  -- From the last slot down, so that each is on top of the ledger when its turn comes.
  induction count generalizing h a with
  | zero => exact ⟨Confined.refl sound, ledger, rfl⟩
  | succ slot ih =>
    have registered : a.isRegistered slot =
        ((a.slots[slot]?).bind (·.frontend)).any (·.registered) := rfl
    rw [frontends, registered] at ledger
    unfold detachFrontends
    split
    next absent =>
      rw [absent] at ledger
      exact ih sound ledger
    next frontend there =>
      rw [there, Option.any_some] at ledger
      split
      next known =>
        rw [if_pos known] at ledger
        have detached := ledger.unregister.detach
        let gone (s : Slot) : Slot :=
          { s with frontend := some { frontend with registered := false } }
        let h₁ := ((unregister h (.frontend a.id slot)).perform (.demodDetach a.id slot)).2
        have untouched : Confined h a r h₁ a r := Confined.of_bus sound rfl
        have confined := untouched.trans
          (confined_modified (f := gone) untouched.sound (fun _ => rfl) slot)
        have below : (a.modified slot gone).frontends slot = a.frontends slot :=
          frontends_congr slot fun j lower => by
            rw [isRegistered_modified, if_neg (by omega)]
        obtain ⟨later, closed, same⟩ := ih (a := a.modified slot gone) confined.sound
          (by rw [below]; exact detached)
        exact ⟨confined.trans later, closed, same⟩
      next unknown =>
        rw [if_neg unknown] at ledger
        exact ih sound ledger

theorem releaseStreams_spec (count slot : Nat) (sound : a.Sound r h.bus.queue)
    (reach : slot + count = a.slots.length) (below : ∀ j < slot, r (streamId a.id j) = []) :
    ∃ r', Worked h a r (releaseStreams count slot h a).1 (releaseStreams count slot h a).2 r' ∧
      ∀ j < a.slots.length, r' (streamId a.id j) = [] := by
  induction count generalizing slot h a r with
  | zero =>
    have all : slot = a.slots.length := reach
    exact ⟨r, Worked.refl sound, all ▸ below⟩
  | succ count ih =>
    have there : a.slots[slot]? = some a.slots[slot] := List.getElem?_eq_getElem (by omega)
    let f : Flow := { host := h, stream := a.slots[slot].stream }
    have before : f.Sound (r (streamId a.id slot)) := sound.streams slot _ there
    have released := worked_onStream sound there () (fun f => ((), f.release))
      (Flow.step_release before)
    obtain ⟨r', later, all⟩ := ih (slot + 1) released.sound (by rw [released.length]; omega)
      fun j within => by
        rw [released.id]
        by_cases here : j = slot
        · rw [here, Function.update_self]
        · have different : streamId a.id j ≠ streamId a.id slot :=
            fun same => here (streamId_inj same)
          rw [Function.update_of_ne different]
          exact below j (by omega)
    rw [released.length, released.id] at all
    exact ⟨r', released.trans later, all⟩

theorem unregister_if {buffers : List Nat} (registered : Bool) (place : Place)
    (ledger : Ledger h₀ h ((if registered then [place] else []) ++ placesBefore) demodsBefore
      buffers) :
    Ledger h₀ (if registered then unregister h place else h) placesBefore demodsBefore buffers ∧
      (if registered then unregister h place else h).bus = h.bus := by
  cases registered with
  | false => exact ⟨ledger, rfl⟩
  | true => exact ⟨ledger.unregister, rfl⟩

theorem exit_spec (sound : a.Sound r h.bus.queue)
    (ledger : Ledger h₀ h (a.places ++ placesBefore) (a.demods ++ demodsBefore) (held r)) :
    ∃ r', Confined h a r (a.exit h).1 (a.exit h).2 r' ∧
      Ledger h₀ (a.exit h).1 placesBefore demodsBefore (held r') ∧
      ∀ j < a.slots.length, r' (streamId a.id j) = [] := by
  let shut := setGate h a 0
  have shown : Confined h a r shut.1 shut.2 r :=
    { Confined.refl sound with sound := { sound with } }
  have noted : h.Steady shut.1 := Host.steady_note h rfl
  have frontends : shut.2.frontends shut.2.slots.length = a.frontends a.slots.length :=
    frontends_congr _ fun _ _ => rfl
  have ledger₀ : Ledger h₀ shut.1
      ((shut.2.frontends shut.2.slots.length).map (.frontend a.id) ++
        (a.registered.places a.id ++ placesBefore))
      ((shut.2.frontends shut.2.slots.length).map (a.id, ·) ++ demodsBefore) (held r) := by
    rw [frontends, ← List.append_assoc]
    exact ledger.steady noted
  obtain ⟨gone, detached, registered⟩ :=
    detachFrontends_spec shut.2.slots.length shown.sound ledger₀
  have left := shown.trans gone
  unfold exit
  dsimp only
  cases result : detachFrontends shut.2.slots.length shut.1 shut.2 with
  | mk h₁ a₁ =>
    rw [result] at left detached registered
    have same : a₁.registered = a.registered := registered
    -- Network interface, demux and adapter are left in the reverse of the order of `bringUp`.
    rw [← same, ← left.id, Registered.places, List.append_assoc, List.append_assoc] at detached
    obtain ⟨unnetted, bus₁⟩ := unregister_if _ _ detached
    obtain ⟨undemuxed, bus₂⟩ := unregister_if _ _ unnetted
    obtain ⟨unregistered, bus₃⟩ := unregister_if _ _ undemuxed
    dsimp only
    have bare : Confined h a r h₁ { a₁ with registered := {} } r :=
      { left with sound := { left.sound with } }
    have reached := bare.trans (Confined.of_bus bare.sound (bus₃.trans (bus₂.trans bus₁)))
    obtain ⟨r', released, none⟩ :=
      releaseStreams_spec a₁.slots.length 0 reached.sound (Nat.zero_add _)
        fun j impossible => absurd impossible (Nat.not_lt_zero j)
    have confined := reached.trans released.toConfined
    refine ⟨r', ?_, unregistered.exchange released.exchange, ?_⟩
    · exact { confined with sound := { confined.sound with } }
    · intro j within
      rw [← left.id]
      exact none j (by rw [left.length]; exact within)

end Adapter

end DvbReceiver

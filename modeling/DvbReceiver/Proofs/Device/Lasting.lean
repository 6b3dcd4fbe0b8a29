import DvbReceiver.Proofs.Device.Session

set_option autoImplicit false

namespace DvbReceiver

namespace Device

variable {h₀ h h' : Host} {d : Device} {r : Nat → List UrbIdentity} {i : Nat} {a : Adapter}
  {P : Host → Device → Prop}

/-- A property that neither the power nor the work of an adapter on its streams and feeds has a part
in. -/
structure Lasting (P : Host → Device → Prop) : Prop where
  steady : ∀ {h h' : Host} {d : Device} (power : PowerRail), P h d → h.Steady h' →
    P h' { d with power }
  moved : ∀ {h h' : Host} {d : Device} {i : Nat} {a a' : Adapter} {r : Nat → List UrbIdentity},
    P h d → d.adapters[i]? = some a → Adapter.Moved h a r h' a' r →
      P h' { d with adapters := d.adapters.set i a' }

namespace Lasting

variable (lasting : Lasting P)

include lasting

theorem perform (holds : P h d) {hook : Hook} (other : hook.isDetach = false) :
    P (h.perform hook).2 d :=
  lasting.steady d.power holds (Host.steady_perform h hook other)

theorem startFeed (live : Live h₀ h d.adapters r) (holds : P h d) (i : Nat) (feed : Feed) :
    P (startFeed h d i feed).2.1 (startFeed h d i feed).2.2 := by
  unfold Device.startFeed
  cases there : d.adapters[i]? with
  | none =>
    rw [onAdapter_missing h there]
    exact holds
  | some a =>
    have member := List.mem_of_getElem? there
    rw [onAdapter_some h there]
    exact lasting.moved holds there (Adapter.startFeed_spec (live.sound a member)
      (live.ready a member) (live.steered a member) feed).1

theorem stopFeed (live : Live h₀ h d.adapters r) (holds : P h d) (i : Nat) (feed : Feed) :
    P (stopFeed h d i feed).2.1 (stopFeed h d i feed).2.2 := by
  unfold Device.stopFeed
  cases there : d.adapters[i]? with
  | none =>
    rw [onAdapter_missing h there]
    exact holds
  | some a =>
    have member := List.mem_of_getElem? there
    rw [onAdapter_some h there]
    exact lasting.moved holds there
      (Adapter.stopFeed_spec (live.sound a member) (live.steered a member) feed).1

theorem deselect (live : Live h₀ h d.adapters r) (holds : P h d) (i slot : Nat) :
    P (onAdapter h d i () fun h a => ((), a.deselect h slot)).2.1
      (onAdapter h d i () fun h a => ((), a.deselect h slot)).2.2 := by
  cases there : d.adapters[i]? with
  | none =>
    rw [onAdapter_missing h there]
    exact holds
  | some a =>
    have member := List.mem_of_getElem? there
    rw [onAdapter_some h there]
    exact lasting.moved holds there
      (Adapter.deselect_spec (live.sound a member) (live.steered a member) slot).1

theorem part (live : Live h₀ h d.adapters r) (holds : P h d) (i slot : Nat) (step : Part) :
    P (part i slot (h, d) step).1 (part i slot (h, d) step).2 := by
  cases step with
  | powerUp =>
    obtain ⟨h₁, steady, -, ⟨e, refused⟩ | powered⟩ := powerUp_cases h d
    next =>
      simp only [Device.part, refused]
      exact lasting.steady d.power holds steady
    next =>
      simp only [Device.part, powered]
      exact lasting.steady _ holds steady
  | powerDown =>
    obtain ⟨result, h₁, steady, -, powered⟩ := powerDown_cases h d
    simp only [Device.part, powered]
    exact lasting.steady _ holds steady
  | control on => exact lasting.perform holds rfl
  | demodInit => exact lasting.perform holds rfl
  | demodSleep => exact lasting.perform holds rfl
  | select =>
    simp only [Device.part]
    split
    next => exact holds
    next selected =>
      obtain ⟨a, there, -, rfl⟩ := select_ok selected
      have sound := live.sound a (List.mem_of_getElem? there)
      exact lasting.moved holds there
        ((Adapter.Moved.refl sound).adjust { a.feeds with active := some slot } a.gate a.demux)
  | deselect => exact lasting.deselect live holds i slot

theorem parts (live : Live h₀ h d.adapters r) (holds : P h d) {slot : Nat}
    (known : d.hasFrontend i slot = true) (steps : List Part) :
    P (parts i slot (h, d) steps).1 (parts i slot (h, d) steps).2 := by
  induction steps generalizing h d with
  | nil => exact holds
  | cons step rest ih =>
    have first := tended_part live known step
    exact ih first.live (lasting.part live holds i slot step)
      ((first.frontends i slot).trans known)

theorem complete (live : Live h₀ h d.adapters r) (holds : P h d) {u : Urb} {queue : List Urb}
    (removed : Removed h.bus.queue u queue) (fill : Fill) :
    P (complete { h with bus := { h.bus with queue } } d (u.fill fill)).1
      (complete { h with bus := { h.bus with queue } } d (u.fill fill)).2 := by
  have key : (u.fill fill).key = u.key := u.key_fill fill
  unfold Device.complete
  rw [key]
  by_cases known : u.key.stream ∈ streamIds
  · obtain ⟨a, there, within, own⟩ := live.owner removed.mem known
    have sound := live.sound a (List.mem_of_getElem? there)
    have worked := (Adapter.worked_complete sound within removed own fill).1
    rw [onAdapter_some _ there]
    exact lasting.moved holds there worked.toMoved
  · rw [onAdapter_missing _ (missing_of_unknown live known)]
    exact lasting.steady d.power holds (Host.steady_bus rfl rfl rfl rfl)

end Lasting

end Device

namespace Session

variable {h₀ : Host} {size : Nat} {r : Nat → List UrbIdentity} {s : Session}
  {P : Host → Device → Prop}

theorem lasting_act (lasting : Device.Lasting P) (sound : Sound h₀ size r s)
    (holds : P s.host s.device) (step : Act) : P (s.act step).host (s.act step).device := by
  induction step using act_elim s with
  | startFeed i feed => exact lasting.startFeed sound.live holds i feed
  | stopFeed i feed => exact lasting.stopFeed sound.live holds i feed
  | frontend step i slot work same steps =>
    rw [same]
    exact onFrontend_elim P steps holds fun known => lasting.parts sound.live holds known
  | complete position fill =>
    simp only [act]
    split
    next => exact holds
    next u there => exact lasting.complete sound.live holds (removed_eraseIdx there) fill

theorem lasting_run (lasting : Device.Lasting P) (sound : Sound h₀ size r s)
    (holds : P s.host s.device) (acts : List Act) : P (s.run acts).host (s.run acts).device := by
  induction acts generalizing s with
  | nil => exact holds
  | cons step rest ih => exact ih (sound_act sound step) (lasting_act lasting sound holds step)

end Session

end DvbReceiver

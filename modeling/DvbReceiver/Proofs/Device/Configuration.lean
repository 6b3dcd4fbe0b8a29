import DvbReceiver.Proofs.Device.BringUp
import DvbReceiver.Proofs.Properties
import DvbReceiver.Simulation.Receiver

set_option autoImplicit false

namespace DvbReceiver

variable {h : Host} {e : Failure}

theorem Flow.prepare_error {f : Flow} {layout : Layout} (unprepared : f.stream.prepared = 0)
    (sink : f.stream.sink ≠ none) (usable : layout.Usable)
    (failed : (f.prepare layout).1 = .error e) : e = .outOfMemory layout.bufferSize := by
  unfold prepare at failed
  rw [if_neg (by omega)] at failed
  split at failed
  next missing => exact absurd missing sink
  next =>
    rw [Layout.problem?_eq_none_iff.2 usable] at failed
    dsimp only at failed
    obtain ⟨buffers, bus, got, -⟩ | ⟨bus, -, refused, -⟩ :=
      f.stream.pool.allocate_cases (f.host.bus.clearHalt layout.pipe).2 layout.count
        layout.bufferSize
    next =>
      rw [got] at failed
      cases failed
    next =>
      rw [refused] at failed
      exact (Except.error.inj failed).symm

namespace Adapter

variable {a : Adapter}

def BlankFrom (a : Adapter) (slot : Nat) : Prop :=
  ∀ j s, slot ≤ j → a.slots[j]? = some s →
    s.stream.prepared = 0 ∧ s.stream.sink ≠ none ∧ s.props.layout.Usable

theorem prepareStreams_error (count slot : Nat) (blank : a.BlankFrom slot)
    (failed : (prepareStreams count slot h a).1 = .error e) : e.kind = .outOfMemory := by
  induction count generalizing slot h a with
  | zero => cases failed
  | succ count ih =>
    unfold prepareStreams at failed
    dsimp only at failed
    cases there : a.slots[slot]? with
    | none =>
      rw [onStream_missing h there] at failed
      refine ih (slot + 1) (fun j s above => blank j s (by omega)) failed
    | some s =>
      obtain ⟨unprepared, sink, usable⟩ := blank slot s (Nat.le_refl slot) there
      simp only [there] at failed
      obtain ⟨h₁, demux, same, -, -⟩ :=
        onStream_cases h there (.ok ()) fun f => f.prepare s.props.layout
      rw [same] at failed
      split at failed
      next cause h₂ a₂ refused =>
        obtain rfl := Except.error.inj failed
        rw [Flow.prepare_error unprepared sink usable (congrArg (·.1) refused)]
        rfl
      next h₂ a₂ prepared =>
        -- Only the stream of this slot has changed, and the later ones are as blank as before.
        obtain rfl : _ = a₂ := congrArg (·.2.2) prepared
        refine ih (slot + 1) (fun j s' above there' => ?_) failed
        rw [List.getElem?_set_ne (by omega)] at there'
        exact blank j s' (by omega) there'

theorem register_error {what : Registration} (failed : (register h what).1 = .error e) :
    e = .registrationRefused what.place := by
  unfold register Registry.register at failed
  dsimp only at failed
  split at failed
  next => exact (Except.error.inj failed).symm
  next => cases failed

/-- The driver's own failures are never told; the registry's are wrapped. -/
theorem attachFrontends_error (i2c : Option String) (count slot : Nat)
    (failed : (attachFrontends i2c count slot h a).1 = .error e) : e.kind = .device := by
  induction count generalizing slot h a with
  | zero => cases failed
  | succ count ih =>
    unfold attachFrontends at failed
    split at failed
    next => cases failed
    next => exact ih (slot + 1) failed
    next =>
      split at failed
      next =>
        dsimp only at failed
        split at failed
        next =>
          obtain rfl := Except.error.inj failed
          rfl
        next => cases failed
      next => exact ih (slot + 1) failed

theorem bringUp_error {name : String} {i2c : Option String} (blank : a.BlankFrom 0)
    (failed : (a.bringUp h name i2c).1 = .error e) : e.kind ≠ .configuration := by
  have refusal {h' : Host} {what : Registration} {cause : Failure} {h'' : Host}
      (refused : register h' what = (.error cause, h'')) : cause.kind = .device := by
    rw [register_error (congrArg (·.1) refused)]
    rfl
  -- Stage by stage: what is told is the refusal of the stage itself.
  unfold bringUp at failed
  split at failed
  next cause h₁ a₁ refused =>
    obtain rfl := Except.error.inj failed
    simp [prepareStreams_error _ 0 blank (congrArg (·.1) refused)]
  next =>
    split at failed
    next cause h₂ refused =>
      obtain rfl := Except.error.inj failed
      simp [refusal refused]
    next =>
      dsimp only at failed
      split at failed
      next cause h₂ refused =>
        obtain rfl := Except.error.inj failed
        simp [refusal refused]
      next =>
        split at failed
        next cause h₂ refused =>
          obtain rfl := Except.error.inj failed
          simp [refusal refused]
        next => simp [attachFrontends_error _ _ _ failed]

theorem blankFrom_new {props : List SlotProperties} (usable : Properties.AdapterUsable props)
    (id : Nat) (speed : Speed) (force : Bool) : (new id props speed force).BlankFrom 0 := by
  intro j s _ there
  have stream := (getElem?_new there).1
  refine ⟨by rw [stream], by simp [stream], ?_⟩
  simp only [new, List.getElem?_map, List.getElem?_zipIdx, Option.map_map, Option.map_eq_some_iff]
    at there
  obtain ⟨p, there, rfl⟩ := there
  exact (usable.slots p (List.mem_of_getElem? there)).layout

end Adapter

namespace Device

variable {d : Device}

theorem bringUpAdapters_error (id : Nat) (rest : List (List SlotProperties))
    (usable : ∀ slots ∈ rest, Properties.AdapterUsable slots)
    (failed : (bringUpAdapters id rest h d).1 = .error e) : e.kind ≠ .configuration := by
  induction rest generalizing id h d with
  | nil => cases failed
  | cons props rest ih =>
    unfold bringUpAdapters at failed
    dsimp only at failed
    have blank := Adapter.blankFrom_new (usable props List.mem_cons_self) id h.bus.speed
      d.config.forceFilter
    split at failed
    next cause refused =>
      obtain rfl := Except.error.inj failed
      exact Adapter.bringUp_error blank refused
    next =>
      exact ih (id + 1) (fun slots there => usable slots (List.mem_cons_of_mem props there)) failed

theorem bringUpParts_error (usable : h.driver.properties.Usable)
    (failed : (bringUpParts h d).1 = .error e) : e.kind ≠ .configuration := by
  unfold bringUpParts at failed
  dsimp only at failed
  split at failed
  next cause h₁ d₁ refused =>
    obtain rfl := Except.error.inj failed
    exact bringUpAdapters_error 0 _ usable.adapters (congrArg (·.1) refused)
  next => cases failed

theorem powerUp_error {r : Simulation.Receiver} (driven : h.driver = r.driver)
    (failed : (powerUp h d).1 = .error e) : e.kind = .device := by
  have answered : (h.perform (.power true)).1 =
      (r.afterFault .powerOn "power on failed").toExcept := by
    show (h.driver.answer h.calls (.power true)).toExcept = _
    rw [driven]
    rfl
  unfold powerUp at failed
  split at failed
  next => cases failed
  next =>
    split at failed
    next cause h₁ refused =>
      obtain rfl := Except.error.inj failed
      rw [refused] at answered
      unfold Simulation.Receiver.afterFault at answered
      split at answered
      next =>
        obtain rfl := Except.error.inj answered
        rfl
      next => cases answered
    next => cases failed

theorem bringUp_error {r : Simulation.Receiver} {product : Product} {config : Config}
    (driven : h.driver = r.driver) (usable : r.properties.Usable)
    (failed : (bringUp h product config).1 = .error e) : e.kind ≠ .configuration := by
  have properties : h.driver.properties = r.properties := by rw [driven]; rfl
  unfold bringUp at failed
  rw [properties, Properties.problem?_eq_none_iff.2 usable] at failed
  dsimp only at failed
  split at failed
  next cause h₁ d₁ dark =>
    obtain rfl := Except.error.inj failed
    simp [powerUp_error driven (congrArg (·.1) dark)]
  next h₁ d₁ powered =>
    obtain ⟨h₂, steady, -, ⟨cause, refused⟩ | again⟩ := powerUp_cases h { product, config }
    next =>
      rw [refused] at powered
      cases powered
    next =>
      rw [again] at powered
      obtain rfl : h₂ = h₁ := congrArg (·.2.1) powered
      split at failed
      next cause h₃ d₃ refused =>
        obtain rfl := Except.error.inj failed
        refine bringUpParts_error ?_ (congrArg (·.1) refused)
        rwa [steady.driver, properties]
      next => cases failed

/-- What is wrong with the description of a device is found before anything is done about it, and
nothing that goes wrong later on is put down to the description. -/
theorem configured_bringUp (r : Simulation.Receiver) (h : Host) (product : Product)
    (config : Config) (driven : h.driver = r.driver) :
    (∀ e, (bringUp h product config).1 = .error e ∧ e.kind = .configuration ↔
      r.properties.validate = .error e) ∧
    (∀ e, r.properties.validate = .error e ↔ r.properties.FirstFault e) ∧
    ((∃ e, r.properties.FirstFault e) ↔ ¬r.properties.Usable) ∧
    ∀ e, r.properties.FirstFault e → (bringUp h product config).2 = (h, { product, config }) := by
  have stopped {e : Failure} (fault : r.properties.FirstFault e) :
      bringUp h product config = (.error e, h, { product, config }) := by
    have wrong : h.driver.properties.problem? = some e := by
      rw [driven]
      exact Properties.problem?_eq_some_iff.2 fault
    unfold bringUp
    rw [wrong]
  have faulty : (∃ e, r.properties.FirstFault e) ↔ ¬r.properties.Usable := by
    simp only [← Properties.problem?_eq_some_iff, ← Properties.problem?_eq_none_iff]
    exact Option.ne_none_iff_exists'.symm
  have validate (e : Failure) :
      r.properties.validate = .error e ↔ r.properties.FirstFault e :=
    Properties.validate_error_iff
  refine ⟨fun e => ?_, validate, faulty, fun e fault => by rw [stopped fault]⟩
  rw [validate]
  constructor
  · rintro ⟨failed, blamed⟩
    -- A description without faults would have been blamed for something else.
    have broken : ¬r.properties.Usable := fun usable => bringUp_error driven usable failed blamed
    obtain ⟨e', fault⟩ := faulty.2 broken
    rw [stopped fault] at failed
    rwa [← Except.error.inj failed]
  · intro fault
    rw [stopped fault]
    exact ⟨rfl, fault.kind⟩

def muddled : Simulation.Receiver where
  properties :=
    { products := []
      adapters := [[⟨.none, ⟨1, 0x81, .bulk 4⟩⟩],
        [⟨.required 4, ⟨2, 0x82, .isoc 1 4 1⟩⟩, ⟨.optional 0, ⟨11, 0, .bulk 0⟩⟩]] }
  faults := [.powerOn, .attach 0 0]

def muddledHost : Host where
  bus :=
    { speed := .full
      policy := { allocation := fun _ => some .zeroLengthBuffer, stride := id }
      nextAddress := 0 }
  driver := muddled.driver
  registry := { demuxDepth := 4, refused := [.adapter 0] }

theorem configured_bringUp_muddled :
    muddledHost.driver = muddled.driver ∧
      (bringUp muddledHost ⟨"receiver", [], []⟩ {}).1 = .error (.slotLayout 1 1 (.count 11)) ∧
      (bringUp muddledHost ⟨"receiver", [], []⟩ {}).2 =
        (muddledHost, { product := ⟨"receiver", [], []⟩, config := {} }) := by
  have driven : muddledHost.driver = muddled.driver := rfl
  have invalid : muddled.properties.validate = .error (.slotLayout 1 1 (.count 11)) := by rfl
  obtain ⟨told, first, -, untouched⟩ :=
    configured_bringUp muddled muddledHost ⟨"receiver", [], []⟩ {} driven
  exact ⟨driven, ((told _).2 invalid).1, untouched _ ((first _).1 invalid)⟩

end Device

end DvbReceiver

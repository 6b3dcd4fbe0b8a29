import DvbReceiver.Proofs.Adapter.Standing

set_option autoImplicit false

namespace DvbReceiver.Adapter

variable {h₀ h : Host} {a : Adapter} {r : Nat → List UrbIdentity} {slot : Nat}
  {placesBefore : List Place} {demodsBefore : List (Nat × Nat)}

def ReadyBelow (a : Adapter) (rosters : Nat → List UrbIdentity) (slot : Nat) : Prop :=
  ∀ j < slot, rosters (streamId a.id j) ≠ [] ∧ a.runs j = false

theorem prepareStream_spec {s : Slot} (sound : a.Sound r h.bus.queue)
    (there : a.slots[slot]? = some s) (below : a.ReadyBelow r slot) (layout : Layout) :
    let result := onStream h a slot (.ok ()) fun f => f.prepare layout
    ∃ r', Worked h a r result.2.1 result.2.2 r' ∧
      (result.1 = .ok () → result.2.2.ReadyBelow r' (slot + 1)) := by
  intro result
  let f : Flow := { host := h, stream := s.stream }
  have before : f.Sound (r (streamId a.id slot)) := sound.streams slot s there
  obtain ⟨roster, provided⟩ := Flow.provided_prepare before layout
  have worked := worked_onStream sound there (.ok ()) (fun f => f.prepare layout) provided.toStep
  refine ⟨_, worked, fun succeeded j within => ?_⟩
  have outcome : (f.prepare layout).1 = .ok () := (onStream_fst h there _ _).symm.trans succeeded
  obtain ⟨positive, rest⟩ := provided.ok outcome
  have runs : result.2.2.runs j = _ := runs_onStream h there (.ok ()) (fun f => f.prepare layout) j
  rw [worked.id, runs]
  by_cases here : j = slot
  · subst here
    rw [Function.update_self, if_pos rfl]
    exact ⟨provided.sound.prepared_pos.1 positive, Stream.isRunning_eq_false_iff.2 rest⟩
  · have earlier := below j (by omega)
    have different : streamId a.id j ≠ streamId a.id slot := fun same => here (streamId_inj same)
    rwa [Function.update_of_ne different, if_neg here]

theorem prepareStreams_spec (count slot : Nat) (sound : a.Sound r h.bus.queue)
    (reach : slot + count = a.slots.length) (below : a.ReadyBelow r slot) :
    ∃ r', Worked h a r (prepareStreams count slot h a).2.1 (prepareStreams count slot h a).2.2 r' ∧
      ((prepareStreams count slot h a).1 = .ok () →
        (prepareStreams count slot h a).2.2.ReadyBelow r' a.slots.length) := by
  induction count generalizing slot h a r with
  | zero =>
    have all : slot = a.slots.length := reach
    exact ⟨r, Worked.refl sound, fun _ => all ▸ below⟩
  | succ count ih =>
    have there : a.slots[slot]? = some a.slots[slot] := List.getElem?_eq_getElem (by omega)
    unfold prepareStreams
    dsimp only
    rw [there]
    obtain ⟨r₁, worked, ready⟩ := prepareStream_spec sound there below a.slots[slot].props.layout
    split
    next e h₁ a₁ failed =>
      rw [failed] at worked
      exact ⟨r₁, worked, fun impossible => by cases impossible⟩
    next h₁ a₁ prepared =>
      rw [prepared] at worked ready
      obtain ⟨r₂, later, all⟩ := ih (slot + 1) worked.sound (by rw [worked.length]; omega)
        (ready rfl)
      rw [worked.length] at all
      exact ⟨r₂, worked.trans later, all⟩

theorem attach_cases (h : Host) (adapter slot : Nat) (i2c : Option String) :
    ∃ h', h.Steady h' ∧ h'.bus = h.bus ∧
      ((∃ e, attach h adapter slot i2c = (.error e, h')) ∨
        attach h adapter slot i2c = (.ok none, h') ∨
        ∃ name, attach h adapter slot i2c =
          (.ok (some name), h'.note (.attached adapter slot))) := by
  have asked := Host.steady_call h (.frontendAttach adapter slot) rfl
  have bus := Host.bus_call h (.frontendAttach adapter slot)
  unfold attach
  dsimp only
  split
  next e h₁ called =>
    rw [called] at asked bus
    exact ⟨h₁, asked, bus, .inl ⟨e, rfl⟩⟩
  next h₁ called =>
    rw [called] at asked bus
    exact ⟨h₁, asked, bus, .inr (.inl rfl)⟩
  next h₁ _ _ called =>
    rw [called] at asked bus
    split
    next => exact ⟨h₁, asked, bus, .inr (.inr ⟨_, rfl⟩)⟩
    next =>
      have reached := asked.trans (Host.steady_call h₁ (.i2cTransfer 1) rfl)
      split
      next => exact ⟨_, reached, bus, .inl ⟨_, rfl⟩⟩
      next => exact ⟨_, reached, bus, .inr (.inr ⟨_, rfl⟩)⟩

/-- What has become of an adapter that is being brought up, as far as it has come. -/
structure Grown (h₀ : Host) (placesBefore : List Place) (demodsBefore : List (Nat × Nat))
    (h : Host) (a : Adapter) (rosters : Nat → List UrbIdentity)
    (h' : Host) (a' : Adapter) (rosters' : Nat → List UrbIdentity) : Prop
    extends Confined h a rosters h' a' rosters' where
  ledger : Ledger h₀ h' (a'.places ++ placesBefore) (a'.demods ++ demodsBefore) (held rosters')
  runs : ∀ j, a'.runs j = a.runs j
  feeds : a'.feeds = a.feeds
  gate : a'.gate = a.gate

theorem Grown.after {h₁ h₂ : Host} {a₁ a₂ : Adapter} {r₁ r₂ : Nat → List UrbIdentity}
    (grown : Grown h₀ placesBefore demodsBefore h₁ a₁ r₁ h₂ a₂ r₂)
    (confined : Confined h a r h₁ a₁ r₁) (runs : ∀ j, a₁.runs j = a.runs j)
    (feeds : a₁.feeds = a.feeds) (gate : a₁.gate = a.gate) :
    Grown h₀ placesBefore demodsBefore h a r h₂ a₂ r₂ :=
  { confined.trans grown.toConfined with
    ledger := grown.ledger
    runs := fun j => (grown.runs j).trans (runs j)
    feeds := grown.feeds.trans feeds
    gate := grown.gate.trans gate }

theorem Grown.of_bus {h₁ : Host} (sound : a.Sound r h.bus.queue) (bus : h₁.bus = h.bus)
    (ledger : Ledger h₀ h₁ (a.places ++ placesBefore) (a.demods ++ demodsBefore) (held r)) :
    Grown h₀ placesBefore demodsBefore h a r h₁ a r :=
  { Confined.of_bus sound bus with
    ledger
    runs := fun _ => rfl
    feeds := rfl
    gate := rfl }

theorem attachFrontends_spec (i2c : Option String) (count slot : Nat)
    (sound : a.Sound r h.bus.queue) (reach : slot + count = a.slots.length)
    (vacant : ∀ j, slot ≤ j → a.isRegistered j = false)
    (ledger : Ledger h₀ h (a.places ++ placesBefore) (a.demods ++ demodsBefore) (held r)) :
    Grown h₀ placesBefore demodsBefore h a r (attachFrontends i2c count slot h a).2.1
      (attachFrontends i2c count slot h a).2.2 r := by
  -- On the slots to come, which are vacant; those before are in the ledger.
  induction count generalizing slot h a with
  | zero => exact Grown.of_bus sound rfl ledger
  | succ count ih =>
    obtain ⟨h₁, steady, bus, ⟨e, failed⟩ | absent | ⟨name, found⟩⟩ := attach_cases h a.id slot i2c
    next =>
      simp only [attachFrontends, failed]
      exact Grown.of_bus sound bus (ledger.steady steady)
    next =>
      simp only [attachFrontends, absent]
      have confined := Confined.of_bus sound bus
      have later := ih (slot + 1) confined.sound (by omega) (fun j above => vacant j (by omega))
        (ledger.steady steady)
      exact later.after confined (fun _ => rfl) rfl rfl
    next =>
      have attached := (ledger.steady steady).attached a.id slot
      simp only [attachFrontends, found]
      obtain ⟨e, refused⟩ | ⟨h₂, granted, same, opened⟩ := Ledger.register_cases
        (h₁.note (.attached a.id slot)) (.frontend a.id slot name)
      next =>
        rw [refused]
        -- Detached at once, since nobody else will know of it.
        exact Grown.of_bus sound bus attached.detach
      next =>
        rw [granted]
        let frontend (s : Slot) : Slot := { s with frontend := some ⟨name, true⟩ }
        let h₃ := (h₂.perform (.tunerAttach a.id slot)).2
        have registered : Ledger h₀ h₃ (.frontend a.id slot :: (a.places ++ placesBefore))
            ((a.id, slot) :: (a.demods ++ demodsBefore)) (held r) :=
          (opened attached).steady (Host.steady_perform h₂ _ rfl)
        have untouched : Confined h a r h₃ a r := Confined.of_bus sound (same.trans bus)
        have confined := untouched.trans
          (confined_modified (f := frontend) untouched.sound (fun _ => rfl) slot)
        obtain ⟨places, demods⟩ :=
          standing_modified (f := frontend) (by omega) vacant fun _ => rfl
        have later := ih (a := a.modified slot frontend) (slot + 1) confined.sound
          (by rw [confined.length]; omega)
          (fun j above => by
            rw [isRegistered_modified, if_neg (by omega)]
            exact vacant j (by omega))
          (by rw [places, demods]; exact registered)
        have runs := runs_modified (a := a) (f := frontend) (fun _ => rfl) slot
        exact later.after confined runs rfl rfl

structure Fresh (a : Adapter) : Prop where
  registered : a.registered = {}
  vacant : ∀ j, a.isRegistered j = false
  feeds : a.feeds = {}
  gate : a.gate = 0

structure BroughtUp (h₀ : Host) (placesBefore : List Place) (demodsBefore : List (Nat × Nat))
    (h : Host) (a : Adapter) (rosters : Nat → List UrbIdentity)
    (result : Except Failure Unit × Host × Adapter) (rosters' : Nat → List UrbIdentity) : Prop
    extends Confined h a rosters result.2.1 result.2.2 rosters' where
  ledger : Ledger h₀ result.2.1 (result.2.2.places ++ placesBefore)
    (result.2.2.demods ++ demodsBefore) (held rosters')
  ok : result.1 = .ok () → result.2.2.Ready rosters' ∧ result.2.2.Steered ∧ result.2.2.feeds = {}

theorem BroughtUp.failed {h₁ h' : Host} {a₁ : Adapter} {r' : Nat → List UrbIdentity}
    (confined : Confined h a r h₁ a₁ r') (vacant : ∀ j, a₁.isRegistered j = false)
    (bus : h'.bus = h₁.bus) (registered : Registered) (demux : Option Demux) (e : Failure)
    (ledger : Ledger h₀ h' (registered.places a₁.id ++ placesBefore) demodsBefore (held r')) :
    BroughtUp h₀ placesBefore demodsBefore h a r (.error e, h', { a₁ with registered, demux })
      r' := by
  have standing := standing_vacant (a := { a₁ with registered, demux }) vacant
  have still : Confined h a r h₁ { a₁ with registered, demux } r' :=
    { confined with sound := { confined.sound with } }
  exact
    { still.trans (Confined.of_bus still.sound bus) with
      ledger := by rw [standing.1, standing.2]; exact ledger
      ok := fun impossible => by cases impossible }

theorem broughtUp_attachFrontends {h₁ : Host} {a₁ : Adapter} {r' : Nat → List UrbIdentity}
    (confined : Confined h a r h₁ a₁ r') (ready : a₁.ReadyBelow r' a₁.slots.length)
    (vacant : ∀ j, a₁.isRegistered j = false) (unfed : a₁.feeds = {}) (shut : a₁.gate = 0)
    (ledger : Ledger h₀ h₁ (a₁.registered.places a₁.id ++ placesBefore) demodsBefore (held r'))
    (i2c : Option String) :
    BroughtUp h₀ placesBefore demodsBefore h a r (attachFrontends i2c a₁.slots.length 0 h₁ a₁)
      r' := by
  have standing := standing_vacant vacant
  have grown := attachFrontends_spec i2c a₁.slots.length 0 confined.sound (Nat.zero_add _)
    (fun j _ => vacant j) (by rw [standing.1, standing.2]; exact ledger)
  have feeds := grown.feeds.trans unfed
  refine { confined.trans grown.toConfined with
    ledger := grown.ledger
    ok := fun _ => ⟨fun j within => ?_, ?_, feeds⟩ }
  · rw [grown.length] at within
    rw [grown.id]
    exact (ready j within).1
  · refine steered_rest (by rw [feeds]) (fun j => ?_) ?_ fun j awake => ?_
    · rw [grown.runs]
      -- Beyond the last slot there is nothing that could run.
      by_cases within : j < a₁.slots.length
      · exact (ready j within).2
      · exact congrArg (Option.any _) (List.getElem?_eq_none (Nat.le_of_not_lt within))
    · rw [feeds, grown.gate]
      exact shut
    · -- Nobody is awake yet, so that no slot has to have a frontend.
      rw [feeds] at awake
      cases awake

theorem broughtUp_bringUp (sound : a.Sound r h.bus.queue) (fresh : a.Fresh)
    (ledger : Ledger h₀ h placesBefore demodsBefore (held r)) (name : String)
    (i2c : Option String) :
    ∃ r', BroughtUp h₀ placesBefore demodsBefore h a r (a.bringUp h name i2c) r' := by
  obtain ⟨r', worked, ready⟩ := prepareStreams_spec a.slots.length 0 sound (Nat.zero_add _)
    fun j impossible => absurd impossible (Nat.not_lt_zero j)
  refine ⟨r', ?_⟩
  unfold bringUp
  cases prepared : prepareStreams a.slots.length 0 h a with
  | mk result rest =>
    obtain ⟨h₁, a₁⟩ := rest
    rw [prepared] at worked ready
    have ledger₁ := ledger.exchange worked.exchange
    have vacant (j : Nat) : a₁.isRegistered j = false :=
      (worked.isRegistered j).trans (fresh.vacant j)
    have none₁ : a₁.registered = {} := worked.registered.trans fresh.registered
    -- Each stage adds a place of its own, and its failure leaves those of the stages before it.
    have here := worked.toConfined
    have unregistered (e : Failure) : BroughtUp h₀ placesBefore demodsBefore h a r
        (.error e, h₁, a₁) r' :=
      .failed here vacant rfl a₁.registered a₁.demux e (by rw [none₁]; exact ledger₁)
    cases result with
    | error e => exact unregistered e
    | ok =>
      dsimp only
      obtain ⟨e, refused⟩ | ⟨h₂, granted, same₂, opened₂⟩ :=
        Ledger.register_cases h₁ (.adapter a₁.id name)
      next =>
        rw [refused]
        exact unregistered e
      rw [granted]
      have ledger₂ := opened₂ ledger₁
      obtain ⟨e, refused⟩ | ⟨h₃, granted, same₃, opened₃⟩ := Ledger.register_cases h₂
        (.demux a₁.id ⟨a₁.maxFeeds, a₁.slots.any (·.filtering.isHardware)⟩)
      next =>
        simp only [maxFeeds] at refused ⊢
        rw [refused]
        exact .failed here vacant same₂ _ _ e (by rw [none₁]; exact ledger₂)
      simp only [maxFeeds] at granted ⊢
      rw [granted]
      have ledger₃ := opened₃ ledger₂
      dsimp only
      obtain ⟨e, refused⟩ | ⟨h₄, granted, same₄, opened₄⟩ :=
        Ledger.register_cases h₃ (.net a₁.id)
      next =>
        rw [refused]
        exact .failed here vacant (same₃.trans same₂) _ _ e (by rw [none₁]; exact ledger₃)
      rw [granted]
      have ledger₄ := opened₄ ledger₃
      dsimp only
      let registered : Registered := { { { a₁.registered with adapter := true } with
        demux := true } with net := true }
      let a₂ : Adapter := { a₁ with demux := some h₃.registry.newDemux, registered }
      have whole : Confined h₁ a₁ r' h₁ a₂ r' :=
        { Confined.refl worked.sound with sound := { worked.sound with } }
      have there := whole.trans (Confined.of_bus whole.sound (same₄.trans (same₃.trans same₂)))
      have below : a₂.ReadyBelow r' a₂.slots.length := by
        have all := ready rfl
        rwa [← worked.length] at all
      exact broughtUp_attachFrontends (here.trans there) below vacant
        (worked.feeds.trans fresh.feeds) (worked.gate.trans fresh.gate) ledger₄ i2c

end DvbReceiver.Adapter

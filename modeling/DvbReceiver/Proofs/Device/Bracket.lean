import DvbReceiver.Proofs.Adapter.Bracket
import DvbReceiver.Proofs.Device.Session

set_option autoImplicit false

namespace DvbReceiver

namespace Device

open Host (Bracket)

variable {h₀ h h' : Host} {adapters : List Adapter} {r : Nat → List UrbIdentity} {d : Device}
  {i : Nat} {a a' : Adapter} {on : Nat → Bool}

theorem Live.alone (live : Live h₀ h adapters r) (there : adapters[i]? = some a) :
    a.Alone h.bus.queue := by
  intro u queued number
  have number : u.key.stream / maxFrontends = a.id := number
  have sound := live.sound a (List.mem_of_getElem? there)
  have known : u.key.stream ∈ streamIds := by
    have few := sound.known
    simp only [streamIds, List.mem_range, maxAdapters, maxFrontends] at *
    omega
  obtain ⟨b, index, within, own⟩ := live.owner queued known
  -- The adapter at that place is the one at hand, whose number is its place.
  rw [number, live.ids i a there, there] at index
  cases index
  exact ⟨_, within, own⟩

theorem bracket_powerUp (bracket : Bracket h₀ h on) (d : Device) :
    Bracket h₀ (powerUp h d).2.1 on := by
  unfold powerUp
  split
  next => exact bracket
  next =>
    have asked := bracket.perform (.power true) fun _ => rfl
    split
    next outcome =>
      rw [outcome] at asked
      exact asked
    next outcome =>
      rw [outcome] at asked
      exact asked

theorem bracket_powerDown (bracket : Bracket h₀ h on) (d : Device) :
    Bracket h₀ (powerDown h d).2.1 on := by
  unfold powerDown
  split
  next => exact bracket
  next => exact bracket.perform _ fun _ => rfl

theorem bracket_startFeed (live : Live h₀ h d.adapters r) (bracket : Bracket h₀ h d.streams)
    (i : Nat) (feed : Feed) :
    Bracket h₀ (startFeed h d i feed).2.1 (startFeed h d i feed).2.2.streams := by
  unfold startFeed
  cases there : d.adapters[i]? with
  | none =>
    rw [onAdapter_missing h there]
    exact bracket
  | some a =>
    have member := List.mem_of_getElem? there
    have number := live.ids i a there
    have started := Adapter.bracket_startFeed bracket (live.alone there) (live.sound a member)
      (live.ready a member) (live.steered a member) (by rw [number, streams_some there]) feed
    rw [onAdapter_some h there, streams_set there]
    rwa [number] at started

theorem bracket_stopFeed (live : Live h₀ h d.adapters r) (bracket : Bracket h₀ h d.streams)
    (i : Nat) (feed : Feed) :
    Bracket h₀ (stopFeed h d i feed).2.1 (stopFeed h d i feed).2.2.streams := by
  unfold stopFeed
  cases there : d.adapters[i]? with
  | none =>
    rw [onAdapter_missing h there]
    exact bracket
  | some a =>
    have member := List.mem_of_getElem? there
    have number := live.ids i a there
    have stopped := Adapter.bracket_stopFeed bracket (live.alone there) (live.sound a member)
      (live.steered a member) (by rw [number, streams_some there]) feed
    rw [onAdapter_some h there, streams_set there]
    rwa [number] at stopped

theorem bracket_complete (live : Live h₀ h d.adapters r) (bracket : Bracket h₀ h d.streams)
    {u : Urb} {queue : List Urb} (removed : Removed h.bus.queue u queue) (fill : Fill) :
    Bracket h₀ (complete { h with bus := { h.bus with queue } } d (u.fill fill)).1
      (complete { h with bus := { h.bus with queue } } d (u.fill fill)).2.streams := by
  have key : (u.fill fill).key = u.key := u.key_fill fill
  unfold complete
  rw [key]
  by_cases known : u.key.stream ∈ streamIds
  · obtain ⟨a, index, within, own⟩ := live.owner removed.mem known
    have member := List.mem_of_getElem? index
    have sound := live.sound a member
    have number := live.ids _ a index
    have completed := Adapter.bracket_complete bracket sound (live.steered a member)
      (by rw [number, streams_some index]) removed own within fill
    have feeds := (Adapter.worked_complete sound within removed own fill).1.feeds
    rw [onAdapter_some _ index]
    dsimp only
    rw [streams_set index, feeds, ← streams_some index, Function.update_eq_self]
    exact completed
  · rw [onAdapter_missing _ (missing_of_unknown live known)]
    refine bracket.removed_foreign rfl removed ?_
    unfold UrbKey.adapter
    simp only [streamIds, List.mem_range, maxAdapters, maxFrontends] at *
    omega

theorem bracket_part (live : Live h₀ h d.adapters r) (bracket : Bracket h₀ h d.streams)
    (adapter slot : Nat) (step : Part) :
    Bracket h₀ (part adapter slot (h, d) step).1 (part adapter slot (h, d) step).2.streams := by
  cases step with
  | powerUp =>
    obtain ⟨h₁, -, -, ⟨e, refused⟩ | powered⟩ := powerUp_cases h d
    next =>
      have lit := bracket_powerUp bracket d
      simp only [part, refused] at lit ⊢
      exact lit
    next =>
      have lit := bracket_powerUp bracket d
      simp only [part, powered] at lit ⊢
      exact lit
  | powerDown =>
    obtain ⟨result, h₁, -, -, powered⟩ := powerDown_cases h d
    have dark := bracket_powerDown bracket d
    simp only [part, powered] at dark ⊢
    exact dark
  | control on => exact bracket.perform _ fun _ => rfl
  | demodInit => exact bracket.perform _ fun _ => rfl
  | demodSleep => exact bracket.perform _ fun _ => rfl
  | select =>
    simp only [part]
    split
    next => exact bracket
    next d₁ selected =>
      obtain ⟨a, there, -, rfl⟩ := select_ok selected
      rw [streams_set there, ← streams_some there, Function.update_eq_self]
      exact bracket
  | deselect =>
    simp only [part]
    cases there : d.adapters[adapter]? with
    | none =>
      rw [onAdapter_missing h there]
      exact bracket
    | some a =>
      have member := List.mem_of_getElem? there
      have number := live.ids adapter a there
      have slept := Adapter.bracket_deselect bracket (live.alone there) (live.sound a member)
        (live.steered a member) (by rw [number, streams_some there]) slot
      rw [onAdapter_some h there]
      dsimp only
      rw [streams_set there]
      rwa [number] at slept

theorem bracket_parts (live : Live h₀ h d.adapters r) (bracket : Bracket h₀ h d.streams)
    {adapter slot : Nat} (known : d.hasFrontend adapter slot = true) (steps : List Part) :
    Bracket h₀ (parts adapter slot (h, d) steps).1 (parts adapter slot (h, d) steps).2.streams := by
  induction steps generalizing h d with
  | nil => exact bracket
  | cons step rest ih =>
    have first := tended_part live known step
    exact ih first.live (bracket_part live bracket adapter slot step)
      ((first.frontends adapter slot).trans known)

theorem bracket_bringUpAdapters (bracket : Bracket h₀ h on) (d : Device) (id : Nat)
    (rest : List (List SlotProperties)) :
    Bracket h₀ (bringUpAdapters id rest h d).2.1 on := by
  induction rest generalizing id h d with
  | nil => exact bracket
  | cons props rest ih =>
    have reached := Adapter.bracket_bringUp bracket
      (Adapter.new id props h.bus.speed d.config.forceFilter) d.product.name d.i2c
    unfold bringUpAdapters
    dsimp only
    split
    next => exact reached
    next => exact ih reached _ (id + 1)

theorem bracket_exitAdapters (bracket : Bracket h₀ h on) (adapters : List Adapter) :
    Bracket h₀ (exitAdapters h adapters).1 on := by
  induction adapters with
  | nil => exact bracket
  | cons a rest ih => exact Adapter.bracket_exit ih a

theorem bracket_exit (bracket : Bracket h₀ h on) (d : Device) : Bracket h₀ (d.exit h).1 on := by
  unfold exit
  split
  next => exact bracket
  next => exact bracket_exitAdapters bracket d.adapters

theorem bracket_bringUp (bracket : Bracket h₀ h on) (product : Product) (config : Config) :
    Bracket h₀ (bringUp h product config).2.1 on := by
  have lit := bracket_powerUp bracket { product, config }
  unfold bringUp
  dsimp only
  split
  next => exact bracket
  next =>
    split
    next refused =>
      rw [refused] at lit
      exact lit
    next h₁ d₁ powered =>
      rw [powered] at lit
      -- However far it comes, no stream is switched on.
      have reached : Bracket h₀ (bringUpParts h₁ d₁).2.1 on := by
        unfold bringUpParts
        dsimp only
        split
        next failed => exact congrArg (·.2.1) failed ▸ bracket_bringUpAdapters lit _ 0 _
        next succeeded => exact congrArg (·.2.1) succeeded ▸ bracket_bringUpAdapters lit _ 0 _
      split
      next failed =>
        rw [failed] at reached
        exact bracket_powerDown (bracket_exitAdapters reached _) _
      next succeeded =>
        rw [succeeded] at reached
        exact bracket_powerDown reached _

end Device

namespace Session

open Host (Bracket)

variable {h₀ : Host} {size : Nat} {r : Nat → List UrbIdentity} {s : Session}

theorem bracket_act (sound : Sound h₀ size r s) (bracket : Bracket h₀ s.host s.device.streams)
    (step : Act) : Bracket h₀ (s.act step).host (s.act step).device.streams := by
  induction step using act_elim s with
  | startFeed i feed => exact Device.bracket_startFeed sound.live bracket i feed
  | stopFeed i feed => exact Device.bracket_stopFeed sound.live bracket i feed
  | frontend step i slot work same steps =>
    rw [same]
    exact onFrontend_elim (fun h d => Bracket h₀ h d.streams) steps bracket fun known =>
      Device.bracket_parts sound.live bracket known
  | complete position fill =>
    simp only [act]
    split
    next => exact bracket
    next u there =>
      exact Device.bracket_complete sound.live bracket (removed_eraseIdx there) fill

theorem bracket_run (sound : Sound h₀ size r s) (bracket : Bracket h₀ s.host s.device.streams)
    (acts : List Act) : Bracket h₀ (s.run acts).host (s.run acts).device.streams := by
  induction acts generalizing s with
  | nil => exact bracket
  | cons step rest ih => exact ih (sound_act sound step) (bracket_act sound bracket step)

/-- From the moment that a device is brought up until after its exit, its requests are with the bus
and its table is written only while the stream of their adapter is switched on, and no stream is
switched on or off twice in a row. -/
theorem bracketed_run (h : Host) (product : Product) (config : Config)
    (unused : ∀ u ∈ h.bus.queue, u.key.stream ∉ streamIds)
    (ok : (Device.bringUp h product config).1 = .ok ()) (acts : List Act) :
    let s := run (begin (Device.bringUp h product config)) acts
    Bracket h s.host s.device.streams ∧ Bracket h (s.device.exit s.host).1 s.device.streams := by
  intro s
  have settled := Device.settled_bringUp h product config fun _ => ofStream_nil_of_unused unused
  obtain ⟨r, fresh⟩ := sound_begin settled ok
  have silent : (begin (Device.bringUp h product config)).device.streams = fun _ => false := by
    obtain ⟨-, -, -, unfed⟩ := settled.ok ok
    funext i
    unfold Device.streams
    cases there : (begin (Device.bringUp h product config)).device.adapters[i]? with
    | none => rfl
    | some a =>
      rw [Option.any_some, unfed a (List.mem_of_getElem? there)]
      rfl
  have foreign (u : Urb) (queued : u ∈ h.bus.queue) : maxAdapters ≤ u.key.adapter := by
    have unknown := unused u queued
    unfold UrbKey.adapter
    simp only [streamIds, List.mem_range, maxAdapters, maxFrontends] at *
    omega
  have up := Device.bracket_bringUp (Bracket.start h foreign) product config
  rw [← silent] at up
  have after := bracket_run fresh up acts
  exact ⟨after, Device.bracket_exit after s.device⟩

theorem bracketed_run_bench :
    (∀ u ∈ benchHost.bus.queue, u.key.stream ∉ streamIds) ∧
      (Device.bringUp benchHost ⟨"receiver", [], []⟩ {}).1 = .ok () ∧
      let s := run (begin (Device.bringUp benchHost ⟨"receiver", [], []⟩ {}))
        [.wake 0 0, .startFeed 0 ⟨0x100, 0⟩, .complete 0 (.result .ok 4), .sleep 0 0, .wake 0 1,
          .startFeed 0 ⟨0x101, 1⟩]
      Bracket benchHost s.host s.device.streams ∧
        Bracket benchHost (s.device.exit s.host).1 s.device.streams := by
  have unused : ∀ u ∈ benchHost.bus.queue, u.key.stream ∉ streamIds := by
    simp [benchHost, Bench.newBus]
  have ok : (Device.bringUp benchHost ⟨"receiver", [], []⟩ {}).1 = .ok () := by rfl
  exact ⟨unused, ok, bracketed_run _ _ _ unused ok _⟩

end Session

end DvbReceiver

import DvbReceiver.Proofs.Device.Live
import DvbReceiver.Proofs.Device.Teardown

set_option autoImplicit false

namespace DvbReceiver

namespace Properties

theorem length_le_of_adaptersProblem? {adapter : Nat} {adapters : List (List SlotProperties)}
    (good : adaptersProblem? adapter adapters = none) :
    ∀ slots ∈ adapters, slots.length ≤ maxFrontends := by
  induction adapters generalizing adapter with
  | nil => simp
  | cons slots rest ih =>
    obtain ⟨here, later⟩ := Option.or_eq_none_iff.1 good
    intro other there
    obtain rfl | there := List.mem_cons.1 there
    next =>
      unfold adapterProblem? at here
      split at here
      next => cases here
      next within => omega
    next => exact ih later other there

theorem sizes_of_problem? {p : Properties} (good : p.problem? = none) :
    p.adapters.length ≤ maxAdapters ∧ ∀ slots ∈ p.adapters, slots.length ≤ maxFrontends := by
  unfold problem? at good
  split at good
  next => cases good
  next within => exact ⟨by omega, length_le_of_adaptersProblem? good⟩

end Properties

namespace Device

theorem powerUp_cases (h : Host) (d : Device) :
    ∃ h', h.Steady h' ∧ h'.bus = h.bus ∧
      ((∃ e, powerUp h d = (.error e, h', d)) ∨
        powerUp h d = (.ok (), h', { d with power := d.power.acquire.2 })) := by
  unfold powerUp
  split
  next rail acquired =>
    refine ⟨h, Host.Steady.refl h, rfl, .inr ?_⟩
    rw [acquired]
  next rail acquired =>
    have steady := Host.steady_perform h (.power true) rfl
    have bus := Host.bus_perform h (.power true)
    split
    next e h₁ refused =>
      rw [refused] at steady bus
      have back : rail.release.2 = d.power := by
        have undone := PowerRail.release_acquire d.power
        rwa [acquired] at undone
      exact ⟨h₁, steady, bus, .inl ⟨e, by rw [back]⟩⟩
    next h₁ granted =>
      rw [granted] at steady bus
      exact ⟨h₁, steady, bus, .inr (by rw [acquired])⟩

theorem powerDown_eq (h : Host) (d : Device) :
    powerDown h d =
      let off := h.perform (.power false)
      let down := { d with power := ⟨d.power.users - 1⟩ }
      if d.power.users = 1 then (off.1, off.2, down) else (.ok (), h, down) := by
  unfold powerDown PowerRail.release
  by_cases last : d.power.users = 1
  · simp only [if_pos last]
  · simp only [if_neg last]

theorem powerDown_cases (h : Host) (d : Device) :
    ∃ result h', h.Steady h' ∧ h'.bus = h.bus ∧
      powerDown h d = (result, h', { d with power := d.power.release.2 }) := by
  rw [powerDown_eq]
  dsimp only
  split
  next => exact ⟨_, _, Host.steady_perform h (.power false) rfl, rfl, rfl⟩
  next => exact ⟨_, h, Host.Steady.refl h, rfl, rfl⟩

theorem bringUpParts_spec {h₀ h : Host} {d : Device} (ledger : Ledger h₀ h [] [] [])
    (quiet : ∀ n ∈ streamIds, ofStream n h.bus.queue = []) (bare : d.adapters = [])
    (good : h.driver.properties.problem? = none) :
    ∃ r, Standing h₀ (bringUpParts h d).2.1 (bringUpParts h d).2.2.adapters r ∧
      (bringUpParts h d).2.2.power = d.power ∧
      ((bringUpParts h d).1 = .ok () →
        Live h₀ (bringUpParts h d).2.1 (bringUpParts h d).2.2.adapters r ∧
        (bringUpParts h d).2.2.phase = .ready ∧
        (bringUpParts h d).2.2.adapters.length = h.driver.properties.adapters.length ∧
        ∀ a ∈ (bringUpParts h d).2.2.adapters, a.feeds = {}) := by
  obtain ⟨room, sizes⟩ := Properties.sizes_of_problem? good
  let d₁ : Device := { d with
    i2c := if h.driver.hasI2c then some (d.product.name ++ " i2c") else none
    phase := .i2cReady }
  have live : Live h₀ h d₁.adapters fun _ => [] := by
    show Live h₀ h d.adapters _
    rw [bare]
    exact Live.none ledger quiet
  have count : d₁.adapters.length = 0 := congrArg List.length bare
  obtain ⟨r, standing, power, ok⟩ := bringUpAdapters_spec h.driver.properties.adapters live
    (by rw [count]; omega) sizes fun a impossible => by
      have impossible : a ∈ d.adapters := impossible
      rw [bare] at impossible
      simp at impossible
  rw [count, Nat.zero_add] at ok
  rw [count] at standing power
  refine ⟨r, ?_⟩
  unfold bringUpParts
  dsimp only
  split
  next e h₂ d₂ failed =>
    rw [failed] at standing power
    exact ⟨standing, power, fun impossible => by cases impossible⟩
  next h₂ d₂ succeeded =>
    rw [succeeded] at standing power ok
    obtain ⟨all, length, unfed⟩ := ok rfl
    exact ⟨standing, power, fun _ => ⟨all, rfl, length, unfed⟩⟩

structure Settled (h : Host) (result : Except Failure Unit × Host × Device) : Prop where
  failed : ∀ e, result.1 = .error e →
    TornDown h result.2.1 ∧ result.2.2.power.users = 0 ∧ result.2.2.phase = .uninitialized
  ok : result.1 = .ok () →
    (∃ rosters, Live h result.2.1 result.2.2.adapters rosters) ∧ result.2.2.phase = .ready ∧
      result.2.2.adapters.length = h.driver.properties.adapters.length ∧
      ∀ a ∈ result.2.2.adapters, a.feeds = {}

theorem settled_bringUp (h : Host) (product : Product) (config : Config)
    (quiet : ∀ n ∈ streamIds, ofStream n h.bus.queue = []) :
    Settled h (bringUp h product config) := by
  have untouched {h' : Host} (steady : h.Steady h') (bus : h'.bus = h.bus) (e : Failure) :
      Settled h (.error e, h', { product, config }) :=
    { failed := fun _ _ =>
        ⟨(tornDown_of_ledger (Ledger.refl h) quiet).steady steady bus, rfl, rfl⟩
      ok := fun impossible => by cases impossible }
  unfold bringUp
  dsimp only
  split
  next e _ => exact untouched (Host.Steady.refl h) rfl e
  next good =>
    obtain ⟨h₁, steady, bus, ⟨e, refused⟩ | powered⟩ := powerUp_cases h { product, config }
    next =>
      rw [refused]
      exact untouched steady bus e
    rw [powered]
    have powered : ({ product, config } : Device).power.acquire.2 = ⟨1⟩ := rfl
    rw [powered]
    obtain ⟨r, standing, power, ok⟩ := bringUpParts_spec (h := h₁)
      (d := { product, config, power := ⟨1⟩ }) ((Ledger.refl h).steady steady)
      (by rwa [bus]) rfl (by rwa [steady.driver])
    dsimp only
    split
    next e h₂ d₂ failed =>
      rw [failed] at standing power
      -- However far it came, the device stands, and that is all that tearing it down needs.
      have gone := tornDown_tearDown standing
      obtain ⟨result, h₃, later, same, dark⟩ :=
        powerDown_cases (tearDown h₂ d₂).1 (tearDown h₂ d₂).2
      rw [dark]
      have users : (tearDown h₂ d₂).2.power = ⟨1⟩ := power
      exact
        { failed := fun _ _ => ⟨gone.steady later same, by rw [users]; rfl, rfl⟩
          ok := fun impossible => by cases impossible }
    next h₂ d₂ succeeded =>
      rw [succeeded] at ok
      obtain ⟨live, phase, length, unfed⟩ := ok rfl
      obtain ⟨result, h₃, later, same, dark⟩ := powerDown_cases h₂ d₂
      rw [dark]
      exact
        { failed := fun _ impossible => by cases impossible
          ok := fun _ =>
            ⟨⟨r, live.elsewhere later fun _ _ => by rw [same]⟩, phase,
              by rwa [← steady.driver], unfed⟩ }

theorem bringUp_ok {h : Host} {product : Product} {config : Config}
    (ok : (bringUp h product config).1 = .ok ()) :
    ∃ h₁ h₂ d, h.driver.properties.problem? = none ∧ h.Steady h₁ ∧ h₁.bus = h.bus ∧
      bringUpParts h₁ { product, config, power := ⟨1⟩ } = (.ok (), h₂, d) ∧
      (bringUp h product config).2 = (powerDown h₂ d).2 := by
  unfold bringUp at ok ⊢
  dsimp only at ok ⊢
  split at ok
  next => cases ok
  next good =>
    obtain ⟨h₁, steady, bus, ⟨e, refused⟩ | powered⟩ := powerUp_cases h { product, config }
    next =>
      rw [refused] at ok
      cases ok
    next =>
      have one : ({ product, config } : Device).power.acquire.2 = ⟨1⟩ := rfl
      rw [one] at powered
      rw [powered] at ok ⊢
      dsimp only at ok ⊢
      cases reached : bringUpParts h₁ { product, config, power := ⟨1⟩ } with
      | mk result after =>
        obtain ⟨h₂, d⟩ := after
        rw [reached] at ok
        cases result with
        | error e => cases ok
        | ok => exact ⟨h₁, h₂, d, good, steady, bus, reached, rfl⟩

theorem users_bringUp (h : Host) (product : Product) (config : Config)
    (quiet : ∀ n ∈ streamIds, ofStream n h.bus.queue = [])
    (ok : (bringUp h product config).1 = .ok ()) :
    (bringUp h product config).2.2.power.users = 0 := by
  obtain ⟨h₁, h₂, d, good, steady, bus, reached, result⟩ := bringUp_ok ok
  obtain ⟨r, -, power, -⟩ := bringUpParts_spec (h := h₁) (d := { product, config, power := ⟨1⟩ })
    ((Ledger.refl h).steady steady) (by rwa [bus]) rfl (by rwa [steady.driver])
  rw [reached] at power
  have power : d.power = ⟨1⟩ := power
  obtain ⟨told, h₃, -, -, dark⟩ := powerDown_cases h₂ d
  rw [result, dark, power]
  rfl

end Device

end DvbReceiver

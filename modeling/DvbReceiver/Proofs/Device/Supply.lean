import DvbReceiver.Proofs.Adapter.Log
import DvbReceiver.Proofs.Device.Discipline

set_option autoImplicit false

namespace DvbReceiver

def switchings : Hook → HookOutcome → Option (Bool × Bool)
  | .power on, outcome => some (on, outcome.toExcept.isOk)
  | _, _ => none

def Host.powered (h : Host) : Bool :=
  (h.log switchings).head? == some (true, true)

theorem Host.powered_of_log {h h' : Host} (same : h'.log switchings = h.log switchings) :
    h'.powered = h.powered := by
  rw [powered, same]
  rfl

theorem Host.switchings_perform (h : Host) (hook : Hook)
    (other : ∀ outcome, switchings hook outcome = none) :
    (h.perform hook).2.log switchings = h.log switchings :=
  log_perform_unseen switchings h other

theorem Host.powered_perform (h : Host) (hook : Hook)
    (other : ∀ outcome, switchings hook outcome = none) : (h.perform hook).2.powered = h.powered :=
  powered_of_log (switchings_perform h hook other)

namespace Adapter

theorem blind_switchings : Blind switchings where
  streaming _ _ _ := rfl
  control _ _ _ := rfl

theorem switchings_startFeed (h : Host) (a : Adapter) (feed : Feed) :
    (startFeed h a feed).2.1.log switchings = h.log switchings :=
  log_startFeed (fun _ _ _ _ _ => rfl) blind_switchings h a feed

theorem switchings_stopFeed (h : Host) (a : Adapter) (feed : Feed) :
    (stopFeed h a feed).2.1.log switchings = h.log switchings :=
  log_stopFeed (fun _ _ _ _ _ => rfl) blind_switchings h a feed

end Adapter

namespace Device

variable {h : Host} {d : Device} {i : Nat} {a a' : Adapter}

def active (d : Device) (adapter : Nat) : Option Nat :=
  (d.adapters[adapter]?).bind (·.feeds.active)

theorem active_some (there : d.adapters[i]? = some a) : d.active i = a.feeds.active := by
  simp [active, there]

theorem active_set (there : d.adapters[i]? = some a) :
    ({ d with adapters := d.adapters.set i a' } : Device).active =
      Function.update d.active i a'.feeds.active := by
  have within := (List.getElem?_eq_some_iff.1 there).1
  funext j
  unfold active
  by_cases here : i = j
  · subst here
    simp [within]
  · rw [List.getElem?_set_ne here, Function.update_of_ne (Ne.symm here)]

variable {α : Type} {view : Hook → HookOutcome → Option α}

/-- What is done about streams, feeds and the control of a frontend stays out of view. -/
structure Blind (view : Hook → HookOutcome → Option α) : Prop extends Adapter.Blind view where
  filter : ∀ adapter index pid on outcome, view (.pidFilter adapter index pid on) outcome = none
  frontend : ∀ adapter slot on outcome, view (.frontendControl adapter slot on) outcome = none

def Viewed (view : Hook → HookOutcome → Option α) (P : Host → Device → Prop) : Prop :=
  ∀ ⦃h h' : Host⦄ ⦃d d' : Device⦄, P h d → h'.log view = h.log view → d'.power = d.power →
    d'.active = d.active → P h' d'

namespace Viewed

variable {P : Host → Device → Prop} {h' h₀ : Host} {r : Nat → List UrbIdentity}

theorem set (viewed : Viewed view P) (holds : P h d) (there : d.adapters[i]? = some a)
    (log : h'.log view = h.log view) (active : a'.feeds.active = a.feeds.active) :
    P h' { d with adapters := d.adapters.set i a' } := by
  refine viewed holds log rfl ?_
  rw [active_set there, active, ← active_some there, Function.update_eq_self]

theorem startFeed (viewed : Viewed view P) (blind : Blind view) (live : Live h₀ h d.adapters r)
    (holds : P h d) (i : Nat) (feed : Feed) :
    P (startFeed h d i feed).2.1 (startFeed h d i feed).2.2 := by
  unfold Device.startFeed
  cases there : d.adapters[i]? with
  | none =>
    rw [onAdapter_missing h there]
    exact holds
  | some a =>
    have member := List.mem_of_getElem? there
    rw [onAdapter_some h there]
    exact viewed.set holds there (Adapter.log_startFeed blind.filter blind.toBlind h a feed)
      (Adapter.active_startFeed (live.sound a member) (live.ready a member) feed)

theorem stopFeed (viewed : Viewed view P) (blind : Blind view) (live : Live h₀ h d.adapters r)
    (holds : P h d) (i : Nat) (feed : Feed) :
    P (stopFeed h d i feed).2.1 (stopFeed h d i feed).2.2 := by
  unfold Device.stopFeed
  cases there : d.adapters[i]? with
  | none =>
    rw [onAdapter_missing h there]
    exact holds
  | some a =>
    have steered := live.steered a (List.mem_of_getElem? there)
    rw [onAdapter_some h there]
    exact viewed.set holds there (Adapter.log_stopFeed blind.filter blind.toBlind h a feed)
      (Adapter.active_stopFeed steered h feed)

theorem complete (viewed : Viewed view P) (live : Live h₀ h d.adapters r) (holds : P h d) {u : Urb}
    {queue : List Urb} (removed : Removed h.bus.queue u queue) (fill : Fill) :
    P (complete { h with bus := { h.bus with queue } } d (u.fill fill)).1
      (complete { h with bus := { h.bus with queue } } d (u.fill fill)).2 := by
  have key : (u.fill fill).key = u.key := u.key_fill fill
  unfold Device.complete
  rw [key]
  by_cases known : u.key.stream ∈ streamIds
  · obtain ⟨a, index, within, own⟩ := live.owner removed.mem known
    have sound := live.sound a (List.mem_of_getElem? index)
    have feeds := (Adapter.worked_complete sound within removed own fill).1.feeds
    rw [onAdapter_some _ index]
    exact viewed.set holds index (Adapter.hidden_complete view _ a _ _).log
      (congrArg Feeds.active feeds)
  · rw [onAdapter_missing _ (missing_of_unknown live known)]
    exact viewed holds rfl rfl rfl

end Viewed

def roused (d : Device) (i slot : Nat) (a : Adapter) : Device :=
  { d with
    power := ⟨d.power.users + 1⟩
    adapters := d.adapters.set i { a with feeds := { a.feeds with active := some slot } } }

theorem active_roused (there : d.adapters[i]? = some a) (slot : Nat) :
    (d.roused i slot a).active = Function.update d.active i (some slot) :=
  active_set (d := { d with power := ⟨d.power.users + 1⟩ }) there

theorem powered_power (h : Host) (on : Bool) :
    (h.perform (.power on)).2.powered = (on && (h.perform (.power on)).1.isOk) := by
  rw [Host.powered, Host.log_perform]
  show (some (on, (h.perform (.power on)).1.isOk) == some (true, true)) = _
  cases on <;> cases (h.perform (.power _)).1.isOk <;> rfl

theorem powerUp_supply (h : Host) (d : Device) :
    (∃ e h', powerUp h d = (.error e, h', d) ∧ d.power.users = 0) ∨
      ∃ h', powerUp h d = (.ok (), h', { d with power := ⟨d.power.users + 1⟩ }) ∧
        ((0 < d.power.users → h.powered = true) → h'.powered = true) := by
  unfold powerUp PowerRail.acquire
  by_cases idle : d.power.users = 0
  · have switched := powered_power h true
    rw [if_pos idle]
    dsimp only
    split
    next e h₁ refused =>
      refine .inl ⟨e, h₁, ?_, idle⟩
      have same : (⟨d.power.users + 1⟩ : PowerRail).release.2 = d.power := rfl
      rw [same]
    next h₁ granted =>
      rw [granted] at switched
      exact .inr ⟨h₁, rfl, fun _ => switched⟩
  · rw [if_neg idle]
    exact .inr ⟨h, rfl, fun powered => powered (Nat.pos_of_ne_zero idle)⟩

theorem powerDown_supply (h : Host) (d : Device) :
    ∃ result h', powerDown h d = (result, h', { d with power := ⟨d.power.users - 1⟩ }) ∧
      (1 < d.power.users → h' = h) := by
  rw [powerDown_eq]
  dsimp only
  split
  next last => exact ⟨_, _, rfl, fun more => absurd last (Nat.ne_of_gt more)⟩
  next => exact ⟨_, h, rfl, fun _ => rfl⟩

theorem wake_cases (blind : Blind view) (h : Host) (d : Device) (i slot : Nat) :
    (∃ (e : Failure) (h₁ : Host), powerUp h d = (.error e, h₁, d) ∧
      wake h d i slot = (.error e, h₁, d)) ∨
    ∃ (h₁ h₂ : Host), powerUp h d = (.ok (), h₁, { d with power := ⟨d.power.users + 1⟩ }) ∧
      h₂.log view = h₁.log view ∧
      ((∃ e : Failure, wake h d i slot =
          (.error e, (powerDown h₂ { d with power := ⟨d.power.users + 1⟩ }).2.1, d)) ∨
        ∃ a : Adapter, d.adapters[i]? = some a ∧ wake h d i slot =
          ((h₂.perform (.demodInit i slot)).1, (h₂.perform (.demodInit i slot)).2,
            d.roused i slot a)) := by
  -- Whatever the hook says, the user is off the power again.
  have back (h₂ : Host) : (powerDown h₂ { d with power := ⟨d.power.users + 1⟩ }).2.2 = d := by
    obtain ⟨result, h₃, down, -⟩ := powerDown_supply h₂ { d with power := ⟨d.power.users + 1⟩ }
    rw [down]
    rfl
  unfold wake
  obtain ⟨e, h₁, refused, -⟩ | ⟨h₁, granted, -⟩ := powerUp_supply h d
  next =>
    rw [refused]
    exact .inl ⟨e, h₁, rfl, rfl⟩
  next =>
    rw [granted]
    have controlled := Host.log_perform_unseen view h₁ (blind.frontend i slot true)
    dsimp only
    split
    next e h₂ failed =>
      rw [failed] at controlled
      exact .inr ⟨h₁, h₂, rfl, controlled, .inl ⟨e, congrArg (_, _, ·) (back h₂)⟩⟩
    next h₂ succeeded =>
      rw [succeeded] at controlled
      split
      next e busy =>
        have released := Host.log_perform_unseen view h₂ (blind.frontend i slot false)
        exact .inr ⟨h₁, _, rfl, released.trans controlled, .inl ⟨e, congrArg (_, _, ·) (back _)⟩⟩
      next d₂ selected =>
        obtain ⟨a, there, -, rfl⟩ := select_ok selected
        exact .inr ⟨h₁, h₂, rfl, controlled, .inr ⟨a, there, rfl⟩⟩

theorem sleep_cases (blind : Blind view) (h : Host) (d : Device) (i slot : Nat) :
    ∃ (h₁ : Host) (d₁ : Device), (sleep h d i slot).2 = (powerDown h₁ d₁).2 ∧
      h₁.log view = (h.perform (.demodSleep i slot)).2.log view ∧ d₁.power = d.power ∧
      d₁.active = Function.update d.active i ((d.active i).filter (· != slot)) := by
  let h₁ := (h.perform (.demodSleep i slot)).2
  have controlled := Host.log_perform_unseen view h₁ (blind.frontend i slot false)
  let h₂ := (h₁.perform (.frontendControl i slot false)).2
  let left := part i slot (h₂, d) .deselect
  have same : (sleep h d i slot).2 = (powerDown left.1 left.2).2 := sleep_eq_parts h d i slot
  suffices after : left.1.log view = h₂.log view ∧ left.2.power = d.power ∧
      left.2.active = Function.update d.active i ((d.active i).filter (· != slot)) from
    ⟨left.1, left.2, same, after.1.trans controlled, after.2⟩
  simp only [left, part]
  cases there : d.adapters[i]? with
  | none =>
    rw [onAdapter_missing h₂ there]
    refine ⟨rfl, rfl, (Function.update_eq_self_iff.2 ?_).symm⟩
    simp [active, there]
  | some a =>
    rw [onAdapter_some h₂ there]
    refine ⟨(Adapter.hidden_deselect blind.toBlind h₂ a slot).log, rfl, ?_⟩
    rw [active_set there, Adapter.active_deselect, Adapter.active_asleep, active_some there]

theorem blind_switchings : Blind switchings where
  toBlind := Adapter.blind_switchings
  filter _ _ _ _ _ := rfl
  frontend _ _ _ _ := rfl

theorem wake_supply (powered : 0 < d.power.users → h.powered = true) (i slot : Nat) :
    ∃ h', (wake h d i slot).2 = (h', d) ∧ (0 < d.power.users → h'.powered = true) ∨
      ∃ a, d.adapters[i]? = some a ∧ h'.powered = true ∧
        (wake h d i slot).2 = (h', d.roused i slot a) := by
  have up := powerUp_supply h d
  obtain ⟨e, h₁, refused, same⟩ | ⟨h₁, h₂, granted, quiet, outcome⟩ :=
    wake_cases blind_switchings h d i slot
  next =>
    rw [refused] at up
    obtain ⟨_, _, _, idle⟩ | ⟨_, other, _⟩ := up
    next => exact ⟨h₁, .inl ⟨congrArg (·.2) same, fun used => by omega⟩⟩
    next => cases other
  next =>
    rw [granted] at up
    obtain ⟨_, _, other, _⟩ | ⟨h', other, lit⟩ := up
    next => cases other
    next =>
      cases other
      have lit := (Host.powered_of_log quiet).trans (lit powered)
      obtain ⟨e, same⟩ | ⟨a, there, same⟩ := outcome
      next =>
        obtain ⟨result, h₃, down, dark⟩ :=
          powerDown_supply h₂ { d with power := ⟨d.power.users + 1⟩ }
        rw [down] at same
        refine ⟨h₃, .inl ⟨congrArg (·.2) same, fun used => ?_⟩⟩
        -- The power is not switched off while others use it.
        have still : h₃ = h₂ := dark (Nat.succ_lt_succ used)
        rw [still, lit]
      next =>
        have woken := Host.powered_perform h₂ (.demodInit i slot) fun _ => rfl
        exact ⟨_, .inr ⟨a, there, woken.trans lit, congrArg (·.2) same⟩⟩

/-- The frontends in `holders` are those that keep the device powered. Any that is awake is one of
them. -/
structure Supplied (h : Host) (d : Device) (holders : List (Nat × Nat)) : Prop where
  users : d.power.users = holders.length
  holding : ∀ i slot, d.active i = some slot → (i, slot) ∈ holders
  powered : 0 < d.power.users → h.powered = true

variable {h' : Host} {r : Nat → List UrbIdentity} {h₀ : Host} {holders : List (Nat × Nat)}
  {slot : Nat}

namespace Supplied

theorem viewed (holders : List (Nat × Nat)) : Viewed switchings (Supplied · · holders) := by
  intro h h' d d' supplied log power active
  exact
    { users := by rw [power, supplied.users]
      holding := by
        rw [active]
        exact supplied.holding
      powered := by
        rw [power, Host.powered_of_log log]
        exact supplied.powered }

theorem wake (supplied : Supplied h d holders) (i slot : Nat) :
    let after := (wake h d i slot).2
    (after.2.power.users = d.power.users ∧ Supplied after.1 after.2 holders) ∨
      (after.2.power.users = d.power.users + 1 ∧
        Supplied after.1 after.2 ((i, slot) :: holders)) := by
  intro after
  obtain ⟨h', ⟨same, powered⟩ | ⟨a, there, powered, same⟩⟩ := wake_supply supplied.powered i slot
  next =>
    have same : after = (h', d) := same
    rw [same]
    exact .inl ⟨rfl, { supplied with powered }⟩
  next =>
    have same : after = (h', d.roused i slot a) := same
    rw [same]
    refine .inr ⟨rfl, ?_⟩
    exact
      { users := congrArg (· + 1) supplied.users
        holding := fun j other awake => by
          rw [active_roused there] at awake
          by_cases here : j = i
          · subst here
            rw [Function.update_self] at awake
            cases awake
            exact List.mem_cons_self
          · rw [Function.update_of_ne here] at awake
            exact List.mem_cons_of_mem _ (supplied.holding j other awake)
        powered := fun _ => powered }

theorem sleep (supplied : Supplied h d holders) (holds : (i, slot) ∈ holders) :
    let after := (sleep h d i slot).2
    after.2.power.users + 1 = d.power.users ∧
      Supplied after.1 after.2 (holders.erase (i, slot)) := by
  intro after
  obtain ⟨h₁, d₁, same, quiet, power, others⟩ := sleep_cases blind_switchings h d i slot
  obtain ⟨result, h₂, down, dark⟩ := powerDown_supply h₁ d₁
  have reached : after = (h₂, { d₁ with power := ⟨d.power.users - 1⟩ }) := by
    rw [← power]
    exact same.trans (congrArg (·.2) down)
  have positive : 0 < d.power.users := by
    rw [supplied.users]
    exact List.length_pos_of_mem holds
  rw [reached]
  refine ⟨Nat.sub_add_cancel positive, ?_⟩
  exact
    { users := by
        rw [List.length_erase_of_mem holds, ← supplied.users]
      holding := fun j other awake => by
        have awake : d₁.active j = some other := awake
        rw [others] at awake
        by_cases here : j = i
        · subst here
          rw [Function.update_self] at awake
          obtain ⟨before, kept⟩ := Option.filter_eq_some_iff.1 awake
          have different : (j, other) ≠ (j, slot) := fun same => by
            cases same
            simp at kept
          exact (List.mem_erase_of_ne different).2 (supplied.holding j other before)
        · rw [Function.update_of_ne here] at awake
          have different : (j, other) ≠ (i, slot) := fun same => here (Prod.ext_iff.1 same).1
          exact (List.mem_erase_of_ne different).2 (supplied.holding j other awake)
      powered := fun used => by
        have used : 0 < d.power.users - 1 := used
        -- Somebody is left, so that nothing was switched.
        have still : h₂ = h₁ := dark (by
          rw [power]
          omega)
        have slept := Host.powered_perform h (.demodSleep i slot) fun _ => rfl
        rw [still, Host.powered_of_log quiet, slept]
        exact supplied.powered positive }

end Supplied

end Device

namespace Session

open Device (Supplied)

variable {h₀ : Host} {size : Nat} {r : Nat → List UrbIdentity} {s : Session}

/-- Whole operations only, and a frontend sleeps only while it is one of the holders: those that
woke up with one user more on the power, and have not let go of it since. -/
def paired : Discipline (List (Nat × Nat)) where
  record s holders
    | .wake i slot =>
      if s.device.power.users < (s.act (.wake i slot)).device.power.users then (i, slot) :: holders
      else holders
    | .sleep i slot =>
      if (s.act (.sleep i slot)).device.power.users < s.device.power.users then
        holders.erase (i, slot)
      else holders
    | _ => holders
  allows holders
    | .sleep i slot => holders.contains (i, slot)
    | .part .. => false
    | _ => true

theorem supplied_act (sound : Sound h₀ size r s) {holders : List (Nat × Nat)}
    (supplied : Supplied s.host s.device holders) (step : Act)
    (allowed : paired.allows holders step = true) :
    Supplied (s.act step).host (s.act step).device (paired.record s holders step) := by
  cases step with
  | startFeed i feed =>
    exact (Supplied.viewed holders).startFeed Device.blind_switchings sound.live supplied i feed
  | stopFeed i feed =>
    exact (Supplied.viewed holders).stopFeed Device.blind_switchings sound.live supplied i feed
  | wake i slot =>
    simp only [paired, act, onFrontend]
    split
    next =>
      obtain ⟨users, same⟩ | ⟨users, more⟩ := supplied.wake i slot
      next =>
        rw [if_neg (by rw [users]; exact Nat.lt_irrefl _)]
        exact same
      next =>
        rw [if_pos (by rw [users]; exact Nat.lt_succ_self _)]
        exact more
    next =>
      rw [if_neg (Nat.lt_irrefl _)]
      exact supplied
  | sleep i slot =>
    have holds : (i, slot) ∈ holders := List.contains_iff_mem.1 allowed
    simp only [paired, act, onFrontend]
    split
    next =>
      obtain ⟨users, less⟩ := supplied.sleep holds
      rw [if_pos (by rw [← users]; exact Nat.lt_succ_self _)]
      exact less
    next =>
      rw [if_neg (Nat.lt_irrefl _)]
      exact supplied
  | part i slot step => cases allowed
  | complete position fill =>
    simp only [act]
    split
    next => exact supplied
    next u there =>
      exact (Supplied.viewed holders).complete sound.live supplied (removed_eraseIdx there) fill

/-- As long as nobody lets go of power that is not their own, no adapter streams without it. -/
theorem supplied_run (h : Host) (product : Product) (config : Config)
    (unused : ∀ u ∈ h.bus.queue, u.key.stream ∉ streamIds)
    (ok : (Device.bringUp h product config).1 = .ok ()) (acts : List Act)
    (kept : paired.keeps (begin (Device.bringUp h product config)) [] acts = true) :
    let s := run (begin (Device.bringUp h product config)) acts
    ∀ (i : Nat) (a : Adapter) (slot : Nat), s.device.adapters[i]? = some a →
      a.feeds.streaming = some slot → 0 < s.device.power.users ∧ s.host.powered = true := by
  intro s i a slot there busy
  have quiet (n : Nat) : n ∈ streamIds → ofStream n h.bus.queue = [] :=
    ofStream_nil_of_unused unused
  have settled := Device.settled_bringUp h product config quiet
  obtain ⟨r, fresh⟩ := sound_begin settled ok
  have users := Device.users_bringUp h product config quiet ok
  have dark : Supplied (Device.bringUp h product config).2.1
      (Device.bringUp h product config).2.2 [] :=
    { users
      holding := fun i slot awake => by
        obtain ⟨-, -, -, unfed⟩ := settled.ok ok
        obtain ⟨a, there, active⟩ := Option.bind_eq_some_iff.1 awake
        rw [unfed a (List.mem_of_getElem? there)] at active
        cases active
      powered := fun used => by omega }
  have supplied := Discipline.run paired (fun s holders => Supplied s.host s.device holders)
    (fun _ _ step sound supplied allowed => supplied_act sound supplied step allowed)
    fresh dark acts kept
  have steered := (sound_run fresh acts).live.steered a (List.mem_of_getElem? there)
  -- Whoever streams is awake, and so is one of the holders.
  have awake : s.device.active i = some slot :=
    (Device.active_some there).trans (steered.active slot busy).1
  have holders := supplied.holding i slot awake
  have used : 0 < s.device.power.users := by
    rw [supplied.users]
    exact List.length_pos_of_mem holders
  exact ⟨used, supplied.powered used⟩

theorem supplied_run_bench :
    (∀ u ∈ benchHost.bus.queue, u.key.stream ∉ streamIds) ∧
      (Device.bringUp benchHost ⟨"receiver", [], []⟩ {}).1 = .ok () ∧
      let acts : List Act := [.wake 0 0, .startFeed 0 ⟨0x100, 0⟩, .complete 0 (.result .ok 4),
        .wake 0 1, .wake 0 0, .sleep 0 0, .startFeed 0 ⟨0x101, 1⟩, .wake 0 0,
        .startFeed 0 ⟨0x101, 1⟩]
      paired.keeps (begin (Device.bringUp benchHost ⟨"receiver", [], []⟩ {})) [] acts = true ∧
      let s := run (begin (Device.bringUp benchHost ⟨"receiver", [], []⟩ {})) acts
      s.device.adapters.map (·.feeds.streaming) = [some 0] ∧
        ∀ (i : Nat) (a : Adapter) (slot : Nat), s.device.adapters[i]? = some a →
          a.feeds.streaming = some slot → 0 < s.device.power.users ∧ s.host.powered = true := by
  have unused : ∀ u ∈ benchHost.bus.queue, u.key.stream ∉ streamIds := by
    simp [benchHost, Bench.newBus]
  have ok : (Device.bringUp benchHost ⟨"receiver", [], []⟩ {}).1 = .ok () := by rfl
  have kept : paired.keeps (begin (Device.bringUp benchHost ⟨"receiver", [], []⟩ {})) []
      [.wake 0 0, .startFeed 0 ⟨0x100, 0⟩, .complete 0 (.result .ok 4), .wake 0 1, .wake 0 0,
        .sleep 0 0, .startFeed 0 ⟨0x101, 1⟩, .wake 0 0, .startFeed 0 ⟨0x101, 1⟩] = true := by rfl
  exact ⟨unused, ok, kept, rfl, supplied_run _ _ _ unused ok _ kept⟩

/-- A frontend that never woke up can take the power away from another that streams. -/
theorem unsupplied_bench :
    let s := run (begin (Device.bringUp benchHost ⟨"receiver", [], []⟩ {}))
      [.wake 0 0, .startFeed 0 ⟨0x100, 0⟩, .sleep 0 1]
    s.device.adapters.map (·.feeds.streaming) = [some 0] ∧ s.device.power.users = 0 ∧
      s.host.powered = false :=
  ⟨rfl, rfl, rfl⟩

end Session

end DvbReceiver

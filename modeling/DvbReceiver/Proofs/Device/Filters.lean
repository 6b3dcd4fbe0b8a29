import DvbReceiver.Proofs.Adapter.Log
import DvbReceiver.Proofs.Device.Discipline

set_option autoImplicit false

namespace DvbReceiver

def entries (adapter : Nat) : Hook → HookOutcome → Option (Feed × Bool)
  | .pidFilter other index pid on, _ => if other = adapter then some (⟨pid, index⟩, on) else none
  | _, _ => none

namespace Adapter

variable {h : Host} {a : Adapter} {r : Nat → List UrbIdentity} {i : Nat}

theorem blind_entries (i : Nat) : Blind (entries i) where
  streaming _ _ _ := rfl
  control _ _ _ := rfl

def outline (a : Adapter) :
    Option (List Nat) × Nat × List (SlotProperties × Filtering × Option Frontend) :=
  (a.filters, a.feeds.count, a.slots.map Slot.plan)

theorem outline_eq {a' : Adapter} (filters : a'.filters = a.filters)
    (count : a'.feeds.count = a.feeds.count)
    (plan : a'.slots.map Slot.plan = a.slots.map Slot.plan) : a'.outline = a.outline := by
  rw [outline, filters, count, plan]
  rfl

theorem demux_attachFrontends (i2c : Option String) (count slot : Nat) (h : Host) (a : Adapter) :
    (attachFrontends i2c count slot h a).2.2.demux = a.demux := by
  induction count generalizing slot h a with
  | zero => rfl
  | succ count ih =>
    unfold attachFrontends
    split
    next => rfl
    next => exact ih (slot + 1) _ a
    next =>
      split
      next => rfl
      next => exact ih (slot + 1) _ _

theorem demux_bringUp {name : String} {i2c : Option String}
    (ok : (a.bringUp h name i2c).1 = .ok ()) :
    ∃ depth, (a.bringUp h name i2c).2.2.demux = some (Demux.new depth) := by
  unfold bringUp at ok ⊢
  split at ok
  next => cases ok
  next =>
    split at ok
    next => cases ok
    next =>
      dsimp only at ok ⊢
      split at ok
      next => cases ok
      next =>
        split at ok
        next => cases ok
        next =>
          rw [demux_attachFrontends]
          exact ⟨_, rfl⟩

end Adapter

namespace Device

variable {h₀ h h' : Host} {d d' : Device} {r : Nat → List UrbIdentity} {i j : Nat} {a a' : Adapter}

theorem demux_bringUpAdapters (id : Nat) (rest : List (List SlotProperties))
    (before : ∀ a ∈ d.adapters, ∃ depth, a.demux = some (Demux.new depth))
    (ok : (bringUpAdapters id rest h d).1 = .ok ()) :
    ∀ a ∈ (bringUpAdapters id rest h d).2.2.adapters, ∃ depth,
      a.demux = some (Demux.new depth) := by
  induction rest generalizing id h d with
  | nil => exact before
  | cons props rest ih =>
    have reached (ok : ((Adapter.new id props h.bus.speed d.config.forceFilter).bringUp h
        d.product.name d.i2c).1 = .ok ()) := Adapter.demux_bringUp ok
    unfold bringUpAdapters at ok ⊢
    dsimp only at ok ⊢
    split at ok
    next => cases ok
    next outcome =>
      refine ih (id + 1) (fun a there => ?_) ok
      obtain earlier | last := List.mem_append.1 there
      next => exact before a earlier
      next =>
        obtain rfl := List.mem_singleton.1 last
        exact reached outcome

theorem demux_bringUp {product : Product} {config : Config}
    (ok : (bringUp h product config).1 = .ok ()) :
    ∀ a ∈ (bringUp h product config).2.2.adapters, ∃ depth, a.demux = some (Demux.new depth) := by
  obtain ⟨h₁, h₂, d, -, -, -, reached, result⟩ := bringUp_ok ok
  obtain ⟨told, h₃, -, -, dark⟩ := powerDown_cases h₂ d
  rw [result, dark]
  unfold bringUpParts at reached
  dsimp only at reached
  let i2c := if h₁.driver.hasI2c then some (product.name ++ " i2c") else none
  let d₁ : Device := { product, config, power := ⟨1⟩, phase := .i2cReady, i2c }
  have whole := demux_bringUpAdapters (h := h₁) (d := d₁) 0 h₁.driver.properties.adapters
    fun _ impossible => by cases impossible
  split at reached
  next => cases reached
  next outcome =>
    rw [outcome] at whole
    cases reached
    exact whole rfl

theorem filters_bringUp {product : Product} {config : Config}
    (ok : (bringUp h product config).1 = .ok ()) :
    ∀ a ∈ (bringUp h product config).2.2.adapters, a.filters = some [] := by
  intro a there
  obtain ⟨depth, fresh⟩ := demux_bringUp ok a there
  rw [Adapter.filters, fresh]
  rfl

def outline (d : Device) (adapter : Nat) :
    Option (Option (List Nat) × Nat × List (SlotProperties × Filtering × Option Frontend)) :=
  (d.adapters[adapter]?).map (·.outline)

theorem outline_some (there : d.adapters[i]? = some a) : d.outline i = some a.outline := by
  simp [outline, there]

theorem outline_set (there : d.adapters[i]? = some a) :
    ({ d with adapters := d.adapters.set i a' } : Device).outline =
      Function.update d.outline i (some a'.outline) := by
  have within := (List.getElem?_eq_some_iff.1 there).1
  funext j
  unfold outline
  by_cases here : i = j
  · subst here
    simp [within]
  · rw [List.getElem?_set_ne here, Function.update_of_ne (Ne.symm here)]

structure Still (i : Nat) (h : Host) (d : Device) (h' : Host) (d' : Device) : Prop where
  log : h'.log (entries i) = h.log (entries i)
  outline : d'.outline i = d.outline i

namespace Still

theorem refl (i : Nat) (h : Host) (d : Device) : Still i h d h d :=
  ⟨rfl, rfl⟩

theorem trans {h'' : Host} {d'' : Device} (first : Still i h d h' d')
    (second : Still i h' d' h'' d'') : Still i h d h'' d'' :=
  ⟨second.log.trans first.log, second.outline.trans first.outline⟩

theorem perform (h : Host) (d : Device) (hook : Hook)
    (unseen : ∀ outcome, entries i hook outcome = none) : Still i h d (h.perform hook).2 d :=
  ⟨Host.log_perform_unseen (entries i) h unseen, rfl⟩

theorem set (there : d.adapters[j]? = some a) (outline : a'.outline = a.outline)
    (log : h'.log (entries i) = h.log (entries i)) :
    Still i h d h' { d with adapters := d.adapters.set j a' } where
  log := log
  outline := by
    rw [outline_set there, outline, ← outline_some there, Function.update_eq_self]

theorem other (there : d.adapters[j]? = some a) (different : i ≠ j)
    (log : h'.log (entries i) = h.log (entries i)) :
    Still i h d h' { d with adapters := d.adapters.set j a' } where
  log := log
  outline := by rw [outline_set there, Function.update_of_ne different]

theorem powerUp (i : Nat) (h : Host) (d : Device) :
    Still i h d (powerUp h d).2.1 (powerUp h d).2.2 := by
  unfold Device.powerUp
  split
  next => exact ⟨rfl, rfl⟩
  next =>
    have asked := perform (i := i) h d (.power true) fun _ => rfl
    split
    next outcome =>
      rw [outcome] at asked
      exact ⟨asked.log, rfl⟩
    next outcome =>
      rw [outcome] at asked
      exact ⟨asked.log, rfl⟩

theorem powerDown (i : Nat) (h : Host) (d : Device) :
    Still i h d (powerDown h d).2.1 (powerDown h d).2.2 := by
  unfold Device.powerDown
  split
  next => exact ⟨rfl, rfl⟩
  next =>
    have asked := perform (i := i) h d (.power false) fun _ => rfl
    exact ⟨asked.log, rfl⟩

theorem deselect (live : Live h₀ h d.adapters r) (i adapter slot : Nat) :
    Still i h d (onAdapter h d adapter () fun h a => ((), a.deselect h slot)).2.1
      (onAdapter h d adapter () fun h a => ((), a.deselect h slot)).2.2 := by
  cases there : d.adapters[adapter]? with
  | none =>
    rw [onAdapter_missing h there]
    exact refl i h d
  | some a =>
    have member := List.mem_of_getElem? there
    obtain ⟨moved, -, count⟩ :=
      Adapter.deselect_spec (live.sound a member) (live.steered a member) slot
    have hidden := Adapter.hidden_deselect (Adapter.blind_entries i) h a slot
    rw [onAdapter_some h there]
    exact set there (Adapter.outline_eq hidden.filters count moved.plan) hidden.log

theorem part (live : Live h₀ h d.adapters r) (i adapter slot : Nat) (step : Part) :
    Still i h d (part adapter slot (h, d) step).1 (part adapter slot (h, d) step).2 := by
  cases step with
  | powerUp => exact powerUp i h d
  | powerDown => exact powerDown i h d
  | control on => exact perform h d _ fun _ => rfl
  | demodInit => exact perform h d _ fun _ => rfl
  | demodSleep => exact perform h d _ fun _ => rfl
  | select =>
    simp only [Device.part]
    split
    next => exact refl i h d
    next selected =>
      obtain ⟨a, there, -, rfl⟩ := select_ok selected
      exact set there rfl rfl
  | deselect => exact deselect live i adapter slot

theorem parts (live : Live h₀ h d.adapters r) {adapter slot : Nat}
    (known : d.hasFrontend adapter slot = true) (i : Nat) (steps : List Part) :
    Still i h d (parts adapter slot (h, d) steps).1 (parts adapter slot (h, d) steps).2 := by
  induction steps generalizing h d with
  | nil => exact refl i h d
  | cons step rest ih =>
    have first := tended_part live known step
    have later := ih first.live ((first.frontends adapter slot).trans known)
    exact (part live i adapter slot step).trans later

theorem complete (live : Live h₀ h d.adapters r) (i : Nat) {u : Urb} {queue : List Urb}
    (removed : Removed h.bus.queue u queue) (fill : Fill) :
    Still i h d (complete { h with bus := { h.bus with queue } } d (u.fill fill)).1
      (complete { h with bus := { h.bus with queue } } d (u.fill fill)).2 := by
  have key : (u.fill fill).key = u.key := u.key_fill fill
  unfold Device.complete
  rw [key]
  by_cases known : u.key.stream ∈ streamIds
  · obtain ⟨a, index, within, own⟩ := live.owner removed.mem known
    have sound := live.sound a (List.mem_of_getElem? index)
    have worked := (Adapter.worked_complete sound within removed own fill).1
    have hidden := Adapter.hidden_complete (entries i) { h with bus := { h.bus with queue } } a
      (u.key.stream % maxFrontends) (u.fill fill)
    rw [onAdapter_some _ index]
    exact set index
      (Adapter.outline_eq hidden.filters (congrArg Feeds.count worked.feeds) worked.plan) hidden.log
  · rw [onAdapter_missing _ (missing_of_unknown live known)]
    exact ⟨rfl, rfl⟩

theorem startFeed_error (live : Live h₀ h d.adapters r) (i : Nat) {j : Nat} {feed : Feed}
    {e : Failure} (failed : (startFeed h d j feed).1 = .error e) :
    Still i h d (startFeed h d j feed).2.1 (startFeed h d j feed).2.2 := by
  unfold Device.startFeed at failed ⊢
  cases there : d.adapters[j]? with
  | none =>
    rw [onAdapter_missing h there]
    exact refl i h d
  | some a =>
    have member := List.mem_of_getElem? there
    rw [onAdapter_some h there] at failed ⊢
    have failed : (a.startFeed h feed).1 = .error e := failed
    obtain ⟨moved, -, count⟩ := Adapter.startFeed_spec (live.sound a member) (live.ready a member)
      (live.steered a member) feed
    have hidden := Adapter.hidden_startFeed (Adapter.blind_entries i) failed
    rw [failed] at count
    exact set there (Adapter.outline_eq hidden.filters count moved.plan) hidden.log

theorem startFeed_other (live : Live h₀ h d.adapters r) {j : Nat} (different : i ≠ j)
    (feed : Feed) : Still i h d (startFeed h d j feed).2.1 (startFeed h d j feed).2.2 := by
  cases outcome : (Device.startFeed h d j feed).1 with
  | error e => exact startFeed_error live i outcome
  | ok =>
    unfold Device.startFeed at outcome ⊢
    cases there : d.adapters[j]? with
    | none =>
      rw [onAdapter_missing h there]
      exact refl i h d
    | some a =>
      have member := List.mem_of_getElem? there
      have number := live.ids j a there
      rw [onAdapter_some h there] at outcome ⊢
      obtain ⟨s, -, log, -⟩ := Adapter.shown_startFeed (Adapter.blind_entries i)
        (live.sound a member) (live.ready a member) none
        (fun _ => if_neg (by rw [number]; exact Ne.symm different)) outcome
      exact other there different (by simpa using log)

theorem stopFeed_other (live : Live h₀ h d.adapters r) {j : Nat} (different : i ≠ j) (feed : Feed) :
    Still i h d (stopFeed h d j feed).2.1 (stopFeed h d j feed).2.2 := by
  unfold Device.stopFeed
  cases there : d.adapters[j]? with
  | none =>
    rw [onAdapter_missing h there]
    exact refl i h d
  | some a =>
    have steered := live.steered a (List.mem_of_getElem? there)
    have number := live.ids j a there
    rw [onAdapter_some h there]
    refine other there different ?_
    obtain unfed | fed := Nat.eq_zero_or_pos a.feeds.count
    next =>
      have unchanged : a.stopFeed h feed = (.ok (), h, a) := if_pos unfed
      rw [unchanged]
    next =>
      have log := (Adapter.shown_stopFeed (Adapter.blind_entries i) steered fed h feed none
        fun _ => if_neg (by rw [number]; exact Ne.symm different)).1
      simpa using log

end Still

theorem startFeed_ok (live : Live h₀ h d.adapters r) {feed : Feed}
    (ok : (startFeed h d i feed).1 = .ok ()) :
    ∃ a, d.adapters[i]? = some a ∧
      (startFeed h d i feed).2.2.outline i = some (a.filters.map (Increasing.insert feed.pid),
        a.feeds.count + 1, a.slots.map Slot.plan) ∧
      ∃ s ∈ a.slots, (startFeed h d i feed).2.1.log (entries i) =
        (if s.filtering.isHardware then [(feed, true)] else []) ++ h.log (entries i) := by
  unfold startFeed at ok ⊢
  cases there : d.adapters[i]? with
  | none =>
    rw [onAdapter_missing h there] at ok
    cases ok
  | some a =>
    have member := List.mem_of_getElem? there
    have number := live.ids i a there
    rw [onAdapter_some h there] at ok ⊢
    have ok : (a.startFeed h feed).1 = .ok () := ok
    obtain ⟨moved, -, count⟩ := Adapter.startFeed_spec (live.sound a member) (live.ready a member)
      (live.steered a member) feed
    -- Of what is done to an adapter only the entry comes into view here.
    obtain ⟨s, present, log, filters⟩ := Adapter.shown_startFeed
      (Adapter.blind_entries i) (live.sound a member) (live.ready a member) (some (feed, true))
      (fun _ => if_pos number) ok
    refine ⟨a, rfl, ?_, s, present, log⟩
    dsimp only
    rw [ok] at count
    rw [outline_set there, Function.update_self, Adapter.outline, filters, count, moved.plan]
    rfl

theorem stopFeed_fed (live : Live h₀ h d.adapters r) (there : d.adapters[i]? = some a)
    (fed : 0 < a.feeds.count) (feed : Feed) :
    (stopFeed h d i feed).2.2.outline i = some (a.filters.map (·.filter (· != feed.pid)),
        a.feeds.count - 1, a.slots.map Slot.plan) ∧
      (stopFeed h d i feed).2.1.log (entries i) =
        (if a.feeds.streaming.any fun slot => (a.slots[slot]?).any (·.filtering.isHardware) then
          [(feed, false)] else []) ++ h.log (entries i) := by
  have member := List.mem_of_getElem? there
  have number := live.ids i a there
  have steered := live.steered a member
  obtain ⟨moved, -, count⟩ := Adapter.stopFeed_spec (live.sound a member) steered feed
  obtain ⟨log, filters⟩ := Adapter.shown_stopFeed (Adapter.blind_entries i) steered fed h feed
    (some (feed, false)) fun _ => if_pos number
  unfold stopFeed
  rw [onAdapter_some h there]
  refine ⟨?_, log⟩
  dsimp only
  rw [outline_set there, Function.update_self, Adapter.outline, filters, count, moved.plan]

end Device

namespace Session

open Device (Still)

variable {h₀ : Host} {size : Nat} {r : Nat → List UrbIdentity} {s : Session} {i : Nat}
  {before : List (Feed × Bool)} {plan : List (SlotProperties × Filtering × Option Frontend)}

/-- What is known of the feeds of an adapter from the calls that start and stop them. -/
structure Book where
  outstanding : List Feed := []
  /-- The PIDs of which a feed was stopped and none has been started since. -/
  cut : List Nat := []
  /-- Those that were stopped while the adapter did not stream, and not started since. -/
  missed : List Feed := []

def matched (i : Nat) : Discipline Book where
  record s book
    | .startFeed j feed =>
      if j = i ∧ (s.device.startFeed s.host j feed).1.isOk then
        { outstanding := feed :: book.outstanding
          cut := book.cut.filter (· != feed.pid)
          missed := book.missed.filter (· != feed) }
      else book
    | .stopFeed j feed =>
      if j = i then
        { outstanding := book.outstanding.erase feed
          cut := feed.pid :: book.cut
          missed := if s.device.streams i then book.missed else feed :: book.missed }
      else book
    | _ => book
  allows book
    | .stopFeed j feed => j != i || book.outstanding.contains feed
    | _ => true

/-- An adapter whose slots are to `plan` agrees with the book that is kept of it. -/
structure Booked (i : Nat) (before : List (Feed × Bool))
    (plan : List (SlotProperties × Filtering × Option Frontend)) (s : Session) (book : Book) :
    Prop where
  filters : ∃ pids, s.device.outline i = some (some pids, book.outstanding.length, plan) ∧
    ∀ pid, pid ∈ pids ↔ (∃ feed ∈ book.outstanding, feed.pid = pid) ∧ pid ∉ book.cut
  table : (∀ slot ∈ plan, slot.2.1.isHardware = true) →
    ∃ calls, s.host.log (entries i) = calls ++ before ∧
      ∀ feed, calls.lookup feed = some true → feed ∈ book.outstanding ∨ feed ∈ book.missed

theorem Booked.still {s' : Session} {book : Book} (booked : Booked i before plan s book)
    (still : Still i s.host s.device s'.host s'.device) : Booked i before plan s' book where
  filters := by
    rw [still.outline]
    exact booked.filters
  table := by
    rw [still.log]
    exact booked.table

theorem Booked.adapter {book : Book} (booked : Booked i before plan s book) :
    ∃ a pids, s.device.adapters[i]? = some a ∧ a.filters = some pids ∧
      a.feeds.count = book.outstanding.length ∧ a.slots.map Slot.plan = plan ∧
      ∀ pid, pid ∈ pids ↔ (∃ feed ∈ book.outstanding, feed.pid = pid) ∧ pid ∉ book.cut := by
  obtain ⟨pids, outline, kept⟩ := booked.filters
  obtain ⟨a, there, same⟩ := Option.map_eq_some_iff.1 outline
  simp only [Adapter.outline, Prod.mk.injEq] at same
  exact ⟨a, pids, there, same.1, same.2.1, same.2.2, kept⟩

theorem cleared {a : Adapter} (steered : a.Steered)
    (hardware : ∀ slot ∈ a.slots, slot.filtering.isHardware = true) :
    (a.feeds.streaming.any fun slot => (a.slots[slot]?).any (·.filtering.isHardware)) =
      a.feeds.streaming.isSome := by
  cases busy : a.feeds.streaming with
  | none => rfl
  | some slot =>
    have within := steered.within busy
    have there : a.slots[slot]? = some a.slots[slot] := List.getElem?_eq_getElem within
    simp [there, hardware]

theorem Booked.startFeed (sound : Sound h₀ size r s) {book : Book}
    (booked : Booked i before plan s book) {feed : Feed}
    (ok : (s.device.startFeed s.host i feed).1 = .ok ()) :
    Booked i before plan (s.act (.startFeed i feed))
      { outstanding := feed :: book.outstanding
        cut := book.cut.filter (· != feed.pid)
        missed := book.missed.filter (· != feed) } := by
  obtain ⟨a, there, outline, slot, present, log⟩ := Device.startFeed_ok sound.live ok
  obtain ⟨a', pids, same, filters, count, slots, kept⟩ := booked.adapter
  obtain rfl : a = a' := Option.some.inj (there.symm.trans same)
  refine ⟨⟨Increasing.insert feed.pid pids, ?_, fun pid => ?_⟩, fun hardware => ?_⟩
  · rw [filters, count, slots] at outline
    exact outline
  · rw [Increasing.mem_insert, kept]
    by_cases here : pid = feed.pid
    · simp [here]
    · simp [here, Ne.symm here]
  · obtain ⟨calls, before, left⟩ := booked.table hardware
    have filtering : slot.filtering.isHardware = true :=
      hardware slot.plan (slots ▸ List.mem_map_of_mem present)
    rw [if_pos filtering, before] at log
    refine ⟨(feed, true) :: calls, log, fun other on => ?_⟩
    by_cases here : other = feed
    · exact .inl (here ▸ List.mem_cons_self)
    · have earlier : calls.lookup other = some true := by
        rwa [List.lookup_cons, beq_false_of_ne here] at on
      exact (left other earlier).imp (List.mem_cons_of_mem feed) fun missed =>
        List.mem_filter.2 ⟨missed, by simpa using here⟩

theorem Booked.stopFeed (sound : Sound h₀ size r s) {book : Book}
    (booked : Booked i before plan s book) {feed : Feed} (known : feed ∈ book.outstanding) :
    Booked i before plan (s.act (.stopFeed i feed))
      { outstanding := book.outstanding.erase feed
        cut := feed.pid :: book.cut
        missed := if s.device.streams i then book.missed else feed :: book.missed } := by
  obtain ⟨a, pids, there, filters, count, slots, kept⟩ := booked.adapter
  have fed : 0 < a.feeds.count := by
    rw [count]
    exact List.length_pos_of_mem known
  obtain ⟨outline, log⟩ := Device.stopFeed_fed sound.live there fed feed
  refine ⟨⟨pids.filter (· != feed.pid), ?_, fun pid => ?_⟩, fun hardware => ?_⟩
  · rw [filters, count, slots, ← List.length_erase_of_mem known] at outline
    exact outline
  · rw [List.mem_filter, kept]
    by_cases here : pid = feed.pid
    · simp [here]
    · have others : (∃ other ∈ book.outstanding.erase feed, other.pid = pid) ↔
          ∃ other ∈ book.outstanding, other.pid = pid := by
        constructor
        · rintro ⟨other, left, rfl⟩
          exact ⟨other, List.mem_of_mem_erase left, rfl⟩
        · rintro ⟨other, present, rfl⟩
          have different : other ≠ feed := fun same => here (congrArg Feed.pid same)
          exact ⟨other, (List.mem_erase_of_ne different).2 present, rfl⟩
      rw [others]
      simp [here]
  · obtain ⟨calls, before, left⟩ := booked.table hardware
    have elsewhere {other : Feed} (different : other ≠ feed)
        (on : calls.lookup other = some true) :
        other ∈ book.outstanding.erase feed ∨ other ∈ book.missed :=
      (left other on).imp_left (List.mem_erase_of_ne different).2
    have steered := sound.live.steered a (List.mem_of_getElem? there)
    rw [cleared steered fun slot present =>
      hardware slot.plan (slots ▸ List.mem_map_of_mem present), before,
      ← Device.streams_some there] at log
    -- The entry is cleared while the adapter streams, and is missed otherwise.
    cases streaming : s.device.streams i with
    | true =>
      rw [if_pos streaming] at log
      refine ⟨(feed, false) :: calls, log, fun other on => ?_⟩
      by_cases here : other = feed
      · simp [here] at on
      · rw [List.lookup_cons, beq_false_of_ne here] at on
        exact elsewhere here on
    | false =>
      rw [if_neg (by simp [streaming])] at log
      refine ⟨calls, log, fun other on => ?_⟩
      by_cases here : other = feed
      · exact .inr (here ▸ List.mem_cons_self)
      · exact (elsewhere here on).imp_right (List.mem_cons_of_mem feed)

theorem booked_act (sound : Sound h₀ size r s) {book : Book} (booked : Booked i before plan s book)
    (step : Act) (allowed : (matched i).allows book step = true) :
    Booked i before plan (s.act step) ((matched i).record s book step) := by
  -- No step of a frontend is about a feed.
  have frontend {j slot : Nat} {work : Host × Device → Host × Device}
      (parted : ∃ steps, work (s.host, s.device) =
        Device.parts j slot (s.host, s.device) steps) :
      Booked i before plan (s.onFrontend j slot work) book :=
    booked.still (onFrontend_elim (Still i s.host s.device) parted (Still.refl i s.host s.device)
      fun known => Still.parts sound.live known i)
  cases step with
  | startFeed j feed =>
    simp only [matched]
    by_cases here : j = i
    · subst here
      cases outcome : (s.device.startFeed s.host j feed).1 with
      | error e =>
        rw [if_neg (by simp [Except.isOk, Except.toBool])]
        exact booked.still (Still.startFeed_error sound.live j outcome)
      | ok =>
        rw [if_pos ⟨rfl, rfl⟩]
        exact booked.startFeed sound outcome
    · rw [if_neg fun both => here both.1]
      exact booked.still (Still.startFeed_other sound.live (Ne.symm here) feed)
  | stopFeed j feed =>
    simp only [matched]
    by_cases here : j = i
    · subst here
      rw [if_pos rfl]
      have known : feed ∈ book.outstanding := by
        simpa [matched] using allowed
      exact booked.stopFeed sound known
    · rw [if_neg here]
      exact booked.still (Still.stopFeed_other sound.live (Ne.symm here) feed)
  | wake j slot =>
    simp only [act, matched]
    refine frontend ?_
    exact Device.wake_eq_parts s.host s.device j slot
  | sleep j slot =>
    simp only [act, matched]
    refine frontend ?_
    exact ⟨_, Device.sleep_eq_parts s.host s.device j slot⟩
  | part j slot step =>
    simp only [act, matched]
    refine frontend ?_
    exact ⟨[step], rfl⟩
  | complete position fill =>
    simp only [act, matched]
    split
    next => exact booked
    next u there =>
      exact booked.still (Still.complete sound.live i (removed_eraseIdx there) fill)

theorem booked_begin {result : Except Failure Unit × Host × Device} {h : Host}
    (settled : Device.Settled h result) (ok : result.1 = .ok ())
    (unwatched : ∀ a ∈ result.2.2.adapters, a.filters = some []) {a : Adapter}
    (there : result.2.2.adapters[i]? = some a) :
    Booked i (result.2.1.log (entries i)) (a.slots.map Slot.plan) (begin result) {} where
  filters := by
    obtain ⟨-, -, -, unfed⟩ := settled.ok ok
    have member := List.mem_of_getElem? there
    refine ⟨[], ?_, fun pid => by simp⟩
    show result.2.2.outline i = _
    rw [Device.outline_some there, Adapter.outline, unwatched a member, unfed a member]
    rfl
  table _ := ⟨[], rfl, fun _ impossible => by cases impossible⟩

theorem booked_run (h : Host) (product : Product) (config : Config)
    (unused : ∀ u ∈ h.bus.queue, u.key.stream ∉ streamIds)
    (ok : (Device.bringUp h product config).1 = .ok ()) (i : Nat) (acts : List Act)
    (kept : (matched i).keeps (begin (Device.bringUp h product config)) {} acts = true)
    {a : Adapter}
    (there : (run (begin (Device.bringUp h product config)) acts).device.adapters[i]? = some a) :
    Booked i ((Device.bringUp h product config).2.1.log (entries i)) (a.slots.map Slot.plan)
      (run (begin (Device.bringUp h product config)) acts)
      ((matched i).after (begin (Device.bringUp h product config)) {} acts) := by
  have settled := Device.settled_bringUp h product config fun _ => ofStream_nil_of_unused unused
  obtain ⟨r, fresh⟩ := sound_begin settled ok
  -- The adapter has been there from the beginning.
  have within : i < (begin (Device.bringUp h product config)).device.adapters.length := by
    rw [fresh.size, ← (sound_run fresh acts).size]
    exact (List.getElem?_eq_some_iff.1 there).1
  have first := booked_begin settled ok (Device.filters_bringUp ok)
    (List.getElem?_eq_getElem within)
  have booked := Discipline.run (matched i) (Booked i _ _)
    (fun _ _ step sound booked allowed => booked_act sound booked step allowed)
    fresh first acts kept
  obtain ⟨a', -, same, -, -, plan, -⟩ := booked.adapter
  obtain rfl : a = a' := Option.some.inj (there.symm.trans same)
  rw [plan]
  exact booked

/-- The demux lets the PIDs of the outstanding feeds through, apart from those of which another feed
has been stopped since. -/
theorem watched_run (h : Host) (product : Product) (config : Config)
    (unused : ∀ u ∈ h.bus.queue, u.key.stream ∉ streamIds)
    (ok : (Device.bringUp h product config).1 = .ok ()) (i : Nat) (acts : List Act)
    (kept : (matched i).keeps (begin (Device.bringUp h product config)) {} acts = true) :
    let s := run (begin (Device.bringUp h product config)) acts
    let book := (matched i).after (begin (Device.bringUp h product config)) {} acts
    ∀ a, s.device.adapters[i]? = some a →
      ∃ pids, a.filters = some pids ∧
        ∀ pid, pid ∈ pids ↔ (∃ feed ∈ book.outstanding, feed.pid = pid) ∧ pid ∉ book.cut := by
  intro s book a there
  have booked := booked_run h product config unused ok i acts kept there
  obtain ⟨a', pids, same, filters, -, -, exact⟩ := booked.adapter
  obtain rfl : a = a' := Option.some.inj (there.symm.trans same)
  exact ⟨pids, filters, exact⟩

theorem watched_run_bench :
    (∀ u ∈ benchHost.bus.queue, u.key.stream ∉ streamIds) ∧
      (Device.bringUp benchHost ⟨"receiver", [], []⟩ {}).1 = .ok () ∧
      let up := begin (Device.bringUp benchHost ⟨"receiver", [], []⟩ {})
      let acts : List Act := [.wake 0 0, .startFeed 0 ⟨0x100, 0⟩, .startFeed 0 ⟨0x101, 1⟩,
        .sleep 0 0, .stopFeed 0 ⟨0x100, 0⟩, .wake 0 0, .startFeed 0 ⟨0x102, 2⟩]
      (matched 0).keeps up {} acts = true ∧
      ((matched 0).after up {} acts).outstanding = [⟨0x102, 2⟩, ⟨0x101, 1⟩] ∧
      ∃ a, (run up acts).device.adapters[0]? = some a ∧
        ∃ pids, a.filters = some pids ∧ ∀ pid, pid ∈ pids ↔
          (∃ feed ∈ ((matched 0).after up {} acts).outstanding, feed.pid = pid) ∧
            pid ∉ ((matched 0).after up {} acts).cut := by
  have unused : ∀ u ∈ benchHost.bus.queue, u.key.stream ∉ streamIds := by
    simp [benchHost, Bench.newBus]
  have ok : (Device.bringUp benchHost ⟨"receiver", [], []⟩ {}).1 = .ok () := by rfl
  have kept : (matched 0).keeps (begin (Device.bringUp benchHost ⟨"receiver", [], []⟩ {})) {}
      [.wake 0 0, .startFeed 0 ⟨0x100, 0⟩, .startFeed 0 ⟨0x101, 1⟩, .sleep 0 0,
        .stopFeed 0 ⟨0x100, 0⟩, .wake 0 0, .startFeed 0 ⟨0x102, 2⟩] = true := by rfl
  exact ⟨unused, ok, kept, rfl, _, rfl, watched_run _ _ _ unused ok 0 _ kept _ rfl⟩

theorem unwatched_bench :
    let up := begin (Device.bringUp benchHost ⟨"receiver", [], []⟩ {})
    let acts : List Act := [.wake 0 0, .startFeed 0 ⟨0x100, 0⟩, .startFeed 0 ⟨0x100, 1⟩,
      .stopFeed 0 ⟨0x100, 0⟩]
    (matched 0).keeps up {} acts = true ∧
      ((matched 0).after up {} acts).outstanding = [⟨0x100, 1⟩] ∧
      (run up acts).device.adapters.map (·.filters) = [some []] :=
  ⟨rfl, rfl, rfl⟩

/-- When the last feed of an adapter has gone, its table is clear but for entries of feeds that were
stopped while it did not stream. -/
theorem cleared_run (h : Host) (product : Product) (config : Config)
    (unused : ∀ u ∈ h.bus.queue, u.key.stream ∉ streamIds)
    (ok : (Device.bringUp h product config).1 = .ok ()) (i : Nat) (acts : List Act)
    (kept : (matched i).keeps (begin (Device.bringUp h product config)) {} acts = true) :
    let s := run (begin (Device.bringUp h product config)) acts
    let book := (matched i).after (begin (Device.bringUp h product config)) {} acts
    ∀ a, s.device.adapters[i]? = some a →
      (∀ slot ∈ a.slots, slot.filtering.isHardware = true) →
      ∃ calls, s.host.log (entries i) =
          calls ++ (Device.bringUp h product config).2.1.log (entries i) ∧
        (a.feeds.count = 0 → ∀ feed, calls.lookup feed = some true → feed ∈ book.missed) := by
  intro s book a there hardware
  have booked := booked_run h product config unused ok i acts kept there
  obtain ⟨calls, log, left⟩ := booked.table fun plan present => by
    obtain ⟨slot, member, rfl⟩ := List.mem_map.1 present
    exact hardware slot member
  obtain ⟨a', -, same, -, count, -⟩ := booked.adapter
  obtain rfl : a = a' := Option.some.inj (there.symm.trans same)
  refine ⟨calls, log, fun none feed on => ?_⟩
  rw [none] at count
  have outstanding : book.outstanding = [] := List.length_eq_zero_iff.1 count.symm
  obtain known | missed := left feed on
  next =>
    rw [outstanding] at known
    cases known
  next => exact missed

def tableHost : Host :=
  { benchHost with
    driver := Bench.plainDriver
      { products := [], adapters := [[⟨.required 16, ⟨2, 0x81, .bulk 4⟩⟩]] } }

theorem cleared_run_bench :
    (∀ u ∈ tableHost.bus.queue, u.key.stream ∉ streamIds) ∧
      (Device.bringUp tableHost ⟨"receiver", [], []⟩ {}).1 = .ok () ∧
      let up := begin (Device.bringUp tableHost ⟨"receiver", [], []⟩ {})
      let acts : List Act := [.wake 0 0, .startFeed 0 ⟨0x100, 0⟩, .sleep 0 0, .stopFeed 0 ⟨0x100, 0⟩,
        .wake 0 0, .startFeed 0 ⟨0x100, 0⟩, .startFeed 0 ⟨0x101, 1⟩, .stopFeed 0 ⟨0x100, 0⟩,
        .stopFeed 0 ⟨0x101, 1⟩]
      (matched 0).keeps up {} acts = true ∧ ((matched 0).after up {} acts).missed = [] ∧
      ∃ a, (run up acts).device.adapters[0]? = some a ∧
        (∀ slot ∈ a.slots, slot.filtering.isHardware = true) ∧ a.feeds.count = 0 ∧
        ∃ calls, (run up acts).host.log (entries 0) =
            calls ++ (Device.bringUp tableHost ⟨"receiver", [], []⟩ {}).2.1.log (entries 0) ∧
          (a.feeds.count = 0 → ∀ feed, calls.lookup feed = some true →
            feed ∈ ((matched 0).after up {} acts).missed) := by
  have unused : ∀ u ∈ tableHost.bus.queue, u.key.stream ∉ streamIds := by
    simp [tableHost, benchHost, Bench.newBus]
  have ok : (Device.bringUp tableHost ⟨"receiver", [], []⟩ {}).1 = .ok () := by rfl
  have kept : (matched 0).keeps (begin (Device.bringUp tableHost ⟨"receiver", [], []⟩ {})) {}
      [.wake 0 0, .startFeed 0 ⟨0x100, 0⟩, .sleep 0 0, .stopFeed 0 ⟨0x100, 0⟩,
        .wake 0 0, .startFeed 0 ⟨0x100, 0⟩, .startFeed 0 ⟨0x101, 1⟩, .stopFeed 0 ⟨0x100, 0⟩,
        .stopFeed 0 ⟨0x101, 1⟩] = true := by rfl
  refine ⟨unused, ok, kept, rfl, _, rfl, ?_, rfl, ?_⟩
  · decide
  · exact cleared_run _ _ _ unused ok 0 _ kept _ rfl (by decide)

/-- A feed that has outlived a sleep of its frontend keeps its entry in the table when it is stopped,
though the frontend is awake again. -/
theorem uncleared_bench :
    let up := begin (Device.bringUp tableHost ⟨"receiver", [], []⟩ {})
    let acts : List Act := [.wake 0 0, .startFeed 0 ⟨0x100, 0⟩, .sleep 0 0, .wake 0 0,
      .stopFeed 0 ⟨0x100, 0⟩]
    (matched 0).keeps up {} acts = true ∧
      (run up acts).device.adapters.map (fun a => (a.feeds.count, a.feeds.active)) = [(0, some 0)] ∧
      (run up acts).host.log (entries 0) = [(⟨0x100, 0⟩, true)] :=
  ⟨rfl, rfl, rfl⟩

end Session

end DvbReceiver

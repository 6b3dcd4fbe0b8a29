import DvbReceiver.Proofs.Adapter.Limits
import DvbReceiver.Proofs.Device.Lasting
import Mathlib.Data.List.Induction

set_option autoImplicit false

namespace DvbReceiver

namespace Device

variable {h₀ h h' : Host} {d : Device} {r : Nat → List UrbIdentity}

def Announced (h : Host) (adapters : List Adapter) : Prop :=
  ∀ a ∈ adapters, ∃ hardware,
    .registered (.demux a.id ⟨a.maxFeeds, hardware⟩) ∈ h.registry.events

theorem announced_bringUpAdapters (id : Nat) (rest : List (List SlotProperties))
    (announced : Announced h d.adapters) (ok : (bringUpAdapters id rest h d).1 = .ok ()) :
    Announced (bringUpAdapters id rest h d).2.1 (bringUpAdapters id rest h d).2.2.adapters := by
  induction rest generalizing id h d with
  | nil => exact announced
  | cons props rest ih =>
    obtain ⟨events, told⟩ := Adapter.announced_bringUp h
      (Adapter.new id props h.bus.speed d.config.forceFilter) d.product.name d.i2c
    unfold bringUpAdapters at ok ⊢
    dsimp only at ok ⊢
    split at ok
    next => cases ok
    next outcome =>
      refine ih (id + 1) (fun a there => ?_) ok
      obtain earlier | last := List.mem_append.1 there
      next =>
        obtain ⟨hardware, before⟩ := announced a earlier
        exact ⟨hardware, events.subset before⟩
      next =>
        obtain rfl := List.mem_singleton.1 last
        exact told outcome

theorem announced_bringUp {product : Product} {config : Config}
    (ok : (bringUp h product config).1 = .ok ()) :
    Announced (bringUp h product config).2.1 (bringUp h product config).2.2.adapters := by
  obtain ⟨h₁, h₂, d, -, -, -, reached, result⟩ := bringUp_ok ok
  obtain ⟨told, h₃, steady, -, dark⟩ := powerDown_cases h₂ d
  rw [result, dark]
  unfold bringUpParts at reached
  dsimp only at reached
  let i2c := if h₁.driver.hasI2c then some (product.name ++ " i2c") else none
  let d₁ : Device := { product, config, power := ⟨1⟩, phase := .i2cReady, i2c }
  have whole := announced_bringUpAdapters (h := h₁) (d := d₁) 0 h₁.driver.properties.adapters
    fun _ impossible => by cases impossible
  split at reached
  next => cases reached
  next outcome =>
    rw [outcome] at whole
    cases reached
    unfold Announced
    rw [steady.registry]
    exact whole rfl

theorem limit_of_startFeed {i : Nat} {feed : Feed} (ok : (startFeed h d i feed).1 = .ok ()) :
    ∃ a, d.adapters[i]? = some a ∧ a.feeds.count < a.limit ∧
      ∃ s ∈ a.slots, s.filtering.maxFeeds = a.limit := by
  unfold startFeed at ok
  cases there : d.adapters[i]? with
  | none =>
    rw [onAdapter_missing h there] at ok
    cases ok
  | some a =>
    rw [onAdapter_some h there] at ok
    exact ⟨a, rfl, Adapter.limit_of_startFeed ok⟩

def slate (d : Device) : List (List Filtering) :=
  d.adapters.map fun a => a.slots.map (·.filtering)

theorem slate_some {i : Nat} {a : Adapter} (there : d.adapters[i]? = some a) :
    d.slate[i]? = some (a.slots.map (·.filtering)) := by
  simp [slate, there]

theorem lasting_slate (registry : Registry) (slate : List (List Filtering)) :
    Lasting fun h d => h.registry = registry ∧ d.slate = slate where
  steady _ := fun ⟨same, slate⟩ steady => ⟨steady.registry.trans same, slate⟩
  moved := fun ⟨same, slate⟩ there moved =>
    ⟨moved.exchange.registry.trans same, (map_set_of_eq there moved.filtering).trans slate⟩

end Device

namespace Session

variable {h₀ : Host} {size : Nat} {r : Nat → List UrbIdentity} {s : Session} {i n : Nat}
  {acts : List Act}

/-- In the course of a run a feed was started through a slot that takes `n` of them. -/
def Admitted (i : Nat) (s : Session) (acts : List Act) (n : Nat) : Prop :=
  ∃ earlier feed later a, acts = earlier ++ .startFeed i feed :: later ∧
    (s.run earlier).device.adapters[i]? = some a ∧
    ((s.run earlier).device.startFeed (s.run earlier).host i feed).1 = .ok () ∧ a.limit = n

theorem Admitted.append (admitted : Admitted i s acts n) (more : List Act) :
    Admitted i s (acts ++ more) n := by
  obtain ⟨earlier, feed, later, a, rfl, rest⟩ := admitted
  exact ⟨earlier, feed, later ++ more, a, by simp, rest⟩

theorem feedCount_act (sound : Sound h₀ size r s) (step : Act) (i : Nat) :
    (s.act step).device.feedCount i ≤ s.device.feedCount i ∨
      ∃ feed a, step = .startFeed i feed ∧ s.device.adapters[i]? = some a ∧
        (s.device.startFeed s.host i feed).1 = .ok () ∧
        (s.act step).device.feedCount i ≤ a.limit := by
  have same {d : Device} (counts : d.feedCount = s.device.feedCount) :
      d.feedCount i ≤ s.device.feedCount i := Nat.le_of_eq (congrFun counts i)
  induction step using act_elim s with
  | startFeed j feed =>
    have counts := congrFun (Device.startFeed_spec sound.live j feed).feeds i
    by_cases here : i = j
    · subst here
      rw [Function.update_self] at counts
      cases outcome : (s.device.startFeed s.host i feed).1 with
      | error e =>
        rw [outcome] at counts
        exact .inl (Nat.le_of_eq counts)
      | ok =>
        rw [outcome] at counts
        -- One more feed, and it was below the limit when it was let in.
        obtain ⟨a, there, admitted⟩ := Device.limit_of_startFeed outcome
        refine .inr ⟨feed, a, rfl, there, outcome, ?_⟩
        have count := Device.feedCount_some there
        refine Nat.le_trans (Nat.le_of_eq counts) ?_
        rw [count]
        exact admitted.1
    · exact .inl (Nat.le_of_eq (counts.trans (Function.update_of_ne here ..)))
  | stopFeed j feed =>
    have counts := congrFun (Device.stopFeed_spec sound.live j feed).feeds i
    refine .inl (Nat.le_trans (Nat.le_of_eq counts) ?_)
    by_cases here : i = j
    · subst here
      rw [Function.update_self]
      exact Nat.sub_le ..
    · exact Nat.le_of_eq (Function.update_of_ne here ..)
  | frontend step j slot work acted steps =>
    rw [acted]
    refine .inl (same ?_)
    exact onFrontend_elim (fun _ d => d.feedCount = s.device.feedCount) steps rfl
      fun known steps => (Device.tended_parts sound.live known steps).feeds
  | complete position fill =>
    simp only [act]
    split
    next => exact .inl (Nat.le_refl _)
    next u there =>
      exact .inl (same (Device.complete_spec sound.live (removed_eraseIdx there) fill).feeds)

theorem feedCount_run (sound : Sound h₀ size r s) (unfed : s.device.feedCount i = 0)
    (acts : List Act) :
    (s.run acts).device.feedCount i = 0 ∨
      ∃ n, Admitted i s acts n ∧ (s.run acts).device.feedCount i ≤ n := by
  -- From the last act back: the latest feed that was let in bounds all that there are.
  induction acts using List.reverseRecOn with
  | nil => exact .inl unfed
  | append_singleton acts step ih =>
    have last : s.run (acts ++ [step]) = (s.run acts).act step := List.foldl_concat ..
    rw [last]
    obtain fewer | ⟨feed, a, rfl, there, ok, bounded⟩ := feedCount_act (sound_run sound acts) step i
    next =>
      refine ih.imp (fun none => by omega) ?_
      rintro ⟨n, admitted, within⟩
      exact ⟨n, admitted.append [step], Nat.le_trans fewer within⟩
    next => exact .inr ⟨a.limit, ⟨acts, feed, [], a, rfl, there, ok, rfl⟩, bounded⟩

/-- How the feeds of an adapter keep to the limits of its slots, in a run that started with none. -/
structure Limited (i : Nat) (s : Session) (acts : List Act) (a : Adapter) : Prop where
  announced : ∃ hardware,
    .registered (.demux i ⟨a.maxFeeds, hardware⟩) ∈ (s.run acts).host.registry.events
  admitted : a.feeds.count = 0 ∨ ∃ n, Admitted i s acts n ∧ a.feeds.count ≤ n
  slots : ∀ n, Admitted i s acts n → a.maxFeeds ≤ n ∧ ∃ slot ∈ a.slots, slot.filtering.maxFeeds = n
  /-- What was announced is kept to, unless a feed comes in by a slot that takes more. -/
  within : (∀ n, Admitted i s acts n → n = a.maxFeeds) → a.feeds.count ≤ a.maxFeeds

theorem limited_run (h : Host) (product : Product) (config : Config)
    (unused : ∀ u ∈ h.bus.queue, u.key.stream ∉ streamIds)
    (ok : (Device.bringUp h product config).1 = .ok ()) (acts : List Act) :
    let s₀ := begin (Device.bringUp h product config)
    ∀ (i : Nat) (a : Adapter), (s₀.run acts).device.adapters[i]? = some a →
      Limited i s₀ acts a := by
  intro s₀ i a there
  have settled := Device.settled_bringUp h product config fun _ => ofStream_nil_of_unused unused
  obtain ⟨r, fresh⟩ := sound_begin settled ok
  have lasting := Device.lasting_slate s₀.host.registry s₀.device.slate
  have kept (acts : List Act) : (s₀.run acts).host.registry = s₀.host.registry ∧
      (s₀.run acts).device.slate = s₀.device.slate := lasting_run lasting fresh ⟨rfl, rfl⟩ acts
  -- However the slots are used, they are filtered as they were from the beginning.
  have filtering (earlier : List Act) {b : Adapter}
      (before : (s₀.run earlier).device.adapters[i]? = some b) :
      a.slots.map (·.filtering) = b.slots.map (·.filtering) := by
    have now := Device.slate_some there
    have once := Device.slate_some before
    rw [(kept acts).2] at now
    rw [(kept earlier).2, now] at once
    exact Option.some.inj once
  have unfed : s₀.device.feedCount i = 0 := fresh.counts i
  have bounded := feedCount_run fresh unfed acts
  rw [Device.feedCount_some there] at bounded
  refine ⟨?_, bounded, fun n admitted => ?_, fun tight => ?_⟩
  · have within : i < s₀.device.adapters.length := by
      rw [fresh.size, ← (sound_run fresh acts).size]
      exact (List.getElem?_eq_some_iff.1 there).1
    obtain ⟨a₀, first⟩ : ∃ a₀, s₀.device.adapters[i]? = some a₀ :=
      ⟨_, List.getElem?_eq_getElem within⟩
    have number : a₀.id = i := fresh.live.ids i a₀ first
    obtain ⟨hardware, told⟩ := Device.announced_bringUp ok a₀ (List.mem_of_getElem? first)
    rw [number] at told
    refine ⟨hardware, ?_⟩
    rw [(kept acts).1, Adapter.maxFeeds_congr (filtering [] first)]
    exact told
  · obtain ⟨earlier, feed, later, b, -, before, started, rfl⟩ := admitted
    obtain ⟨b', same, -, slot, present, takes⟩ := Device.limit_of_startFeed started
    obtain rfl := Option.some.inj (before.symm.trans same)
    have listed : slot.filtering ∈ a.slots.map (·.filtering) := by
      rw [filtering earlier before]
      exact List.mem_map_of_mem present
    obtain ⟨slot', present', same⟩ := List.mem_map.1 listed
    have takes' : slot'.filtering.maxFeeds = b.limit := by rw [same, takes]
    exact ⟨takes' ▸ Adapter.maxFeeds_le present', slot', present', takes'⟩
  · obtain none | ⟨n, admitted, fewer⟩ := bounded
    next => exact none ▸ Nat.zero_le _
    next => exact tight n admitted ▸ fewer

def mixedHost : Host :=
  { benchHost with
    driver := Bench.plainDriver
      { products := []
        adapters := [[⟨.none, ⟨2, 0x81, .bulk 4⟩⟩, ⟨.required 1, ⟨1, 0x82, .bulk 4⟩⟩]] } }

theorem limited_run_mixed :
    (∀ u ∈ mixedHost.bus.queue, u.key.stream ∉ streamIds) ∧
      (Device.bringUp mixedHost ⟨"receiver", [], []⟩ {}).1 = .ok () ∧
      let s₀ := begin (Device.bringUp mixedHost ⟨"receiver", [], []⟩ {})
      let acts : List Act := [.wake 0 1, .startFeed 0 ⟨0x100, 0⟩, .startFeed 0 ⟨0x101, 0⟩]
      ∃ a, (s₀.run acts).device.adapters[0]? = some a ∧ a.feeds.count = 1 ∧ Limited 0 s₀ acts a := by
  have unused : ∀ u ∈ mixedHost.bus.queue, u.key.stream ∉ streamIds := by
    simp [mixedHost, benchHost, Bench.newBus]
  have ok : (Device.bringUp mixedHost ⟨"receiver", [], []⟩ {}).1 = .ok () := by rfl
  exact ⟨unused, ok, _, rfl, rfl, limited_run _ _ _ unused ok _ 0 _ rfl⟩

/-- A slot that takes more feeds than another is not held to what was announced for both. -/
theorem unlimited_mixed :
    let s := run (begin (Device.bringUp mixedHost ⟨"receiver", [], []⟩ {}))
      [.wake 0 0, .startFeed 0 ⟨0x100, 0⟩, .startFeed 0 ⟨0x101, 0⟩]
    s.device.adapters.map (·.maxFeeds) = [1] ∧
      .registered (.demux 0 ⟨1, true⟩) ∈ s.host.registry.events ∧
      s.device.adapters.map (·.feeds.count) = [2] :=
  ⟨rfl, by decide, rfl⟩

end Session

end DvbReceiver

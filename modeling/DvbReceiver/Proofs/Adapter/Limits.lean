import DvbReceiver.Proofs.Adapter.BringUp

set_option autoImplicit false

namespace DvbReceiver

theorem Flow.registry_prepare (f : Flow) (layout : Layout) :
    (f.prepare layout).2.host.registry = f.host.registry := by
  unfold prepare
  split
  next => rfl
  next =>
    split
    next => rfl
    next =>
      split
      next => rfl
      next =>
        dsimp only
        split <;> rfl

namespace Adapter

variable {h : Host} {a a' : Adapter} {feed : Feed}

/-- The number of feeds at which the slot that would get the next one refuses it. -/
def limit (a : Adapter) : Nat :=
  match a.feedSlot with
  | .ok (_, s) => s.filtering.maxFeeds
  | .error _ => 0

theorem limit_of_startFeed (ok : (startFeed h a feed).1 = .ok ()) :
    a.feeds.count < a.limit ∧ ∃ s ∈ a.slots, s.filtering.maxFeeds = a.limit := by
  unfold startFeed at ok
  unfold limit
  split at ok
  next => cases ok
  next =>
    cases found : a.feedSlot with
    | error e =>
      rw [found] at ok
      cases ok
    | ok target =>
      obtain ⟨slot, s⟩ := target
      rw [found] at ok
      dsimp only at ok ⊢
      split at ok
      next => cases ok
      next accepted =>
        refine ⟨?_, s, List.mem_of_getElem? (feedSlot_ok found).2, rfl⟩
        by_contra full
        simp [refusal?, Nat.not_lt.1 full] at accepted

theorem maxFeeds_congr (same : a'.slots.map (·.filtering) = a.slots.map (·.filtering)) :
    a'.maxFeeds = a.maxFeeds := by
  have limits (b : Adapter) : b.slots.map (·.filtering.maxFeeds) =
      (b.slots.map (·.filtering)).map Filtering.maxFeeds := by
    rw [List.map_map]
    rfl
  rw [maxFeeds, limits, same, ← limits]
  rfl

theorem Moved.filtering {h' : Host} {r r' : Nat → List UrbIdentity} (moved : Moved h a r h' a' r') :
    a'.slots.map (·.filtering) = a.slots.map (·.filtering) := by
  have same := congrArg (List.map (·.2.1)) moved.plan
  rwa [List.map_map, List.map_map] at same

theorem maxFeeds_le {s : Slot} (present : s ∈ a.slots) : a.maxFeeds ≤ s.filtering.maxFeeds := by
  have listed : s.filtering.maxFeeds ∈ a.slots.map (·.filtering.maxFeeds) :=
    List.mem_map_of_mem present
  unfold maxFeeds
  cases least : (a.slots.map (·.filtering.maxFeeds)).min? with
  | none =>
    rw [List.min?_eq_none_iff.1 least] at listed
    cases listed
  | some n => exact (List.min?_eq_some_iff.1 least).2 _ listed

section BringUp

theorem suffix_register (h : Host) (what : Registration) :
    h.registry.events <:+ (register h what).2.registry.events := by
  unfold register Registry.register
  dsimp only
  split
  next => exact List.suffix_refl _
  next => exact List.suffix_cons ..

theorem registered_register {h' : Host} {what : Registration}
    (granted : register h what = (.ok (), h')) :
    .registered what ∈ h'.registry.events := by
  unfold register Registry.register at granted
  dsimp only at granted
  split at granted
  next => cases granted
  next =>
    cases granted
    exact List.mem_cons_self

theorem registry_prepareStreams (count slot : Nat) (h : Host) (a : Adapter) :
    (prepareStreams count slot h a).2.1.registry = h.registry := by
  induction count generalizing slot h a with
  | zero => rfl
  | succ count ih =>
    unfold prepareStreams
    dsimp only
    cases there : a.slots[slot]? with
    | none =>
      rw [onStream_missing h there]
      exact ih (slot + 1) h a
    | some s =>
      obtain ⟨h₁, demux, same, steady, -⟩ :=
        onStream_cases h there (.ok ()) fun f => f.prepare s.props.layout
      have kept : h₁.registry = h.registry :=
        steady.registry.trans (Flow.registry_prepare { host := h, stream := s.stream } _)
      dsimp only
      rw [same]
      split
      next outcome =>
        obtain rfl : h₁ = _ := congrArg (·.2.1) outcome
        exact kept
      next outcome =>
        obtain rfl : h₁ = _ := congrArg (·.2.1) outcome
        exact (ih (slot + 1) _ _).trans kept

theorem filtering_modify (slots : List Slot) (slot : Nat) (frontend : Option Frontend) :
    (slots.modify slot fun s => { s with frontend }).map (·.filtering) =
      slots.map (·.filtering) := by
  refine List.ext_getElem? fun j => ?_
  simp only [List.getElem?_map, List.getElem?_modify]
  cases slots[j]? with
  | none => rfl
  | some s => by_cases here : slot = j <;> simp [here]

structure Announced (h : Host) (a : Adapter) (h' : Host) (a' : Adapter) : Prop where
  id : a'.id = a.id
  filtering : a'.slots.map (·.filtering) = a.slots.map (·.filtering)
  events : h.registry.events <:+ h'.registry.events

theorem announced_attachFrontends (i2c : Option String) (count slot : Nat) (h : Host)
    (a : Adapter) :
    Announced h a (attachFrontends i2c count slot h a).2.1
      (attachFrontends i2c count slot h a).2.2 := by
  induction count generalizing slot h a with
  | zero => exact ⟨rfl, rfl, List.suffix_refl _⟩
  | succ count ih =>
    obtain ⟨h₁, steady, -, ⟨e, failed⟩ | absent | ⟨name, found⟩⟩ := attach_cases h a.id slot i2c
    next =>
      have events : h.registry.events <:+ h₁.registry.events := by
        simp only [steady.registry, List.suffix_refl]
      simp only [attachFrontends, failed]
      exact ⟨rfl, rfl, events⟩
    next =>
      have later := ih (slot + 1) h₁ a
      simp only [attachFrontends, absent]
      exact ⟨later.id, later.filtering, steady.registry ▸ later.events⟩
    next =>
      have grown := suffix_register (h₁.note (.attached a.id slot)) (.frontend a.id slot name)
      have same : (h₁.note (.attached a.id slot)).registry = h.registry := steady.registry
      rw [same] at grown
      simp only [attachFrontends, found]
      split
      next refused =>
        rw [refused] at grown
        exact ⟨rfl, rfl, grown⟩
      next h₂ granted =>
        rw [granted] at grown
        have later := ih (slot + 1) (h₂.perform (.tunerAttach a.id slot)).2 { a with
          slots := a.slots.modify slot fun s => { s with frontend := some ⟨name, true⟩ } }
        have filtering := filtering_modify a.slots slot (some ⟨name, true⟩)
        exact ⟨later.id, later.filtering.trans filtering, grown.trans later.events⟩

/-- An adapter only adds to what is registered, and once up it has told how many feeds it takes. -/
theorem announced_bringUp (h : Host) (a : Adapter) (name : String) (i2c : Option String) :
    h.registry.events <:+ (a.bringUp h name i2c).2.1.registry.events ∧
      ((a.bringUp h name i2c).1 = .ok () → ∃ hardware,
        .registered (.demux (a.bringUp h name i2c).2.2.id
          ⟨(a.bringUp h name i2c).2.2.maxFeeds, hardware⟩) ∈
            (a.bringUp h name i2c).2.1.registry.events) := by
  have prepared := registry_prepareStreams a.slots.length 0 h a
  unfold bringUp
  split
  next outcome =>
    rw [outcome] at prepared
    rw [← prepared]
    exact ⟨List.suffix_refl _, nofun⟩
  next h₁ a₁ outcome =>
    rw [outcome] at prepared
    rw [← prepared]
    have adapter := suffix_register h₁ (.adapter a₁.id name)
    split
    next refused =>
      rw [refused] at adapter
      exact ⟨adapter, nofun⟩
    next h₂ granted =>
      rw [granted] at adapter
      let limits : DemuxLimits := ⟨a₁.maxFeeds, a₁.slots.any (·.filtering.isHardware)⟩
      have demux := adapter.trans (suffix_register h₂ (.demux a₁.id limits))
      dsimp only
      split
      next refused =>
        rw [show register h₂ (.demux a₁.id limits) = _ from refused] at demux
        exact ⟨demux, nofun⟩
      next h₃ granted =>
        have granted : register h₂ (.demux a₁.id limits) = (.ok (), h₃) := granted
        rw [granted] at demux
        have told := registered_register granted
        have net := suffix_register h₃ (.net a₁.id)
        split
        next refused =>
          rw [refused] at net
          exact ⟨demux.trans net, nofun⟩
        next h₄ granted =>
          rw [granted] at net
          let registered : Registered := { adapter := true, demux := true, net := true }
          -- What it announced was the limit of the slots that it still has.
          have last := announced_attachFrontends i2c a₁.slots.length 0 h₄
            { a₁ with demux := some h₃.registry.newDemux, registered }
          refine ⟨(demux.trans net).trans last.events, fun _ => ⟨limits.hardwareFilter, ?_⟩⟩
          rw [last.id, maxFeeds_congr last.filtering]
          exact last.events.subset (net.subset told)

end BringUp

end Adapter

end DvbReceiver

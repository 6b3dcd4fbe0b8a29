import DvbReceiver.Proofs.Adapter.Feeds

set_option autoImplicit false

namespace DvbReceiver.Adapter

variable {h : Host} {a : Adapter} {r : Nat → List UrbIdentity} {slot : Nat}

def removeFeed (h : Host) (a : Adapter) (feed : Feed) : Host × Adapter :=
  let filters := a.feeds.streaming.any fun slot => (a.slots[slot]?).any (·.filtering.isHardware)
  let h := if filters then (h.perform (.pidFilter a.id feed.index feed.pid false)).2 else h
  let a := a.watch feed.pid false
  setGate h { a with feeds := { a.feeds with count := a.feeds.count - 1 } } (a.feeds.count - 1)

def stopStreaming (h : Host) (a : Adapter) (slot : Nat) : Host × Adapter :=
  let (h, a) := stopStream h { a with feeds := { a.feeds with streaming := none } } slot
  (streamingOff h a, a)

def asleep (a : Adapter) (slot : Nat) : Adapter :=
  if a.feeds.active = some slot then { a with feeds := { a.feeds with active := none } } else a

theorem asleep_eq (a : Adapter) (slot : Nat) :
    ∃ active, a.asleep slot = { a with feeds := { a.feeds with active } } := by
  unfold asleep
  split
  next => exact ⟨none, rfl⟩
  next => exact ⟨a.feeds.active, rfl⟩

theorem active_asleep (a : Adapter) (slot : Nat) :
    (a.asleep slot).feeds.active = a.feeds.active.filter (· != slot) := by
  unfold asleep
  cases awake : a.feeds.active with
  | none => simp [awake]
  | some other => by_cases here : other = slot <;> simp [Option.filter, here, awake]

theorem Steered.only (steered : a.Steered) (busy : a.feeds.streaming = some slot) (j : Nat)
    (running : a.runs j = true) : j = slot := by
  have here := (steered.streaming j).1 running
  rw [busy] at here
  cases here
  rfl

/-- What starting a feed amounts to, given the slot that it belongs to. -/
inductive Starting (h : Host) (a : Adapter) (feed : Feed) :
    Except Failure Unit × Host × Adapter → Prop
  | refused (e : Failure) : Starting h a feed (.error e, h, a)
  | joined (slot : Nat) (s : Slot) : a.feeds.streaming = some slot → a.slots[slot]? = some s →
    Starting h a feed (.ok (), addFeed h a s feed)
  | failed (slot : Nat) (s : Slot) (e : Failure) (h₁ : Host) (a₁ : Adapter) :
    a.feeds.streaming = none → a.feeds.active = some slot → a.slots[slot]? = some s →
    startStreaming (setGate h a (a.feeds.count + 1)).1 (setGate h a (a.feeds.count + 1)).2 slot s =
      (.error e, h₁, a₁) →
    Starting h a feed (.error e, setGate h₁ a₁ a₁.feeds.count)
  | first (slot : Nat) (s : Slot) (h₁ : Host) (a₁ : Adapter) :
    a.feeds.streaming = none → a.feeds.active = some slot → a.slots[slot]? = some s →
    startStreaming (setGate h a (a.feeds.count + 1)).1 (setGate h a (a.feeds.count + 1)).2 slot s =
      (.ok (), h₁, a₁) →
    Starting h a feed (.ok (),
      addFeed h₁ { a₁ with feeds := { a₁.feeds with streaming := a₁.feeds.active } } s feed)

theorem starting_startFeed (h : Host) (a : Adapter) (feed : Feed) :
    Starting h a feed (startFeed h a feed) := by
  unfold startFeed
  split
  next => exact .refused _
  next =>
    split
    next => exact .refused _
    next slot s found =>
      obtain ⟨owner, there⟩ := feedSlot_ok found
      split
      next => exact .refused _
      next =>
        split
        next busy =>
          obtain ⟨slot', busy⟩ := Option.isSome_iff_exists.1 busy
          have same : slot' = slot := by simpa [busy] using owner
          subst same
          exact .joined slot' s busy there
        next idle =>
          have none : a.feeds.streaming = none := by simpa using idle
          have awake : a.feeds.active = some slot := by simpa [none] using owner
          dsimp only
          split
          next failed => exact .failed slot s _ _ _ none awake there failed
          next started => exact .first slot s _ _ none awake there started

theorem worked_first (sound : a.Sound r h.bus.queue) (ready : a.Ready r) {s : Slot}
    (there : a.slots[slot]? = some s) :
    let opened := setGate h a (a.feeds.count + 1)
    let result := startStreaming opened.1 opened.2 slot s
    Worked opened.1 opened.2 r result.2.1 result.2.2 r := by
  intro opened result
  have sound₁ : opened.2.Sound r opened.1.bus.queue := { sound with }
  exact (startStreaming_spec sound₁ ready (List.getElem?_eq_some_iff.1 there).1 s).1

theorem active_startFeed (sound : a.Sound r h.bus.queue) (ready : a.Ready r) (feed : Feed) :
    (startFeed h a feed).2.2.feeds.active = a.feeds.active := by
  have starting := starting_startFeed h a feed
  generalize startFeed h a feed = result at starting ⊢
  cases starting with
  | refused e => rfl
  | joined slot s => rfl
  | failed slot s e h₁ a₁ _ _ there refused =>
    have feeds := (worked_first sound ready there).feeds
    rw [refused] at feeds
    exact congrArg Feeds.active feeds
  | first slot s h₁ a₁ _ _ there granted =>
    have feeds := (worked_first sound ready there).feeds
    rw [granted] at feeds
    have feeds : a₁.feeds = a.feeds := feeds
    show a₁.feeds.active = a.feeds.active
    rw [feeds]

theorem stopFeed_of_pos (steered : a.Steered) (positive : 0 < a.feeds.count) (h : Host)
    (feed : Feed) :
    (stopFeed h a feed).2 =
      (if 1 < a.feeds.count then none else a.feeds.streaming).elim (removeFeed h a feed)
        (stopStreaming (removeFeed h a feed).1 (removeFeed h a feed).2) := by
  unfold stopFeed removeFeed
  rw [if_neg (Nat.ne_of_gt positive), steered.streaming_filter]
  dsimp only [watch, setGate]
  generalize (a.feeds.streaming.any fun slot =>
    (a.slots[slot]?).any (·.filtering.isHardware)) = filters
  by_cases more : 1 < a.feeds.count
  · rw [if_pos (Nat.sub_pos_of_lt more), if_pos more]
    rfl
  · have last : ¬ 0 < a.feeds.count - 1 := by omega
    rw [if_neg last, if_neg more]
    cases a.feeds.streaming with
    | none => rfl
    | some slot =>
      unfold stopStreaming streamingOff
      dsimp only [Option.elim_some]
      split
      next result => rw [result]
      next result => rw [result]

theorem stopStream_feeds (h : Host) (a : Adapter) (slot : Nat) (feeds : Feeds) :
    stopStream h { a with feeds } slot =
      ((stopStream h a slot).1, { (stopStream h a slot).2 with feeds }) := by
  unfold stopStream onStream
  dsimp only
  split
  next => rfl
  next =>
    unfold offer
    dsimp only
    split
    next => rfl
    next => split <;> rfl

theorem feeds_stopStreaming (h : Host) (a : Adapter) (slot : Nat) :
    (stopStreaming h a slot).2.feeds = { a.feeds with streaming := none } :=
  congrArg (·.2.feeds) (stopStream_feeds h a slot { a.feeds with streaming := none })

theorem active_stopStreaming (h : Host) (a : Adapter) (slot : Nat) :
    (stopStreaming h a slot).2.feeds.active = a.feeds.active := by
  rw [feeds_stopStreaming]

theorem bus_removeFeed (h : Host) (a : Adapter) (feed : Feed) :
    (removeFeed h a feed).1.bus = h.bus := by
  unfold removeFeed setGate
  dsimp only
  split <;> rfl

theorem deselect_eq (h : Host) (a : Adapter) (slot : Nat) :
    deselect h a slot =
      if a.feeds.streaming = some slot then stopStreaming h (a.asleep slot) slot
      else (h, a.asleep slot) := by
  have streaming : (a.asleep slot).feeds.streaming = a.feeds.streaming := by
    obtain ⟨active, same⟩ := asleep_eq a slot
    rw [same]
  have shape : deselect h a slot =
      if (a.asleep slot).feeds.streaming = some slot then
        let (h, a) := stopStream h (a.asleep slot) slot
        (streamingOff h a, { a with feeds := { a.feeds with streaming := none } })
      else (h, a.asleep slot) := rfl
  have kept : (stopStream h (a.asleep slot) slot).2.feeds = (a.asleep slot).feeds :=
    congrArg (·.2.feeds) (stopStream_feeds h (a.asleep slot) slot (a.asleep slot).feeds)
  rw [shape, streaming]
  refine ite_congr rfl (fun _ => ?_) fun _ => rfl
  unfold stopStreaming
  rw [stopStream_feeds h (a.asleep slot) slot { (a.asleep slot).feeds with streaming := none }]
  show (_, { (stopStream h (a.asleep slot) slot).2 with
    feeds := { (stopStream h (a.asleep slot) slot).2.feeds with streaming := none } }) = _
  rw [kept]
  rfl

theorem active_stopFeed (steered : a.Steered) (h : Host) (feed : Feed) :
    (stopFeed h a feed).2.2.feeds.active = a.feeds.active := by
  obtain unfed | fed := Nat.eq_zero_or_pos a.feeds.count
  next =>
    have unchanged : stopFeed h a feed = (.ok (), h, a) := if_pos unfed
    rw [unchanged]
  next =>
    rw [stopFeed_of_pos steered fed]
    cases (if 1 < a.feeds.count then none else a.feeds.streaming) with
    | none => rfl
    | some slot => exact active_stopStreaming _ _ slot

theorem active_deselect (h : Host) (a : Adapter) (slot : Nat) :
    (deselect h a slot).2.feeds.active = (a.asleep slot).feeds.active := by
  rw [deselect_eq]
  split
  next => exact active_stopStreaming _ _ slot
  next => rfl

end DvbReceiver.Adapter

import DvbReceiver.Proofs.Simulation.Filling

set_option autoImplicit false

namespace DvbReceiver

def Bytes.range? (data : Bytes) (start stop : Nat) : Option Bytes :=
  if start ≤ stop ∧ stop ≤ data.length then some (slice data start stop) else none

def wordSum? (a b : Nat) : Option Nat :=
  if a + b < UInt64.size then some (a + b) else none

theorem Bytes.range?_eq {data : Bytes} {start stop : Nat} (ordered : start ≤ stop)
    (within : stop ≤ data.length) : data.range? start stop = some (slice data start stop) :=
  if_pos ⟨ordered, within⟩

theorem Bytes.slice_zero (data : Bytes) (stop : Nat) : slice data 0 stop = data.take stop := by
  simp [slice]

namespace Frame

def Covers (f : Frame) (place : Nat) : Prop :=
  f.offset ≤ place ∧ place < f.offset + f.length

def window? (size : Nat) (f : Frame) : Option (Nat × Nat) :=
  if f.status = .ok ∧ f.offset < f.stop size then some (f.offset, f.stop size) else none

/-- Passes on the data of a frame and clears the frame. It fails where a sum goes beyond a word or a
place beyond the buffer. -/
def pass? (data : Bytes) (f : Frame) : Option (List Bytes × Frame) :=
  if f.status = .ok ∧ 0 < f.actual then do
    let reach ← wordSum? f.offset (min f.actual f.length)
    if f.offset < min reach data.length then
      let part ← data.range? f.offset (min reach data.length)
      return ([part], f.settled)
    else return ([], f.settled)
  else some ([], f.settled)

def passAll? (data : Bytes) : List Frame → Option (List Bytes × List Frame)
  | [] => some ([], [])
  | f :: rest => do
    let (first, f) ← f.pass? data
    let (others, rest) ← passAll? data rest
    return (first ++ others, f :: rest)

variable {size : Nat} {data : Bytes} {f : Frame} {w : Nat × Nat}

theorem window?_eq_some (here : f.window? size = some w) :
    f.status = .ok ∧ w = (f.offset, f.stop size) ∧ f.offset < f.stop size := by
  unfold window? at here
  split at here
  next some => exact ⟨some.1, (Option.some.inj here).symm, some.2⟩
  next => cases here

theorem filter_slice (data : Bytes) (f : Frame) :
    [f.slice data].filter (!·.isEmpty) =
      (f.window? data.length).toList.map fun w => Bytes.slice data w.1 w.2 := by
  have within := (f.stop_le data.length).2
  have length := Bytes.length_slice data f.offset (f.stop data.length)
  by_cases ok : f.status = .ok
  next =>
    have whole : f.slice data = Bytes.slice data f.offset (f.stop data.length) := if_pos ok
    rw [whole, window?]
    by_cases some : f.offset < f.stop data.length
    next =>
      have filled : Bytes.slice data f.offset (f.stop data.length) ≠ [] := by
        rw [← List.length_pos_iff, length]
        omega
      simp [ok, some, filled]
    next =>
      have empty : Bytes.slice data f.offset (f.stop data.length) = [] := by
        rw [← List.length_eq_zero_iff, length]
        omega
      simp [some, empty]
  next => simp [slice, window?, ok]

theorem pass?_eq (small : f.offset + f.length < UInt64.size) :
    f.pass? data = some ([f.slice data].filter (!·.isEmpty), f.settled) := by
  have within := (f.stop_le data.length).2
  have sum : wordSum? f.offset (min f.actual f.length) =
      some (f.offset + min f.actual f.length) := if_pos (by omega)
  have stop := f.stop_of_lt data.length small
  rw [filter_slice, pass?, window?]
  by_cases ok : f.status = .ok
  next =>
    by_cases received : 0 < f.actual
    next =>
      rw [if_pos ⟨ok, received⟩, sum, Option.bind_eq_bind, Option.bind_some, ← stop]
      -- What the frame reported may lie behind the end of the buffer.
      by_cases some : f.offset < f.stop data.length
      next =>
        rw [if_pos some, if_pos ⟨ok, some⟩, Bytes.range?_eq (Nat.le_of_lt some) within]
        rfl
      next =>
        rw [if_neg some, if_neg (fun both => some both.2)]
        rfl
    next =>
      have none : ¬ f.offset < f.stop data.length := by omega
      rw [if_neg (fun both => received both.2), if_neg (fun both => none both.2)]
      rfl
  next =>
    rw [if_neg (fun both => ok both.1), if_neg (fun both => ok both.1)]
    rfl

theorem filter_map_cons (data : Bytes) (f : Frame) (rest : List Frame) :
    ((f :: rest).map (slice data)).filter (!·.isEmpty) =
      [f.slice data].filter (!·.isEmpty) ++ (rest.map (slice data)).filter (!·.isEmpty) :=
  List.filter_append [f.slice data] (rest.map (slice data))

theorem filter_map_slice (data : Bytes) (frames : List Frame) :
    (frames.map (slice data)).filter (!·.isEmpty) =
      frames.flatMap fun f =>
        (f.window? data.length).toList.map fun w => Bytes.slice data w.1 w.2 := by
  induction frames with
  | nil => rfl
  | cons f rest ih => rw [filter_map_cons, filter_slice, ih, List.flatMap_cons]

theorem passAll?_eq {frames : List Frame}
    (small : ∀ f ∈ frames, f.offset + f.length < UInt64.size) :
    passAll? data frames =
      some ((frames.map (slice data)).filter (!·.isEmpty), frames.map settled) := by
  induction frames with
  | nil => rfl
  | cons f rest ih =>
    obtain ⟨first, others⟩ := List.forall_mem_cons.1 small
    rw [passAll?, pass?_eq first, ih others, filter_map_cons]
    rfl

theorem Contiguous.start_le {start : Nat} {frames : List Frame}
    (contiguous : Contiguous size start frames) : ∀ f ∈ frames, start ≤ f.offset := by
  induction frames generalizing start with
  | nil => simp
  | cons f rest ih =>
    obtain ⟨here, -, others⟩ := contiguous
    refine List.forall_mem_cons.2 ⟨Nat.le_of_eq here.symm, fun f' later => ?_⟩
    have beyond := ih others f' later
    omega

theorem Contiguous.pairwise {start : Nat} {frames : List Frame}
    (contiguous : Contiguous size start frames) :
    frames.Pairwise fun f f' => f.offset + f.length ≤ f'.offset := by
  induction frames generalizing start with
  | nil => exact List.Pairwise.nil
  | cons f rest ih =>
    obtain ⟨here, -, others⟩ := contiguous
    exact List.pairwise_cons.2 ⟨here ▸ others.start_le, ih others⟩

theorem pairwise_window? {frames : List Frame}
    (apart : frames.Pairwise fun f f' => f.offset + f.length ≤ f'.offset) :
    (frames.filterMap (window? size)).Pairwise fun w w' => w.2 ≤ w'.1 := by
  refine apart.filterMap _ fun f f' before w here w' here' => ?_
  obtain ⟨-, rfl, -⟩ := window?_eq_some here
  obtain ⟨-, rfl, -⟩ := window?_eq_some here'
  have within := (f.stop_le size).1
  dsimp only
  omega

end Frame

namespace Urb

def windows (u : Urb) : List (Nat × Nat) :=
  let size := u.buffer.bytes.length
  match u.transfer with
  | .bulk => if min u.actual size = 0 then [] else [(0, min u.actual size)]
  | .isoc _ _ frames => frames.filterMap (Frame.window? size)

/-- Passes on what a request brought, part by part, and clears it on the way. It fails as soon as
something beyond a word or beyond the buffer is asked for. -/
def pass? (u : Urb) : Option (List Bytes × Urb) :=
  let data := u.buffer.bytes
  match u.transfer with
  | .bulk =>
    if 0 < min u.actual data.length then do
      let part ← data.range? 0 (min u.actual data.length)
      return ([part], { u with actual := 0 })
    else some ([], { u with actual := 0 })
  | .isoc interval asap frames => do
    let (parts, frames) ← Frame.passAll? data frames
    return (parts, { u with transfer := .isoc interval asap frames, actual := 0 })

variable {u : Urb}

theorem slices_bulk (bulk : u.transfer = .bulk) :
    u.slices = if min u.actual u.buffer.bytes.length = 0 then []
      else [u.buffer.bytes.take (min u.actual u.buffer.bytes.length)] := by
  have same : u.buffer.bytes.take u.actual =
      u.buffer.bytes.take (min u.actual u.buffer.bytes.length) := List.take_eq_take_min
  have length : (u.buffer.bytes.take u.actual).length = min u.actual u.buffer.bytes.length :=
    List.length_take
  rw [slices, bulk, ← same, ← length]
  cases u.buffer.bytes.take u.actual with
  | nil => rfl
  | cons b rest => rfl

theorem slices_eq_windows (u : Urb) :
    u.slices = u.windows.map fun w => Bytes.slice u.buffer.bytes w.1 w.2 := by
  cases transfer : u.transfer with
  | bulk =>
    rw [slices_bulk transfer, windows, transfer]
    dsimp only
    split
    next => rfl
    next => simp [Bytes.slice_zero]
  | isoc interval asap frames =>
    rw [slices, windows, transfer]
    dsimp only
    rw [Frame.filter_map_slice, List.filterMap_eq_flatMap_toList, List.map_flatMap]

theorem pass?_eq (small : ∀ f ∈ u.frames, f.offset + f.length < UInt64.size) :
    u.pass? = some (u.slices, u.settled) := by
  cases transfer : u.transfer with
  | bulk =>
    have settled : u.settled = { u with actual := 0 } := by simp [Urb.settled, withFrames, transfer]
    rw [slices_bulk transfer, settled, pass?, transfer]
    dsimp only
    by_cases received : 0 < min u.actual u.buffer.bytes.length
    next =>
      rw [if_pos received, if_neg (Nat.ne_of_gt received),
        Bytes.range?_eq (Nat.zero_le _) (Nat.min_le_right ..), Bytes.slice_zero]
      rfl
    next => rw [if_neg received, if_pos (by omega)]
  | isoc interval asap frames =>
    have all : u.frames = frames := by rw [Urb.frames, transfer]
    rw [all] at small
    rw [pass?, transfer]
    dsimp only
    rw [Frame.passAll?_eq small, slices, settled, all, withFrames, transfer]
    rfl

theorem settled_frames (u : Urb) : u.settled.frames = u.frames.map Frame.settled := by
  cases transfer : u.transfer with
  | bulk => simp [settled, withFrames, frames, transfer]
  | isoc interval asap frames => simp [settled, withFrames, Urb.frames, transfer]

/-- The frames lie side by side and fill the buffer, so that what each of them brought comes from
its own part of it. -/
structure Tiled (frameSize : Nat) (u : Urb) : Prop where
  within : ∀ f ∈ u.frames, f.offset + f.length ≤ u.buffer.bytes.length
  covered : ∀ p < u.buffer.bytes.length,
    ∃! i : Nat, ∃ f, u.frames[i]? = some f ∧ f.Covers p
  parts : u.slices = u.windows.map fun w => Bytes.slice u.buffer.bytes w.1 w.2
  apart : u.windows.Pairwise fun w w' => w.2 ≤ w'.1
  windows : u.windows = u.frames.filterMap (Frame.window? u.buffer.bytes.length)
  own : ∀ i f w, u.frames[i]? = some f → f.window? u.buffer.bytes.length = some w →
    i * frameSize ≤ w.1 ∧ w.1 < w.2 ∧ w.2 ≤ (i + 1) * frameSize

section Tiling

variable {count frameSize : Nat}
variable (places : u.frames.map Frame.place = (framesOf count frameSize).map Frame.place)
include places

theorem length_of_place : u.frames.length = count := by
  simpa [framesOf] using congrArg List.length places

theorem place_of_getElem? {i : Nat} {f : Frame} (here : u.frames[i]? = some f) :
    i < count ∧ f.offset = word (i * frameSize) ∧ f.length = frameSize := by
  have both := congrArg (·[i]?) places
  have given : some f.place =
      (List.range count)[i]?.map fun i => (word (i * frameSize), frameSize) := by
    simpa [here, framesOf, Function.comp_def, Frame.place] using both
  by_cases inside : i < count
  next =>
    rw [List.getElem?_range inside, Option.map_some, Option.some.injEq] at given
    exact ⟨inside, Prod.mk.inj given⟩
  next =>
    rw [List.getElem?_eq_none (by simpa using inside)] at given
    cases given

variable (small : ∀ f ∈ u.frames, f.offset + f.length < UInt64.size)
include small

theorem mul_lt_of_place : count * frameSize < UInt64.size := by
  -- The end of each frame is the place of the next one.
  have reached (i : Nat) (within : i ≤ count) : i * frameSize < UInt64.size := by
    induction i with
    | zero => simp
    | succ i ih =>
      have before := ih (by omega)
      have listed : i < u.frames.length := by
        rw [length_of_place places]
        omega
      obtain ⟨-, offset, length⟩ := place_of_getElem? places (List.getElem?_eq_getElem listed)
      have room := small _ (List.getElem_mem listed)
      rw [offset, length, word_of_lt before, ← Nat.succ_mul] at room
      exact room
  exact reached count (Nat.le_refl count)

theorem getElem?_of_place {i : Nat} {f : Frame} (here : u.frames[i]? = some f) :
    i < count ∧ f.offset = i * frameSize ∧ f.length = frameSize := by
  obtain ⟨inside, offset, length⟩ := place_of_getElem? places here
  have before : i * frameSize ≤ count * frameSize := Nat.mul_le_mul_right frameSize (by omega)
  have whole := mul_lt_of_place places small
  exact ⟨inside, by rw [offset, word_of_lt (by omega)], length⟩

theorem tiled (isoc : u.transfer ≠ .bulk) (size : u.buffer.bytes.length = count * frameSize) :
    u.Tiled frameSize := by
  have contiguous : Frame.Contiguous u.buffer.bytes.length 0 u.frames :=
    size ▸ (Frame.contiguous_framesOf (mul_lt_of_place places small)).of_place places
  have windows : u.windows = u.frames.filterMap (Frame.window? u.buffer.bytes.length) := by
    cases transfer : u.transfer with
    | bulk => exact absurd transfer isoc
    | isoc interval asap frames => simp only [Urb.windows, Urb.frames, transfer]
  refine ⟨contiguous.within, fun p inside => ?_, u.slices_eq_windows, ?_, windows, ?_⟩
  next =>
    rw [size] at inside
    have number : p / frameSize < u.frames.length := by
      rw [length_of_place places]
      exact Nat.div_lt_of_lt_mul (Nat.mul_comm count frameSize ▸ inside)
    have some : 0 < frameSize := Nat.pos_of_ne_zero fun none => by simp [none] at inside
    -- All frames have the same size, so that division tells which of them a byte is in.
    refine ⟨p / frameSize, ⟨u.frames[p / frameSize], List.getElem?_eq_getElem number, ?_⟩, ?_⟩
    next =>
      obtain ⟨-, offset, length⟩ := getElem?_of_place places small (List.getElem?_eq_getElem number)
      rw [Frame.Covers, offset, length]
      exact ⟨Nat.div_mul_le_self p frameSize, Nat.lt_div_mul_add some⟩
    next =>
      rintro i ⟨f, here, from_start, to_end⟩
      obtain ⟨-, offset, length⟩ := getElem?_of_place places small here
      rw [offset] at from_start to_end
      rw [length, ← Nat.succ_mul] at to_end
      exact (Nat.div_eq_of_lt_le from_start to_end).symm
  next =>
    rw [windows]
    exact Frame.pairwise_window? contiguous.pairwise
  next =>
    intro i f w here some
    obtain ⟨-, offset, length⟩ := getElem?_of_place places small here
    obtain ⟨-, rfl, filled⟩ := Frame.window?_eq_some some
    have reach := (f.stop_le u.buffer.bytes.length).1
    rw [offset] at filled reach ⊢
    rw [length] at reach
    exact ⟨Nat.le_refl _, filled, Nat.succ_mul i frameSize ▸ reach⟩

end Tiling

/-- Whatever the bus left in a request, its data is passed on within bounds and exactly: that of a
bulk request from the start of the buffer, that of the others frame by frame, except for frames at
fault. Then all is as it was but for the lengths and the faults. -/
theorem delivered_exactly (u : Urb) (small : ∀ f ∈ u.frames, f.offset + f.length < UInt64.size) :
    let data := u.buffer.bytes
    u.pass? = some (u.slices, u.settled) ∧
    (u.transfer = .bulk → u.slices =
      if min u.actual data.length = 0 then [] else [data.take (min u.actual data.length)]) ∧
    (∀ interval asap frames, u.transfer = .isoc interval asap frames →
      u.slices = frames.flatMap fun f =>
        let stop := min (f.offset + min f.actual f.length) data.length
        if f.status = .ok ∧ f.offset < stop then [Bytes.slice data f.offset stop] else []) ∧
    (∀ f ∈ u.settled.frames, f.status = .ok ∧ f.actual = 0) ∧ u.settled.actual = 0 ∧
    u.settled.frames.map Frame.place = u.frames.map Frame.place ∧ u.settled.buffer = u.buffer ∧
    ∀ key layout buffer count frameSize interval,
      layout.shape = .isoc count frameSize interval →
      buffer.bytes.length = count * frameSize →
      u.transfer ≠ .bulk → data.length = buffer.bytes.length →
      u.frames.map Frame.place = (ofLayout key layout buffer).frames.map Frame.place →
      u.Tiled frameSize := by
  intro data
  refine ⟨pass?_eq small, slices_bulk, fun interval asap frames transfer => ?_, ?_, rfl, ?_, ?_, ?_⟩
  next =>
    rw [slices, transfer]
    dsimp only
    rw [Frame.filter_map_slice]
    refine List.flatMap_congr fun f present => ?_
    -- No frame ends beyond a word, so that the sum below is the one that the code comes to.
    have listed : f ∈ u.frames := by rwa [Urb.frames, transfer]
    rw [Frame.window?, Frame.stop_of_lt _ (small f listed)]
    split <;> rfl
  next =>
    rw [settled_frames, List.forall_mem_map]
    exact fun f _ => ⟨rfl, rfl⟩
  next =>
    rw [settled_frames, List.map_map]
    rfl
  next => exact buffer_withFrames u _
  next =>
    intro key layout buffer count frameSize interval shape room isoc size places
    refine tiled ?_ small isoc (size.trans room)
    simpa [ofLayout, frames, shape] using places

theorem delivered_exactly_isoc :
    let layout : Layout := ⟨1, 2, .isoc 3 4 1⟩
    let buffer : Buffer := ⟨0, [0, 1, 2, 3, 4, 5, 6, 7, 8, 9, 10, 11]⟩
    let u := (ofLayout ⟨1, 0⟩ layout buffer).fill
      { frames := [{ actual := some 9 }, { actual := some 4, status := some .stall },
          { actual := some 2 }] }
    (∀ f ∈ u.frames, f.offset + f.length < UInt64.size) ∧ u.transfer ≠ .bulk ∧
      u.slices = [[0, 1, 2, 3], [8, 9]] ∧ u.pass? = some (u.slices, u.settled) ∧ u.Tiled 4 := by
  intro layout buffer u
  have small : ∀ f ∈ u.frames, f.offset + f.length < UInt64.size := by decide
  have isoc : u.transfer ≠ .bulk := by decide
  obtain ⟨passed, -, -, -, -, -, -, tiled⟩ := delivered_exactly u small
  exact ⟨small, isoc, rfl, passed, tiled ⟨1, 0⟩ layout buffer 3 4 1 rfl rfl isoc rfl rfl⟩

end Urb

end DvbReceiver

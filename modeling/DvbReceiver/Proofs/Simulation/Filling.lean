import DvbReceiver.Proofs.Packet.Sequence
import DvbReceiver.Simulation.Generator
import Mathlib.Data.List.Forall2

set_option autoImplicit false

namespace DvbReceiver

namespace Bytes

theorem slice_eq (data : Bytes) (start stop : Nat) :
    slice data start stop = (data.take stop).drop start :=
  List.drop_take.symm

theorem slice_congr {data data' : Bytes} {start stop reach : Nat} (within : stop ≤ reach)
    (same : data'.take reach = data.take reach) :
    slice data' start stop = slice data start stop := by
  have front := congrArg (List.take stop) same
  rw [List.take_take, List.take_take, Nat.min_eq_left within] at front
  rw [slice_eq, slice_eq, front]

theorem take_overwrite (data : Bytes) (offset : Nat) (src : Bytes) :
    (overwrite data offset src).take offset = data.take offset := by
  by_cases inside : offset ≤ data.length
  · simp [overwrite, inside]
  · have beyond : data.length ≤ offset := by omega
    simp [overwrite, Nat.sub_eq_zero_of_le beyond]

theorem slice_overwrite {data : Bytes} {offset : Nat} {src : Bytes}
    (fits : offset + src.length ≤ data.length) :
    slice (overwrite data offset src) offset (offset + src.length) = src := by
  have all : src.take (data.length - offset) = src := List.take_of_length_le (by omega)
  have front : (data.take offset).length = offset := by simp; omega
  simp [slice, overwrite, all, front]

end Bytes

namespace Frame

def place (f : Frame) : Nat × Nat :=
  (f.offset, f.length)

def Contiguous (size : Nat) : Nat → List Frame → Prop
  | _, [] => True
  | start, f :: rest =>
    f.offset = start ∧ start + f.length ≤ size ∧ Contiguous size (start + f.length) rest

/-- The whole packets that a frame has room for, unless it was lost. -/
def packets (data : Bytes) (f : Frame) : Bytes :=
  if f.status = .ok then
    Bytes.slice data f.offset (f.offset + f.length / Packet.size * Packet.size)
  else []

variable {size start : Nat} {frames frames' : List Frame}

theorem Contiguous.within (contiguous : Contiguous size start frames) :
    ∀ f ∈ frames, f.offset + f.length ≤ size := by
  induction frames generalizing start with
  | nil => simp
  | cons f rest ih =>
    obtain ⟨here, room, others⟩ := contiguous
    exact List.forall_mem_cons.2 ⟨here ▸ room, ih others⟩

theorem Contiguous.of_place (contiguous : Contiguous size start frames)
    (same : frames'.map place = frames.map place) : Contiguous size start frames' := by
  induction frames generalizing start frames' with
  | nil =>
    rw [List.map_eq_nil_iff.1 same]
    trivial
  | cons f rest ih =>
    obtain ⟨f', rest', rfl, head, tail⟩ := List.map_eq_cons_iff.1 same
    obtain ⟨here, room, others⟩ := contiguous
    obtain ⟨offset, length⟩ := Prod.mk.inj head
    exact ⟨offset.trans here, by rwa [length], by rw [length]; exact ih others tail⟩

theorem framesOf_eq {count frameSize : Nat} (small : count * frameSize < UInt64.size) :
    Urb.framesOf count frameSize =
      (List.range count).map fun i => ⟨i * frameSize, frameSize, 0, .ok⟩ := by
  refine List.map_congr_left fun i listed => ?_
  have before : i * frameSize ≤ count * frameSize :=
    Nat.mul_le_mul_right frameSize (Nat.le_of_lt (List.mem_range.1 listed))
  rw [word_of_lt (by omega)]

theorem contiguous_framesOf {count frameSize : Nat} (small : count * frameSize < UInt64.size) :
    Contiguous (count * frameSize) 0 (Urb.framesOf count frameSize) := by
  -- On the frames that are left, any number of them being placed already.
  have from_first (left first : Nat) : Contiguous ((first + left) * frameSize) (first * frameSize)
      ((List.range' first left).map fun i => ⟨i * frameSize, frameSize, 0, .ok⟩) := by
    induction left generalizing first with
    | zero => trivial
    | succ left ih =>
      have next : first * frameSize + frameSize = (first + 1) * frameSize :=
        (Nat.succ_mul first frameSize).symm
      have later := ih (first + 1)
      rw [Nat.succ_add_eq_add_succ] at later
      rw [List.range'_succ]
      refine ⟨rfl, ?_, ?_⟩
      · dsimp only
        rw [next]
        exact Nat.mul_le_mul_right frameSize (by omega)
      · dsimp only
        rw [next]
        exact later
  have all := from_first count 0
  rw [Nat.zero_add, Nat.zero_mul, ← List.range_eq_range', ← framesOf_eq small] at all
  exact all

variable {data data' : Bytes} {f : Frame}

theorem slice_congr (size : data'.length = data.length)
    (front : data'.take (f.offset + f.length) = data.take (f.offset + f.length)) :
    f.slice data' = f.slice data := by
  unfold slice
  rw [size, Bytes.slice_congr (f.stop_le data.length).1 front]

theorem packets_congr
    (front : data'.take (f.offset + f.length) = data.take (f.offset + f.length)) :
    f.packets data' = f.packets data := by
  have whole : f.length / Packet.size * Packet.size ≤ f.length := Nat.div_mul_le_self ..
  unfold packets
  rw [Bytes.slice_congr (by omega) front]

theorem slice_overwrite (f : Frame) (ok : f.status = .ok) (actual : f.actual = data.length)
    (fits : data.length ≤ f.length) (room : f.offset + f.length ≤ data'.length)
    (small : data'.length < UInt64.size) :
    f.slice (Bytes.overwrite data' f.offset data) = data := by
  have reach : f.stop data'.length = f.offset + data.length := by
    rw [stop_of_lt data'.length (by omega)]
    omega
  rw [slice, if_pos ok, Bytes.length_overwrite, reach, Bytes.slice_overwrite (by omega)]

theorem packets_overwrite (f : Frame) (ok : f.status = .ok)
    (whole : data.length = f.length / Packet.size * Packet.size)
    (room : f.offset + f.length ≤ data'.length) :
    f.packets (Bytes.overwrite data' f.offset data) = data := by
  have fits : f.length / Packet.size * Packet.size ≤ f.length := Nat.div_mul_le_self ..
  rw [packets, if_pos ok, ← whole, Bytes.slice_overwrite (by omega)]

end Frame

namespace Urb

/-- Its frames lie side by side in its buffer, which is no larger than a word, and only a bulk
request has none. -/
structure Shaped (u : Urb) : Prop where
  frames : Frame.Contiguous u.buffer.bytes.length 0 u.frames
  small : u.frames ≠ [] → u.buffer.bytes.length < UInt64.size
  bulk : u.frames = [] → u.transfer = .bulk

def packets (u : Urb) : List Bytes :=
  let data := u.buffer.bytes
  match u.transfer with
  | .bulk => [data.take (data.length / Packet.size * Packet.size)].filter (!·.isEmpty)
  | .isoc _ _ frames => (frames.map (Frame.packets data)).filter (!·.isEmpty)

variable {u u' : Urb}

theorem Shaped.of_place (shaped : u.Shaped) (transfer : u.transfer = .bulk → u'.transfer = .bulk)
    (places : u'.frames.map Frame.place = u.frames.map Frame.place)
    (size : u'.buffer.bytes.length = u.buffer.bytes.length) : u'.Shaped where
  frames := by
    rw [size]
    exact shaped.frames.of_place places
  small some := by
    rw [size]
    refine shaped.small fun none => some ?_
    rw [none] at places
    exact List.map_eq_nil_iff.1 places
  bulk none := by
    rw [none] at places
    exact transfer (shaped.bulk (List.map_eq_nil_iff.1 places.symm))

theorem shaped_ofLayout (key : UrbKey) {layout : Layout} {buffer : Buffer}
    (good : layout.problem? = none) (fits : layout.Fits)
    (size : buffer.bytes.length = layout.bufferSize) : (ofLayout key layout buffer).Shaped := by
  have some : layout.bufferSize ≠ 0 := by
    intro empty
    simp only [Layout.problem?, empty] at good
    split at good
    next => cases good
    next => split at good <;> cases good
  cases shape : layout.shape with
  | bulk =>
    have none : (ofLayout key layout buffer).frames = [] := by simp [ofLayout, frames, shape]
    exact ⟨by simp [none, Frame.Contiguous], absurd none, by simp [ofLayout, shape]⟩
  | isoc count frameSize interval =>
    replace fits : count * frameSize < UInt64.size := by
      simp only [Layout.Fits, shape] at fits
      exact Nat.lt_of_le_of_lt fits (by decide)
    simp only [Layout.bufferSize, shape, word_of_lt fits] at size some
    constructor
    · simp only [ofLayout, shape, frames, size]
      exact Frame.contiguous_framesOf fits
    · intro _
      rw [ofLayout, size]
      exact fits
    · intro none
      simp only [ofLayout, shape, frames, framesOf, List.map_eq_nil_iff, List.range_eq_nil] at none
      -- Without frames the buffer would be empty, which the layout rules out.
      exact absurd (by rw [none, Nat.zero_mul]) some

theorem Shaped.dvd_packets (shaped : u.Shaped) :
    ∀ data ∈ u.packets, Packet.size ∣ data.length := by
  have whole (n : Nat) : n / Packet.size * Packet.size ≤ n := Nat.div_mul_le_self ..
  intro data there
  unfold packets at there
  dsimp only at there
  split at there
  next =>
    obtain rfl := List.mem_singleton.1 (List.mem_filter.1 there).1
    rw [List.length_take, Nat.min_eq_left (whole _)]
    exact Nat.dvd_mul_left ..
  next transfer =>
    obtain ⟨f, present, rfl⟩ := List.mem_map.1 (List.mem_filter.1 there).1
    have room := shaped.frames.within f (by simpa [Urb.frames, transfer] using present)
    have less := whole f.length
    unfold Frame.packets
    split
    next =>
      rw [Bytes.length_slice, Nat.add_sub_cancel_left, Nat.min_eq_left (by omega)]
      exact Nat.dvd_mul_left ..
    next => exact Nat.dvd_zero _

theorem Shaped.settled (shaped : u.Shaped) : u.settled.Shaped := by
  have size : u.settled.buffer.bytes.length = u.buffer.bytes.length :=
    congrArg (·.bytes.length) (buffer_withFrames u _)
  cases transfer : u.transfer with
  | bulk =>
    have same : u.settled.transfer = u.transfer := by simp [Urb.settled, withFrames, transfer]
    exact shaped.of_place (fun bulk => same.trans bulk) (by simp only [Urb.frames, same]) size
  | isoc =>
    have reset : u.settled.frames = u.frames.map Frame.settled :=
      frames_withFrames u _ (by simp [transfer])
    refine shaped.of_place (fun bulk => by simp [transfer] at bulk) ?_ size
    rw [reset, List.map_map]
    rfl

theorem Shaped.result (shaped : u.Shaped) (status : Status) (actual : Nat) :
    (u.fill (.result status actual)).Shaped := by
  have same : (u.fill (.result status actual)).transfer = u.transfer := by
    cases transfer : u.transfer <;>
      simp [Urb.fill, Fill.result, withFrames, transfer, FrameFill.applyAll, Urb.frames]
  refine shaped.of_place (fun bulk => same.trans bulk) ?_ (u.length_fill _)
  simp only [Urb.frames, same]

end Urb

namespace Simulation.Generator

open Packet (Source)

/-- What becomes of a frame that the bus can fill: it is lost, or the next packets go into it, as
many as it has room for. -/
inductive FrameStep (g : Generator) (f : Frame) : FrameFill → Generator → Prop
  | lost (missed : g.losesFrame (g.frames + 1) = true) :
    FrameStep g f { actual := some 0, status := some lost } { g with frames := g.frames + 1 }
  | filled (data : Bytes) (source : Source) (kept : ¬ g.losesFrame (g.frames + 1) = true)
      (taken : g.source.take (f.length / Packet.size) = (data, source)) :
    FrameStep g f { data := some data, status := some .ok }
      { g with frames := g.frames + 1, source }

inductive FrameSteps : Generator → List Frame → List FrameFill → Generator → Prop
  | nil (g : Generator) : FrameSteps g [] [] g
  | cons {g g₁ g' : Generator} {f : Frame} {rest : List Frame} {fill : FrameFill}
      {fills : List FrameFill} (first : FrameStep g f fill g₁)
      (others : FrameSteps g₁ rest fills g') : FrameSteps g (f :: rest) (fill :: fills) g'

variable {g g₁ g' : Generator} {f : Frame} {frames : List Frame} {fill : FrameFill}
  {fills : List FrameFill} {bytes : Bytes} {size start : Nat}

theorem frameStep_fillFrame (g : Generator) (room : f.offset + f.length ≤ size)
    (small : size < UInt64.size) :
    ∃ fill g', g.fillFrame size f = some (fill, g') ∧ FrameStep g f fill g' := by
  unfold fillFrame
  dsimp only
  split
  next missed => exact ⟨_, _, rfl, .lost missed⟩
  next kept =>
    have all : room? size f = some f.length := by
      have stop : min (word (f.offset + f.length)) size = f.offset + f.length := by
        rw [word_of_lt (by omega)]
        omega
      simp [room?, stop]
    rw [all]
    exact ⟨_, _, rfl, .filled _ _ kept rfl⟩

theorem frameSteps_fillFrames (g : Generator) (room : ∀ f ∈ frames, f.offset + f.length ≤ size)
    (small : frames ≠ [] → size < UInt64.size) :
    ∃ fills g', g.fillFrames size frames = some (fills, g') ∧ FrameSteps g frames fills g' := by
  induction frames generalizing g with
  | nil => exact ⟨[], g, rfl, .nil g⟩
  | cons f rest ih =>
    have small := small (List.cons_ne_nil f rest)
    obtain ⟨here, later⟩ := List.forall_mem_cons.1 room
    obtain ⟨fill, g₁, first, step⟩ := g.frameStep_fillFrame here small
    obtain ⟨fills, g', others, steps⟩ := ih g₁ later fun _ => small
    refine ⟨fill :: fills, g', ?_, .cons step steps⟩
    simp [fillFrames, first, others]

structure Brought (source : Source) (data : Bytes) (f : Frame) (source' : Source) : Prop where
  taken : ∃ n, source.take n = (f.slice data, source')
  packets : f.slice data = f.packets data

theorem FrameStep.brought (step : FrameStep g f fill g')
    (room : f.offset + f.length ≤ bytes.length) (small : bytes.length < UInt64.size) :
    Brought g.source (fill.apply bytes f).1 (fill.apply bytes f).2 g'.source := by
  cases step with
  | lost => exact ⟨⟨0, rfl⟩, rfl⟩
  | filled data source kept taken =>
    have length := Source.length_take (f.length / Packet.size) g.source
    rw [taken] at length
    have fits : data.length ≤ f.length := by
      rw [length]
      exact Nat.div_mul_le_self ..
    let filled : Frame := { f with actual := data.length, status := .ok }
    have room : filled.offset + filled.length ≤ bytes.length := room
    have slice : filled.slice (Bytes.overwrite bytes f.offset data) = data :=
      filled.slice_overwrite rfl rfl fits room small
    have packets : filled.packets (Bytes.overwrite bytes f.offset data) = data :=
      filled.packets_overwrite rfl length room
    exact ⟨⟨f.length / Packet.size, taken.trans (Prod.ext slice.symm rfl)⟩,
      slice.trans packets.symm⟩

theorem FrameStep.place (step : FrameStep g f fill g') (bytes : Bytes) :
    (fill.apply bytes f).2.place = f.place := by
  cases step with
  | lost => rfl
  | filled => rfl

theorem FrameStep.take (step : FrameStep g f fill g') (bytes : Bytes) :
    (fill.apply bytes f).1.take f.offset = bytes.take f.offset := by
  cases step with
  | lost => rfl
  | filled data => exact Bytes.take_overwrite bytes f.offset data

structure Laid (source : Source) (start : Nat) (bytes : Bytes) (frames : List Frame)
    (bytes' : Bytes) (frames' : List Frame) (source' : Source) : Prop where
  places : frames'.map Frame.place = frames.map Frame.place
  front : bytes'.take start = bytes.take start
  packets : ∀ f ∈ frames', f.slice bytes' = f.packets bytes'
  taken : ∃ n, source.take n = ((frames'.map (Frame.slice bytes')).flatten, source')

theorem Laid.cons {source source₁ source' : Source} {bytes bytes₁ bytes' : Bytes}
    {f f₁ : Frame} {rest rest' : List Frame} (place : f₁.place = f.place)
    (front : bytes₁.take f.offset = bytes.take f.offset)
    (brought : Brought source bytes₁ f₁ source₁) (size : bytes'.length = bytes₁.length)
    (later : Laid source₁ (f.offset + f.length) bytes₁ rest bytes' rest' source') :
    Laid source f.offset bytes (f :: rest) bytes' (f₁ :: rest') source' := by
  obtain ⟨offset, length⟩ := Prod.mk.inj place
  -- The frames behind this one left its bytes alone.
  have untouched : bytes'.take (f₁.offset + f₁.length) = bytes₁.take (f₁.offset + f₁.length) := by
    rw [offset, length]
    exact later.front
  have same := Frame.slice_congr size untouched
  constructor
  next => rw [List.map_cons, List.map_cons, place, later.places]
  next =>
    have shorter := congrArg (List.take f.offset) later.front
    rw [List.take_take, List.take_take, Nat.min_eq_left (Nat.le_add_right ..)] at shorter
    exact shorter.trans front
  next =>
    refine List.forall_mem_cons.2 ⟨?_, later.packets⟩
    rw [same, brought.packets, Frame.packets_congr untouched]
  next =>
    obtain ⟨n, first⟩ := brought.taken
    obtain ⟨m, others⟩ := later.taken
    refine ⟨n + m, ?_⟩
    rw [Source.take_add, first, others, List.map_cons, List.flatten_cons, same]

theorem FrameSteps.laid (steps : FrameSteps g frames fills g')
    (contiguous : Frame.Contiguous bytes.length start frames)
    (small : frames ≠ [] → bytes.length < UInt64.size) :
    Laid g.source start bytes frames (FrameFill.applyAll fills bytes frames).1
      (FrameFill.applyAll fills bytes frames).2 g'.source := by
  induction steps generalizing start bytes with
  | nil g => exact ⟨rfl, rfl, by simp [FrameFill.applyAll], 0, rfl⟩
  | @cons g g₁ g' f rest fill fills first others ih =>
    have small := small (List.cons_ne_nil f rest)
    obtain ⟨rfl, room, further⟩ := contiguous
    have size := FrameFill.length_apply fill bytes f
    rw [← size] at further
    have later := ih further fun _ => size ▸ small
    exact .cons (first.place bytes) (first.take bytes) (first.brought room small)
      ((FrameFill.length_applyAll ..).1.trans size.symm) later

def frameStatus (g : Generator) (number : Nat) : Status :=
  if g.losesFrame number then lost else .ok

structure Numbered (g : Generator) (frames : List Frame) (g' : Generator) : Prop where
  loseEvery : g'.loseEvery = g.loseEvery
  count : g'.frames = g.frames + frames.length
  statuses : frames.map (·.status) =
    (List.range' (g.frames + 1) frames.length).map g.frameStatus

theorem FrameStep.numbered (step : FrameStep g f fill g') (bytes : Bytes) :
    Numbered g [(fill.apply bytes f).2] g' := by
  cases step with
  | lost missed => exact ⟨rfl, rfl, by simp [FrameFill.apply, frameStatus, missed]⟩
  | filled data source kept => exact ⟨rfl, rfl, by simp [FrameFill.apply, frameStatus, kept]⟩

theorem Numbered.append {earlier later : List Frame} (first : Numbered g earlier g₁)
    (second : Numbered g₁ later g') : Numbered g (earlier ++ later) g' where
  loseEvery := second.loseEvery.trans first.loseEvery
  count := by rw [second.count, first.count, List.length_append, Nat.add_assoc]
  statuses := by
    have same : g₁.frameStatus = g.frameStatus := by
      funext number
      have missed : g₁.losesFrame number = g.losesFrame number := by
        simp only [losesFrame, first.loseEvery]
      rw [frameStatus, frameStatus, missed]
    have next : g.frames + earlier.length + 1 = g.frames + 1 + earlier.length := by omega
    rw [List.map_append, first.statuses, second.statuses, same, first.count, next,
      List.length_append, ← List.map_append, List.range'_append_1]

theorem FrameSteps.numbered (steps : FrameSteps g frames fills g') (bytes : Bytes) :
    Numbered g (FrameFill.applyAll fills bytes frames).2 g' := by
  induction steps generalizing bytes with
  | nil g => exact ⟨rfl, rfl, rfl⟩
  | cons first others ih => exact (first.numbered bytes).append (ih _)

def Fits (size : Nat) (f : Frame) (fill : FrameFill) : Prop :=
  fill.offset = none ∧ (fill.data.getD []).length ≤ f.length ∧ f.offset + f.length ≤ size

structure Inside (u : Urb) (fill : Fill) : Prop where
  bulk : ∀ data, fill.data = some data → data.length ≤ u.buffer.bytes.length
  frames : List.Forall₂ (Fits u.buffer.bytes.length) u.frames fill.frames

theorem FrameStep.fits (step : FrameStep g f fill g') (room : f.offset + f.length ≤ size) :
    Fits size f fill := by
  cases step with
  | lost => exact ⟨rfl, Nat.zero_le _, room⟩
  | filled data source kept taken =>
    have length := Source.length_take (f.length / Packet.size) g.source
    rw [taken] at length
    refine ⟨rfl, ?_, room⟩
    rw [Option.getD_some, length]
    exact Nat.div_mul_le_self ..

theorem FrameSteps.fits (steps : FrameSteps g frames fills g')
    (room : ∀ f ∈ frames, f.offset + f.length ≤ size) :
    List.Forall₂ (Fits size) frames fills := by
  induction steps with
  | nil => exact .nil
  | cons first others ih =>
    obtain ⟨here, later⟩ := List.forall_mem_cons.1 room
    exact .cons (first.fits here) (ih later)

/-- A request that is filled within its buffer. As it comes back it passes on all that the buffer
holds of whole packets, and those are the next ones. -/
structure Served (g : Generator) (u : Urb) (fill : Fill) (g' : Generator) : Prop where
  inside : Inside u fill
  status : (u.fill fill).status = .ok
  shaped : (u.fill fill).Shaped
  packets : (u.fill fill).slices = (u.fill fill).packets
  taken : ∃ n, g.source.take n = ((u.fill fill).slices.flatten, g'.source)
  numbered : Numbered g (u.fill fill).frames g'

theorem served_bulk (g : Generator) {u : Urb} (transfer : u.transfer = .bulk) :
    ∃ fill g', g.fillFor u = some (fill, g') ∧ Served g u fill g' := by
  have none : u.frames = [] := by simp [Urb.frames, transfer]
  have whole : u.buffer.bytes.length / Packet.size * Packet.size ≤ u.buffer.bytes.length :=
    Nat.div_mul_le_self ..
  let data := (g.source.fit u.buffer.bytes.length).1
  let source := (g.source.fit u.buffer.bytes.length).2
  have filled : g.fillFor u = some ({ data := some data }, { g with source }) := by
    simp [fillFor, none, data, source]
  have length : data.length = u.buffer.bytes.length / Packet.size * Packet.size :=
    Source.length_take ..
  have fits : 0 + data.length ≤ u.buffer.bytes.length := by omega
  have written : (Bytes.overwrite u.buffer.bytes 0 data).take data.length = data := by
    have front := Bytes.slice_overwrite fits
    rwa [Bytes.slice_eq, List.drop_zero, Nat.zero_add] at front
  -- As it comes back: its length is that of the packets, not that of the buffer.
  have result : u.fill { data := some data } =
      { u with
        buffer := { u.buffer with bytes := Bytes.overwrite u.buffer.bytes 0 data }
        status := .ok
        actual := data.length } := by
    have received : min data.length u.buffer.bytes.length = data.length := by omega
    simp only [Urb.fill, FrameFill.applyAll, none, Urb.withFrames, transfer, Option.map_some,
      Option.getD_some, Option.getD_none, received]
  refine ⟨{ data := some data }, { g with source }, filled, ?_⟩
  constructor
  next =>
    refine ⟨fun other same => ?_, by simp [none]⟩
    cases same
    omega
  next => rw [result]
  next =>
    have empty : (u.fill { data := some data }).frames = [] := by
      simp [result, Urb.frames, transfer]
    exact ⟨by simp [empty, Frame.Contiguous], absurd empty, fun _ => by rw [result, transfer]⟩
  next => simp only [result, Urb.slices, Urb.packets, transfer, Bytes.length_overwrite, length]
  next =>
    refine ⟨u.buffer.bytes.length / Packet.size, ?_⟩
    simp only [result, Urb.slices, transfer, written, List.flatten_filter_not_isEmpty,
      List.flatten_singleton]
    rfl
  next =>
    simp only [result, Urb.frames, transfer]
    exact ⟨rfl, rfl, rfl⟩

theorem served_isoc (g : Generator) {u : Urb} (shaped : u.Shaped) (transfer : u.transfer ≠ .bulk) :
    ∃ fill g', g.fillFor u = some (fill, g') ∧ Served g u fill g' := by
  have some : u.frames ≠ [] := fun none => transfer (shaped.bulk none)
  obtain ⟨fills, g', filled, steps⟩ := g.frameSteps_fillFrames shaped.frames.within shaped.small
  -- One induction over the frames, seen from three sides.
  have laid := steps.laid shaped.frames shaped.small
  have numbered := steps.numbered u.buffer.bytes
  have fits := steps.fits shaped.frames.within
  refine ⟨{ frames := fills, actual := .some (received fills).length }, g', ?_, ?_⟩
  · simp [fillFor, some, filled]
  · cases kind : u.transfer with
    | bulk => exact absurd kind transfer
    | isoc interval asap frames =>
      have listed : u.frames = frames := by simp [Urb.frames, kind]
      have result : u.fill { frames := fills, actual := .some (received fills).length } =
          { u with
            buffer := { u.buffer with
              bytes := (FrameFill.applyAll fills u.buffer.bytes u.frames).1 }
            transfer := .isoc interval asap (FrameFill.applyAll fills u.buffer.bytes u.frames).2
            status := .ok
            actual := (received fills).length } := by
        simp [Urb.fill, Urb.withFrames, kind]
      constructor
      next => exact ⟨fun data absent => by simp at absent, fits⟩
      next => rw [result]
      next =>
        rw [result]
        exact shaped.of_place (fun bulk => absurd bulk transfer) laid.places
          (FrameFill.length_applyAll ..).1
      next =>
        rw [result]
        exact congrArg (List.filter _) (List.map_congr_left laid.packets)
      next =>
        obtain ⟨n, taken⟩ := laid.taken
        refine ⟨n, ?_⟩
        rw [result, taken, Urb.slices, List.flatten_filter_not_isEmpty]
      next =>
        rw [result]
        exact numbered

theorem served (g : Generator) {u : Urb} (shaped : u.Shaped) :
    ∃ fill g', g.fillFor u = some (fill, g') ∧ Served g u fill g' := by
  by_cases transfer : u.transfer = .bulk
  next => exact served_bulk g transfer
  next => exact served_isoc g shaped transfer

theorem serve_of_fillFor {u : Urb} {fill : Fill} (filled : g.fillFor u = some (fill, g')) :
    g.serve u = some (u.fill fill, g') := by
  rw [serve, filled]
  rfl

end Simulation.Generator

end DvbReceiver

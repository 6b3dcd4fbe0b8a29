import DvbReceiver.Stream
import Mathlib.Data.List.Nodup

set_option autoImplicit false

namespace DvbReceiver

structure UrbIdentity where
  key : UrbKey
  pipe : Pipe
  address : Nat
  size : Nat
  deriving DecidableEq, Repr

def Urb.identity (u : Urb) : UrbIdentity :=
  ⟨u.key, u.pipe, u.buffer.address, u.buffer.bytes.length⟩

@[simp] theorem Urb.identity_withFrames (u : Urb) (frames : List Frame) :
    (u.withFrames frames).identity = u.identity := by
  unfold withFrames
  split <;> rfl

@[simp] theorem Urb.identity_fill (u : Urb) (fill : Fill) : (u.fill fill).identity = u.identity := by
  have size := length_fill u fill
  have key := key_fill u fill
  have rest : (u.fill fill).pipe = u.pipe ∧ (u.fill fill).buffer.address = u.buffer.address := by
    simp only [Urb.fill, withFrames]
    split <;> simp
  simp [identity, size, key, rest]

@[simp] theorem Urb.identity_settled (u : Urb) : u.settled.identity = u.identity := by
  have same := identity_withFrames u (u.frames.map Frame.settled)
  simpa [settled, identity] using same

theorem Urb.key_of_identity {u v : Urb} (same : u.identity = v.identity) : u.key = v.key :=
  congrArg UrbIdentity.key same

theorem Urb.key_settled (u : Urb) : u.settled.key = u.key :=
  key_of_identity (identity_settled u)

def ofStream (stream : Nat) (queue : List Urb) : List Urb :=
  queue.filter (·.key.stream == stream)

def ofOthers (stream : Nat) (queue : List Urb) : List Urb :=
  queue.filter (·.key.stream != stream)

theorem ofStream_eq_of_ofOthers {stream other : Nat} {queue queue' : List Urb}
    (same : ofOthers stream queue' = ofOthers stream queue) (different : other ≠ stream) :
    ofStream other queue' = ofStream other queue := by
  have narrow (q : List Urb) : ofStream other q = (ofOthers stream q).filter (·.key.stream == other) := by
    simp only [ofStream, ofOthers, List.filter_filter]
    refine List.filter_congr fun u _ => ?_
    by_cases mine : u.key.stream = other <;> simp [mine, different]
  rw [narrow, narrow, same]

@[simp] theorem ofStream_append (stream : Nat) (first second : List Urb) :
    ofStream stream (first ++ second) = ofStream stream first ++ ofStream stream second :=
  List.filter_append ..

@[simp] theorem ofOthers_append (stream : Nat) (first second : List Urb) :
    ofOthers stream (first ++ second) = ofOthers stream first ++ ofOthers stream second :=
  List.filter_append ..

theorem ofStream_cons_own {stream : Nat} {u : Urb} (own : u.key.stream = stream)
    (queue : List Urb) : ofStream stream (u :: queue) = u :: ofStream stream queue := by
  simp [ofStream, own]

theorem ofStream_cons_foreign {stream : Nat} {u : Urb} (foreign : u.key.stream ≠ stream)
    (queue : List Urb) : ofStream stream (u :: queue) = ofStream stream queue := by
  simp [ofStream, foreign]

theorem ofOthers_cons_own {stream : Nat} {u : Urb} (own : u.key.stream = stream)
    (queue : List Urb) : ofOthers stream (u :: queue) = ofOthers stream queue := by
  simp [ofOthers, own]

@[simp] theorem ofStream_nil (stream : Nat) : ofStream stream [] = [] := rfl

@[simp] theorem ofOthers_nil (stream : Nat) : ofOthers stream [] = [] := rfl

theorem ofStream_eq_nil_iff {stream : Nat} {queue : List Urb} :
    ofStream stream queue = [] ↔ ∀ u ∈ queue, u.key.stream ≠ stream := by
  simp [ofStream, List.filter_eq_nil_iff]

theorem countP_ofStream (stream index : Nat) (queue : List Urb) :
    (ofStream stream queue).countP (·.key == ⟨stream, index⟩) =
      queue.countP (·.key == ⟨stream, index⟩) := by
  rw [ofStream, List.countP_filter]
  refine List.countP_congr fun u _ => ?_
  by_cases here : u.key = ⟨stream, index⟩ <;> simp [here]

/-- The places of a stream's requests: in the `hand` of whoever moves them, or queued, or `parked` at
their own index. Each request of the roster is in one of them and in no other. -/
structure Custody (stream : Nat) (roster : List UrbIdentity) (queue hand : List Urb)
    (parked : List (Option Urb)) : Prop where
  all : ((hand ++ (ofStream stream queue ++ parked.filterMap id)).map Urb.identity).Perm roster
  keys : roster.map (·.key) = (List.range parked.length).map (UrbKey.mk stream)
  home : ∀ (i : Nat) (u : Urb), parked[i]? = some (some u) → u.key.index = i

theorem filterMap_set_some {parked : List (Option Urb)} {i : Nat} (u : Urb)
    (vacant : parked[i]? = some none) :
    ((parked.set i (some u)).filterMap id).Perm (u :: parked.filterMap id) := by
  -- On the list of places, since the one that is filled can be anywhere in it.
  induction parked generalizing i with
  | nil => simp at vacant
  | cons p rest ih =>
    cases i with
    | zero =>
      simp at vacant
      simp [vacant]
    | succ i =>
      have later := ih (i := i) (by simpa using vacant)
      cases p with
      | none => simpa using later
      | some v => simpa using (later.cons v).trans (List.Perm.swap u v _)

theorem filterMap_set_none {parked : List (Option Urb)} {i : Nat} {u : Urb}
    (present : parked[i]? = some (some u)) :
    (parked.filterMap id).Perm (u :: (parked.set i none).filterMap id) := by
  obtain ⟨within, there⟩ := List.getElem?_eq_some_iff.1 present
  have back : (parked.set i none).set i (some u) = parked := by
    rw [List.set_set, ← there, List.set_getElem_self]
  have vacant : (parked.set i none)[i]? = some none := by simp [within]
  have filled := filterMap_set_some u vacant
  rwa [back] at filled

namespace Custody

variable {stream : Nat} {roster : List UrbIdentity} {queue queue' hand : List Urb}
  {parked : List (Option Urb)} {u v : Urb}

theorem keys_perm (c : Custody stream roster queue hand parked) :
    ((hand ++ (ofStream stream queue ++ parked.filterMap id)).map (·.key)).Perm
      ((List.range parked.length).map (UrbKey.mk stream)) := by
  have mapped := c.all.map (·.key)
  rw [c.keys, List.map_map] at mapped
  exact mapped

theorem keys_nodup (c : Custody stream roster queue hand parked) :
    ((hand ++ (ofStream stream queue ++ parked.filterMap id)).map (·.key)).Nodup := by
  refine c.keys_perm.nodup_iff.2 (List.Nodup.map (fun i j same => ?_) List.nodup_range)
  simpa using same

theorem key_eq (c : Custody stream roster queue hand parked)
    (present : u ∈ hand ++ (ofStream stream queue ++ parked.filterMap id)) :
    u.key.stream = stream ∧ u.key.index < parked.length := by
  have listed := c.keys_perm.subset (List.mem_map_of_mem present)
  obtain ⟨i, within, key⟩ := List.mem_map.1 listed
  rw [← key]
  exact ⟨rfl, List.mem_range.1 within⟩

theorem key_hand (c : Custody stream roster queue (u :: hand) parked) :
    u.key.stream = stream ∧ u.key.index < parked.length :=
  c.key_eq (by simp)

theorem key_parked (c : Custody stream roster queue hand parked) {i : Nat}
    (present : parked[i]? = some (some u)) : u.key = ⟨stream, i⟩ := by
  have mine := (c.key_eq (u := u) (by simp [List.mem_of_getElem? present])).1
  have index := c.home i u present
  rw [← mine, ← index]

theorem vacant (c : Custody stream roster queue (u :: hand) parked) :
    parked[u.key.index]? = some none := by
  obtain ⟨mine, within⟩ := c.key_hand
  have filled : parked[u.key.index]? = some parked[u.key.index] := List.getElem?_eq_getElem within
  cases present : parked[u.key.index] with
  | none => rw [filled, present]
  | some v =>
    rw [present] at filled
    -- What is parked at the index of `u` has the key of `u`, and would be there a second time.
    have same : v.key = u.key := by rw [c.key_parked filled, ← mine]
    have separate := c.keys_nodup
    rw [List.cons_append, List.map_cons, List.nodup_cons] at separate
    have twice : v.key ∈ (hand ++ (ofStream stream queue ++ parked.filterMap id)).map (·.key) :=
      List.mem_map_of_mem (by simp [List.mem_of_getElem? filled])
    exact absurd (same ▸ twice) separate.1

theorem once (c : Custody stream roster queue hand parked) {i : Nat} (within : i < parked.length) :
    (hand ++ (queue ++ parked.filterMap id)).countP (·.key == ⟨stream, i⟩) = 1 := by
  -- Requests of other streams may be queued as well, but none of them has this key.
  have listed : UrbKey.mk stream i ∈
      (hand ++ (ofStream stream queue ++ parked.filterMap id)).map (·.key) :=
    c.keys_perm.mem_iff.2 (List.mem_map_of_mem (List.mem_range.2 within))
  have count := List.count_eq_one_of_mem c.keys_nodup listed
  rw [List.count, List.countP_map] at count
  change (hand ++ (ofStream stream queue ++ parked.filterMap id)).countP
    (·.key == ⟨stream, i⟩) = 1 at count
  rwa [List.countP_append, List.countP_append, countP_ofStream, ← List.countP_append,
    ← List.countP_append] at count

theorem place (c : Custody stream roster queue hand parked) {i : Nat} (within : i < parked.length) :
    (∃ u, parked[i]? = some (some u) ∧ u.key = ⟨stream, i⟩ ∧
      (hand ++ queue).countP (·.key == ⟨stream, i⟩) = 0) ∨
    (parked[i]? = some none ∧ (hand ++ queue).countP (·.key == ⟨stream, i⟩) = 1) := by
  have once := c.once within
  rw [← List.append_assoc, List.countP_append] at once
  have there : parked[i]? = some parked[i] := List.getElem?_eq_getElem within
  cases held : parked[i] with
  | some u =>
    rw [held] at there
    have key := c.key_parked there
    have present : 0 < (parked.filterMap id).countP (·.key == ⟨stream, i⟩) :=
      List.countP_pos_iff.2 ⟨u, by simp [List.mem_of_getElem? there], by simp [key]⟩
    exact .inl ⟨u, there, key, by omega⟩
  | none =>
    rw [held] at there
    -- Were it parked at another index, its key would say so.
    have absent : (parked.filterMap id).countP (·.key == ⟨stream, i⟩) = 0 := by
      refine List.countP_eq_zero.2 fun u present matching => ?_
      obtain ⟨j, elsewhere⟩ := List.getElem?_of_mem (by simpa using present)
      have key := c.key_parked elsewhere
      have same : j = i := by simpa [key] using matching
      subst same
      rw [there] at elsewhere
      cases elsewhere
    exact .inr ⟨there, by omega⟩

theorem full (c : Custody stream roster queue [] parked) (idle : ofStream stream queue = []) :
    parked.all Option.isSome = true := by
  refine List.all_eq_true.2 fun held present => ?_
  obtain ⟨i, there⟩ := List.getElem?_of_mem present
  obtain ⟨u, parked, -⟩ | ⟨-, queued⟩ := c.place (List.getElem?_eq_some_iff.1 there).1
  next =>
    rw [parked] at there
    cases there
    rfl
  next =>
    rw [List.nil_append, ← countP_ofStream, idle] at queued
    cases queued

theorem park (c : Custody stream roster queue (u :: hand) parked) :
    Custody stream roster queue hand (parked.set u.key.index (some u)) where
  all := by
    refine List.Perm.trans (List.Perm.map _ ?_) c.all
    have moved := (filterMap_set_some u c.vacant).append_left (ofStream stream queue)
    refine ((moved.trans List.perm_middle).append_left hand).trans ?_
    exact List.perm_middle
  keys := by rw [List.length_set, c.keys]
  home i w present := by
    by_cases here : u.key.index = i
    · subst here
      simp [c.key_hand.2] at present
      rw [present]
    · rw [List.getElem?_set_ne here] at present
      exact c.home i w present

theorem take (c : Custody stream roster queue hand parked) {i : Nat}
    (present : parked[i]? = some (some u)) :
    Custody stream roster queue (u :: hand) (parked.set i none) where
  all := by
    refine List.Perm.trans (List.Perm.map _ ?_) c.all
    have moved := (filterMap_set_none present).append_left (ofStream stream queue)
    refine List.Perm.symm (((moved.trans List.perm_middle).append_left hand).trans ?_)
    exact List.perm_middle
  keys := by rw [List.length_set, c.keys]
  home j w there := by
    by_cases here : i = j
    · subst here
      simp [(List.getElem?_eq_some_iff.1 present).1] at there
    · rw [List.getElem?_set_ne here] at there
      exact c.home j w there

theorem submit (c : Custody stream roster queue (u :: hand) parked) :
    Custody stream roster (queue ++ [u]) hand parked :=
  { c with
    all := by
      refine List.Perm.trans (List.Perm.map _ ?_) c.all
      rw [ofStream_append, ofStream_cons_own c.key_hand.1, ofStream_nil, List.append_assoc]
      exact (List.perm_middle.append_left hand).trans List.perm_middle }

theorem rewrite (c : Custody stream roster queue (u :: hand) parked)
    (same : v.identity = u.identity) : Custody stream roster queue (v :: hand) parked :=
  { c with all := by simpa [same] using c.all }

theorem unqueue (c : Custody stream roster queue hand parked)
    (left : (ofStream stream queue).Perm (u :: ofStream stream queue')) :
    Custody stream roster queue' (u :: hand) parked :=
  { c with
    all := by
      refine List.Perm.trans (List.Perm.map _ ?_) c.all
      exact List.Perm.symm (((left.append_right _).append_left hand).trans List.perm_middle) }

theorem of_perm {hand' : List Urb} (c : Custody stream roster queue hand parked)
    (same : hand'.Perm hand) : Custody stream roster queue hand' parked :=
  { c with all := ((same.append_right _).map _).trans c.all }

theorem hand_eq_nil (c : Custody stream roster queue hand parked)
    (full : parked.all Option.isSome = true) : hand = [] := by
  cases hand with
  | nil => rfl
  | cons u rest =>
    have missing := List.all_eq_true.1 full none (List.mem_of_getElem? c.vacant)
    cases missing

theorem of_ofStream_eq (c : Custody stream roster queue hand parked)
    (same : ofStream stream queue' = ofStream stream queue) :
    Custody stream roster queue' hand parked :=
  { c with all := by rw [same]; exact c.all }

end Custody

end DvbReceiver

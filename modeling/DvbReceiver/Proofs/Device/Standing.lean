import DvbReceiver.Device.Lifecycle
import DvbReceiver.Proofs.Adapter.BringUp
import DvbReceiver.Proofs.Adapter.Exit

set_option autoImplicit false

namespace DvbReceiver

def Deserted (h : Host) (rosters : Nat → List UrbIdentity) (stream : Nat) : Prop :=
  rosters stream = [] ∧ ofStream stream h.bus.queue = []

namespace Adapter

variable {h h' : Host} {a a' b : Adapter} {r r' : Nat → List UrbIdentity}

theorem Sound.owned_known (sound : a.Sound r h.bus.queue) {n : Nat} (owned : a.Owns n) :
    n ∈ streamIds := by
  obtain ⟨j, within, rfl⟩ := owned
  exact streamId_known sound.known (Nat.lt_of_lt_of_le within sound.size)

theorem Sound.apart (sound : a.Sound r h.bus.queue) (other : b.Sound r h.bus.queue)
    (different : a.id ≠ b.id) {n : Nat} (owned : a.Owns n) : ¬ b.Owns n := by
  intro shared
  exact different ((sound.number owned).symm.trans (other.number shared))

theorem Sound.spared (other : b.Sound r h.bus.queue)
    (same : ∀ n, b.Owns n → ofStream n h'.bus.queue = ofStream n h.bus.queue ∧ r' n = r n) :
    b.Sound r' h'.bus.queue :=
  { other with
    streams := fun j s there => by
      have within := (List.getElem?_eq_some_iff.1 there).1
      obtain ⟨queue, roster⟩ := same _ ⟨j, within, rfl⟩
      rw [roster]
      refine (other.streams j s there).of_ofStream_eq ?_
      rw [other.ids j s there]
      exact queue }

theorem Confined.spared (confined : Confined h a r h' a' r') (sound : a.Sound r h.bus.queue)
    (other : b.Sound r h.bus.queue) (different : a.id ≠ b.id) : b.Sound r' h'.bus.queue :=
  other.spared fun n owned =>
    confined.foreign n (other.apart sound (Ne.symm different) owned)

theorem Confined.deserted (confined : Confined h a r h' a' r') {n : Nat} (foreign : ¬ a.Owns n)
    (deserted : Deserted h r n) : Deserted h' r' n := by
  obtain ⟨queue, roster⟩ := confined.foreign n foreign
  exact ⟨roster.trans deserted.1, queue.trans deserted.2⟩

theorem Sound.deserted (sound : a.Sound r h.bus.queue)
    (empty : ∀ j < a.slots.length, r (streamId a.id j) = []) {n : Nat} (owned : a.Owns n) :
    Deserted h r n := by
  obtain ⟨j, within, rfl⟩ := owned
  have none := empty j within
  have there : a.slots[j]? = some a.slots[j] := List.getElem?_eq_getElem within
  have stream := sound.streams j _ there
  rw [none] at stream
  refine ⟨none, ?_⟩
  rw [← sound.ids j _ there]
  exact stream.ofStream_nil

section New

variable {props : List SlotProperties}

theorem getElem?_new {id : Nat} {speed : Speed} {force : Bool} {j : Nat} {s : Slot}
    (there : (new id props speed force).slots[j]? = some s) :
    s.stream = { id := streamId id j, sink := some "adapter" } ∧ s.frontend = none := by
  simp only [new, List.getElem?_map, List.getElem?_zipIdx, Option.map_map, Option.map_eq_some_iff]
    at there
  obtain ⟨p, -, rfl⟩ := there
  exact ⟨by simp, rfl⟩

theorem length_new (id : Nat) (speed : Speed) (force : Bool) :
    (new id props speed force).slots.length = props.length := by
  simp [new]

theorem sound_new {id : Nat} (known : id < maxAdapters) (size : props.length ≤ maxFrontends)
    (speed : Speed) (force : Bool)
    (deserted : ∀ j < props.length, Deserted h r (streamId id j)) :
    (new id props speed force).Sound r h.bus.queue where
  known := known
  size := by rwa [length_new]
  ids j s there := by rw [(getElem?_new there).1]; rfl
  streams j s there := by
    have within := (List.getElem?_eq_some_iff.1 there).1
    rw [length_new] at within
    obtain ⟨none, idle⟩ := deserted j within
    have number : (new id props speed force).id = id := rfl
    rw [number, none, (getElem?_new there).1]
    exact Stream.sound_bare (s := { id := streamId id j, sink := some "adapter" }) idle {}

theorem fresh_new (id : Nat) (speed : Speed) (force : Bool) :
    (new id props speed force).Fresh where
  registered := rfl
  vacant j := by
    unfold isRegistered
    cases there : (new id props speed force).slots[j]? with
    | none => rfl
    | some s => simp [(getElem?_new there).2]
  feeds := rfl
  gate := rfl

end New

end Adapter

namespace Device

/-- The adapters of a device with all that they hold, nothing else being held since `h₀`. -/
structure Standing (h₀ h : Host) (adapters : List Adapter) (rosters : Nat → List UrbIdentity) :
    Prop where
  size : adapters.length ≤ maxAdapters
  ids : ∀ (i : Nat) (a : Adapter), adapters[i]? = some a → a.id = i
  sound : ∀ a ∈ adapters, a.Sound rosters h.bus.queue
  strays : ∀ n ∈ streamIds, (∀ a ∈ adapters, ¬ a.Owns n) → Deserted h rosters n
  ledger : Ledger h₀ h (adapters.reverse.flatMap Adapter.places)
    (adapters.reverse.flatMap Adapter.demods) (held rosters)

namespace Standing

open Adapter (streamId streamId_known)

variable {h₀ h h' : Host} {adapters : List Adapter} {a : Adapter}
  {r r' : Nat → List UrbIdentity}

theorem distinct (standing : Standing h₀ h adapters r) :
    adapters.Pairwise fun a b => a.id ≠ b.id := by
  refine List.pairwise_iff_getElem.2 fun i j within within' less => ?_
  have left := standing.ids i _ (List.getElem?_eq_getElem within)
  have right := standing.ids j _ (List.getElem?_eq_getElem within')
  omega

theorem none (ledger : Ledger h₀ h [] [] [])
    (quiet : ∀ n ∈ streamIds, ofStream n h.bus.queue = []) : Standing h₀ h [] fun _ => [] where
  size := Nat.zero_le _
  ids _ _ impossible := by simp at impossible
  sound _ impossible := by simp at impossible
  strays n known _ := ⟨rfl, quiet n known⟩
  ledger := by
    have nothing : held (fun _ => []) = [] := by simp [held, addresses]
    rw [nothing]
    exact ledger

theorem next_deserted (standing : Standing h₀ h adapters r) (room : adapters.length < maxAdapters)
    {slot : Nat} (within : slot < maxFrontends) :
    Deserted h r (streamId adapters.length slot) := by
  refine standing.strays _ (streamId_known room within) fun b there owned => ?_
  obtain ⟨i, inside, rfl⟩ := List.getElem_of_mem there
  have number := (standing.sound _ there).number owned
  rw [standing.ids i _ (List.getElem?_eq_getElem inside)] at number
  unfold streamId maxFrontends at *
  omega

theorem grow {a' : Adapter} (standing : Standing h₀ h adapters r)
    (room : adapters.length < maxAdapters) (number : a.id = adapters.length)
    (sound : a.Sound r h.bus.queue) (confined : Adapter.Confined h a r h' a' r')
    (ledger : Ledger h₀ h' (a'.places ++ adapters.reverse.flatMap Adapter.places)
      (a'.demods ++ adapters.reverse.flatMap Adapter.demods) (held r')) :
    Standing h₀ h' (adapters ++ [a']) r' where
  size := by
    rw [List.length_append]
    exact room
  ids i b there := by
    rw [List.getElem?_append] at there
    split at there
    next => exact standing.ids i b there
    next beyond =>
      obtain ⟨within, rfl⟩ := List.getElem?_eq_some_iff.1 there
      simp only [List.length_singleton] at within
      rw [List.getElem_singleton, confined.id, number]
      omega
  sound b there := by
    obtain before | last := List.mem_append.1 there
    next =>
      obtain ⟨i, within, rfl⟩ := List.getElem_of_mem before
      -- The adapter before has another number, so that its streams were none of its business.
      have different := standing.ids i _ (List.getElem?_eq_getElem within)
      exact confined.spared sound (standing.sound _ before) (by omega)
    next =>
      obtain rfl := List.mem_singleton.1 last
      exact confined.sound
  strays n known foreign := by
    have other : ¬ a.Owns n := fun owned =>
      foreign a' (by simp) ((confined.owns n).2 owned)
    refine confined.deserted other (standing.strays n known fun b there => ?_)
    exact foreign b (List.mem_append_left _ there)
  ledger := by simpa using ledger

theorem rosters_eq {a' b : Adapter} (standing : Standing h₀ h adapters r)
    (number : a.id = adapters.length) (sound : a.Sound r h.bus.queue)
    (confined : Adapter.Confined h a r h' a' r') (there : b ∈ adapters) {n : Nat}
    (owned : b.Owns n) : r' n = r n := by
  obtain ⟨i, within, rfl⟩ := List.getElem_of_mem there
  have different := standing.ids i _ (List.getElem?_eq_getElem within)
  have foreign := (standing.sound _ there).apart sound (by omega) owned
  exact (confined.foreign n foreign).2

end Standing

/-- Adapters that are at work: their streams are prepared and their bookkeeping is right. -/
structure Live (h₀ h : Host) (adapters : List Adapter) (rosters : Nat → List UrbIdentity) : Prop
    extends Standing h₀ h adapters rosters where
  ready : ∀ a ∈ adapters, a.Ready rosters
  steered : ∀ a ∈ adapters, a.Steered

variable {h₀ h h' : Host} {adapters : List Adapter} {r r' : Nat → List UrbIdentity} {d : Device}

theorem Live.none (ledger : Ledger h₀ h [] [] [])
    (quiet : ∀ n ∈ streamIds, ofStream n h.bus.queue = []) : Live h₀ h [] fun _ => [] :=
  { Standing.none ledger quiet with
    ready := fun _ impossible => by simp at impossible
    steered := fun _ impossible => by simp at impossible }

theorem Live.grow {a a' : Adapter} (live : Live h₀ h adapters r)
    (number : a.id = adapters.length) (sound : a.Sound r h.bus.queue)
    (confined : Adapter.Confined h a r h' a' r') (standing : Standing h₀ h' (adapters ++ [a']) r')
    (ready : a'.Ready r') (steered : a'.Steered) : Live h₀ h' (adapters ++ [a']) r' :=
  { standing with
    ready := fun b there => by
      obtain before | last := List.mem_append.1 there
      next =>
        intro j within
        rw [live.rosters_eq number sound confined before ⟨j, within, rfl⟩]
        exact live.ready b before j within
      next =>
        obtain rfl := List.mem_singleton.1 last
        exact ready
    steered := fun b there => by
      obtain before | last := List.mem_append.1 there
      next => exact live.steered b before
      next =>
        obtain rfl := List.mem_singleton.1 last
        exact steered }

theorem bringUpAdapters_spec (rest : List (List SlotProperties)) (live : Live h₀ h d.adapters r)
    (room : d.adapters.length + rest.length ≤ maxAdapters)
    (sizes : ∀ props ∈ rest, props.length ≤ maxFrontends)
    (unfed : ∀ a ∈ d.adapters, a.feeds = {}) :
    ∃ r', Standing h₀ (bringUpAdapters d.adapters.length rest h d).2.1
        (bringUpAdapters d.adapters.length rest h d).2.2.adapters r' ∧
      (bringUpAdapters d.adapters.length rest h d).2.2.power = d.power ∧
      ((bringUpAdapters d.adapters.length rest h d).1 = .ok () →
        Live h₀ (bringUpAdapters d.adapters.length rest h d).2.1
          (bringUpAdapters d.adapters.length rest h d).2.2.adapters r' ∧
        (bringUpAdapters d.adapters.length rest h d).2.2.adapters.length =
          d.adapters.length + rest.length ∧
        ∀ a ∈ (bringUpAdapters d.adapters.length rest h d).2.2.adapters, a.feeds = {}) := by
  -- On the adapters to come. The one that fails is kept with what it holds, but need not be ready.
  induction rest generalizing h d r with
  | nil => exact ⟨r, live.toStanding, rfl, fun _ => ⟨live, rfl, unfed⟩⟩
  | cons props rest ih =>
    let a := Adapter.new d.adapters.length props h.bus.speed d.config.forceFilter
    rw [List.length_cons] at room
    have size := sizes props List.mem_cons_self
    have known : d.adapters.length < maxAdapters := by omega
    have sound : a.Sound r h.bus.queue :=
      Adapter.sound_new known size _ _ fun j within => live.next_deserted known (by omega)
    have fresh : a.Fresh := Adapter.fresh_new _ _ _
    obtain ⟨r₁, broughtUp⟩ := Adapter.broughtUp_bringUp sound fresh live.ledger d.product.name d.i2c
    have standing := live.toStanding.grow known rfl sound broughtUp.toConfined broughtUp.ledger
    unfold bringUpAdapters
    dsimp only
    cases reached : a.bringUp h d.product.name d.i2c with
    | mk result after =>
      obtain ⟨h₁, a₁⟩ := after
      rw [reached] at broughtUp standing
      cases result with
      | error e => exact ⟨r₁, standing, rfl, fun impossible => by cases impossible⟩
      | ok =>
        obtain ⟨ready, steered, feeds⟩ := broughtUp.ok rfl
        have again := live.grow rfl sound broughtUp.toConfined standing ready steered
        have length : (d.adapters ++ [a₁]).length = d.adapters.length + 1 := by simp
        obtain ⟨r₂, later⟩ := ih (d := { d with adapters := d.adapters ++ [a₁] }) again
          (by rw [length]; omega) (fun p there => sizes p (List.mem_cons_of_mem _ there))
          fun b there => by
            obtain before | last := List.mem_append.1 there
            next => exact unfed b before
            next =>
              obtain rfl := List.mem_singleton.1 last
              exact feeds
        rw [length] at later
        rw [List.length_cons, Nat.add_comm rest.length, ← Nat.add_assoc]
        exact ⟨r₂, later⟩

end Device

end DvbReceiver

import DvbReceiver.Properties

set_option autoImplicit false

namespace DvbReceiver

theorem findSome?_zipIdx_eq_some_iff {α β : Type} {f : α × Nat → Option β} {l : List α} {n : Nat}
    {b : β} :
    (l.zipIdx n).findSome? f = some b ↔
      ∃ i x, l[i]? = some x ∧ f (x, n + i) = some b ∧
        ∀ j < i, ∀ y, l[j]? = some y → f (y, n + j) = none := by
  induction l generalizing n with
  | nil => simp
  | cons x rest ih =>
    rw [List.zipIdx_cons, List.findSome?_cons]
    cases here : f (x, n) with
    | some found =>
      constructor
      · rintro ⟨rfl⟩
        exact ⟨0, x, rfl, here, fun j impossible => absurd impossible (Nat.not_lt_zero j)⟩
      · rintro ⟨i, y, there, hit, before⟩
        cases i with
        | zero =>
          obtain rfl := Option.some.inj there
          exact here.symm.trans hit
        | succ i =>
          have passed := before 0 (Nat.succ_pos i) x rfl
          rw [Nat.add_zero, here] at passed
          cases passed
    | none =>
      have shift (k : Nat) : n + 1 + k = n + (k + 1) := by omega
      refine ih.trans ⟨?_, ?_⟩
      · rintro ⟨i, y, there, hit, before⟩
        refine ⟨i + 1, y, there, shift i ▸ hit, fun j less z earlier => ?_⟩
        cases j with
        | zero =>
          obtain rfl := Option.some.inj earlier
          exact here
        | succ j => exact shift j ▸ before j (by omega) z earlier
      · rintro ⟨i, y, there, hit, before⟩
        cases i with
        | zero =>
          obtain rfl := Option.some.inj there
          rw [Nat.add_zero, here] at hit
          cases hit
        | succ i =>
          refine ⟨i, y, there, (shift i).symm ▸ hit, fun j less z earlier => ?_⟩
          exact (shift j).symm ▸ before (j + 1) (by omega) z earlier

structure Layout.Usable (l : Layout) : Prop where
  count : 1 ≤ l.count ∧ l.count ≤ maxTransfers
  endpoint : l.endpoint ≠ 0
  size : l.bufferSize ≠ 0

/-- What is the matter with a layout: of several things the first in this order. -/
inductive Layout.Fault (l : Layout) : LayoutProblem → Prop
  | count (outside : ¬(1 ≤ l.count ∧ l.count ≤ maxTransfers)) : Fault l (.count l.count)
  | endpoint (count : 1 ≤ l.count ∧ l.count ≤ maxTransfers) (control : l.endpoint = 0) :
      Fault l .controlEndpoint
  | size (count : 1 ≤ l.count ∧ l.count ≤ maxTransfers) (endpoint : l.endpoint ≠ 0)
      (empty : l.bufferSize = 0) : Fault l .emptyBuffer

structure SlotProperties.Usable (p : SlotProperties) : Prop where
  layout : p.layout.Usable
  table : p.filter.entries? ≠ some 0

inductive SlotProperties.Fault (adapter slot : Nat) (p : SlotProperties) : Failure → Prop
  | layout {problem : LayoutProblem} (fault : p.layout.Fault problem) :
      Fault adapter slot p (.slotLayout adapter slot problem)
  | table (layout : p.layout.Usable) (empty : p.filter.entries? = some 0) :
      Fault adapter slot p (.emptyFilterTable adapter slot)

namespace Properties

structure AdapterUsable (slots : List SlotProperties) : Prop where
  count : 1 ≤ slots.length ∧ slots.length ≤ maxFrontends
  slots : ∀ p ∈ slots, p.Usable

inductive AdapterFault (adapter : Nat) (slots : List SlotProperties) : Failure → Prop
  | count (outside : ¬(1 ≤ slots.length ∧ slots.length ≤ maxFrontends)) :
      AdapterFault adapter slots (.frontendCount adapter slots.length)
  | slot {k : Nat} {p : SlotProperties} {e : Failure}
      (count : 1 ≤ slots.length ∧ slots.length ≤ maxFrontends) (there : slots[k]? = some p)
      (before : ∀ l < k, ∀ q, slots[l]? = some q → q.Usable) (fault : p.Fault adapter k e) :
      AdapterFault adapter slots e

structure Usable (p : Properties) : Prop where
  count : 1 ≤ p.adapters.length ∧ p.adapters.length ≤ maxAdapters
  adapters : ∀ slots ∈ p.adapters, AdapterUsable slots

/-- What is the matter with a description: the number of adapters, or else the first of them that
is not usable. -/
inductive FirstFault (p : Properties) : Failure → Prop
  | count (outside : ¬(1 ≤ p.adapters.length ∧ p.adapters.length ≤ maxAdapters)) :
      FirstFault p (.adapterCount p.adapters.length)
  | adapter {i : Nat} {slots : List SlotProperties} {e : Failure}
      (count : 1 ≤ p.adapters.length ∧ p.adapters.length ≤ maxAdapters)
      (there : p.adapters[i]? = some slots)
      (before : ∀ j < i, ∀ earlier, p.adapters[j]? = some earlier → AdapterUsable earlier)
      (fault : AdapterFault i slots e) : FirstFault p e

end Properties

namespace Layout

variable {l : Layout} {problem : LayoutProblem}

theorem problem?_eq_none_iff : l.problem? = none ↔ l.Usable := by
  unfold problem?
  constructor
  · intro none
    split at none
    next => cases none
    next count =>
      split at none
      next => cases none
      next endpoint =>
        split at none
        next => cases none
        next size => exact ⟨by omega, endpoint, size⟩
  · rintro ⟨count, endpoint, size⟩
    rw [if_neg (by omega), if_neg endpoint, if_neg size]

theorem problem?_eq_some_iff : l.problem? = some problem ↔ l.Fault problem := by
  unfold problem?
  constructor
  · intro some
    split at some
    next outside =>
      obtain rfl := Option.some.inj some
      exact .count (by omega)
    next count =>
      split at some
      next control =>
        obtain rfl := Option.some.inj some
        exact .endpoint (by omega) control
      next endpoint =>
        split at some
        next empty =>
          obtain rfl := Option.some.inj some
          exact .size (by omega) endpoint empty
        next => cases some
  · intro fault
    cases fault with
    | count outside => rw [if_pos (by omega)]
    | endpoint count control => rw [if_neg (by omega), if_pos control]
    | size count endpoint empty => rw [if_neg (by omega), if_neg endpoint, if_pos empty]

end Layout

namespace Properties

variable {adapter slot : Nat} {p : SlotProperties} {slots : List SlotProperties} {e : Failure}

theorem slotProblem?_eq_none_iff : slotProblem? adapter slot p = none ↔ p.Usable := by
  unfold slotProblem?
  split
  next problem wrong =>
    refine ⟨nofun, fun usable => ?_⟩
    rw [Layout.problem?_eq_none_iff.2 usable.layout] at wrong
    cases wrong
  next right =>
    have layout := Layout.problem?_eq_none_iff.1 right
    split
    next empty => exact ⟨nofun, fun usable => absurd empty usable.table⟩
    next table => exact ⟨fun _ => ⟨layout, table⟩, fun _ => rfl⟩

theorem slotProblem?_eq_some_iff :
    slotProblem? adapter slot p = some e ↔ p.Fault adapter slot e := by
  unfold slotProblem?
  constructor
  · intro some
    split at some
    next problem wrong =>
      obtain rfl := Option.some.inj some
      exact .layout (Layout.problem?_eq_some_iff.1 wrong)
    next right =>
      split at some
      next empty =>
        obtain rfl := Option.some.inj some
        exact .table (Layout.problem?_eq_none_iff.1 right) empty
      next => cases some
  · intro fault
    cases fault with
    | layout fault => rw [Layout.problem?_eq_some_iff.2 fault]
    | table layout empty => rw [Layout.problem?_eq_none_iff.2 layout, if_pos empty]

theorem slotsProblem?_eq (adapter slot : Nat) (slots : List SlotProperties) :
    slotsProblem? adapter slot slots =
      (slots.zipIdx slot).findSome? fun x => slotProblem? adapter x.2 x.1 := by
  induction slots generalizing slot with
  | nil => rfl
  | cons p rest ih =>
    rw [slotsProblem?, ih, List.zipIdx_cons, List.findSome?_cons]
    cases slotProblem? adapter slot p <;> simp

theorem adaptersProblem?_eq (adapter : Nat) (adapters : List (List SlotProperties)) :
    adaptersProblem? adapter adapters =
      (adapters.zipIdx adapter).findSome? fun x => adapterProblem? x.2 x.1 := by
  induction adapters generalizing adapter with
  | nil => rfl
  | cons slots rest ih =>
    rw [adaptersProblem?, ih, List.zipIdx_cons, List.findSome?_cons]
    cases adapterProblem? adapter slots <;> simp

theorem slotsProblem?_eq_none_iff :
    slotsProblem? adapter slot slots = none ↔ ∀ p ∈ slots, p.Usable := by
  induction slots generalizing slot with
  | nil => simp [slotsProblem?]
  | cons p rest ih =>
    rw [slotsProblem?, Option.or_eq_none_iff, ih, slotProblem?_eq_none_iff, List.forall_mem_cons]

theorem adapterProblem?_eq_none_iff :
    adapterProblem? adapter slots = none ↔ AdapterUsable slots := by
  unfold adapterProblem?
  split
  next outside =>
    refine ⟨nofun, fun usable => ?_⟩
    have count := usable.count
    omega
  next count =>
    rw [slotsProblem?_eq_none_iff]
    exact ⟨fun slots => ⟨by omega, slots⟩, AdapterUsable.slots⟩

theorem adapterProblem?_eq_some_iff :
    adapterProblem? adapter slots = some e ↔ AdapterFault adapter slots e := by
  unfold adapterProblem?
  constructor
  · intro some
    split at some
    next outside =>
      obtain rfl := Option.some.inj some
      exact .count (by omega)
    next count =>
      rw [slotsProblem?_eq, findSome?_zipIdx_eq_some_iff] at some
      obtain ⟨k, p, there, wrong, before⟩ := some
      simp only [Nat.zero_add] at wrong before
      exact .slot (by omega) there
        (fun l less q earlier => slotProblem?_eq_none_iff.1 (before l less q earlier))
        (slotProblem?_eq_some_iff.1 wrong)
  · intro fault
    cases fault with
    | count outside => rw [if_pos (by omega)]
    | slot count there before fault =>
      rw [if_neg (by omega), slotsProblem?_eq, findSome?_zipIdx_eq_some_iff]
      simp only [Nat.zero_add]
      exact ⟨_, _, there, slotProblem?_eq_some_iff.2 fault, fun l less q earlier =>
        slotProblem?_eq_none_iff.2 (before l less q earlier)⟩

theorem adaptersProblem?_eq_none_iff {adapters : List (List SlotProperties)} :
    adaptersProblem? adapter adapters = none ↔ ∀ slots ∈ adapters, AdapterUsable slots := by
  induction adapters generalizing adapter with
  | nil => simp [adaptersProblem?]
  | cons slots rest ih =>
    rw [adaptersProblem?, Option.or_eq_none_iff, ih, adapterProblem?_eq_none_iff,
      List.forall_mem_cons]

theorem problem?_eq_none_iff {p : Properties} : p.problem? = none ↔ p.Usable := by
  unfold problem?
  split
  next outside =>
    refine ⟨nofun, fun usable => ?_⟩
    have count := usable.count
    omega
  next count =>
    rw [adaptersProblem?_eq_none_iff]
    exact ⟨fun adapters => ⟨by omega, adapters⟩, Usable.adapters⟩

theorem problem?_eq_some_iff {p : Properties} : p.problem? = some e ↔ p.FirstFault e := by
  unfold problem?
  constructor
  · intro some
    split at some
    next outside =>
      obtain rfl := Option.some.inj some
      exact .count (by omega)
    next count =>
      rw [adaptersProblem?_eq, findSome?_zipIdx_eq_some_iff] at some
      obtain ⟨i, slots, there, wrong, before⟩ := some
      simp only [Nat.zero_add] at wrong before
      exact .adapter (by omega) there
        (fun j less earlier first => adapterProblem?_eq_none_iff.1 (before j less earlier first))
        (adapterProblem?_eq_some_iff.1 wrong)
  · intro fault
    cases fault with
    | count outside => rw [if_pos (by omega)]
    | adapter count there before fault =>
      rw [if_neg (by omega), adaptersProblem?_eq, findSome?_zipIdx_eq_some_iff]
      simp only [Nat.zero_add]
      exact ⟨_, _, there, adapterProblem?_eq_some_iff.2 fault, fun j less earlier first =>
        adapterProblem?_eq_none_iff.2 (before j less earlier first)⟩

theorem validate_error_iff {p : Properties} : p.validate = .error e ↔ p.FirstFault e := by
  rw [← problem?_eq_some_iff]
  unfold validate
  cases p.problem? <;> simp

theorem FirstFault.kind {p : Properties} (fault : p.FirstFault e) : e.kind = .configuration := by
  cases fault with
  | count => rfl
  | adapter _ _ _ fault =>
    cases fault with
    | count => rfl
    | slot _ _ _ fault => cases fault <;> rfl

end Properties

end DvbReceiver

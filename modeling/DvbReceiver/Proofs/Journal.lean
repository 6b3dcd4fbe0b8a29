import DvbReceiver.Host

set_option autoImplicit false

namespace DvbReceiver

inductive Mark (α : Type) where
  | opened (what : α)
  | closed (what : α)
  deriving DecidableEq, Repr

/-- What a journal, its latest mark first, has left open, the latest first. There is no answer if
something was closed that was not then the latest to be open. -/
def openAfter {α : Type} [DecidableEq α] : List (Mark α) → Option (List α)
  | [] => some []
  | .opened what :: earlier => (openAfter earlier).map (what :: ·)
  | .closed what :: earlier =>
    match openAfter earlier with
    | some (latest :: rest) => if latest = what then some rest else none
    | _ => none

def Mark.isOpened {α : Type} : Mark α → Bool
  | .opened _ => true
  | .closed _ => false

@[simp] theorem Mark.isOpened_opened {α : Type} (what : α) : (opened what).isOpened = true := rfl

@[simp] theorem Mark.isOpened_closed {α : Type} (what : α) : (closed what).isOpened = false := rfl

variable {α : Type} [DecidableEq α]

theorem openAfter_opened {marks : List (Mark α)} {left : List α} (what : α)
    (earlier : openAfter marks = some left) :
    openAfter (.opened what :: marks) = some (what :: left) := by
  simp [openAfter, earlier]

theorem openAfter_closed {marks : List (Mark α)} {left : List α} {what : α}
    (earlier : openAfter marks = some (what :: left)) :
    openAfter (.closed what :: marks) = some left := by
  simp [openAfter, earlier]

theorem length_openAfter {marks : List (Mark α)} {left : List α}
    (replayed : openAfter marks = some left) :
    marks.length + left.length = 2 * marks.countP (·.isOpened) := by
  -- On the journal, each mark adding to one side what it adds to the other.
  induction marks generalizing left with
  | nil => simp_all [openAfter]
  | cons mark earlier ih =>
    cases mark with
    | opened what =>
      simp only [openAfter, Option.map_eq_some_iff] at replayed
      obtain ⟨before, earlierReplayed, rfl⟩ := replayed
      have h := ih earlierReplayed
      simp [List.countP_cons]
      omega
    | closed what =>
      simp only [openAfter] at replayed
      split at replayed
      next latest rest earlierReplayed =>
        have h := ih earlierReplayed
        split at replayed
        next =>
          cases replayed
          simp at h ⊢
          omega
        next => cases replayed
      next => cases replayed

def RegistryEvent.mark : RegistryEvent → Mark Place
  | .registered what => .opened what.place
  | .unregistered place => .closed place

def Hook.isDetach : Hook → Bool
  | .demodDetach .. => true
  | _ => false

def Event.demodMark? : Event → Option (Mark (Nat × Nat))
  | .attached adapter slot => some (.opened (adapter, slot))
  | .called (.demodDetach adapter slot) _ => some (.closed (adapter, slot))
  | _ => none

theorem RegistryEvent.isOpened_mark (e : RegistryEvent) : e.mark.isOpened = e.isRegistration := by
  cases e <;> rfl

end DvbReceiver

import DvbReceiver.Proofs.Device.Session

set_option autoImplicit false

namespace DvbReceiver.Session

/-- What the users of a device keep in mind, and what they allow themselves to do next. -/
structure Discipline (β : Type) where
  record : Session → β → Act → β
  allows : β → Act → Bool

namespace Discipline

variable {β : Type} (rule : Discipline β)

def after : Session → β → List Act → β
  | _, memory, [] => memory
  | s, memory, step :: rest => after (s.act step) (rule.record s memory step) rest

def keeps : Session → β → List Act → Bool
  | _, _, [] => true
  | s, memory, step :: rest =>
    rule.allows memory step && keeps (s.act step) (rule.record s memory step) rest

variable {h₀ : Host} {size : Nat} {r : Nat → List UrbIdentity}

theorem run (Holds : Session → β → Prop)
    (preserved : ∀ (s : Session) (memory : β) (step : Act), Sound h₀ size r s → Holds s memory →
      rule.allows memory step = true → Holds (s.act step) (rule.record s memory step))
    {s : Session} {memory : β} (sound : Sound h₀ size r s) (holds : Holds s memory)
    (acts : List Act) (kept : rule.keeps s memory acts = true) :
    Holds (s.run acts) (rule.after s memory acts) := by
  induction acts generalizing s memory with
  | nil => exact holds
  | cons step rest ih =>
    obtain ⟨allowed, later⟩ := Bool.and_eq_true_iff.1 kept
    exact ih (sound_act sound step) (preserved s memory step sound holds allowed) later

end Discipline

end DvbReceiver.Session

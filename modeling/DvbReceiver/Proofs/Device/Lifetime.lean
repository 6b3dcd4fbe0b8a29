import DvbReceiver.Proofs.Device.Session

set_option autoImplicit false

namespace DvbReceiver.Session

open Device (TornDown)

theorem exit_of_uninitialized {d : Device} (gone : d.phase = .uninitialized) (h : Host) :
    d.exit h = (h, d) :=
  if_pos gone

theorem Sound.exit {h₀ : Host} {size : Nat} {r : Nat → List UrbIdentity} {s : Session}
    (sound : Sound h₀ size r s) :
    TornDown h₀ (s.device.exit s.host).1 ∧
      (s.device.exit s.host).2.phase = .uninitialized := by
  have up : s.device.phase ≠ .uninitialized := by
    rw [sound.phase]
    decide
  unfold Device.exit
  rw [if_neg up]
  exact ⟨Device.tornDown_tearDown sound.live.toStanding, rfl⟩

/-- A device that fails to come up leaves nothing behind, and neither does one that came up and goes
through its exit, whatever was done to it in between. -/
theorem tornDown_lifetime (h : Host) (product : Product) (config : Config)
    (unused : ∀ u ∈ h.bus.queue, u.key.stream ∉ streamIds) :
    let up := Device.bringUp h product config
    (∀ e, up.1 = .error e →
      TornDown h up.2.1 ∧ up.2.2.power.users = 0 ∧
        ∀ later : Host, up.2.2.exit later = (later, up.2.2)) ∧
    (up.1 = .ok () → ∀ acts : List Act,
      let s := run (begin up) acts
      let gone := s.device.exit s.host
      TornDown h gone.1 ∧ ∀ later : Host, gone.2.exit later = (later, gone.2)) := by
  intro up
  have settled := Device.settled_bringUp h product config fun _ => ofStream_nil_of_unused unused
  constructor
  · intro e failed
    obtain ⟨tornDown, users, phase⟩ := settled.failed e failed
    exact ⟨tornDown, users, exit_of_uninitialized phase⟩
  · intro ok acts
    obtain ⟨r, fresh⟩ := sound_begin settled ok
    -- The device is alive after every run, and a live device stands.
    obtain ⟨tornDown, phase⟩ := (sound_run fresh acts).exit
    exact ⟨tornDown, exit_of_uninitialized phase⟩

def netlessHost : Host :=
  { benchHost with registry := { demuxDepth := 4, refused := [.net 0] } }

theorem tornDown_lifetime_bench :
    (∀ u ∈ netlessHost.bus.queue, u.key.stream ∉ streamIds) ∧
      (let up := Device.bringUp netlessHost ⟨"receiver", [], []⟩ {}
      up.1 = .error (.registrationRefused (.net 0)) ∧ TornDown netlessHost up.2.1 ∧
        up.2.2.power.users = 0 ∧ ∀ later : Host, up.2.2.exit later = (later, up.2.2)) ∧
      (∀ u ∈ benchHost.bus.queue, u.key.stream ∉ streamIds) ∧
      (let up := Device.bringUp benchHost ⟨"receiver", [], []⟩ {}
      let s := run (begin up)
        [.wake 0 0, .startFeed 0 ⟨0x100, 0⟩, .complete 0 (.result .ok 4), .part 0 1 .select]
      let gone := s.device.exit s.host
      up.1 = .ok () ∧ TornDown benchHost gone.1 ∧
        ∀ later : Host, gone.2.exit later = (later, gone.2)) := by
  have netless : ∀ u ∈ netlessHost.bus.queue, u.key.stream ∉ streamIds := by
    simp [netlessHost, benchHost, Bench.newBus]
  have bench : ∀ u ∈ benchHost.bus.queue, u.key.stream ∉ streamIds := by
    simp [benchHost, Bench.newBus]
  have refused : (Device.bringUp netlessHost ⟨"receiver", [], []⟩ {}).1 =
      .error (.registrationRefused (.net 0)) := by rfl
  have ok : (Device.bringUp benchHost ⟨"receiver", [], []⟩ {}).1 = .ok () := by rfl
  exact ⟨netless, ⟨refused, (tornDown_lifetime _ _ _ netless).1 _ refused⟩, bench,
    ⟨ok, (tornDown_lifetime _ _ _ bench).2 ok _⟩⟩

end DvbReceiver.Session

import DvbReceiver.Proofs.Demux.Continuity
import DvbReceiver.Proofs.Simulation.Broadcast

set_option autoImplicit false

namespace DvbReceiver.Simulation

namespace Broadcast

variable {b : Broadcast} {sent : List Bytes} {log : List Urb}

theorem delivered_act (sound : b.Sound sent log) {a : Act} (fits : a.Fits) :
    ∃ more, (b.act a).host.delivered = b.host.delivered ++ more := by
  have before : b.host.delivered = sent := (sound.fillable 0).sent
  have same {f : Flow} (fillable : f.Fillable sent log) :
      ∃ more, f.host.delivered = b.host.delivered ++ more :=
    ⟨[], by rw [fillable.sent, before, List.append_nil]⟩
  cases a with
  | prepare i layout => exact same (Flow.fillable_prepare (sound.fillable i) fits)
  | start i => exact same (Flow.fillable_start (sound.fillable i))
  | stop i => exact same (Flow.fillable_stop (sound.fillable i))
  | release i => exact same (Flow.fillable_release (sound.fillable i))
  | complete =>
    cases queue : b.host.bus.queue with
    | nil => exact ⟨[], by rw [act, completeNext_idle queue, List.append_nil]⟩
    | cons u rest =>
      obtain ⟨fill, g, completed⟩ := completed_completeNext sound queue
      have after := (completed.sound.fillable 0).sent
      exact ⟨_, by rw [before]; exact after⟩

end Broadcast

open Broadcast (Unbroken)
open Reassembly (Accounted)

/-- The simulated bus with a demux as the sink of what streams on it. -/
structure Reception where
  broadcast : Broadcast
  demux : Demux

namespace Reception

inductive Act where
  | bus (act : Broadcast.Act)
  | drain

def Act.Fits : Act → Prop
  | .bus a => a.Fits
  | .drain => True

def act (r : Reception) : Act → Reception
  | .bus a =>
    let broadcast := r.broadcast.act a
    let chunks := broadcast.host.delivered.drop r.broadcast.host.delivered.length
    { broadcast, demux := chunks.foldl Demux.deliver r.demux }
  | .drain => { r with demux := r.demux.drain.2 }

def run (r : Reception) (acts : List Act) : Reception :=
  acts.foldl act r

def begin (broadcast : Broadcast) (depth : Nat) (watched : List Nat) : Reception where
  broadcast
  demux := (Demux.new depth).watchAll watched

structure Sound (pids : List Nat) (loseEvery : Option Nat) (d : Demux) (r : Reception) : Prop where
  broadcast : ∃ sent log, r.broadcast.Sound sent log ∧
    Unbroken pids loseEvery sent log r.broadcast.generator
  demux : ∃ acts, (∀ act ∈ acts, act.isWatch = false) ∧ r.demux = (d.run acts).2 ∧
    Demux.delivered acts = r.broadcast.host.delivered.flatten

variable {pids watched : List Nat} {loseEvery : Option Nat} {d : Demux} {r : Reception}

theorem Sound.act (sound : Sound pids loseEvery d r) {a : Act} (fits : a.Fits) :
    Sound pids loseEvery d (r.act a) := by
  obtain ⟨acts, fixed, demux, delivered⟩ := sound.demux
  cases a with
  | bus a =>
    obtain ⟨sent, log, streams, unbroken⟩ := sound.broadcast
    -- What comes behind the data of before is what the demux gets, and nothing else.
    obtain ⟨more, grown⟩ := Broadcast.delivered_act streams fits
    refine ⟨Broadcast.sound_act streams unbroken fits, acts ++ more.map .deliver, ?_, ?_, ?_⟩
    · simp only [List.forall_mem_append]
      exact ⟨fixed, by simp [Demux.Act.isWatch]⟩
    · simp only [Reception.act, grown, List.drop_left]
      rw [Demux.run_append, ← demux, Demux.run_deliver]
    · simp only [Reception.act]
      rw [Demux.delivered_append, delivered, Demux.delivered_deliver, grown, List.flatten_append]
  | drain =>
    refine ⟨sound.broadcast, acts ++ [.drain], ?_, ?_, ?_⟩
    · simp only [List.forall_mem_append]
      exact ⟨fixed, by simp [Demux.Act.isWatch]⟩
    · rw [Demux.run_append, ← demux]
      rfl
    · rw [Demux.delivered_append, delivered]
      exact List.append_nil _

theorem sound_run (sound : Sound pids loseEvery d r) {acts : List Act}
    (fits : ∀ a ∈ acts, a.Fits) : Sound pids loseEvery d (r.run acts) := by
  induction acts generalizing r with
  | nil => exact sound
  | cons a rest ih =>
    obtain ⟨here, later⟩ := List.forall_mem_cons.1 fits
    exact ih (sound.act here) later

theorem sound_begin (speed : Speed) (driver : Driver) (registry : Registry)
    (sinks : Nat → Option String) (pids : List Nat) (loseEvery : Option Nat) (depth : Nat)
    (watched : List Nat) :
    Sound pids loseEvery ((Demux.new depth).watchAll watched)
      (begin (.begin speed driver registry sinks pids loseEvery) depth watched) where
  broadcast := ⟨[], [], Broadcast.sound_begin speed driver registry sinks pids loseEvery,
    Broadcast.unbroken_begin pids loseEvery⟩
  demux := ⟨[], by simp, rfl, rfl⟩

/-- Whatever is streamed and lost on the way, and whenever the demux is drained: unless its ring
overflows it finds every packet at its place, and breaks only where a PID comes again before the
round is over. -/
theorem accounted_run (speed : Speed) (driver : Driver) (registry : Registry)
    (sinks : Nat → Option String) (pids : List Nat) (loseEvery : Option Nat) (depth : Nat)
    (watched : List Nat) (acts : List Act) (fits : ∀ a ∈ acts, a.Fits) :
    let r := (begin (.begin speed driver registry sinks pids loseEvery) depth watched).run acts
    r.demux.dropped = 0 →
      Accounted pids watched r.broadcast.host.delivered.flatten r.demux.drain.2.state := by
  intro r kept
  have sound : Sound pids loseEvery _ r :=
    sound_run (sound_begin speed driver registry sinks pids loseEvery depth watched) fits
  obtain ⟨sent, log, streams, unbroken⟩ := sound.broadcast
  obtain ⟨count, sequence, -⟩ := unbroken.sequence
  obtain ⟨history, fixed, demux, delivered⟩ := sound.demux
  have all : r.broadcast.host.delivered = sent := (streams.fillable 0).sent
  rw [demux] at kept
  rw [all, sequence] at delivered ⊢
  rw [demux]
  exact Demux.accounted_drain fixed kept delivered

theorem accounted_run_lossy :
    let plain := Bench.bareHost (newBus .high)
    let acts : List Act :=
      [.bus (.prepare 0 ⟨2, 0x81, .isoc 3 400 1⟩), .bus (.start 0), .bus .complete, .drain,
        .bus .complete]
    let r := (begin (.begin .high plain.driver plain.registry (fun _ => some "demux")
      [0x100, 0x200, 0x100] (some 2)) 4 [0x100, 0x200]).run acts
    (∀ a ∈ acts, a.Fits) ∧ r.demux.dropped = 0 ∧ r.demux.ring ≠ [] ∧
      Accounted [0x100, 0x200, 0x100] [0x100, 0x200] r.broadcast.host.delivered.flatten
        r.demux.drain.2.state := by
  intro plain acts
  refine ⟨?fits, ?kept, ?waiting, accounted_run .high plain.driver plain.registry
    (fun _ => some "demux") [0x100, 0x200, 0x100] (some 2) 4 [0x100, 0x200] acts ?fits ?kept⟩
  case fits =>
    simp [acts, Act.Fits, Broadcast.Act.Fits, Layout.Fits, maxBufferSize, UInt64.size, pageSize]
  case kept => decide +kernel
  case waiting => decide +kernel

/-- A PID that is named twice breaks off within its first round. -/
theorem discontinuous_twins :
    let plain := Bench.bareHost (newBus .high)
    let r := run (begin (.begin .high plain.driver plain.registry (fun _ => some "demux")
        [0x100, 0x100] none) 4 [0x100])
      [.bus (.prepare 0 ⟨2, 2, .bulk 376⟩), .bus (.start 0), .bus .complete]
    r.demux.dropped = 0 ∧ r.demux.drain.2.state.packets 0x100 = 2 ∧
      (r.demux.drain.2.state.tally 0x100).discontinuities = 1 := by
  decide +kernel

end Reception

end DvbReceiver.Simulation

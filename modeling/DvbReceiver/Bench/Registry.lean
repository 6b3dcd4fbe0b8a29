import DvbReceiver.Bench.Reply
import DvbReceiver.Registry

set_option autoImplicit false

namespace DvbReceiver.Bench

structure RegistryBench where
  registry : Registry
  demuxes : List (Nat × Demux) := []
  deriving DecidableEq, Repr

inductive RegistryStep where
  | refuse (place : Place)
  | register (what : Registration)
  | unregister (place : Place)
  | deliver (adapter : Nat) (data : Bytes)
  | watch (adapter pid : Nat) (on : Bool)
  | drain (adapter : Nat)
  deriving DecidableEq, Repr

namespace RegistryBench

def demux? (b : RegistryBench) (adapter : Nat) : Option Demux :=
  b.demuxes.lookup adapter

def setDemux (b : RegistryBench) (adapter : Nat) (d : Demux) : RegistryBench :=
  { b with demuxes := (adapter, d) :: b.demuxes.filter (·.1 != adapter) }

def onDemux (b : RegistryBench) (adapter : Nat) (work : Demux → Reply × Demux) :
    Outcome × RegistryBench :=
  match b.demux? adapter with
  | none => (.error .noDemux, b)
  | some d =>
    let (reply, d) := work d
    (.ok reply, b.setDemux adapter d)

def step (b : RegistryBench) : RegistryStep → Outcome × RegistryBench
  | .refuse place => (.ok .done, { b with registry := b.registry.refuse place })
  | .register what =>
    match b.registry.register what with
    | (.error e, registry) => (.error (.failure e), { b with registry })
    | (.ok (), registry) =>
      let b := { b with registry }
      match what with
      | .demux adapter _ => (.ok .done, b.setDemux adapter registry.newDemux)
      | _ => (.ok .done, b)
  | .unregister place =>
    let b := { b with registry := b.registry.unregister place }
    match place with
    | .demux adapter => (.ok .done, { b with demuxes := b.demuxes.filter (·.1 != adapter) })
    | _ => (.ok .done, b)
  | .deliver adapter data => b.onDemux adapter fun d => (.done, d.deliver data)
  | .watch adapter pid on => b.onDemux adapter fun d =>
    let d := d.watch pid on
    (.filters d.state.filters, d)
  | .drain adapter => b.onDemux adapter fun d =>
    let (matched, d) := d.drain
    (.drained matched d, d)

end RegistryBench

end DvbReceiver.Bench

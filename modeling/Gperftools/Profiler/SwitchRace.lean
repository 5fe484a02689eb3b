import Gperftools.Profiler.Switch
import Mathlib.Logic.Relation

/-! Two deliveries of the toggle signal at once, on two threads. `CpuProfilerSwitch`
(profiler.cc) keeps `profile_count`, `base_profile_name` and `started` in static locals and takes
no lock; only `ProfilerStart` and `ProfilerStop` take `lock_`. A delivery is cut into its reads
and writes of the statics and its two calls, and two deliveries interleave in every order. When
one has stored `started` before the other reads it, the two ran one after the other; otherwise
both read the same value, and then both call `ProfilerStart`, the second of which fails and
aborts, or both call `ProfilerStop`. -/
namespace Gperftools.Profiler.SwitchRace
open Control Switch

/-- Where a delivery is in `CpuProfilerSwitch`: before the base name check (`entry`), at
`if (!started)` (`test`), at the read and the store of `profile_count++` (`count`, `bump`), at
`ProfilerStart` or `ProfilerStop`, or at the read and the store of `started = !started` (`flip`,
`store`). From `if (!started)` on, the value it read there stays on the location. -/
inductive Pc where
  | entry
  | test
  | count
  | bump (n : BitVec 32)
  | start (n : BitVec 32)
  | stop
  | flip (saw : Bool)
  | store (saw v : Bool)
  | exited (saw : Bool)
  deriving DecidableEq, Repr

def Pc.saw : Pc → Option Bool
  | .entry | .test => none
  | .count | .bump _ | .start _ => some false
  | .stop => some true
  | .flip saw | .store saw _ | .exited saw => some saw

def cpuProfilerSwitchStep (pathMax : Nat) (uniquePath : Option (List UInt8)) (env : Env) :
    Pc → State × CpuProfiler → Except String (Pc × State × CpuProfiler)
  | .entry, (sw, p) => do
    let base ← resolveBase uniquePath sw
    pure (.test, { sw with baseProfileName := base }, p)
  | .test, (sw, p) => pure (if !sw.started then .count else .stop, sw, p)
  | .count, (sw, p) => pure (.bump sw.profileCount, sw, p)
  | .bump n, (sw, p) => pure (.start n, { sw with profileCount := n + 1 }, p)
  | .start n, (sw, p) => do
    let fullProfileName := snprintf (pathMax + 16) (sw.baseProfileName ++ [46] ++ decimal n.toNat)
    let (ok, p) ← (Op.start fullProfileName none).run env p
    if !ok then throw "Can't turn on cpu profiling for '%s': %s\n"
    pure (.flip false, sw, p)
  | .stop, (sw, p) => do
    let (_, p) ← Op.stop.run env p
    pure (.flip true, sw, p)
  | .flip saw, (sw, p) => pure (.store saw sw.started, sw, p)
  | .store saw v, (sw, p) => pure (.exited saw, { sw with started := !v }, p)
  | .exited saw, (sw, p) => pure (.exited saw, sw, p)

def stopped (p : CpuProfiler) : CpuProfiler :=
  if p.collector.enabled then { p with profHandlerToken := none, collector := p.collector.stop }
  else p

@[simp] theorem stoppedStopped (p : CpuProfiler) : stopped (stopped p) = stopped p := by
  unfold stopped
  split <;> simp_all [Collector.stop]

section Alone
variable {pathMax : Nat} {uniquePath : Option (List UInt8)} {env : Env} {sw : State}
  {p : CpuProfiler}

end Alone

/-- Two deliveries on two threads, `first` and `second`, sharing the statics and the profiler;
`aborted` once a `RAW_LOG(FATAL)` has ended the process. -/
structure Pair where
  sw : State
  p : CpuProfiler
  first : Pc
  second : Pc
  aborted : Bool
  deriving DecidableEq, Repr

def Pair.pc (s : Pair) : Bool → Pc
  | true => s.first
  | false => s.second

def Pair.set (s : Pair) (i : Bool) (c : Pc) (sw : State) (p : CpuProfiler) : Pair :=
  ⟨sw, p, if i then c else s.first, if i then s.second else c, s.aborted⟩

section Pair
variable (s : Pair) (i : Bool) (c : Pc) (sw : State) (p : CpuProfiler)

@[simp] theorem setPcSelf : (s.set i c sw p).pc i = c := by cases i <;> rfl
@[simp] theorem setPcOther : (s.set i c sw p).pc (!i) = s.pc (!i) := by cases i <;> rfl
@[simp] theorem setPcNot : (s.set (!i) c sw p).pc i = s.pc i := by cases i <;> rfl
@[simp] theorem setSw : (s.set i c sw p).sw = sw := rfl
@[simp] theorem setP : (s.set i c sw p).p = p := rfl

end Pair

def Pair.initial (sw : State) (p : CpuProfiler) : Pair := ⟨sw, p, .entry, .entry, false⟩

inductive Step (pathMax : Nat) (uniquePath : Option (List UInt8)) (envs : Bool → Env) :
    Pair → Pair → Prop
  | run {s : Pair} (i : Bool) {c : Pc} {sw : State} {p : CpuProfiler} (live : s.aborted = false)
      (h : cpuProfilerSwitchStep pathMax uniquePath (envs i) (s.pc i) (s.sw, s.p) =
        .ok (c, sw, p)) :
      Step pathMax uniquePath envs s (s.set i c sw p)
  | fatal {s : Pair} (i : Bool) {message : String} (live : s.aborted = false)
      (h : cpuProfilerSwitchStep pathMax uniquePath (envs i) (s.pc i) (s.sw, s.p) =
        .error message) :
      Step pathMax uniquePath envs s { s with aborted := true }

section Shape
variable {pathMax : Nat} {uniquePath : Option (List UInt8)} {envs : Bool → Env} {sw₁ : State}
  {p₀ : CpuProfiler}

end Shape

section Reached
variable {pathMax : Nat} {uniquePath : Option (List UInt8)} {envs : Bool → Env} {sw₀ : State}
  {p₀ : CpuProfiler}

end Reached

end Gperftools.Profiler.SwitchRace

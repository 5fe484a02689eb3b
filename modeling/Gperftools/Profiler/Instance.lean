import Gperftools.Profiler.Lifecycle

/-! The constructor of the static `CpuProfiler::instance_` (profiler.cc). It starts profiling at
load time when CPUPROFILE is set and the process is not setuid, either at once or, when
CPUPROFILESIGNAL names a signal, at its first delivery through `CpuProfilerSwitch`. What the
process answers (`getenv`, the user ids, `strtol`, `signal`, `GetUniquePathFromEnv`) is input;
`RAW_LOG(FATAL, ...)` aborts with its format string. -/
namespace Gperftools.Profiler.Instance
open Control Lifecycle

def zeroed : CpuProfiler := ⟨⟨false, [], 0, 0, []⟩, none, 0, none⟩

/-- What the constructor asks of the process: `getenv`, the user ids, `strtol`, the handler
`signal` replaces (0 for `SIG_DFL`) and the name `GetUniquePathFromEnv` writes, when it does. -/
structure Process where
  cpuprofileSet : Bool
  uid : Nat
  euid : Nat
  cpuprofilesignal : Option (List UInt8)
  strtol : List UInt8 → Int
  oldSignalHandler : Int → Nat
  uniquePath : Option (List UInt8)

def cpuProfiler (proc : Process) (env : Env) : Except String (CpuProfiler × Option Int) :=
  if !proc.cpuprofileSet then .ok (zeroed, none)
  else if proc.uid ≠ proc.euid then .ok (zeroed, none)
  else match proc.cpuprofilesignal with
    | some s =>
      let signalNumber := proc.strtol s
      if signalNumber ≥ 1 ∧ signalNumber ≤ 64 then
        if proc.oldSignalHandler signalNumber = 0 then .ok (zeroed, some signalNumber)
        else .error "Signal %d already in use\n"
      else .error "Signal number %s is invalid\n"
    | none =>
      match proc.uniquePath with
      | none => .ok (zeroed, none)
      | some fname => do
        let (ok, p) ← (Op.start fname none).run env zeroed
        if !ok then throw "Can't turn on cpu profiling for '%s': %s\n"
        pure (p, none)

theorem zeroedReachable (kMaxStackDepth : Nat) : Reachable kMaxStackDepth zeroed :=
  ⟨zeroed, [], ⟨rfl, rfl⟩, rfl⟩

theorem cpuProfilerReachable (kMaxStackDepth : Nat) {proc : Process} {env : Env}
    {p : CpuProfiler} {sw : Option Int} (h : cpuProfiler proc env = .ok (p, sw)) :
    Reachable kMaxStackDepth p := by
  unfold cpuProfiler at h
  split at h
  · cases h; exact zeroedReachable _
  split at h
  · cases h; exact zeroedReachable _
  split at h
  · dsimp only at h
    split at h
    · split at h <;> cases h; exact zeroedReachable _
    · cases h
  · split at h
    · cases h; exact zeroedReachable _
    · rename_i fname _
      cases hs : (Op.start fname none).run env zeroed with
      | error m => rw [hs] at h; cases h
      | ok r =>
        obtain ⟨ok, q⟩ := r
        rw [hs] at h
        cases ok <;> cases h
        exact ⟨zeroed, [.op (.start fname none) env], ⟨rfl, rfl⟩,
          by simp [exec, stepCall, hs, Except.map]⟩

end Gperftools.Profiler.Instance

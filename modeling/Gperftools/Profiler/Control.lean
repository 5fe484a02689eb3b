import Gperftools.Profiler.Handler

/-! The control side of `CpuProfiler` (profiler.cc): `Start`, `Stop`, `FlushTable`, `Enabled`,
`GetCurrentState` and the handler registration they share. Each operation is the list of steps
its body takes on shared state, in source order, so that its interleaving with `prof_handler`
can be stated; `lock_` runs the operations themselves one at a time. `ProfileData` and the
profile-handler registry are not in the sources: the collector is modelled from the spec, and
what the registry and the file system answer is input. -/
namespace Gperftools.Profiler.Control
open Handler (AddCall)

/-- Modelled from the spec: `ProfileData` (profiledata.h is not in the sources). It is enabled
between a successful `Start` and `Stop` and keeps the name, start time and frequency it was started
with, and the stacks handed to `Add` since. What it writes to the file is not modelled, and what
`Stop` leaves in the other fields is a choice of the model: it clears `enabled` only. -/
structure Collector where
  enabled : Bool
  fname : List UInt8
  startTime : Nat
  frequency : Nat
  samples : List (List Addr)
  deriving DecidableEq, Repr

namespace Collector

def start (c : Collector) (fname : List UInt8) (frequency now : Nat) (opened : Bool) :
    Bool × Collector :=
  if c.enabled || !opened then (false, c) else (true, ⟨true, fname, now, frequency, []⟩)

def stop (c : Collector) : Collector := { c with enabled := false }

def flushTable (c : Collector) : Collector := c

def add (c : Collector) (call : AddCall) : Collector :=
  if c.enabled then { c with samples := c.samples ++ [call.frames] } else c

end Collector

@[simp] theorem okBind {ε α β : Type} (a : α) (f : α → Except ε β) :
    (Except.ok a : Except ε α) >>= f = f a := rfl

@[simp] theorem errorBind {ε α β : Type} (e : ε) (f : α → Except ε β) :
    (Except.error e : Except ε α) >>= f = .error e := rfl

structure ProfilerOptions where
  filterInThread : Option Addr
  filterInThreadArg : Addr
  deriving DecidableEq, Repr

structure CpuProfiler where
  collector : Collector
  filter : Option Addr
  filterArg : Addr
  profHandlerToken : Option Nat
  deriving DecidableEq, Repr

structure Env where
  frequency : Nat
  now : Nat
  opened : Bool
  token : Option Nat
  deriving DecidableEq, Repr

/-- One step of an operation's body: `returnIf e` is `if (collector_.enabled() == e) return;`,
`collectorStart` returns false when `collector_.Start` fails, and `query` reads the collector for
the caller. -/
inductive Cmd where
  | returnIf (enabled : Bool)
  | collectorStart (fname : List UInt8)
  | setFilter (options : Option ProfilerOptions)
  | enableHandler
  | disableHandler
  | collectorStop
  | collectorFlushTable
  | query
  deriving DecidableEq, Repr

def Cmd.callsCollectorControl : Cmd → Bool
  | .collectorStart _ | .collectorStop | .collectorFlushTable => true
  | _ => false

def Cmd.writesHandlerData : Cmd → Bool
  | .collectorStart _ | .setFilter _ | .collectorStop | .collectorFlushTable => true
  | _ => false

inductive Outcome where
  | next (p : CpuProfiler)
  | done (p : CpuProfiler)
  | abort (message : String)
  deriving DecidableEq, Repr

def enableHandler (p : CpuProfiler) (token : Option Nat) : Outcome :=
  if p.profHandlerToken.isSome then .abort "SIGPROF handler already registered"
  else match token with
    | none => .abort "Failed to set up SIGPROF handler"
    | some t => .next { p with profHandlerToken := some t }

def disableHandler (p : CpuProfiler) : Outcome :=
  if p.profHandlerToken.isNone then .abort "SIGPROF handler is not registered"
  else .next { p with profHandlerToken := none }

def setFilter (p : CpuProfiler) (options : Option ProfilerOptions) : CpuProfiler :=
  let p := { p with filter := none }
  match options with
  | some ⟨some f, arg⟩ => { p with filter := some f, filterArg := arg }
  | _ => p

@[simp] theorem setFilterToken (p : CpuProfiler) (options : Option ProfilerOptions) :
    (setFilter p options).profHandlerToken = p.profHandlerToken := by
  unfold setFilter; split <;> rfl

@[simp] theorem setFilterCollector (p : CpuProfiler) (options : Option ProfilerOptions) :
    (setFilter p options).collector = p.collector := by
  unfold setFilter; split <;> rfl

def execCmd (env : Env) (p : CpuProfiler) : Cmd → Outcome
  | .returnIf enabled => if p.collector.enabled = enabled then .done p else .next p
  | .collectorStart fname =>
    match p.collector.start fname env.frequency env.now env.opened with
    | (true, c) => .next { p with collector := c }
    | (false, c) => .done { p with collector := c }
  | .setFilter options => .next (setFilter p options)
  | .enableHandler => enableHandler p env.token
  | .disableHandler => disableHandler p
  | .collectorStop => .next { p with collector := p.collector.stop }
  | .collectorFlushTable => .next { p with collector := p.collector.flushTable }
  | .query => .next p

/- What each step does when it lets the operation go on, and that an early return changes
nothing. -/
theorem execDone {env : Env} {p p' : CpuProfiler} {c : Cmd} (h : execCmd env p c = .done p') :
    p' = p := by
  cases c with
  | returnIf e => simp only [execCmd] at h; split at h <;> cases h; rfl
  | collectorStart fname =>
    cases hc : (p.collector.enabled || !env.opened) <;> simp [execCmd, Collector.start, hc] at h
    exact h.symm
  | enableHandler => simp only [execCmd, enableHandler] at h; split at h <;> (try split at h) <;> cases h
  | disableHandler => simp only [execCmd, disableHandler] at h; split at h <;> cases h
  | _ => cases h

theorem nextReturnIf {env : Env} {p p' : CpuProfiler} {e : Bool}
    (h : execCmd env p (.returnIf e) = .next p') : p' = p ∧ p.collector.enabled = !e := by
  simp only [execCmd] at h; split at h <;> cases h
  exact ⟨rfl, by cases e <;> simp_all⟩

theorem nextCollectorStart {env : Env} {p p' : CpuProfiler} {fname : List UInt8}
    (h : execCmd env p (.collectorStart fname) = .next p') :
    p.collector.enabled = false ∧ p'.collector.enabled = true ∧
      p'.profHandlerToken = p.profHandlerToken := by
  cases hc : (p.collector.enabled || !env.opened) <;> simp [execCmd, Collector.start, hc] at h
  subst h
  simp_all

theorem nextEnableHandler {env : Env} {p p' : CpuProfiler}
    (h : execCmd env p .enableHandler = .next p') :
    p.profHandlerToken = none ∧ p'.profHandlerToken.isSome ∧ p'.collector = p.collector := by
  simp only [execCmd, enableHandler] at h
  split at h
  · cases h
  · split at h <;> cases h; simp_all

theorem nextDisableHandler {env : Env} {p p' : CpuProfiler}
    (h : execCmd env p .disableHandler = .next p') :
    p.profHandlerToken.isSome ∧ p'.profHandlerToken = none ∧ p'.collector = p.collector := by
  simp only [execCmd, disableHandler] at h
  split at h <;> cases h
  rename_i registered
  exact ⟨Option.isSome_iff_ne_none.mpr (by simpa using registered), rfl, rfl⟩

theorem nextKeepsRegistration {env : Env} {p p' : CpuProfiler} {c : Cmd}
    (h : execCmd env p c = .next p') (hc : c ≠ .disableHandler) (hr : p.profHandlerToken.isSome) :
    p'.profHandlerToken.isSome := by
  cases c with
  | returnIf e => rw [(nextReturnIf h).1]; exact hr
  | collectorStart f => rw [(nextCollectorStart h).2.2]; exact hr
  | enableHandler => exact (nextEnableHandler h).2.1
  | disableHandler => exact absurd rfl hc
  | _ => simp only [execCmd, Outcome.next.injEq] at h; subst h; simpa using hr

theorem nextKeepsHandlerData {env : Env} {p p' : CpuProfiler} {c : Cmd}
    (h : execCmd env p c = .next p') (hc : c.writesHandlerData = false) :
    p'.filter = p.filter ∧ p'.filterArg = p.filterArg ∧ p'.collector = p.collector := by
  cases c with
  | returnIf e => rw [(nextReturnIf h).1]; exact ⟨rfl, rfl, rfl⟩
  | enableHandler =>
    simp only [execCmd, enableHandler] at h
    split at h
    · cases h
    · split at h <;> cases h; exact ⟨rfl, rfl, rfl⟩
  | disableHandler =>
    simp only [execCmd, disableHandler] at h; split at h <;> cases h; exact ⟨rfl, rfl, rfl⟩
  | query => cases h; exact ⟨rfl, rfl, rfl⟩
  | _ => cases hc

inductive Op where
  | start (fname : List UInt8) (options : Option ProfilerOptions)
  | stop
  | flushTable
  | enabled
  | getCurrentState
  deriving DecidableEq, Repr

def Op.cmds : Op → List Cmd
  | .start fname options =>
    [.returnIf true, .collectorStart fname, .setFilter options, .enableHandler]
  | .stop => [.returnIf false, .disableHandler, .collectorStop]
  | .flushTable => [.returnIf false, .disableHandler, .collectorFlushTable, .enableHandler]
  | .enabled | .getCurrentState => [.query]

def runCmds (env : Env) : List Cmd → CpuProfiler → Except String (Bool × CpuProfiler)
  | [], p => .ok (true, p)
  | c :: cs, p =>
    match execCmd env p c with
    | .next p' => runCmds env cs p'
    | .done p' => .ok (false, p')
    | .abort message => .error message

def Op.run (o : Op) (env : Env) (p : CpuProfiler) : Except String (Bool × CpuProfiler) :=
  runCmds env o.cmds p

def Constructed (p : CpuProfiler) : Prop :=
  p.profHandlerToken = none ∧ p.collector.enabled = false

def Synced (p : CpuProfiler) : Prop := p.profHandlerToken.isSome = p.collector.enabled

instance (p : CpuProfiler) : Decidable (Synced p) := inferInstanceAs (Decidable (_ = _))

theorem constructedSynced {p : CpuProfiler} (h : Constructed p) : Synced p := by
  simp [Synced, h.1, h.2]

def opened (p : CpuProfiler) (fname : List UInt8) (options : Option ProfilerOptions)
    (env : Env) (token : Nat) : CpuProfiler :=
  { setFilter { p with collector := ⟨true, fname, env.now, env.frequency, []⟩ } options with
    profHandlerToken := some token }

theorem runStart {p : CpuProfiler} (hp : Synced p) (fname options env) :
    (Op.start fname options).run env p =
      if p.collector.enabled || !env.opened then .ok (false, p)
      else match env.token with
        | some t => .ok (true, opened p fname options env t)
        | none => .error "Failed to set up SIGPROF handler" := by
  obtain ⟨c, f, a, t⟩ := p
  cases he : c.enabled
  · obtain rfl : t = none := by simpa [Synced, he] using hp
    cases ho : env.opened <;> cases hk : env.token <;>
      simp [Op.run, Op.cmds, runCmds, execCmd, Collector.start, he, ho, hk, enableHandler, opened]
  · simp [Op.run, Op.cmds, runCmds, execCmd, he]

theorem runStop {p : CpuProfiler} (hp : Synced p) (env) :
    Op.stop.run env p =
      if p.collector.enabled then
        .ok (true, { p with profHandlerToken := none, collector := p.collector.stop })
      else .ok (false, p) := by
  cases he : p.collector.enabled
  · simp [Op.run, Op.cmds, runCmds, execCmd, he]
  · have ht : p.profHandlerToken.isSome := by simpa [Synced, he] using hp
    simp [Op.run, Op.cmds, runCmds, execCmd, he, disableHandler, Option.isSome_iff_ne_none.mp ht]

theorem runFlushTable {p : CpuProfiler} (hp : Synced p) (env) :
    Op.flushTable.run env p =
      if p.collector.enabled then
        match env.token with
        | some t => .ok (true, { p with profHandlerToken := some t })
        | none => .error "Failed to set up SIGPROF handler"
      else .ok (false, p) := by
  cases he : p.collector.enabled
  · simp [Op.run, Op.cmds, runCmds, execCmd, he]
  · have ht : p.profHandlerToken.isSome := by simpa [Synced, he] using hp
    cases hk : env.token <;>
      simp [Op.run, Op.cmds, runCmds, execCmd, he, hk, disableHandler, enableHandler,
        Collector.flushTable, Option.isSome_iff_ne_none.mp ht]

theorem runQuery (p : CpuProfiler) (env) : Op.enabled.run env p = .ok (true, p) ∧
    Op.getCurrentState.run env p = .ok (true, p) := ⟨rfl, rfl⟩

end Gperftools.Profiler.Control

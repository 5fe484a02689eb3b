import Gperftools.Profiler.Lifecycle
import Mathlib.Logic.Relation

/-! The two parties of profiler.cc at once. The thread holding `lock_` runs one operation's
steps in order; the registry (profile-handler.cc, not in the sources) may start `prof_handler`
whenever the callback is registered and no run of it is in flight, and that run ends later;
`ProfileHandlerUnregisterCallback` waits for it. Over every interleaving from the constructed
state, the collector's control methods run only with the callback unregistered and no handler
in flight, and `collector_.Add` only on an enabled collector. -/
namespace Gperftools.Profiler.Interleaving
open Handler Control Lifecycle

structure Running where
  op : Op
  env : Env
  pc : Nat
  deriving DecidableEq, Repr

structure System where
  profiler : CpuProfiler
  control : Option Running
  inFlight : Bool
  deriving DecidableEq, Repr

def System.Initial (s : System) : Prop :=
  Constructed s.profiler ∧ s.control = none ∧ s.inFlight = false

/-- One thread's step: the holder of `lock_` runs its operation's next step, returns early or
releases the lock at its end, and `DisableHandler` waits for the `prof_handler` in flight; SIGPROF
starts `prof_handler` only while the callback is registered. -/
inductive Step (kMaxStackDepth : Nat) : System → System → Prop where
  | acquire {s : System} (o : Op) (env : Env) (free : s.control = none) :
      Step kMaxStackDepth s { s with control := some ⟨o, env, 0⟩ }
  | next {s : System} {o env i c p} (holder : s.control = some ⟨o, env, i⟩)
      (cmd : o.cmds[i]? = some c) (drained : c = .disableHandler → s.inFlight = false)
      (run : execCmd env s.profiler c = .next p) :
      Step kMaxStackDepth s { s with profiler := p, control := some ⟨o, env, i + 1⟩ }
  | done {s : System} {o env i c p} (holder : s.control = some ⟨o, env, i⟩)
      (cmd : o.cmds[i]? = some c) (run : execCmd env s.profiler c = .done p) :
      Step kMaxStackDepth s { s with profiler := p, control := none }
  | release {s : System} {o env} (holder : s.control = some ⟨o, env, o.cmds.length⟩) :
      Step kMaxStackDepth s { s with control := none }
  | enter {s : System} (registered : s.profiler.profHandlerToken.isSome)
      (idle : s.inFlight = false) : Step kMaxStackDepth s { s with inFlight := true }
  | leave {s : System} (t : Tick) (running : s.inFlight = true) :
      Step kMaxStackDepth s
        { s with profiler := runHandler kMaxStackDepth s.profiler t, inFlight := false }

def Reachable (kMaxStackDepth : Nat) (s : System) : Prop :=
  ∃ s₀ : System, s₀.Initial ∧ Relation.ReflTransGen (Step kMaxStackDepth) s₀ s

/-- Where each operation stands between its steps: registration and collector state. -/
def Phase (p : CpuProfiler) : Option Running → Prop
  | some ⟨.start _ _, _, 1⟩ => p.profHandlerToken = none ∧ p.collector.enabled = false
  | some ⟨.start _ _, _, 2⟩ | some ⟨.start _ _, _, 3⟩ =>
    p.profHandlerToken = none ∧ p.collector.enabled = true
  | some ⟨.stop, _, 1⟩ | some ⟨.flushTable, _, 1⟩ =>
    p.profHandlerToken.isSome ∧ p.collector.enabled = true
  | some ⟨.stop, _, 2⟩ | some ⟨.flushTable, _, 2⟩ | some ⟨.flushTable, _, 3⟩ =>
    p.profHandlerToken = none ∧ p.collector.enabled = true
  | _ => Synced p

structure Safe (s : System) : Prop where
  phase : Phase s.profiler s.control
  inFlightRegistered : s.inFlight = true → s.profiler.profHandlerToken.isSome

theorem phaseCongr {p q : CpuProfiler} {r : Option Running}
    (ht : q.profHandlerToken = p.profHandlerToken) (he : q.collector.enabled = p.collector.enabled)
    (h : Phase p r) : Phase q r := by
  unfold Phase Synced at h ⊢; rw [ht, he]; exact h

theorem phaseRegisteredEnabled {p : CpuProfiler} {r : Option Running} (h : Phase p r)
    (hr : p.profHandlerToken.isSome) : p.collector.enabled = true := by
  have synced : Synced p → p.collector.enabled = true := fun hs => hs ▸ hr
  have registered : p.profHandlerToken ≠ none := Option.isSome_iff_ne_none.mp hr
  rcases r with _ | ⟨o, env, _ | _ | _ | _ | i⟩ <;> try cases o
  all_goals first | exact synced h | exact h.2 | exact absurd h.1 registered

theorem phaseStart (p : CpuProfiler) (o : Op) (env : Env) : Phase p (some ⟨o, env, 0⟩) = Synced p := by
  cases o <;> rfl

theorem phaseEnd (p : CpuProfiler) (o : Op) (env : Env) :
    Phase p (some ⟨o, env, o.cmds.length⟩) = Synced p := by
  cases o <;> rfl

theorem phaseNext {p p' : CpuProfiler} {o : Op} {env : Env} {i : Nat} {c : Cmd}
    (hphase : Phase p (some ⟨o, env, i⟩)) (cmd : o.cmds[i]? = some c)
    (run : execCmd env p c = .next p') : Phase p' (some ⟨o, env, i + 1⟩) := by
  cases o with
  | start fname options =>
    rcases i with _ | _ | _ | _ | i <;> simp [Op.cmds] at cmd <;> subst cmd
    · obtain ⟨rfl, _⟩ := nextReturnIf run; simp_all [Phase, Synced]
    · obtain ⟨_, _, _⟩ := nextCollectorStart run; simp_all [Phase]
    · simp only [execCmd, Outcome.next.injEq] at run; subst run; simpa [Phase] using hphase
    · obtain ⟨_, _, _⟩ := nextEnableHandler run; simp_all [Phase, Synced]
  | stop =>
    rcases i with _ | _ | _ | i <;> simp [Op.cmds] at cmd <;> subst cmd
    · obtain ⟨rfl, _⟩ := nextReturnIf run; simp_all [Phase, Synced]
    · obtain ⟨_, _, _⟩ := nextDisableHandler run; simp_all [Phase]
    · simp only [execCmd, Outcome.next.injEq] at run; subst run
      simp_all [Phase, Synced, Collector.stop]
  | flushTable =>
    rcases i with _ | _ | _ | _ | i <;> simp [Op.cmds] at cmd <;> subst cmd
    · obtain ⟨rfl, _⟩ := nextReturnIf run; simp_all [Phase, Synced]
    · obtain ⟨_, _, _⟩ := nextDisableHandler run; simp_all [Phase]
    · simp only [execCmd, Outcome.next.injEq] at run; subst run
      simpa [Phase, Collector.flushTable] using hphase
    · obtain ⟨_, _, _⟩ := nextEnableHandler run; simp_all [Phase, Synced]
  | enabled | getCurrentState =>
    rcases i with _ | i <;> simp [Op.cmds] at cmd
    subst cmd
    simp only [execCmd, Outcome.next.injEq] at run; subst run; simpa [Phase] using hphase

theorem phaseDone {p p' : CpuProfiler} {o : Op} {env : Env} {i : Nat} {c : Cmd}
    (hphase : Phase p (some ⟨o, env, i⟩)) (cmd : o.cmds[i]? = some c)
    (run : execCmd env p c = .done p') : Synced p' := by
  obtain rfl := execDone run
  cases o with
  | start fname options =>
    rcases i with _ | _ | i
    · simpa [Phase] using hphase
    · simp_all [Phase, Synced]
    · rcases i with _ | _ | i <;> simp [Op.cmds] at cmd <;> subst cmd <;> simp [execCmd] at run
      · simp only [execCmd, enableHandler] at run; split at run <;> (try split at run) <;> cases run
  | stop =>
    rcases i with _ | _ | _ | i <;> simp [Op.cmds] at cmd <;> subst cmd
    · simpa [Phase] using hphase
    · simp only [execCmd, disableHandler] at run; split at run <;> cases run
    · cases run
  | flushTable =>
    rcases i with _ | _ | _ | _ | i <;> simp [Op.cmds] at cmd <;> subst cmd
    · simpa [Phase] using hphase
    · simp only [execCmd, disableHandler] at run; split at run <;> cases run
    · cases run
    · simp only [execCmd, enableHandler] at run; split at run <;> (try split at run) <;> cases run
  | enabled | getCurrentState => simpa [Phase] using hphase

theorem initialSafe {s : System} (h : s.Initial) : Safe s := by
  obtain ⟨h₀, hc, hf⟩ := h
  exact ⟨by simpa [hc, Phase] using constructedSynced h₀, by simp [hf]⟩

theorem stepSafe {kMaxStackDepth : Nat} {s s' : System} (hs : Safe s)
    (h : Step kMaxStackDepth s s') : Safe s' := by
  obtain ⟨hphase, hflight⟩ := hs
  cases h with
  | acquire o env free =>
    refine ⟨?_, hflight⟩
    simpa [free, Phase, phaseStart] using hphase
  | next holder cmd drained run =>
    rw [holder] at hphase
    refine ⟨phaseNext hphase cmd run, fun hf => ?_⟩
    rename_i c _
    by_cases hd : c = .disableHandler
    · simp [drained hd] at hf
    · exact nextKeepsRegistration run hd (hflight hf)
  | done holder cmd run =>
    rw [holder] at hphase
    exact ⟨by simpa [Phase] using phaseDone hphase cmd run, by simpa [execDone run] using hflight⟩
  | release holder =>
    rw [holder, phaseEnd] at hphase
    exact ⟨by simpa [Phase] using hphase, hflight⟩
  | enter registered idle => exact ⟨hphase, fun _ => registered⟩
  | leave t running =>
    obtain ⟨ht, he, -⟩ := runHandlerKeeps kMaxStackDepth s.profiler t
    exact ⟨phaseCongr ht he hphase, by simp⟩

theorem reachableSafe {kMaxStackDepth : Nat} {s : System} (h : Reachable kMaxStackDepth s) :
    Safe s := by
  obtain ⟨s₀, h₀, run⟩ := h
  induction run with
  | refl => exact initialSafe h₀
  | tail _ step ih => exact stepSafe ih step

theorem runCmdsSteps (kMaxStackDepth : Nat) (o : Op) (env : Env) (cs : List Cmd) :
    ∀ (i : Nat) (p p' : CpuProfiler) (r : Bool), o.cmds.drop i = cs → i ≤ o.cmds.length →
      runCmds env cs p = .ok (r, p') →
      Relation.ReflTransGen (Step kMaxStackDepth) ⟨p, some ⟨o, env, i⟩, false⟩ ⟨p', none, false⟩ := by
  induction cs with
  | nil =>
    intro i p p' r hdrop hi h
    cases h
    obtain rfl : i = o.cmds.length := by
      have := List.drop_eq_nil_iff.mp hdrop; omega
    exact .single (.release rfl)
  | cons c cs ih =>
    intro i p p' r hdrop hi h
    have hlt : i < o.cmds.length := by
      by_contra hge
      rw [List.drop_eq_nil_of_le (by omega)] at hdrop
      cases hdrop
    have cmd : o.cmds[i]? = some c := by
      rw [← List.head?_drop, hdrop]; rfl
    have rest : o.cmds.drop (i + 1) = cs := by
      rw [← List.drop_drop, hdrop]; rfl
    simp only [runCmds] at h
    split at h
    · rename_i q hq
      exact .head (.next rfl cmd (fun _ => rfl) hq) (ih (i + 1) q p' r rest hlt h)
    · rename_i q hq
      cases h
      exact .single (.done rfl cmd hq)
    · cases h

theorem startedFromConstructed : Relation.ReflTransGen (Step 64)
    ⟨⟨⟨false, [], 0, 0, []⟩, none, 0, none⟩, none, false⟩
    ⟨⟨⟨true, [97], 5, 100, []⟩, none, 0, some 1⟩, none, false⟩ :=
  .head (.acquire (.start [97] none) ⟨100, 5, true, some 1⟩ rfl)
    (runCmdsSteps 64 (.start [97] none) ⟨100, 5, true, some 1⟩ _ 0
      ⟨⟨false, [], 0, 0, []⟩, none, 0, none⟩ ⟨⟨true, [97], 5, 100, []⟩, none, 0, some 1⟩ true
      rfl (by decide) rfl)

theorem phaseControlCall {p : CpuProfiler} {o : Op} {env : Env} {i : Nat} {c : Cmd}
    (hphase : Phase p (some ⟨o, env, i⟩)) (cmd : o.cmds[i]? = some c)
    (hc : c.callsCollectorControl = true) : p.profHandlerToken = none := by
  cases o <;> rcases i with _ | _ | _ | _ | i <;> cases cmd <;>
    first | exact And.left hphase | cases hc

theorem collectorControlExcludesHandler (kMaxStackDepth : Nat) {s : System}
    (h : Reachable kMaxStackDepth s) :
    (∀ o env i c, s.control = some ⟨o, env, i⟩ → o.cmds[i]? = some c →
      c.callsCollectorControl = true →
      s.profiler.profHandlerToken = none ∧ s.inFlight = false) ∧
    (s.profiler.profHandlerToken.isSome → s.profiler.collector.enabled = true) ∧
    (s.inFlight = true → s.profiler.collector.enabled = true) := by
  obtain ⟨hphase, hflight⟩ := reachableSafe h
  refine ⟨fun o env i c holder cmd hc => ?_, phaseRegisteredEnabled hphase,
    fun hf => phaseRegisteredEnabled hphase (hflight hf)⟩
  rw [holder] at hphase
  have hnone := phaseControlCall hphase cmd hc
  refine ⟨hnone, ?_⟩
  cases hf : s.inFlight
  · rfl
  · simpa [hnone] using hflight hf

theorem collectorControlExcludesHandlerMidStop :
    let s : System := ⟨⟨⟨true, [97], 5, 100, [[7]]⟩, none, 0, none⟩,
      some ⟨.stop, ⟨100, 5, true, some 1⟩, 2⟩, false⟩
    Reachable 64 s ∧ Op.stop.cmds[2]? = some .collectorStop ∧
      Cmd.collectorStop.callsCollectorControl = true ∧
      ((∀ o env i c, s.control = some ⟨o, env, i⟩ → o.cmds[i]? = some c →
        c.callsCollectorControl = true →
          s.profiler.profHandlerToken = none ∧ s.inFlight = false) ∧
      (s.profiler.profHandlerToken.isSome → s.profiler.collector.enabled = true) ∧
      (s.inFlight = true → s.profiler.collector.enabled = true)) := by
  intro s
  have reach : Reachable 64 s :=
    ⟨_, ⟨⟨rfl, rfl⟩, rfl, rfl⟩, ((((startedFromConstructed.tail (.enter rfl rfl)).tail
      (.leave ⟨0, 7, []⟩ rfl)).tail (.acquire .stop ⟨100, 5, true, some 1⟩ rfl)).tail
      (.next rfl rfl (fun h => by cases h) rfl)).tail (.next rfl rfl (fun _ => rfl) rfl)⟩
  exact ⟨reach, rfl, rfl, collectorControlExcludesHandler 64 reach⟩

theorem phaseWriteCall {p : CpuProfiler} {o : Op} {env : Env} {i : Nat} {c : Cmd}
    (hphase : Phase p (some ⟨o, env, i⟩)) (cmd : o.cmds[i]? = some c)
    (hc : c.writesHandlerData = true) : p.profHandlerToken = none := by
  cases o <;> rcases i with _ | _ | _ | _ | i <;> cases cmd <;>
    first | exact And.left hphase | cases hc

theorem stepKeepsHandlerData {kMaxStackDepth : Nat} {s s' : System} (hs : Safe s)
    (h : Step kMaxStackDepth s s') (hf : s.inFlight = true) (hf' : s'.inFlight = true) :
    s'.profiler.filter = s.profiler.filter ∧ s'.profiler.filterArg = s.profiler.filterArg ∧
      s'.profiler.collector = s.profiler.collector := by
  obtain ⟨hphase, hflight⟩ := hs
  cases h with
  | acquire => exact ⟨rfl, rfl, rfl⟩
  | next holder cmd drained run =>
    rename_i c _
    cases hw : c.writesHandlerData
    · exact nextKeepsHandlerData run hw
    · rw [holder] at hphase
      simp [phaseWriteCall hphase cmd hw] at hflight
      simp [hflight] at hf
  | done holder cmd run => obtain rfl := execDone run; exact ⟨rfl, rfl, rfl⟩
  | release => exact ⟨rfl, rfl, rfl⟩
  | enter _ idle => simp [idle] at hf
  | leave => cases hf'

theorem handlerReadsStableData (kMaxStackDepth : Nat) {s s' : System}
    (h : Reachable kMaxStackDepth s) (hf : s.inFlight = true)
    (run : Relation.ReflTransGen (fun a b => Step kMaxStackDepth a b ∧ b.inFlight = true) s s') :
    s'.profiler.filter = s.profiler.filter ∧ s'.profiler.filterArg = s.profiler.filterArg ∧
      s'.profiler.collector = s.profiler.collector := by
  obtain ⟨s₀, h₀, reach⟩ := h
  induction run with
  | refl => exact ⟨rfl, rfl, rfl⟩
  | tail mid step ih =>
    rename_i b c
    obtain ⟨hb, hab, hcb⟩ := ih
    have hbReach : Relation.ReflTransGen (Step kMaxStackDepth) s₀ b :=
      reach.trans (mid.mono fun _ _ h => h.1)
    have hbf : b.inFlight = true := by
      cases mid.cases_tail with
      | inl e => rw [e]; exact hf
      | inr e => obtain ⟨_, _, hb'⟩ := e; exact hb'.2
    obtain ⟨f, a, c'⟩ := stepKeepsHandlerData (reachableSafe ⟨s₀, h₀, hbReach⟩) step.1 hbf step.2
    exact ⟨f.trans hb, a.trans hab, c'.trans hcb⟩

theorem handlerReadsStableDataAcrossAcquire :
    Reachable 64 ⟨⟨⟨true, [97], 5, 100, []⟩, none, 0, some 1⟩, none, true⟩ ∧
    Relation.ReflTransGen (fun a b => Step 64 a b ∧ b.inFlight = true)
      ⟨⟨⟨true, [97], 5, 100, []⟩, none, 0, some 1⟩, none, true⟩
      ⟨⟨⟨true, [97], 5, 100, []⟩, none, 0, some 1⟩, some ⟨.stop, ⟨100, 5, true, some 1⟩, 0⟩, true⟩ ∧
    ((none : Option Addr) = none ∧ (0 : Addr) = 0 ∧
      (⟨true, [97], 5, 100, []⟩ : Collector) = ⟨true, [97], 5, 100, []⟩) := by
  have reach : Reachable 64 ⟨⟨⟨true, [97], 5, 100, []⟩, none, 0, some 1⟩, none, true⟩ :=
    ⟨_, ⟨⟨rfl, rfl⟩, rfl, rfl⟩, startedFromConstructed.tail (.enter rfl rfl)⟩
  have run : Relation.ReflTransGen (fun a b => Step 64 a b ∧ b.inFlight = true)
      ⟨⟨⟨true, [97], 5, 100, []⟩, none, 0, some 1⟩, none, true⟩
      ⟨⟨⟨true, [97], 5, 100, []⟩, none, 0, some 1⟩, some ⟨.stop, ⟨100, 5, true, some 1⟩, 0⟩, true⟩ :=
    .single ⟨.acquire .stop ⟨100, 5, true, some 1⟩ rfl, rfl⟩
  exact ⟨reach, run, handlerReadsStableData 64 reach rfl run⟩

end Gperftools.Profiler.Interleaving

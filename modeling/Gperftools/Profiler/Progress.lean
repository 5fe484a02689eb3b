import Gperftools.Profiler.Interleaving

/-! Progress of the lock protocol. The thread holding `lock_` waits only in `DisableHandler`,
for the `prof_handler` run in flight, and `prof_handler` never takes `lock_`, so that run can
always end. Between the holder's steps the phase invariant keeps the `RAW_CHECK`s of
`EnableHandler` and `DisableHandler` from firing; only a null token from the registry stops an
operation. So every reachable state can get back to one where no thread holds `lock_`. -/
namespace Gperftools.Profiler.Progress
open Handler Control Lifecycle Interleaving

theorem execCmdAborts {env : Env} {p : CpuProfiler} {c : Cmd} {message : String}
    (h : execCmd env p c = .abort message) :
    (c = .enableHandler ∧ (p.profHandlerToken.isSome ∨ env.token = none)) ∨
      (c = .disableHandler ∧ p.profHandlerToken = none) := by
  cases c with
  | enableHandler =>
    simp only [execCmd, enableHandler] at h
    split at h
    · exact .inl ⟨rfl, .inl ‹_›⟩
    · split at h
      · exact .inl ⟨rfl, .inr ‹_›⟩
      · cases h
  | disableHandler =>
    simp only [execCmd, disableHandler] at h
    split at h
    · exact .inr ⟨rfl, Option.isNone_iff_eq_none.mp ‹_›⟩
    · cases h
  | returnIf e => simp only [execCmd] at h; split at h <;> cases h
  | collectorStart fname =>
    simp only [execCmd] at h; split at h <;> cases h
  | _ => cases h

theorem phaseNoAbort {p : CpuProfiler} {o : Op} {env : Env} {i : Nat} {c : Cmd} {message : String}
    (hphase : Phase p (some ⟨o, env, i⟩)) (cmd : o.cmds[i]? = some c)
    (htoken : env.token.isSome) : execCmd env p c ≠ .abort message := by
  intro h
  rcases execCmdAborts h with ⟨rfl, hbad⟩ | ⟨rfl, hnone⟩
  · have unregistered : p.profHandlerToken = none := by
      cases o <;> rcases i with _ | _ | _ | _ | i <;> cases cmd <;> exact And.left hphase
    rcases hbad with hreg | hnull
    · simp [unregistered] at hreg
    · simp [hnull] at htoken
  · have registered : p.profHandlerToken.isSome := by
      cases o <;> rcases i with _ | _ | _ | _ | i <;> cases cmd <;> exact And.left hphase
    simp [hnone] at registered

theorem remainingRun {o : Op} {env : Env} (htoken : env.token.isSome) :
    ∀ (cs : List Cmd) (i : Nat) (p : CpuProfiler), o.cmds.drop i = cs →
      Phase p (some ⟨o, env, i⟩) → ∃ r p', runCmds env cs p = .ok (r, p')
  | [], _, p, _, _ => ⟨true, p, rfl⟩
  | c :: cs, i, p, hdrop, hphase => by
    have cmd : o.cmds[i]? = some c := by rw [← List.head?_drop, hdrop]; rfl
    have rest : o.cmds.drop (i + 1) = cs := by rw [← List.drop_drop, hdrop]; rfl
    cases hc : execCmd env p c with
    | next p' =>
      obtain ⟨r, p'', h⟩ := remainingRun htoken cs (i + 1) p' rest (phaseNext hphase cmd hc)
      exact ⟨r, p'', by simp only [runCmds, hc, h]⟩
    | done p' => exact ⟨false, p', by simp only [runCmds, hc]⟩
    | abort m => exact absurd hc (phaseNoAbort hphase cmd htoken)

def PcInBounds (s : System) : Prop := ∀ r : Running, s.control = some r → r.pc ≤ r.op.cmds.length

theorem stepPcInBounds {kMaxStackDepth : Nat} {s s' : System} (hs : PcInBounds s)
    (h : Step kMaxStackDepth s s') : PcInBounds s' := by
  intro r hr
  cases h with
  | acquire => cases hr; exact Nat.zero_le _
  | next holder cmd => cases hr; exact (List.getElem?_eq_some_iff.mp cmd).1
  | done | release => cases hr
  | enter | leave => exact hs r hr

theorem reachablePcInBounds {kMaxStackDepth : Nat} {s : System}
    (h : Reachable kMaxStackDepth s) : PcInBounds s := by
  obtain ⟨s₀, h₀, run⟩ := h
  induction run with
  | refl => intro r hr; rw [h₀.2.1] at hr; cases hr
  | tail _ step ih => exact stepPcInBounds ih step

theorem holderReleases (kMaxStackDepth : Nat) {p : CpuProfiler} {r : Running}
    (hphase : Phase p (some r)) (hpc : r.pc ≤ r.op.cmds.length) (htoken : r.env.token.isSome) :
    ∃ p', Relation.ReflTransGen (Step kMaxStackDepth) ⟨p, some r, false⟩ ⟨p', none, false⟩ := by
  obtain ⟨o, env, i⟩ := r
  obtain ⟨b, p', h⟩ := remainingRun htoken (o.cmds.drop i) i p rfl hphase
  exact ⟨p', runCmdsSteps kMaxStackDepth o env _ i p p' b rfl hpc h⟩

/-- From every reachable state, unless the registry hands the thread holding `lock_` a null
token, the system can reach a state where no thread holds `lock_` and no `prof_handler` runs:
the `prof_handler` in flight can always end, `DisableHandler`'s wait for it then ends, and no
`RAW_CHECK` of `EnableHandler` or `DisableHandler` fires on the way. -/
theorem everyOperationCompletes (kMaxStackDepth : Nat) {s : System}
    (h : Reachable kMaxStackDepth s)
    (htoken : ∀ r : Running, s.control = some r → r.env.token.isSome) :
    ∃ p, Relation.ReflTransGen (Step kMaxStackDepth) s ⟨p, none, false⟩ := by
  obtain ⟨s₁, drain, idle, same, reach₁⟩ : ∃ s₁, Relation.ReflTransGen (Step kMaxStackDepth) s s₁ ∧
      s₁.inFlight = false ∧ s₁.control = s.control ∧ Reachable kMaxStackDepth s₁ := by
    cases hf : s.inFlight
    · exact ⟨s, .refl, hf, rfl, h⟩
    · have step : Step kMaxStackDepth s _ := .leave ⟨0, 0, []⟩ hf
      obtain ⟨s₀, h₀, run⟩ := h
      exact ⟨_, .single step, rfl, rfl, s₀, h₀, run.tail step⟩
  obtain ⟨p, control, inFlight⟩ := s₁
  subst idle same
  have hphase := (reachableSafe reach₁).phase
  cases hc : s.control with
  | none => rw [hc] at drain; exact ⟨p, drain⟩
  | some r =>
    rw [hc] at drain hphase
    obtain ⟨p', run⟩ := holderReleases kMaxStackDepth hphase
      (reachablePcInBounds reach₁ r hc) (htoken r hc)
    exact ⟨p', drain.trans run⟩

theorem everyOperationCompletesMidStop :
    let s : System := ⟨⟨⟨true, [97], 5, 100, []⟩, none, 0, some 1⟩,
      some ⟨.stop, ⟨100, 5, true, some 1⟩, 1⟩, true⟩
    Reachable 64 s ∧ (∀ r : Running, s.control = some r → r.env.token.isSome) ∧
      ∃ p, Relation.ReflTransGen (Step 64) s ⟨p, none, false⟩ := by
  intro s
  have reach : Reachable 64 s :=
    ⟨_, ⟨⟨rfl, rfl⟩, rfl, rfl⟩, ((startedFromConstructed.tail (.enter rfl rfl)).tail
      (.acquire .stop ⟨100, 5, true, some 1⟩ rfl)).tail (.next rfl rfl (fun h => by cases h) rfl)⟩
  have htoken : ∀ r : Running, s.control = some r → r.env.token.isSome := by
    rintro r ⟨⟩; rfl
  exact ⟨reach, htoken, everyOperationCompletes 64 reach htoken⟩

end Gperftools.Profiler.Progress

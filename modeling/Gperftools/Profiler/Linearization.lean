import Gperftools.Profiler.Interleaving

/-! Every interleaving linearises. A run of `prof_handler` takes effect when it ends. An
operation takes effect as a whole when it returns early or releases `lock_`, or already when a
`prof_handler` run ends after its last step. While the callback is registered, the thread holding
`lock_` has run only its `enabled()` check, which a handler run cannot change. So the states
where no thread holds `lock_` are exactly those the op-level model reaches one call after
another. -/
namespace Gperftools.Profiler.Linearization
open Handler Control Lifecycle Interleaving

theorem runCmdsAppend {env : Env} {p q : CpuProfiler} (rest : List Cmd) :
    ∀ {l : List Cmd}, runCmds env l q = .ok (true, p) →
      runCmds env (l ++ rest) q = runCmds env rest p := by
  intro l
  induction l generalizing q with
  | nil => intro h; cases h; rfl
  | cons c l ih =>
    intro h
    simp only [runCmds, List.cons_append] at h ⊢
    split at h <;> first | exact ih h | cases h

theorem runCmdsStopped {env : Env} {p q : CpuProfiler} (rest : List Cmd) :
    ∀ {l : List Cmd}, runCmds env l q = .ok (false, p) → runCmds env (l ++ rest) q = .ok (false, p) := by
  intro l
  induction l generalizing q with
  | nil => intro h; cases h
  | cons c l ih =>
    intro h
    simp only [runCmds, List.cons_append] at h ⊢
    split at h <;> first | exact ih h | exact h

theorem registeredHolderOnlyChecked {p : CpuProfiler} {o : Op} {env : Env} {i : Nat}
    (hphase : Phase p (some ⟨o, env, i⟩)) (hr : p.profHandlerToken.isSome)
    (hi : i < o.cmds.length) : o.cmds.take i = [] ∨ o.cmds.take i = [.returnIf false] := by
  have registered : p.profHandlerToken ≠ none := Option.isSome_iff_ne_none.mp hr
  cases o <;> rcases i with _ | _ | _ | _ | i <;>
    first
      | exact .inl rfl | exact .inr rfl | (simp [Op.cmds] at hi <;> omega)
      | exact absurd (And.left hphase) registered

theorem runCheckDisabled {env : Env} (q : CpuProfiler) :
    runCmds env [.returnIf false] q = .ok (q.collector.enabled, q) := by
  cases h : q.collector.enabled <;> simp [runCmds, execCmd, h]

theorem checkedPrefix {env : Env} {l : List Cmd} {p q : CpuProfiler}
    (hl : l = [] ∨ l = [.returnIf false]) (h : runCmds env l q = .ok (true, p)) :
    p = q ∧ ∀ q', q'.collector.enabled = q.collector.enabled → runCmds env l q' = .ok (true, q') := by
  rcases hl with rfl | rfl
  · cases h; exact ⟨rfl, fun _ _ => rfl⟩
  · simp only [runCheckDisabled, Except.ok.injEq, Prod.mk.injEq] at h
    obtain ⟨he, rfl⟩ := h
    exact ⟨rfl, fun q' hq' => by rw [runCheckDisabled, hq', he]⟩

/-- The op-level state `q` an interleaving state stands for. With no holder of `lock_` the
profiler is `q`. A holder at step `i` has run its first `i` steps from `q` and not returned,
or has run them all and is already counted in `q`. -/
def Linearizes (s : System) (q : CpuProfiler) : Prop :=
  match s.control with
  | none => s.profiler = q
  | some ⟨o, env, i⟩ =>
    runCmds env (o.cmds.take i) q = .ok (true, s.profiler) ∨
      (o.cmds.length ≤ i ∧ s.profiler = q)

theorem runCmdsTakeSucc {env : Env} {cmds : List Cmd} {i : Nat} {c : Cmd} {p q : CpuProfiler}
    (cmd : cmds[i]? = some c) (h : runCmds env (cmds.take i) q = .ok (true, p)) :
    runCmds env (cmds.take (i + 1)) q = runCmds env [c] p := by
  rw [List.take_succ, cmd, Option.toList_some, runCmdsAppend _ h]

theorem execSnocOp {kMaxStackDepth : Nat} {p₀ q p : CpuProfiler} {calls : List Call} {o : Op}
    {env : Env} {r : Bool} (hq : exec kMaxStackDepth p₀ calls = .ok q)
    (h : runCmds env o.cmds q = .ok (r, p)) :
    exec kMaxStackDepth p₀ (calls ++ [.op o env]) = .ok p := by
  rw [execSnoc, hq]
  simp only [bind, Except.bind, stepCall, Op.run, h, Except.map]

theorem execSnocTick {kMaxStackDepth : Nat} {p₀ q : CpuProfiler} {calls : List Call} (t : Tick)
    (hq : exec kMaxStackDepth p₀ calls = .ok q) (hr : q.profHandlerToken.isSome) :
    exec kMaxStackDepth p₀ (calls ++ [.sigprof t]) = .ok (runHandler kMaxStackDepth q t) := by
  rw [execSnoc, hq]
  simp only [bind, Except.bind, stepCall, sigprof, Option.isNone_iff_eq_none,
    Option.isSome_iff_ne_none.mp hr, ↓reduceIte]

theorem stepLinearizes {kMaxStackDepth : Nat} {s s' : System} (hs : Safe s)
    (h : Step kMaxStackDepth s s') {p₀ q : CpuProfiler} {calls : List Call}
    (hq : exec kMaxStackDepth p₀ calls = .ok q) (hl : Linearizes s q) :
    ∃ calls' q', exec kMaxStackDepth p₀ calls' = .ok q' ∧ Linearizes s' q' := by
  cases h with
  | acquire o env free =>
    simp only [Linearizes, free] at hl
    exact ⟨calls, q, hq, .inl (by rw [hl]; rfl)⟩
  | @next o env i c p holder cmd drained run =>
    simp only [Linearizes, holder] at hl
    have hi := (List.getElem?_eq_some_iff.mp cmd).1
    rcases hl with hp | ⟨hle, -⟩
    · exact ⟨calls, q, hq, .inl (by rw [runCmdsTakeSucc cmd hp]; simp only [runCmds, run])⟩
    · omega
  | @done o env i c p holder cmd run =>
    simp only [Linearizes, holder] at hl
    have hi := (List.getElem?_eq_some_iff.mp cmd).1
    rcases hl with hp | ⟨hle, -⟩
    · have stopped : runCmds env (o.cmds.take (i + 1)) q = .ok (false, p) := by
        rw [runCmdsTakeSucc cmd hp]; simp only [runCmds, run]
      have whole := runCmdsStopped (o.cmds.drop (i + 1)) stopped
      rw [List.take_append_drop] at whole
      exact ⟨calls ++ [.op o env], p, execSnocOp hq whole, rfl⟩
    · omega
  | @release o env holder =>
    simp only [Linearizes, holder, List.take_length] at hl
    rcases hl with hp | ⟨-, hpq⟩
    · exact ⟨calls ++ [.op o env], s.profiler, execSnocOp hq hp, rfl⟩
    · exact ⟨calls, q, hq, hpq⟩
  | enter => exact ⟨calls, q, hq, hl⟩
  | leave t running =>
    have registered := hs.inFlightRegistered running
    have phase := hs.phase
    unfold Linearizes at hl ⊢
    rcases hc : s.control with _ | ⟨o, env, i⟩ <;> rw [hc] at hl phase
    · subst hl
      exact ⟨calls ++ [.sigprof t], _, execSnocTick t hq registered, rfl⟩
    · rcases hl with hp | ⟨hle, hpq⟩
      · by_cases hi : i < o.cmds.length
        · obtain ⟨rfl, again⟩ := checkedPrefix (registeredHolderOnlyChecked phase registered hi) hp
          refine ⟨calls ++ [.sigprof t], _, execSnocTick t hq registered, .inl (again _ ?_)⟩
          exact (runHandlerKeeps kMaxStackDepth s.profiler t).2.1
        · rw [List.take_of_length_le (by omega)] at hp
          refine ⟨calls ++ [.op o env] ++ [.sigprof t], _,
            execSnocTick t (execSnocOp hq hp) registered, .inr ⟨by omega, rfl⟩⟩
      · subst hpq
        exact ⟨calls ++ [.sigprof t], _, execSnocTick t hq registered, .inr ⟨hle, rfl⟩⟩

theorem reachableLinearizes {kMaxStackDepth : Nat} {s : System}
    (h : Reachable kMaxStackDepth s) :
    ∃ p₀ calls q, Constructed p₀ ∧ exec kMaxStackDepth p₀ calls = .ok q ∧ Linearizes s q := by
  obtain ⟨s₀, h₀, run⟩ := h
  induction run with
  | refl =>
    obtain ⟨hc, hs, -⟩ := h₀
    exact ⟨s₀.profiler, [], s₀.profiler, hc, rfl, by simp only [Linearizes, hs]⟩
  | tail reach step ih =>
    obtain ⟨p₀, calls, q, hc, hq, hl⟩ := ih
    obtain ⟨calls', q', hq', hl'⟩ := stepLinearizes (reachableSafe ⟨s₀, h₀, reach⟩) step hq hl
    exact ⟨p₀, calls', q', hc, hq', hl'⟩

theorem stepCallSteps (kMaxStackDepth : Nat) {q q' : CpuProfiler} {c : Call}
    (h : stepCall kMaxStackDepth q c = .ok q') :
    Relation.ReflTransGen (Step kMaxStackDepth) ⟨q, none, false⟩ ⟨q', none, false⟩ := by
  cases c with
  | op o env =>
    cases hr : o.run env q with
    | error m => simp only [stepCall, hr] at h; cases h
    | ok rp =>
      simp only [stepCall, hr] at h; cases h
      exact .head (.acquire o env rfl)
        (runCmdsSteps kMaxStackDepth o env o.cmds 0 q rp.2 rp.1 rfl (Nat.zero_le _) hr)
  | sigprof t =>
    cases h
    unfold sigprof
    split
    · exact .refl
    · rename_i hreg
      exact .head (.enter (Option.isSome_iff_ne_none.mpr (by simpa using hreg)) rfl)
        (.single (.leave t rfl))

theorem execSteps (kMaxStackDepth : Nat) : ∀ (calls : List Call) {q p : CpuProfiler},
    exec kMaxStackDepth q calls = .ok p →
      Relation.ReflTransGen (Step kMaxStackDepth) ⟨q, none, false⟩ ⟨p, none, false⟩
  | [], _, _, h => by cases h; exact .refl
  | c :: cs, q, _, h => by
    simp only [exec, List.foldlM_cons] at h
    cases hc : stepCall kMaxStackDepth q c with
    | error m => rw [hc] at h; cases h
    | ok q' =>
      rw [hc, okBind] at h
      exact (stepCallSteps kMaxStackDepth hc).trans (execSteps kMaxStackDepth cs h)

theorem sequentialRunsInterleave (kMaxStackDepth : Nat) {p₀ : CpuProfiler}
    (h₀ : Constructed p₀) (calls : List Call) {p : CpuProfiler}
    (h : exec kMaxStackDepth p₀ calls = .ok p) : Reachable kMaxStackDepth ⟨p, none, false⟩ :=
  ⟨_, ⟨h₀, rfl, rfl⟩, execSteps kMaxStackDepth calls h⟩

/-- The states of the interleaving where no thread holds `lock_` and no `prof_handler` runs
are exactly those the op-level model reaches by whole operations and SIGPROF deliveries one after
another; with a `prof_handler` still in flight the profiler's state is one of those too. -/
theorem quiescentStatesAreSequential (kMaxStackDepth : Nat) (p : CpuProfiler) :
    (Lifecycle.Reachable kMaxStackDepth p ↔ Reachable kMaxStackDepth ⟨p, none, false⟩) ∧
    ∀ inFlight, Reachable kMaxStackDepth ⟨p, none, inFlight⟩ →
      Lifecycle.Reachable kMaxStackDepth p := by
  have sequential : ∀ inFlight, Reachable kMaxStackDepth ⟨p, none, inFlight⟩ →
      Lifecycle.Reachable kMaxStackDepth p := by
    intro inFlight h
    obtain ⟨p₀, calls, q, h₀, hq, hl⟩ := reachableLinearizes h
    exact ⟨p₀, calls, h₀, (show p = q from hl) ▸ hq⟩
  exact ⟨⟨fun ⟨_, calls, h₀, h⟩ => sequentialRunsInterleave kMaxStackDepth h₀ calls h,
    sequential false⟩, sequential⟩

end Gperftools.Profiler.Linearization

import Gperftools.Profiler.Control

/-! Whole runs of `CpuProfiler` from its constructed state: any sequence of public operations,
with every answer the collector and the registry may give, and SIGPROF deliveries in between.
The callback stays registered exactly while the collector is enabled, so the checks in
`EnableHandler` and `DisableHandler` never fire; a failed `Start` changes nothing, and during
a session `filter_` is what the `Start` that opened it asked for. -/
namespace Gperftools.Profiler.Lifecycle
open Handler Control

structure Tick where
  result : Int
  pc : Addr
  frames : List Addr
  deriving DecidableEq, Repr

inductive Call where
  | op (o : Op) (env : Env)
  | sigprof (tick : Tick)
  deriving DecidableEq, Repr

def Call.isStop : Call → Bool
  | .op .stop _ => true
  | _ => false

def runHandler (kMaxStackDepth : Nat) (p : CpuProfiler) (t : Tick) : CpuProfiler :=
  match profHandler kMaxStackDepth p.filter t.result t.pc t.frames with
  | some (some c) => { p with collector := p.collector.add c }
  | _ => p

def sigprof (kMaxStackDepth : Nat) (p : CpuProfiler) (t : Tick) : CpuProfiler :=
  if p.profHandlerToken.isNone then p else runHandler kMaxStackDepth p t

def stepCall (kMaxStackDepth : Nat) (p : CpuProfiler) : Call → Except String CpuProfiler
  | .op o env => (o.run env p).map Prod.snd
  | .sigprof t => .ok (sigprof kMaxStackDepth p t)

def exec (kMaxStackDepth : Nat) (p : CpuProfiler) (calls : List Call) : Except String CpuProfiler :=
  calls.foldlM (stepCall kMaxStackDepth) p

def Reachable (kMaxStackDepth : Nat) (p : CpuProfiler) : Prop :=
  ∃ p₀ calls, Constructed p₀ ∧ exec kMaxStackDepth p₀ calls = .ok p

def registrationFailed : String := "Failed to set up SIGPROF handler"

theorem runHandlerKeeps (kMaxStackDepth : Nat) (p : CpuProfiler) (t : Tick) :
    (runHandler kMaxStackDepth p t).profHandlerToken = p.profHandlerToken ∧
    (runHandler kMaxStackDepth p t).collector.enabled = p.collector.enabled ∧
    (runHandler kMaxStackDepth p t).filter = p.filter ∧
    (runHandler kMaxStackDepth p t).filterArg = p.filterArg := by
  unfold runHandler
  split
  · unfold Collector.add; split <;> simp_all
  · simp

theorem sigprofKeeps (kMaxStackDepth : Nat) (p : CpuProfiler) (t : Tick) :
    (sigprof kMaxStackDepth p t).profHandlerToken = p.profHandlerToken ∧
    (sigprof kMaxStackDepth p t).collector.enabled = p.collector.enabled ∧
    (sigprof kMaxStackDepth p t).filter = p.filter ∧
    (sigprof kMaxStackDepth p t).filterArg = p.filterArg := by
  unfold sigprof
  split
  · simp
  · exact runHandlerKeeps kMaxStackDepth p t

/-- Everything one call can do from a synced state: open a session, leave the callback
unregistered by `Stop`, or keep whether it is registered, the collector's state and the filter. -/
theorem stepCases {kMaxStackDepth : Nat} {p p' : CpuProfiler} {c : Call} (hp : Synced p)
    (h : stepCall kMaxStackDepth p c = .ok p') :
    (∃ fname options env t, c = .op (.start fname options) env ∧
      p.collector.enabled = false ∧ p.profHandlerToken = none ∧
      (Op.start fname options).run env p = .ok (true, p') ∧ p' = opened p fname options env t) ∨
    (c.isStop = true ∧ p'.profHandlerToken = none ∧ p'.collector.enabled = false) ∨
    (c.isStop = false ∧ p'.profHandlerToken.isSome = p.profHandlerToken.isSome ∧
      p'.collector.enabled = p.collector.enabled ∧ p'.filter = p.filter ∧
      p'.filterArg = p.filterArg) := by
  cases c with
  | sigprof t =>
    cases h
    obtain ⟨ht, he, hf, ha⟩ := sigprofKeeps kMaxStackDepth p t
    exact .inr (.inr ⟨rfl, by rw [ht], he, hf, ha⟩)
  | op o env =>
    have start := runStart hp
    cases o <;> simp only [stepCall, runStart hp, runStop hp, runFlushTable hp, runQuery] at h
    · split at h
      · cases h; exact .inr (.inr ⟨rfl, rfl, rfl, rfl, rfl⟩)
      · rename_i closed
        split at h <;> cases h
        rename_i t _
        have he : p.collector.enabled = false := by simp_all
        refine .inl ⟨_, _, env, t, rfl, he, by simpa [Synced, he] using hp, ?_, rfl⟩
        rw [start]; simp_all
    · split at h <;> cases h
      · exact .inr (.inl ⟨rfl, rfl, rfl⟩)
      · rename_i he
        exact .inr (.inl ⟨rfl, by simpa [Synced, he] using hp, by simpa using he⟩)
    · split at h
      · rename_i he
        split at h <;> cases h
        exact .inr (.inr ⟨rfl, by simpa [Synced, he] using hp, rfl, rfl, rfl⟩)
      · cases h; exact .inr (.inr ⟨rfl, rfl, rfl, rfl, rfl⟩)
    all_goals cases h; exact .inr (.inr ⟨rfl, rfl, rfl, rfl, rfl⟩)

theorem stepSynced {kMaxStackDepth : Nat} {p p' : CpuProfiler} {c : Call} (hp : Synced p)
    (h : stepCall kMaxStackDepth p c = .ok p') : Synced p' := by
  rcases stepCases hp h with ⟨_, _, _, _, -, -, -, -, rfl⟩ | ⟨-, ht, he⟩ | ⟨-, ht, he, -⟩
  · simp [Synced, opened]
  · simp [Synced, ht, he]
  · simpa [Synced, ht, he] using hp

theorem stepError {kMaxStackDepth : Nat} {p : CpuProfiler} {c : Call} {message : String}
    (hp : Synced p) (h : stepCall kMaxStackDepth p c = .error message) :
    message = registrationFailed := by
  cases c with
  | sigprof t => cases h
  | op o env =>
    cases o <;> simp only [stepCall, runStart hp, runStop hp, runFlushTable hp, runQuery] at h
    · split at h
      · cases h
      · split at h <;> cases h; rfl
    · split at h <;> cases h
    · split at h
      · split at h <;> cases h; rfl
      · cases h
    all_goals cases h

theorem execSynced {kMaxStackDepth : Nat} (calls : List Call) :
    ∀ {p p' : CpuProfiler}, Synced p → exec kMaxStackDepth p calls = .ok p' → Synced p' := by
  induction calls with
  | nil => intro p p' hp h; cases h; exact hp
  | cons c calls ih =>
    intro p p' hp h
    simp only [exec, List.foldlM_cons] at h
    cases hc : stepCall kMaxStackDepth p c with
    | error m => rw [hc] at h; cases h
    | ok q => rw [hc] at h; exact ih (stepSynced hp hc) h

theorem execError {kMaxStackDepth : Nat} (calls : List Call) :
    ∀ {p : CpuProfiler} {message : String}, Synced p →
      exec kMaxStackDepth p calls = .error message → message = registrationFailed := by
  induction calls with
  | nil => intro p m _ h; cases h
  | cons c calls ih =>
    intro p m hp h
    simp only [exec, List.foldlM_cons] at h
    cases hc : stepCall kMaxStackDepth p c with
    | error m' => rw [hc] at h; cases h; exact stepError hp hc
    | ok q => rw [hc] at h; exact ih (stepSynced hp hc) h

theorem reachableSynced {kMaxStackDepth : Nat} {p : CpuProfiler}
    (h : Reachable kMaxStackDepth p) : Synced p := by
  obtain ⟨p₀, calls, h₀, hrun⟩ := h
  exact execSynced calls (constructedSynced h₀) hrun

theorem registeredExactlyWhileEnabled (kMaxStackDepth : Nat) {p₀ : CpuProfiler}
    (h₀ : Constructed p₀) (calls : List Call) :
    (∀ p, exec kMaxStackDepth p₀ calls = .ok p →
      (p.profHandlerToken.isSome ↔ p.collector.enabled)) ∧
    (∀ message, exec kMaxStackDepth p₀ calls = .error message →
      message = "Failed to set up SIGPROF handler") := by
  refine ⟨fun p h => ?_, fun m h => execError calls (constructedSynced h₀) h⟩
  have := execSynced calls (constructedSynced h₀) h
  simp only [Synced] at this
  simp [this]

theorem registeredExactlyWhileEnabledAfterStart :
    Constructed ⟨⟨false, [], 0, 0, []⟩, none, 0, none⟩ ∧
    ((∀ p, exec 64 ⟨⟨false, [], 0, 0, []⟩, none, 0, none⟩
        [.op (.start [97] none) ⟨100, 0, true, some 1⟩] = .ok p →
      (p.profHandlerToken.isSome ↔ p.collector.enabled)) ∧
    (∀ message, exec 64 ⟨⟨false, [], 0, 0, []⟩, none, 0, none⟩
        [.op (.start [97] none) ⟨100, 0, true, some 1⟩] = .error message →
      message = "Failed to set up SIGPROF handler")) :=
  ⟨⟨rfl, rfl⟩, registeredExactlyWhileEnabled 64 ⟨rfl, rfl⟩ _⟩

theorem startResult {p p' : CpuProfiler} {fname options env} {r : Bool} (hp : Synced p)
    (h : (Op.start fname options).run env p = .ok (r, p')) :
    (r = true ↔ p.collector.enabled = false ∧ env.opened = true) ∧ (r = false → p' = p) := by
  rw [runStart hp] at h
  split at h
  · cases h
    refine ⟨?_, fun _ => rfl⟩
    cases he : p.collector.enabled <;> cases ho : env.opened <;> simp_all
  · split at h <;> cases h; simp_all

theorem openedFilter (p : CpuProfiler) (fname : List UInt8) (options : Option ProfilerOptions)
    (env : Env) (t : Nat) :
    (opened p fname options env t).filter = options.bind ProfilerOptions.filterInThread ∧
    ∀ o ∈ options, o.filterInThread.isSome → (opened p fname options env t).filterArg = o.filterInThreadArg := by
  rcases options with _ | ⟨_ | f, arg⟩ <;> simp [opened, setFilter]

theorem execSnoc (kMaxStackDepth : Nat) (p : CpuProfiler) (calls : List Call) (c : Call) :
    exec kMaxStackDepth p (calls ++ [c]) =
      exec kMaxStackDepth p calls >>= fun q => stepCall kMaxStackDepth q c := by
  simp [exec, List.foldlM_append]

/-- The `Start` that opened the session a registered state belongs to: the last call that
returned true, with no `Stop` after it. -/
theorem sessionOpener {kMaxStackDepth : Nat} {p₀ : CpuProfiler} (h₀ : Constructed p₀)
    (calls : List Call) : ∀ {p : CpuProfiler}, exec kMaxStackDepth p₀ calls = .ok p →
      p.profHandlerToken.isSome →
      ∃ pre fname options env post p₁ t,
        calls = pre ++ .op (.start fname options) env :: post ∧
        exec kMaxStackDepth p₀ pre = .ok p₁ ∧
        (Op.start fname options).run env p₁ = .ok (true, opened p₁ fname options env t) ∧
        (∀ c ∈ post, c.isStop = false) ∧ p.filter = (opened p₁ fname options env t).filter ∧
        p.filterArg = (opened p₁ fname options env t).filterArg := by
  induction calls using List.reverseRecOn with
  | nil => intro p h hreg; cases h; simp [h₀.1] at hreg
  | append_singleton calls c ih =>
    intro p h hreg
    rw [execSnoc] at h
    cases hq : exec kMaxStackDepth p₀ calls with
    | error m => rw [hq] at h; cases h
    | ok q =>
      rw [hq] at h
      have hsync : Synced q := execSynced calls (constructedSynced h₀) hq
      rcases stepCases hsync h with ⟨fname, options, env, t, rfl, -, -, hrun, rfl⟩ |
        ⟨-, ht, -⟩ | ⟨hs, ht, -, hf, ha⟩
      · exact ⟨calls, fname, options, env, [], q, t, by simp, hq, hrun, by simp, rfl, rfl⟩
      · simp [ht] at hreg
      · obtain ⟨pre, fname, options, env, post, p₁, t, rfl, h₁, h₂, hpost, hf', ha'⟩ :=
          ih hq (by rwa [← ht])
        refine ⟨pre, fname, options, env, post ++ [c], p₁, t, by simp, h₁, h₂, ?_,
          hf.trans hf', ha.trans ha'⟩
        intro d hd
        rcases List.mem_append.mp hd with hd | hd
        · exact hpost d hd
        · simp only [List.mem_singleton] at hd; subst hd; exact hs

theorem startAtomicAndSessionFilter (kMaxStackDepth : Nat) :
    (∀ (p p' : CpuProfiler) fname options env (r : Bool), Reachable kMaxStackDepth p →
      (Op.start fname options).run env p = .ok (r, p') →
      (r = true ↔ p.collector.enabled = false ∧ env.opened = true) ∧ (r = false → p' = p)) ∧
    (∀ (p₀ p : CpuProfiler) (calls : List Call), Constructed p₀ →
      exec kMaxStackDepth p₀ calls = .ok p → p.profHandlerToken.isSome →
      ∃ pre fname options env post p₁,
        calls = pre ++ .op (.start fname options) env :: post ∧
        exec kMaxStackDepth p₀ pre = .ok p₁ ∧
        (∃ p₂, (Op.start fname options).run env p₁ = .ok (true, p₂)) ∧
        (∀ c ∈ post, c.isStop = false) ∧
        p.filter = options.bind ProfilerOptions.filterInThread ∧
        ∀ o ∈ options, o.filterInThread.isSome → p.filterArg = o.filterInThreadArg) := by
  refine ⟨fun p p' _ _ _ _ hp h => startResult (reachableSynced hp) h, ?_⟩
  intro p₀ p calls h₀ hrun hreg
  obtain ⟨pre, fname, options, env, post, p₁, t, hcalls, h₁, h₂, hpost, hf, ha⟩ :=
    sessionOpener h₀ calls hrun hreg
  obtain ⟨of, oa⟩ := openedFilter p₁ fname options env t
  exact ⟨pre, fname, options, env, post, p₁, hcalls, h₁, ⟨_, h₂⟩, hpost, hf.trans of,
    fun o ho hs => ha.trans (oa o ho hs)⟩

theorem startAtomicAndSessionFilterAfterFailedStart :
    let env : Env := ⟨100, 5, true, some 1⟩
    let p₀ : CpuProfiler := ⟨⟨false, [], 0, 0, []⟩, none, 0, none⟩
    let calls : List Call := [.op (.start [97] (some ⟨some 42, 7⟩)) env, .op (.start [98] none) env]
    let p : CpuProfiler := ⟨⟨true, [97], 5, 100, []⟩, some 42, 7, some 1⟩
    Constructed p₀ ∧ exec 64 p₀ calls = .ok p ∧ p.profHandlerToken.isSome ∧
      (Op.start [98] none).run env p = .ok (false, p) ∧
      ((false = true ↔ p.collector.enabled = false ∧ env.opened = true) ∧ (false = false → p = p)) ∧
      ∃ pre fname options env' post p₁,
        calls = pre ++ .op (.start fname options) env' :: post ∧
        exec 64 p₀ pre = .ok p₁ ∧
        (∃ p₂, (Op.start fname options).run env' p₁ = .ok (true, p₂)) ∧
        (∀ c ∈ post, c.isStop = false) ∧
        p.filter = options.bind ProfilerOptions.filterInThread ∧
        ∀ o ∈ options, o.filterInThread.isSome → p.filterArg = o.filterInThreadArg := by
  intro env p₀ calls p
  have h₀ : Constructed p₀ := ⟨rfl, rfl⟩
  have hrun : exec 64 p₀ calls = .ok p := rfl
  have hfail : (Op.start [98] none).run env p = .ok (false, p) := rfl
  exact ⟨h₀, hrun, rfl, hfail,
    (startAtomicAndSessionFilter 64).1 p p [98] none env false ⟨p₀, calls, h₀, hrun⟩ hfail,
    (startAtomicAndSessionFilter 64).2 p₀ p calls h₀ hrun rfl⟩

end Gperftools.Profiler.Lifecycle

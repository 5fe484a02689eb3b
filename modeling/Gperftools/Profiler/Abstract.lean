import Gperftools.Profiler.Lifecycle

/-! What `CpuProfiler` is for, without tokens, step lists or the lock: the profiler is idle or in
one session, with its file, start time, frequency and sample filter, and a SIGPROF tick during
a session that the filter lets through records the interrupted stack, the pc on top. The
op-level model of the code refines this machine: `view` of its state runs it call by call. -/
namespace Gperftools.Profiler.Abstract
open Handler Control Lifecycle

structure Session where
  fname : List UInt8
  startTime : Nat
  frequency : Nat
  filter : Option (Addr × Addr)
  deriving DecidableEq, Repr

structure Profile where
  session : Option Session
  samples : List (List Addr)
  deriving DecidableEq, Repr

def requestedFilter : Option ProfilerOptions → Option (Addr × Addr)
  | some ⟨some f, arg⟩ => some (f, arg)
  | _ => none

def sampleStack (pc : Addr) (frames : List Addr) : List Addr :=
  if frames.head? = some pc then frames else pc :: frames

def recorded (s : Session) : Call → Option (List Addr)
  | .sigprof t => if s.filter.isNone || t.result != 0 then some (sampleStack t.pc t.frames) else none
  | .op _ _ => none

def Profile.step (P : Profile) : Call → Except String Profile
  | .op (.start fname options) env =>
    match P.session with
    | some _ => .ok P
    | none =>
      if env.opened then
        match env.token with
        | some _ => .ok ⟨some ⟨fname, env.now, env.frequency, requestedFilter options⟩, []⟩
        | none => .error registrationFailed
      else .ok P
  | .op .stop _ => .ok ⟨none, P.samples⟩
  | .op .flushTable env =>
    if P.session.isSome && env.token.isNone then .error registrationFailed else .ok P
  | .op .enabled _ | .op .getCurrentState _ => .ok P
  | .sigprof t =>
    match P.session with
    | some s => .ok ⟨some s, P.samples ++ (recorded s (.sigprof t)).toList⟩
    | none => .ok P

def Profile.run (P : Profile) (calls : List Call) : Except String Profile :=
  calls.foldlM Profile.step P

def view (p : CpuProfiler) : Profile :=
  ⟨if p.collector.enabled then
      some ⟨p.collector.fname, p.collector.startTime, p.collector.frequency,
        p.filter.map (·, p.filterArg)⟩
    else none, p.collector.samples⟩

def FitsStack (kMaxStackDepth : Nat) : Call → Prop
  | .sigprof t => t.frames.length ≤ kMaxStackDepth - 1
  | .op _ _ => True

instance (kMaxStackDepth : Nat) : DecidablePred (FitsStack kMaxStackDepth)
  | .sigprof _ => inferInstanceAs (Decidable (_ ≤ _))
  | .op _ _ => inferInstanceAs (Decidable True)

theorem viewOpened (p : CpuProfiler) (fname : List UInt8) (options : Option ProfilerOptions)
    (env : Env) (t : Nat) :
    view (opened p fname options env t) =
      ⟨some ⟨fname, env.now, env.frequency, requestedFilter options⟩, []⟩ := by
  rcases options with _ | ⟨_ | f, arg⟩ <;> rfl

theorem viewSigprof {kMaxStackDepth : Nat} (hk : 0 < kMaxStackDepth) {p : CpuProfiler}
    (hp : Synced p) {t : Tick} (hfit : t.frames.length ≤ kMaxStackDepth - 1) :
    (view p).step (.sigprof t) = .ok (view (sigprof kMaxStackDepth p t)) := by
  unfold sigprof
  cases he : p.collector.enabled
  · have ht : p.profHandlerToken = none := by simpa [Synced, he] using hp
    simp [ht, view, he, Profile.step]
  · have ht : p.profHandlerToken.isSome := by simpa [Synced, he] using hp
    simp only [Option.isNone_iff_eq_none, ← Option.not_isSome_iff_eq_none, ht, not_true, if_false,
      runHandler, profHandler, Option.map]
    cases hf : filterPasses p.filter t.result
    · have : (p.filter.isNone || t.result != 0) = false := hf
      simp [view, he, Profile.step, recorded, Option.isNone_map', this]
    · rw [if_pos rfl, usedStackOfFits _ _ _ (by omega)]
      have : (p.filter.isNone || t.result != 0) = true := hf
      simp only [view, he, if_true, Profile.step, recorded, Option.isNone_map', this,
        Collector.add, Option.toList_some]
      split <;> rename_i h <;> simp [sampleStack, h]

theorem viewStep {kMaxStackDepth : Nat} (hk : 0 < kMaxStackDepth) {p : CpuProfiler}
    (hp : Synced p) {c : Call} (hc : FitsStack kMaxStackDepth c) :
    (stepCall kMaxStackDepth p c).map view = (view p).step c := by
  cases c with
  | sigprof t => rw [viewSigprof hk hp hc]; rfl
  | op o env =>
    cases he : p.collector.enabled <;>
    cases o <;> simp only [stepCall, runStart hp, runStop hp, runFlushTable hp, runQuery, he]
    · cases ho : env.opened <;> simp only [ho, Bool.or_false, Bool.not_false, Bool.not_true]
      · simp [view, he, Profile.step, ho, Except.map]
      · cases hk : env.token
        · simp [view, he, Profile.step, ho, hk, Except.map, registrationFailed]
        · simp only [Except.map, Bool.false_eq_true, ↓reduceIte, hk]
          rw [viewOpened]
          simp [view, he, Profile.step, ho, hk]
    all_goals first
      | simp [view, he, Profile.step, Except.map, Collector.stop]; done
      | cases hk : env.token <;> simp [view, he, Profile.step, hk, Except.map, registrationFailed]

theorem execMapView (kMaxStackDepth : Nat) (hk : 0 < kMaxStackDepth) (calls : List Call)
    (hfit : ∀ c ∈ calls, FitsStack kMaxStackDepth c) :
    ∀ p, Synced p → (exec kMaxStackDepth p calls).map view = (view p).run calls := by
  induction calls with
  | nil => intro p _; rfl
  | cons c cs ih =>
    intro p hp
    have hstep := viewStep hk hp (hfit c (List.mem_cons_self _ _))
    simp only [exec, Profile.run, List.foldlM_cons] at ih ⊢
    cases hc : stepCall kMaxStackDepth p c with
    | error m => rw [hc] at hstep; rw [← hstep]; rfl
    | ok q =>
      rw [hc] at hstep
      rw [← hstep]
      exact ih (fun d hd => hfit d (List.mem_cons_of_mem _ hd)) q (stepSynced hp hc)

/-- Over every run from the constructed state whose ticks keep to `max_depth`, the code's
op-level model refines the session machine: `view` of its result, or its abort, is what the
machine does from `view` of the constructed state. -/
theorem execRefinesSessions (kMaxStackDepth : Nat) (hk : 0 < kMaxStackDepth) {p₀ : CpuProfiler}
    (h₀ : Constructed p₀) (calls : List Call) (hfit : ∀ c ∈ calls, FitsStack kMaxStackDepth c) :
    (exec kMaxStackDepth p₀ calls).map view = (view p₀).run calls :=
  execMapView kMaxStackDepth hk calls hfit p₀ (constructedSynced h₀)

theorem execRefinesSessionsWithFilter :
    0 < 64 ∧ Constructed ⟨⟨false, [], 0, 0, []⟩, none, 0, none⟩ ∧
    (∀ c ∈ [.op (.start [97] (some ⟨some 9, 4⟩)) ⟨100, 5, true, some 1⟩,
        .sigprof ⟨1, 7, [7, 3]⟩, .sigprof ⟨0, 5, [2]⟩], FitsStack 64 c) ∧
    (exec 64 ⟨⟨false, [], 0, 0, []⟩, none, 0, none⟩
        [.op (.start [97] (some ⟨some 9, 4⟩)) ⟨100, 5, true, some 1⟩,
          .sigprof ⟨1, 7, [7, 3]⟩, .sigprof ⟨0, 5, [2]⟩]).map view =
      (view ⟨⟨false, [], 0, 0, []⟩, none, 0, none⟩).run
        [.op (.start [97] (some ⟨some 9, 4⟩)) ⟨100, 5, true, some 1⟩,
          .sigprof ⟨1, 7, [7, 3]⟩, .sigprof ⟨0, 5, [2]⟩] :=
  ⟨by decide, ⟨rfl, rfl⟩, by decide, execRefinesSessions 64 (by decide) ⟨rfl, rfl⟩ _ (by decide)⟩

theorem runSnoc (P : Profile) (calls : List Call) (c : Call) :
    P.run (calls ++ [c]) = P.run calls >>= fun Q => Q.step c := by
  simp [Profile.run, List.foldlM_append]

theorem stepInSession {P Q : Profile} {c : Call} {s : Session} (h : P.step c = .ok Q)
    (hs : Q.session = some s) :
    (P.session = none ∧ (∃ fname options env, c = .op (.start fname options) env ∧
      s = ⟨fname, env.now, env.frequency, requestedFilter options⟩) ∧ Q.samples = []) ∨
    (P.session = some s ∧ c.isStop = false ∧ Q.samples = P.samples ++ (recorded s c).toList) := by
  obtain ⟨session, samples⟩ := P
  cases c with
  | sigprof t =>
    cases session <;> simp only [Profile.step, Except.ok.injEq] at h <;> subst h <;> cases hs
    exact .inr ⟨rfl, rfl, rfl⟩
  | op o env =>
    cases o with
    | start fname options =>
      cases session with
      | some s' =>
        simp only [Profile.step, Except.ok.injEq] at h; subst h; cases hs
        exact .inr ⟨rfl, rfl, by simp [recorded]⟩
      | none =>
        simp only [Profile.step] at h
        split at h
        · split at h <;> cases h; cases hs
          exact .inl ⟨rfl, ⟨fname, options, env, rfl, rfl⟩, rfl⟩
        · cases h; cases hs
    | stop => cases h; cases hs
    | flushTable =>
      simp only [Profile.step] at h; split at h <;> cases h
      subst hs; exact .inr ⟨rfl, rfl, by simp [recorded]⟩
    | enabled | getCurrentState =>
      cases h; subst hs; exact .inr ⟨rfl, rfl, by simp [recorded]⟩

theorem runSessionSamples {P : Profile} (hP : P.session = none) (calls : List Call) :
    ∀ {Q : Profile} {s : Session}, P.run calls = .ok Q → Q.session = some s →
      ∃ pre fname options env post, calls = pre ++ .op (.start fname options) env :: post ∧
        s = ⟨fname, env.now, env.frequency, requestedFilter options⟩ ∧
        (∀ c ∈ post, c.isStop = false) ∧ Q.samples = post.filterMap (recorded s) ∧
        ∃ R, P.run pre = .ok R ∧ R.session = none ∧
          R.step (.op (.start fname options) env) = .ok ⟨some s, []⟩ := by
  induction calls using List.reverseRecOn with
  | nil => intro Q s h hs; cases h; simp [hP] at hs
  | append_singleton calls c ih =>
    intro Q s h hs
    rw [runSnoc] at h
    cases hR : P.run calls with
    | error m => rw [hR] at h; cases h
    | ok R =>
      rw [hR] at h
      rcases stepInSession h hs with ⟨hRs, ⟨fname, options, env, rfl, rfl⟩, hq⟩ | ⟨hRs, hstop, hq⟩
      · refine ⟨calls, fname, options, env, [], by simp, rfl, by simp, by simp [hq], R, hR, hRs, ?_⟩
        obtain ⟨session, samples⟩ := Q
        cases hs; cases hq; exact h
      · obtain ⟨pre, fname, options, env, post, rfl, hs', hpost, hsamples, hopen⟩ := ih hR hRs
        refine ⟨pre, fname, options, env, post ++ [c], by simp, hs', ?_, ?_, hopen⟩
        · intro d hd
          rcases List.mem_append.mp hd with hd | hd
          · exact hpost d hd
          · rw [List.mem_singleton.mp hd]; exact hstop
        · rw [hq, hsamples, List.filterMap_append]
          cases hr : recorded s c <;> simp [hr]

theorem startOpensSession {kMaxStackDepth : Nat} (hk : 0 < kMaxStackDepth) {p : CpuProfiler}
    (hp : Synced p) {fname options env} {Q : Profile} (hnone : (view p).session = none)
    (h : (view p).step (.op (.start fname options) env) = .ok Q) (hQ : Q.session.isSome) :
    ∃ p', (Op.start fname options).run env p = .ok (true, p') := by
  have hv := viewStep hk hp (c := .op (.start fname options) env) trivial
  rw [h] at hv
  cases hr : (Op.start fname options).run env p with
  | error m => simp [stepCall, hr, Except.map] at hv
  | ok rp =>
    obtain ⟨r, p'⟩ := rp
    cases r with
    | true => exact ⟨p', rfl⟩
    | false =>
      cases (startResult hp hr).2 rfl
      simp only [stepCall, hr, Except.map, Except.ok.injEq] at hv
      simp [← hv, hnone] at hQ

/-- Over every run from the constructed state whose ticks keep to `max_depth`: while the
collector is enabled, its samples are the stacks of exactly those ticks since the `Start` that
opened the session that its filter let through, each once and in order, the pc on top. -/
theorem sessionSamplesAreFilteredTicks (kMaxStackDepth : Nat) (hk : 0 < kMaxStackDepth)
    {p₀ : CpuProfiler} (h₀ : Constructed p₀) (calls : List Call)
    (hfit : ∀ c ∈ calls, FitsStack kMaxStackDepth c) {p : CpuProfiler}
    (h : exec kMaxStackDepth p₀ calls = .ok p) (hen : p.collector.enabled = true) :
    ∃ pre fname options env post p₁ p₂, calls = pre ++ .op (.start fname options) env :: post ∧
      exec kMaxStackDepth p₀ pre = .ok p₁ ∧ (Op.start fname options).run env p₁ = .ok (true, p₂) ∧
      (∀ c ∈ post, c.isStop = false) ∧ p.collector.fname = fname ∧
      p.collector.samples =
        post.filterMap (recorded ⟨fname, env.now, env.frequency, requestedFilter options⟩) := by
  have hrun := execMapView kMaxStackDepth hk calls hfit p₀ (constructedSynced h₀)
  rw [h] at hrun
  have hview : (view p₀).session = none := by simp [view, h₀.2]
  obtain ⟨pre, fname, options, env, post, hcalls, hs, hpost, hsamples, R, hR, hRs, hopen⟩ :=
    runSessionSamples hview calls (Q := view p)
      (s := ⟨p.collector.fname, p.collector.startTime, p.collector.frequency,
        p.filter.map (·, p.filterArg)⟩) hrun.symm (by simp [view, hen])
  have hpre := execMapView kMaxStackDepth hk pre
    (fun c hc => hfit c (by rw [hcalls]; exact List.mem_append_left _ hc)) p₀ (constructedSynced h₀)
  rw [hR] at hpre
  obtain ⟨p₁, hp₁, rfl⟩ : ∃ p₁, exec kMaxStackDepth p₀ pre = .ok p₁ ∧ view p₁ = R := by
    cases he : exec kMaxStackDepth p₀ pre with
    | error m => simp [he, Except.map] at hpre
    | ok p₁ => simp only [he, Except.map, Except.ok.injEq] at hpre; exact ⟨p₁, rfl, hpre⟩
  obtain ⟨p₂, hp₂⟩ := startOpensSession hk (execSynced pre (constructedSynced h₀) hp₁) hRs hopen rfl
  simp only [Session.mk.injEq] at hs
  exact ⟨pre, fname, options, env, post, p₁, p₂, hcalls, hp₁, hp₂, hpost, hs.1, by
    rw [← hs.1, ← hs.2.1, ← hs.2.2.1, ← hs.2.2.2]; exact hsamples⟩

theorem sessionSamplesOfFilteredRun :
    let p₀ : CpuProfiler := ⟨⟨false, [], 0, 0, []⟩, none, 0, none⟩
    let calls : List Call := [.op (.start [97] (some ⟨some 9, 4⟩)) ⟨100, 5, true, some 1⟩,
      .sigprof ⟨1, 7, [7, 3]⟩, .sigprof ⟨0, 5, [2]⟩]
    exec 64 p₀ calls = .ok ⟨⟨true, [97], 5, 100, [[7, 3]]⟩, some 9, 4, some 1⟩ ∧
    ∃ pre fname options env post p₁ p₂, calls = pre ++ .op (.start fname options) env :: post ∧
      exec 64 p₀ pre = .ok p₁ ∧ (Op.start fname options).run env p₁ = .ok (true, p₂) ∧
      (∀ c ∈ post, c.isStop = false) ∧ [97] = fname ∧
      [[7, 3]] = post.filterMap (recorded ⟨fname, env.now, env.frequency, requestedFilter options⟩) := by
  intro p₀ calls
  exact ⟨rfl, sessionSamplesAreFilteredTicks 64 (by decide) (show Constructed p₀ from ⟨rfl, rfl⟩)
    calls (by decide) rfl rfl⟩

end Gperftools.Profiler.Abstract

import Gperftools.Profiler.Lifecycle
import Mathlib.Data.Nat.Digits

/-! `CpuProfilerSwitch` (profiler.cc), the handler of the signal named by CPUPROFILESIGNAL:
each delivery either starts profiling to `<CPUPROFILE>.<n>` or stops it, `n` counting starts in
an `unsigned`. `PATH_MAX` is a parameter; `GetUniquePathFromEnv` is not in the sources, and the
base name it yields is input. Names are byte strings without their terminating NUL. -/
namespace Gperftools.Profiler.Switch
open Control

def snprintf (size : Nat) (text : List UInt8) : List UInt8 := text.take (size - 1)

def digitByte (d : Nat) : UInt8 := UInt8.ofNat (48 + d)

def decimal (n : Nat) : List UInt8 :=
  if n = 0 then [digitByte 0] else (Nat.digits 10 n).reverse.map digitByte

/-- The static locals of `CpuProfilerSwitch`; an empty `baseProfileName` is a buffer whose
first byte is NUL. -/
structure State where
  profileCount : BitVec 32
  baseProfileName : List UInt8
  started : Bool
  deriving DecidableEq, Repr

def State.initial : State := ⟨0, [], false⟩

def resolveBase (uniquePath : Option (List UInt8)) (sw : State) : Except String (List UInt8) :=
  if sw.baseProfileName.isEmpty then
    match uniquePath with
    | some b => .ok b
    | none => .error "Cpu profiler switch is registered but no CPUPROFILE is defined"
  else .ok sw.baseProfileName

/-- One delivery of the toggle signal; `uniquePath` is what `GetUniquePathFromEnv` yields and
`env` answers the profiler during `ProfilerStart`/`ProfilerStop`. -/
def cpuProfilerSwitch (pathMax : Nat) (uniquePath : Option (List UInt8)) (env : Env)
    (sw : State) (p : CpuProfiler) : Except String (State × CpuProfiler) := do
  let base ← resolveBase uniquePath sw
  if !sw.started then
    let fullProfileName := snprintf (pathMax + 16) (base ++ [46] ++ decimal sw.profileCount.toNat)
    let (ok, p) ← (Op.start fullProfileName none).run env p
    if !ok then throw "Can't turn on cpu profiling for '%s': %s\n"
    pure (⟨sw.profileCount + 1, base, true⟩, p)
  else
    let (_, p) ← Op.stop.run env p
    pure (⟨sw.profileCount, base, false⟩, p)

def toggles (pathMax : Nat) (uniquePath : Option (List UInt8)) (envs : Nat → Env)
    (p₀ : CpuProfiler) : Nat → Except String (State × CpuProfiler)
  | 0 => .ok (State.initial, p₀)
  | k + 1 => do
    let (sw, p) ← toggles pathMax uniquePath envs p₀ k
    cpuProfilerSwitch pathMax uniquePath (envs k) sw p

def profileName (base : List UInt8) (j : Nat) : List UInt8 := base ++ [46] ++ decimal (j % 2 ^ 32)

def parseDecimal (text : List UInt8) : Nat := text.foldl (fun n c => 10 * n + (c.toNat - 48)) 0

theorem parseDigits (digits : List Nat) (h : ∀ d ∈ digits, d < 10) :
    parseDecimal (digits.reverse.map digitByte) = Nat.ofDigits 10 digits := by
  induction digits with
  | nil => rfl
  | cons d ds ih =>
    have hd : (digitByte d).toNat = 48 + d :=
      UInt8.toNat_ofNat_of_lt (by have := h d (by simp); simp [UInt8.size]; omega)
    simp only [List.reverse_cons, List.map_append, List.map_singleton, parseDecimal,
      List.foldl_append, List.foldl_cons, List.foldl_nil, Nat.ofDigits_cons] at ih ⊢
    rw [ih (fun d hd => h d (by simp [hd])), hd]
    omega

theorem parseDecimalOfDecimal (n : Nat) : parseDecimal (decimal n) = n := by
  unfold decimal
  split
  · subst n; rfl
  · rw [parseDigits _ (fun _ => Nat.digits_lt_base (by norm_num)), Nat.ofDigits_digits]

theorem decimalLength {n : Nat} (h : n < 2 ^ 32) : (decimal n).length ≤ 10 := by
  unfold decimal
  split
  · simp
  · rename_i hn
    rw [List.length_map, List.length_reverse, Nat.digits_len 10 n (by norm_num) hn]
    have := Nat.log_lt_of_lt_pow (b := 10) (x := 10) hn (by omega)
    omega

theorem profileNameInjective (base : List UInt8) {j j' : Nat} (hj : j < 2 ^ 32) (hj' : j' < 2 ^ 32)
    (h : profileName base j = profileName base j') : j = j' := by
  simp only [profileName, List.append_assoc, List.append_right_inj, List.cons.injEq,
    true_and] at h
  have := congrArg parseDecimal h
  rwa [parseDecimalOfDecimal, parseDecimalOfDecimal, Nat.mod_eq_of_lt hj,
    Nat.mod_eq_of_lt hj'] at this

theorem snprintfKeepsProfileName (pathMax : Nat) (base : List UInt8) (hb : base.length < pathMax)
    (j : Nat) : snprintf (pathMax + 16) (profileName base j) = profileName base j := by
  have := decimalLength (Nat.mod_lt j (by norm_num : 2 ^ 32 > 0))
  simp only [snprintf, profileName]
  exact List.take_of_length_le (by simp only [List.length_append, List.length_singleton]; omega)

def Toggled (base : List UInt8) (k : Nat) (sw : State) (p : CpuProfiler) : Prop :=
  (sw.baseProfileName = [] ∨ sw.baseProfileName = base) ∧ Synced p ∧
  p.collector.enabled = decide (k % 2 = 1) ∧ sw.started = p.collector.enabled ∧
  sw.profileCount.toNat = (k + 1) / 2 % 2 ^ 32 ∧
  (k % 2 = 1 → p.collector.fname = profileName base (k / 2))

theorem toggledStep (pathMax : Nat) (base : List UInt8) (hb : base.length < pathMax) {env : Env}
    (hopen : env.opened = true) (htoken : env.token.isSome) {k : Nat} {sw : State}
    {p : CpuProfiler} (h : Toggled base k sw p) :
    ∃ sw' p', cpuProfilerSwitch pathMax (some base) env sw p = .ok (sw', p') ∧
      Toggled base (k + 1) sw' p' := by
  obtain ⟨hbase, hsync, hen, hst, hcount, -⟩ := h
  obtain ⟨t, ht⟩ := Option.isSome_iff_exists.mp htoken
  have resolved : resolveBase (some base) sw = .ok base := by
    rcases hbase with hb | hb <;> simp [resolveBase, hb]
  rcases Nat.mod_two_eq_zero_or_one k with hk | hk
  · have half : (k + 1) / 2 = k / 2 := by omega
    have name : snprintf (pathMax + 16) (base ++ 46 :: decimal sw.profileCount.toNat) =
        profileName base (k / 2) := by
      rw [← snprintfKeepsProfileName pathMax base hb, profileName, hcount, half]
      simp
    have hoff : p.collector.enabled = false := by simpa [hk] using hen
    refine ⟨⟨sw.profileCount + 1, base, true⟩, opened p (profileName base (k / 2)) none env t,
      ?_, ?_⟩
    · simp [cpuProfilerSwitch, resolved, hst, hoff, name, runStart hsync, hopen, ht]
    · refine ⟨.inr rfl, by simp [Synced, opened], by simp [opened]; omega, by simp [opened],
        ?_, fun _ => by simp [opened, setFilter, show (k + 1) / 2 = k / 2 by omega]⟩
      rw [BitVec.toNat_add, hcount, half, show (k + 1 + 1) / 2 = k / 2 + 1 by omega]
      simp [Nat.add_mod]
  · have hon : p.collector.enabled = true := by simpa [hk] using hen
    refine ⟨⟨sw.profileCount, base, false⟩,
      { p with profHandlerToken := none, collector := p.collector.stop }, ?_, ?_⟩
    · simp [cpuProfilerSwitch, resolved, hst, hon, runStop hsync]
    · refine ⟨.inr rfl, by simp [Synced, Collector.stop], by simp [Collector.stop]; omega,
        by simp [Collector.stop], by rw [hcount, show (k + 1 + 1) / 2 = (k + 1) / 2 by omega],
        fun h => by omega⟩

theorem toggleAlternatesAndNamesSessions (pathMax : Nat) (base : List UInt8)
    (hb : base.length < pathMax) (envs : Nat → Env)
    (hok : ∀ j, (envs j).opened = true ∧ (envs j).token.isSome) (p₀ : CpuProfiler)
    (h₀ : Constructed p₀) :
    (∀ k, ∃ sw p, toggles pathMax (some base) envs p₀ k = .ok (sw, p) ∧
      p.collector.enabled = decide (k % 2 = 1) ∧ sw.started = p.collector.enabled ∧
      (k % 2 = 1 → p.collector.fname = profileName base (k / 2))) ∧
    (∀ j, snprintf (pathMax + 16) (profileName base j) = profileName base j) ∧
    (∀ j j', j < 2 ^ 32 → j' < 2 ^ 32 → j ≠ j' → profileName base j ≠ profileName base j') := by
  have run : ∀ k, ∃ sw p, toggles pathMax (some base) envs p₀ k = .ok (sw, p) ∧
      Toggled base k sw p := by
    intro k
    induction k with
    | zero => exact ⟨_, _, rfl, .inl rfl, constructedSynced h₀, by simp [h₀.2], by simp [h₀.2,
        State.initial], rfl, by simp⟩
    | succ k ih =>
      obtain ⟨sw, p, hrun, htog⟩ := ih
      obtain ⟨sw', p', hstep, htog'⟩ := toggledStep pathMax base hb (hok k).1 (hok k).2 htog
      exact ⟨sw', p', by simp only [toggles, hrun]; exact hstep, htog'⟩
  refine ⟨fun k => ?_, snprintfKeepsProfileName pathMax base hb,
    fun j j' hj hj' hne h => hne (profileNameInjective base hj hj' h)⟩
  obtain ⟨sw, p, hrun, -, -, hen, hst, -, hname⟩ := run k
  exact ⟨sw, p, hrun, hen, hst, hname⟩

theorem toggleThreeTimes : ∃ sw p, toggles 4096 (some [97]) (fun _ => ⟨100, 0, true, some 1⟩)
      ⟨⟨false, [], 0, 0, []⟩, none, 0, none⟩ 3 = .ok (sw, p) ∧
    p.collector.enabled = true ∧ p.collector.fname = profileName [97] 1 := by
  obtain ⟨run, -, -⟩ := toggleAlternatesAndNamesSessions 4096 [97] (by decide)
    (fun _ => ⟨100, 0, true, some 1⟩) (fun _ => ⟨rfl, rfl⟩) ⟨⟨false, [], 0, 0, []⟩, none, 0, none⟩
    ⟨rfl, rfl⟩
  obtain ⟨sw, p, hrun, hen, -, hname⟩ := run 3
  exact ⟨sw, p, hrun, by simpa using hen, hname rfl⟩

end Gperftools.Profiler.Switch

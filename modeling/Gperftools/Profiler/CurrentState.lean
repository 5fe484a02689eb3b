import Gperftools.Profiler.Control

/-! The byte copies at the end of `CpuProfiler::GetCurrentState` (profiler.cc), after the lock is
released: the `std::string_view` over the collector's `profile_name` runs `strlen` on it, its
first bytes go into the caller's `profile_name` buffer, and the address of `collector_.count_`
follows when it fits. `ProfileData::State` and `ProfilerState` are not in the sources; each
array is the list of its bytes, and every access outside one is undefined (`none`). -/
namespace Gperftools.Profiler.CurrentState

/-- Modelled from the spec; `profileName` is the whole `profile_name` array of the collector. -/
structure CollectorState where
  enabled : Bool
  startTime : Nat
  samplesGathered : Nat
  profileName : List UInt8
  deriving DecidableEq, Repr

structure ProfilerState where
  enabled : Bool
  startTime : Nat
  samplesGathered : Nat
  profileName : List UInt8
  deriving DecidableEq, Repr

def strlen : List UInt8 → Option Nat
  | [] => none
  | c :: rest => if c = 0 then some 0 else (strlen rest).map (· + 1)

def memcpy (dst : List UInt8) (offset : Nat) (src : List UInt8) (len : Nat) : Option (List UInt8) :=
  if offset + len ≤ dst.length ∧ len ≤ src.length then
    some (dst.take offset ++ src.take len ++ dst.drop (offset + len))
  else none

def store (dst : List UInt8) (i : Nat) (v : UInt8) : Option (List UInt8) :=
  if i < dst.length then some (dst.set i v) else none

def getCurrentState (collectorState : CollectorState) (countAddress : List UInt8)
    (state : ProfilerState) : Option ProfilerState := do
  let kBufSize := state.profileName.length
  let size ← strlen collectorState.profileName
  let buf ← memcpy state.profileName 0 collectorState.profileName (min kBufSize (size + 1))
  let buf ← store buf (kBufSize - 1) 0
  let buf ← if size + 1 + countAddress.length ≤ kBufSize then
      memcpy buf (size + 1) countAddress countAddress.length
    else pure buf
  pure ⟨collectorState.enabled, collectorState.startTime, collectorState.samplesGathered, buf⟩

theorem strlenSome : ∀ {name : List UInt8} {n : Nat}, strlen name = some n →
    n < name.length ∧ name[n]? = some 0
  | [], _, h => by cases h
  | c :: rest, n, h => by
    unfold strlen at h
    split at h
    · cases h; simp_all
    · obtain ⟨m, hm, rfl⟩ := Option.map_eq_some'.mp h
      obtain ⟨hlt, hat⟩ := strlenSome hm
      exact ⟨by simp; omega, by simpa using hat⟩

theorem strlenOfPrefix : ∀ {name name' : List UInt8} {n : Nat}, strlen name = some n →
    name'.take (n + 1) = name.take (n + 1) → strlen name' = some n
  | [], _, _, h, _ => by cases h
  | _ :: _, [], _, _, hpre => by cases hpre
  | c :: rest, c' :: rest', n, h, hpre => by
    simp only [List.take_succ_cons, List.cons.injEq] at hpre
    obtain ⟨rfl, hpre⟩ := hpre
    unfold strlen at h ⊢
    split at h
    · rw [if_pos ‹_›]; exact h
    · rw [if_neg ‹_›]
      obtain ⟨m, hm, rfl⟩ := Option.map_eq_some'.mp h
      rw [strlenOfPrefix hm hpre]
      rfl

theorem strlenOfShort : ∀ {name : List UInt8} {n : Nat}, strlen name = some n →
    ∀ k ≤ n, strlen (name.take k) = none
  | [], _, h, _, _ => by cases h
  | _ :: _, _, _, 0, _ => rfl
  | c :: rest, n, h, k + 1, hk => by
    unfold strlen at h
    split at h
    · cases h; omega
    · obtain ⟨m, hm, rfl⟩ := Option.map_eq_some'.mp h
      simp only [List.take_succ_cons, strlen, if_neg ‹_›, strlenOfShort hm k (by omega),
        Option.map_none']

theorem memcpyAt {dst src out : List UInt8} {offset len : Nat}
    (h : memcpy dst offset src len = some out) :
    out.length = dst.length ∧
      ∀ i, out[i]? = if offset ≤ i ∧ i < offset + len then src[i - offset]? else dst[i]? := by
  unfold memcpy at h
  split at h
  · rename_i fits
    cases h
    refine ⟨by simp; omega, fun i => ?_⟩
    have h1 : (dst.take offset).length = offset := by simp; omega
    have h2 : (src.take len).length = len := by simp; omega
    rw [List.append_assoc]
    rcases Nat.lt_or_ge i offset with hi | hi
    · rw [List.getElem?_append_left (by omega), List.getElem?_take_of_lt hi, if_neg (by omega)]
    · rw [List.getElem?_append_right (by omega), h1]
      rcases Nat.lt_or_ge i (offset + len) with hj | hj
      · rw [List.getElem?_append_left (by omega), List.getElem?_take_of_lt (by omega),
          if_pos ⟨hi, hj⟩]
      · rw [List.getElem?_append_right (by omega), h2, List.getElem?_drop, if_neg (by omega)]
        congr 1; omega
  · cases h

theorem storeAt {dst out : List UInt8} {i : Nat} {v : UInt8} (h : store dst i v = some out) :
    out.length = dst.length ∧ ∀ j, out[j]? = if j = i then some v else dst[j]? := by
  unfold store at h
  split at h
  · cases h
    refine ⟨by simp, fun j => ?_⟩
    rw [List.getElem?_set]
    by_cases hj : j = i <;> simp_all [eq_comm]
  · cases h

theorem getCurrentStateOfPrefix {cs : CollectorState} {n : Nat}
    (hn : strlen cs.profileName = some n) {name : List UInt8}
    (hpre : name.take (n + 1) = cs.profileName.take (n + 1)) (countAddress : List UInt8)
    (state : ProfilerState) :
    getCurrentState { cs with profileName := name } countAddress state =
      getCurrentState cs countAddress state := by
  have hn' := strlenOfPrefix hn hpre
  have hlen := (strlenSome hn).1
  have hlen' := (strlenSome hn').1
  have hcopy : name.take (min state.profileName.length (n + 1)) =
      cs.profileName.take (min state.profileName.length (n + 1)) := by
    rw [← min_eq_left (min_le_right state.profileName.length (n + 1)), ← List.take_take, hpre,
      List.take_take]
  simp only [getCurrentState, hn, hn', memcpy, hcopy, Option.bind_eq_bind, Option.some_bind]
  simp only [show min state.profileName.length (n + 1) ≤ name.length by omega,
    show min state.profileName.length (n + 1) ≤ cs.profileName.length by omega]

theorem getCurrentStateBytes (cs : CollectorState) (countAddress : List UInt8)
    (state : ProfilerState) {n : Nat} (hn : strlen cs.profileName = some n)
    (hB : 0 < state.profileName.length) :
    ∃ out, getCurrentState cs countAddress state = some out ∧
      out.enabled = cs.enabled ∧ out.startTime = cs.startTime ∧
      out.samplesGathered = cs.samplesGathered ∧
      out.profileName.length = state.profileName.length ∧
      ∀ i, out.profileName[i]? =
        if n + 1 + countAddress.length ≤ state.profileName.length ∧
            n + 1 ≤ i ∧ i < n + 1 + countAddress.length
          then countAddress[i - (n + 1)]?
        else if i = state.profileName.length - 1 then some 0
        else if i < min state.profileName.length (n + 1) then cs.profileName[i]?
        else state.profileName[i]? := by
  have hlen := (strlenSome hn).1
  obtain ⟨buf₁, h₁⟩ : ∃ b, memcpy state.profileName 0 cs.profileName
      (min state.profileName.length (n + 1)) = some b := by
    unfold memcpy; rw [if_pos ⟨by omega, by omega⟩]
    exact ⟨_, rfl⟩
  obtain ⟨len₁, at₁⟩ := memcpyAt h₁
  obtain ⟨buf₂, h₂⟩ : ∃ b, store buf₁ (state.profileName.length - 1) 0 = some b :=
    ⟨_, if_pos (by omega)⟩
  obtain ⟨len₂, at₂⟩ := storeAt h₂
  by_cases fits : n + 1 + countAddress.length ≤ state.profileName.length
  · obtain ⟨buf₃, h₃⟩ : ∃ b, memcpy buf₂ (n + 1) countAddress countAddress.length = some b := by
      unfold memcpy; rw [if_pos ⟨by omega, le_rfl⟩]; exact ⟨_, rfl⟩
    obtain ⟨len₃, at₃⟩ := memcpyAt h₃
    refine ⟨⟨cs.enabled, cs.startTime, cs.samplesGathered, buf₃⟩, ?_, rfl, rfl, rfl,
      by dsimp only; omega, fun i => ?_⟩
    · simp [getCurrentState, hn, h₁, h₂, h₃, fits, bind, Option.bind]
    · simp only [at₃, at₂, at₁, fits, true_and, Nat.sub_zero, Nat.zero_le, Nat.zero_add]
  · refine ⟨⟨cs.enabled, cs.startTime, cs.samplesGathered, buf₂⟩, ?_, rfl, rfl, rfl,
      by dsimp only; omega, fun i => ?_⟩
    · simp [getCurrentState, hn, h₁, h₂, fits, bind, Option.bind]
    · simp only [at₂, at₁, fits, false_and, if_false, Nat.sub_zero, Nat.zero_le, true_and,
        Nat.zero_add]

theorem getCurrentStateCopiesName (cs : CollectorState) (countAddress : List UInt8)
    (state : ProfilerState) {n : Nat} (hn : strlen cs.profileName = some n)
    (hB : 0 < state.profileName.length) :
    ∃ out, getCurrentState cs countAddress state = some out ∧
      (∀ name, name.take (n + 1) = cs.profileName.take (n + 1) →
        getCurrentState { cs with profileName := name } countAddress state = some out) ∧
      (∀ k ≤ n,
        getCurrentState { cs with profileName := cs.profileName.take k } countAddress state =
          none) ∧
      out.profileName.length = state.profileName.length ∧
      out.profileName.take (min n (state.profileName.length - 1)) =
        cs.profileName.take (min n (state.profileName.length - 1)) ∧
      out.profileName[min n (state.profileName.length - 1)]? = some 0 ∧
      (n + 1 + countAddress.length ≤ state.profileName.length →
        (out.profileName.drop (n + 1)).take countAddress.length = countAddress) := by
  obtain ⟨out, h, -, -, -, hlen, hat⟩ := getCurrentStateBytes cs countAddress state hn hB
  have hnul := (strlenSome hn).2
  refine ⟨out, h, fun name hpre => (getCurrentStateOfPrefix hn hpre _ _).trans h,
    fun k hk => ?_, hlen, List.ext_getElem? fun i => ?_, ?_,
    fun fits => List.ext_getElem? fun i => ?_⟩
  · simp only [getCurrentState, strlenOfShort hn k hk, Option.bind_eq_bind, Option.none_bind]
  · rw [List.getElem?_take, List.getElem?_take]
    split
    · rw [hat, if_neg (by omega), if_neg (by omega), if_pos (by omega)]
    · rfl
  · rw [hat, if_neg (by omega)]
    split
    · rfl
    · rw [if_pos (by omega), show min n (state.profileName.length - 1) = n by omega, hnul]
  · rw [List.getElem?_take, List.getElem?_drop, hat]
    split
    · rw [if_pos ⟨fits, by omega, by omega⟩]; simp
    · rw [List.getElem?_eq_none (by omega)]

theorem getCurrentStateIntoEightBytes :
    strlen [97, 98, 0, 7] = some 2 ∧ 0 < (List.replicate 8 (255 : UInt8)).length ∧ ∃ out,
      getCurrentState ⟨true, 5, 9, [97, 98, 0, 7]⟩ [1, 2, 3, 4] ⟨false, 0, 0, List.replicate 8 255⟩ =
        some out ∧ out.profileName.take 2 = [97, 98] ∧ out.profileName[2]? = some 0 ∧
      (out.profileName.drop 3).take 4 = [1, 2, 3, 4] := by
  obtain ⟨out, h, -, -, -, hname, hnul, haddr⟩ := getCurrentStateCopiesName
    ⟨true, 5, 9, [97, 98, 0, 7]⟩ [1, 2, 3, 4] ⟨false, 0, 0, List.replicate 8 255⟩
    (show strlen [97, 98, 0, 7] = some 2 from rfl) (by decide)
  exact ⟨rfl, by decide, out, h, by simpa using hname, by simpa using hnul, haddr (by decide)⟩

/-- A five-byte name and a four-byte buffer: with only `min(B, n + 1) = 4` bytes of the name in
the collector's array, the `strlen` runs off it, so `GetCurrentState` reads more than those. -/
theorem getCurrentStateReadsPastBuffer :
    strlen [97, 98, 99, 100, 101, 0] = some 5 ∧
    (getCurrentState ⟨true, 5, 9, [97, 98, 99, 100, 101, 0]⟩ [1, 2, 3, 4]
      ⟨false, 0, 0, List.replicate 4 255⟩).isSome ∧
    getCurrentState ⟨true, 5, 9, [97, 98, 99, 100, 101, 0].take (min 4 (5 + 1))⟩ [1, 2, 3, 4]
      ⟨false, 0, 0, List.replicate 4 255⟩ = none := by
  decide

theorem getCurrentStateAddressOverwritesLastNul (cs : CollectorState) (countAddress : List UInt8)
    (state : ProfilerState) {n : Nat} (hn : strlen cs.profileName = some n)
    (hfill : n + 1 + countAddress.length = state.profileName.length)
    (hP : 0 < countAddress.length) :
    ∃ out, getCurrentState cs countAddress state = some out ∧
      out.profileName[state.profileName.length - 1]? = countAddress.getLast? ∧
      out.profileName[n]? = some 0 := by
  obtain ⟨out, h, -, -, -, -, hat⟩ := getCurrentStateBytes cs countAddress state hn (by omega)
  refine ⟨out, h, ?_, ?_⟩
  · rw [hat, if_pos ⟨by omega, by omega, by omega⟩, List.getLast?_eq_getElem?]
    congr 1; omega
  · rw [hat, if_neg (by omega), if_neg (by omega), if_pos (by omega)]
    exact (strlenSome hn).2

theorem getCurrentStateAddressFillsEightBytes :
    strlen [97, 98, 0] = some 2 ∧ 2 + 1 + 5 = 8 ∧ 0 < 5 ∧ ∃ out,
      getCurrentState ⟨true, 5, 9, [97, 98, 0]⟩ [1, 2, 3, 4, 5] ⟨false, 0, 0, List.replicate 8 255⟩ =
        some out ∧ out.profileName[7]? = some 5 ∧ out.profileName[2]? = some 0 := by
  obtain ⟨out, h, hlast, hnul⟩ := getCurrentStateAddressOverwritesLastNul ⟨true, 5, 9, [97, 98, 0]⟩
    [1, 2, 3, 4, 5] ⟨false, 0, 0, List.replicate 8 255⟩ (show strlen [97, 98, 0] = some 2 from rfl)
    (by decide) (by decide)
  exact ⟨rfl, rfl, by decide, out, h, hlast, hnul⟩

end Gperftools.Profiler.CurrentState

import Mathlib.Data.List.Basic

/-! `CpuProfiler::prof_handler` (profiler.cc), the SIGPROF callback. The platform supplies
the interrupted pc and the frames `GetStackTraceWithContext` stores, at most its `max_depth`
argument of them. `ProfileData::kMaxStackDepth` is not in the sources and stays a parameter.
A read outside the array, or of a slot nothing stored, is undefined: the model answers `none`.
Symbolisation and the collector's hash table are not modelled here. -/
namespace Gperftools

abbrev Addr := Nat

namespace Profiler.Handler

/-- `void* stack[kMaxStackDepth]`; `none` marks a slot nothing stored. -/
abbrev Slots := List (Option Addr)

def load (stack : Slots) (i : Nat) : Option Addr := stack.getD i none

def storeFrom : Slots → Nat → List Addr → Slots
  | stack, _, [] => stack
  | stack, i, x :: xs => storeFrom (stack.set i (some x)) (i + 1) xs

def loadRange (stack : Slots) (offset : Nat) : Nat → Option (List Addr)
  | 0 => some []
  | n + 1 => do
      let x ← load stack offset
      let xs ← loadRange stack (offset + 1) n
      pure (x :: xs)

structure AddCall where
  depth : Nat
  offset : Nat
  frames : List Addr
  deriving DecidableEq, Repr

def filterPasses (filter : Option Addr) (result : Int) : Bool := filter.isNone || result != 0

def usedStack (kMaxStackDepth : Nat) (pc : Addr) (frames : List Addr) : Option AddCall := do
  let stack := storeFrom ((List.replicate kMaxStackDepth none).set 0 (some pc)) 1 frames
  let depth := frames.length
  let duplicate ← if depth > 0 then do
      let second ← load stack 1
      let first ← load stack 0
      pure (second == first)
    else pure false
  let (offset, depth) := if duplicate then (1, depth) else (0, depth + 1)
  let used ← loadRange stack offset depth
  pure ⟨depth, offset, used⟩

/-- `prof_handler`: `some none` when the filter rejects the sample, `some (some c)` when it
calls `collector_.Add` once with `c`, `none` when it would read undefined memory. -/
def profHandler (kMaxStackDepth : Nat) (filter : Option Addr) (result : Int) (pc : Addr)
    (frames : List Addr) : Option (Option AddCall) :=
  if filterPasses filter result then (usedStack kMaxStackDepth pc frames).map some else some none

def stored (ws : List Addr) (m : Nat) : Slots := ws.map some ++ List.replicate m none

theorem loadStored (ws : List Addr) (m i : Nat) : load (stored ws m) i = ws[i]? := by
  induction ws generalizing i with
  | nil =>
    simp only [stored, load, List.getD_eq_getElem?_getD, List.map_nil, List.nil_append,
      List.getElem?_replicate]
    split <;> simp
  | cons w ws ih => cases i <;> simp_all [stored, load]

theorem storeFromStored (ys : List Addr) :
    ∀ (xs : List Addr) (m : Nat), ys.length ≤ m →
      storeFrom (stored xs m) xs.length ys = stored (xs ++ ys) (m - ys.length) := by
  induction ys with
  | nil => intro xs m _; simp [storeFrom]
  | cons y ys ih =>
    intro xs m hm
    obtain ⟨m, rfl⟩ : ∃ k, m = k + 1 := ⟨m - 1, by simp at hm; omega⟩
    have set : (stored xs (m + 1)).set xs.length (some y) = stored (xs ++ [y]) m := by
      rw [stored, List.set_append_right _ _ (by simp)]
      simp [stored, List.replicate_succ]
    have := ih (xs ++ [y]) m (by simp at hm; omega)
    simp only [List.length_append, List.length_singleton] at this
    simpa [storeFrom, set] using this

theorem loadRangeStored (ws : List Addr) (m : Nat) :
    ∀ offset n, offset + n ≤ ws.length →
      loadRange (stored ws m) offset n = some ((ws.drop offset).take n) := by
  intro offset n
  induction n generalizing offset with
  | zero => simp [loadRange]
  | succ n ih =>
    intro h
    have split : ws.drop offset = ws[offset] :: ws.drop (offset + 1) :=
      List.drop_eq_getElem_cons (by omega)
    have head : ws[offset]? = some ws[offset] := List.getElem?_eq_getElem (by omega)
    rw [split, List.take_succ_cons]
    simp only [loadRange, loadStored, head, ih (offset + 1) (by omega)]
    rfl

theorem storedStack (kMaxStackDepth : Nat) (pc : Addr) (frames : List Addr)
    (fits : frames.length + 1 ≤ kMaxStackDepth) :
    storeFrom ((List.replicate kMaxStackDepth none).set 0 (some pc)) 1 frames =
      stored (pc :: frames) (kMaxStackDepth - (frames.length + 1)) := by
  obtain ⟨m, rfl⟩ : ∃ m, kMaxStackDepth = m + 1 := ⟨kMaxStackDepth - 1, by omega⟩
  have := storeFromStored frames [pc] m (by omega)
  simp only [List.singleton_append, List.length_singleton] at this
  simp only [List.replicate_succ, List.set_cons_zero]
  rw [show m + 1 - (frames.length + 1) = m - frames.length by omega]
  exact this

theorem usedStackOfFits (kMaxStackDepth : Nat) (pc : Addr) (frames : List Addr)
    (fits : frames.length + 1 ≤ kMaxStackDepth) :
    usedStack kMaxStackDepth pc frames = some (if frames.head? = some pc
      then ⟨frames.length, 1, frames⟩ else ⟨frames.length + 1, 0, pc :: frames⟩) := by
  simp only [usedStack, storedStack kMaxStackDepth pc frames fits]
  cases frames with
  | nil => simp [loadRangeStored]
  | cons f fs =>
    by_cases dup : f = pc
    · subst dup
      have used := loadRangeStored (f :: f :: fs) (kMaxStackDepth - (fs.length + 1 + 1)) 1
        (fs.length + 1) (by simp; omega)
      simp [loadStored, used]
    · simp [loadStored, loadRangeStored, dup]

theorem profHandlerAddsCapturedStack (kMaxStackDepth : Nat) (filter : Option Addr) (result : Int)
    (pc : Addr) (frames : List Addr) (hk : 0 < kMaxStackDepth)
    (hd : frames.length ≤ kMaxStackDepth - 1) :
    (filterPasses filter result = false →
      profHandler kMaxStackDepth filter result pc frames = some none) ∧
    (filterPasses filter result = true → ∃ c,
      profHandler kMaxStackDepth filter result pc frames = some (some c) ∧
      1 ≤ c.depth ∧ c.depth ≤ kMaxStackDepth ∧ c.offset + c.depth ≤ kMaxStackDepth ∧
      c.offset + c.depth ≤ frames.length + 1 ∧ c.frames.head? = some pc ∧
      c.frames = if frames.head? = some pc then frames else pc :: frames) := by
  refine ⟨fun h => by simp [profHandler, h], fun h => ?_⟩
  rw [profHandler, if_pos h, usedStackOfFits kMaxStackDepth pc frames (by omega)]
  cases frames with
  | nil => exact ⟨_, rfl, by simp; omega⟩
  | cons f fs =>
    by_cases dup : f = pc
    · subst dup
      exact ⟨_, rfl, by simp at hd ⊢; omega⟩
    · exact ⟨_, rfl, by simp [dup] at hd ⊢; omega⟩

theorem profHandlerAddsCapturedStackOfTwoFrames : 0 < 4 ∧ [7, 3].length ≤ 4 - 1 ∧
    ((filterPasses none 0 = false → profHandler 4 none 0 7 [7, 3] = some none) ∧
    (filterPasses none 0 = true → ∃ c, profHandler 4 none 0 7 [7, 3] = some (some c) ∧
      1 ≤ c.depth ∧ c.depth ≤ 4 ∧ c.offset + c.depth ≤ 4 ∧ c.offset + c.depth ≤ [7, 3].length + 1 ∧
      c.frames.head? = some 7 ∧ c.frames = if [7, 3].head? = some 7 then [7, 3] else 7 :: [7, 3])) :=
  ⟨by decide, by decide, profHandlerAddsCapturedStack 4 none 0 7 [7, 3] (by decide) (by decide)⟩

example : profHandler 4 none 0 7 [7, 3] = some (some ⟨2, 1, [7, 3]⟩) := by decide

end Profiler.Handler
end Gperftools

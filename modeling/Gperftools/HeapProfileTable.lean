import Mathlib.Algebra.BigOperators.Group.List
import Mathlib.Algebra.Ring.Int.Defs
import Mathlib.Data.List.Nodup

/-! The inline code of `HeapProfileTable` (heap-profile-table.h). `AllocValue` keeps the bucket
pointer and the live and ignore flags in one 64-bit `uintptr_t`, the flags in the two bits that
bucket alignment leaves clear. `IterateAllocs` reports each entry through the bucket it points
to, and `Snapshot::Add` fills a snapshot's map and its total. `AddressMap` and the fields of
`Bucket` are not in the sources and are modelled from the spec, as are `lastLive`, `lastIgnore`
and a snapshot's law `Totalled`. -/
namespace Gperftools.HeapProfileTable

def kLive : BitVec 64 := 1
def kIgnore : BitVec 64 := 2
def kMask : BitVec 64 := kLive ||| kIgnore

def flag (rep bit : BitVec 64) : Bool := rep &&& bit != 0

def setFlag (rep bit : BitVec 64) (l : Bool) : BitVec 64 :=
  (rep &&& ~~~bit) ||| (if l then bit else 0)

structure AllocValue where
  bytes : Nat
  bucketRep : BitVec 64
  deriving DecidableEq, Repr

namespace AllocValue

def bucket (v : AllocValue) : BitVec 64 := v.bucketRep &&& ~~~kMask
def setBucket (v : AllocValue) (b : BitVec 64) : AllocValue := { v with bucketRep := b }
def live (v : AllocValue) : Bool := flag v.bucketRep kLive
def setLive (v : AllocValue) (l : Bool) : AllocValue :=
  { v with bucketRep := setFlag v.bucketRep kLive l }
def ignore (v : AllocValue) : Bool := flag v.bucketRep kIgnore
def setIgnore (v : AllocValue) (r : Bool) : AllocValue :=
  { v with bucketRep := setFlag v.bucketRep kIgnore r }

end AllocValue

theorem kLiveTwoPow : kLive = BitVec.twoPow 64 0 := by decide
theorem kIgnoreTwoPow : kIgnore = BitVec.twoPow 64 1 := by decide

theorem flagTwoPow (rep : BitVec 64) {j : Nat} (hj : j < 64) :
    flag rep (BitVec.twoPow 64 j) = rep.getLsbD j := by
  rw [flag, BitVec.and_twoPow]
  split
  · rename_i h
    simp only [h, bne_iff_ne, ne_eq]
    intro h0
    simpa [BitVec.getLsbD_twoPow, hj] using congrArg (BitVec.getLsbD · j) h0
  · simp_all

theorem getLsbDSetFlag (rep : BitVec 64) {j : Nat} (l : Bool) (hj : j < 64) (i : Nat) :
    (setFlag rep (BitVec.twoPow 64 j) l).getLsbD i = if i = j then l else rep.getLsbD i := by
  by_cases hi : i < 64
  · by_cases h : i = j
    · subst h; cases l <;> simp [setFlag, BitVec.getLsbD_twoPow, hi]
    · cases l <;> simp [setFlag, BitVec.getLsbD_twoPow, h, Ne.symm h, hi]
  · simp [BitVec.getLsbD_ge _ _ (Nat.le_of_not_lt hi), show i ≠ j by omega]

theorem getLsbDMaskOut (rep : BitVec 64) (i : Nat) :
    (rep &&& ~~~kMask).getLsbD i = (rep.getLsbD i && 2 ≤ i) := by
  rw [kMask, kLiveTwoPow, kIgnoreTwoPow]
  by_cases hi : i < 64
  · obtain _ | _ | i := i <;> simp [BitVec.getLsbD_twoPow, hi]
  · simp [BitVec.getLsbD_ge _ _ (Nat.le_of_not_lt hi)]

theorem maskOutSetFlag (rep : BitVec 64) {j : Nat} (hj : j < 2) (l : Bool) :
    setFlag rep (BitVec.twoPow 64 j) l &&& ~~~kMask = rep &&& ~~~kMask := by
  apply BitVec.eq_of_getLsbD_eq
  intro i
  rw [getLsbDMaskOut, getLsbDMaskOut, getLsbDSetFlag _ _ (by omega)]
  by_cases h : (i : Nat) = j
  · simp [h, show ¬2 ≤ j by omega]
  · simp [h]

namespace AllocValue

@[simp] theorem liveSetLive (v : AllocValue) (l : Bool) : (v.setLive l).live = l := by
  simp [live, setLive, kLiveTwoPow, flagTwoPow, getLsbDSetFlag]

@[simp] theorem ignoreSetLive (v : AllocValue) (l : Bool) : (v.setLive l).ignore = v.ignore := by
  simp [ignore, setLive, kLiveTwoPow, kIgnoreTwoPow, flagTwoPow, getLsbDSetFlag]

@[simp] theorem bucketSetLive (v : AllocValue) (l : Bool) : (v.setLive l).bucket = v.bucket := by
  simp only [bucket, setLive, kLiveTwoPow]
  exact maskOutSetFlag _ (by decide) l

@[simp] theorem ignoreSetIgnore (v : AllocValue) (r : Bool) : (v.setIgnore r).ignore = r := by
  simp [ignore, setIgnore, kIgnoreTwoPow, flagTwoPow, getLsbDSetFlag]

@[simp] theorem liveSetIgnore (v : AllocValue) (r : Bool) : (v.setIgnore r).live = v.live := by
  simp [live, setIgnore, kLiveTwoPow, kIgnoreTwoPow, flagTwoPow, getLsbDSetFlag]

@[simp] theorem bucketSetIgnore (v : AllocValue) (r : Bool) :
    (v.setIgnore r).bucket = v.bucket := by
  simp only [bucket, setIgnore, kIgnoreTwoPow]
  exact maskOutSetFlag _ (by decide) r

theorem lowBitsAligned {b : BitVec 64} (hb : b.toNat % 4 = 0) {i : Nat} (hi : i < 2) :
    b.getLsbD i = false := by
  have h := Nat.testBit_mod_two_pow b.toNat 2 i
  rw [show 2 ^ 2 = 4 from rfl, hb, Nat.zero_testBit] at h
  simpa [BitVec.testBit_toNat, hi] using h.symm

theorem setBucketAligned (v : AllocValue) {b : BitVec 64} (hb : b.toNat % 4 = 0) :
    (v.setBucket b).bucket = b ∧ (v.setBucket b).live = false ∧ (v.setBucket b).ignore = false := by
  refine ⟨BitVec.eq_of_getLsbD_eq fun i => ?_, ?_, ?_⟩
  · simp only [bucket, setBucket]
    rw [getLsbDMaskOut]
    by_cases hi : (i : Nat) < 2
    · simp [lowBitsAligned hb hi]
    · simp [show 2 ≤ (i : Nat) by omega]
  · simp [live, setBucket, kLiveTwoPow, flagTwoPow, lowBitsAligned hb]
  · simp [ignore, setBucket, kIgnoreTwoPow, flagTwoPow, lowBitsAligned hb]

end AllocValue

inductive FlagUpdate where
  | setLive (l : Bool)
  | setIgnore (r : Bool)
  deriving DecidableEq, Repr

def FlagUpdate.apply (v : AllocValue) : FlagUpdate → AllocValue
  | .setLive l => v.setLive l
  | .setIgnore r => v.setIgnore r

def applyAll (v : AllocValue) (updates : List FlagUpdate) : AllocValue :=
  updates.foldl FlagUpdate.apply v

def FlagUpdate.liveArg : FlagUpdate → Option Bool
  | .setLive l => some l
  | .setIgnore _ => none

def FlagUpdate.ignoreArg : FlagUpdate → Option Bool
  | .setIgnore r => some r
  | .setLive _ => none

def lastLive (updates : List FlagUpdate) : Bool :=
  (updates.filterMap FlagUpdate.liveArg).getLastD false

def lastIgnore (updates : List FlagUpdate) : Bool :=
  (updates.filterMap FlagUpdate.ignoreArg).getLastD false

theorem applyAllReads (v : AllocValue) (updates : List FlagUpdate) :
    (applyAll v updates).bucket = v.bucket ∧
    (applyAll v updates).live = (updates.filterMap FlagUpdate.liveArg).getLastD v.live ∧
    (applyAll v updates).ignore = (updates.filterMap FlagUpdate.ignoreArg).getLastD v.ignore := by
  induction updates generalizing v with
  | nil => exact ⟨rfl, rfl, rfl⟩
  | cons u us ih =>
    obtain ⟨hb, hl, hi⟩ := ih (u.apply v)
    cases u with
    | setLive l =>
      simp only [FlagUpdate.apply, AllocValue.bucketSetLive, AllocValue.liveSetLive,
        AllocValue.ignoreSetLive] at hb hl hi
      exact ⟨hb, hl.trans (List.getLastD_cons ..).symm, hi⟩
    | setIgnore r =>
      simp only [FlagUpdate.apply, AllocValue.bucketSetIgnore, AllocValue.liveSetIgnore,
        AllocValue.ignoreSetIgnore] at hb hl hi
      exact ⟨hb, hl, hi.trans (List.getLastD_cons ..).symm⟩

theorem applyAllSetBucket (v : AllocValue) {b : BitVec 64} (hb : b.toNat % 4 = 0)
    (updates : List FlagUpdate) :
    (applyAll (v.setBucket b) updates).bucket = b ∧
    (applyAll (v.setBucket b) updates).live = lastLive updates ∧
    (applyAll (v.setBucket b) updates).ignore = lastIgnore updates := by
  obtain ⟨hbucket, hlive, hignore⟩ := AllocValue.setBucketAligned v hb
  obtain ⟨rb, rl, ri⟩ := applyAllReads (v.setBucket b) updates
  exact ⟨rb.trans hbucket, by rw [rl, hlive, lastLive], by rw [ri, hignore, lastIgnore]⟩

@[simp] theorem bytesApplyAll (v : AllocValue) (updates : List FlagUpdate) :
    (applyAll v updates).bytes = v.bytes := by
  induction updates generalizing v with
  | nil => rfl
  | cons u us ih => cases u <;> exact ih _

theorem allocValueDecodesLastWrites (v : AllocValue) (b : BitVec 64) (hb : b.toNat % 4 = 0)
    (updates : List FlagUpdate) :
    (applyAll (v.setBucket b) updates).bucket = b ∧
    (applyAll (v.setBucket b) updates).live = lastLive updates ∧
    (applyAll (v.setBucket b) updates).ignore = lastIgnore updates ∧
    (∀ w : AllocValue, ∀ l, (w.setLive l).bucket = w.bucket ∧ (w.setLive l).ignore = w.ignore) ∧
    (∀ w : AllocValue, ∀ r, (w.setIgnore r).bucket = w.bucket ∧ (w.setIgnore r).live = w.live) := by
  obtain ⟨rb, rl, ri⟩ := applyAllSetBucket v hb updates
  exact ⟨rb, rl, ri, fun w l => ⟨by simp, by simp⟩, fun w r => ⟨by simp, by simp⟩⟩

theorem allocValueDecodesAfterThreeUpdates :
    let w := applyAll (AllocValue.setBucket ⟨64, 7⟩ 0x1000)
      [.setLive true, .setIgnore true, .setLive false]
    w.bucket = 0x1000 ∧ w.live = false ∧ w.ignore = true := by
  obtain ⟨hb, hl, hi, -, -⟩ := allocValueDecodesLastWrites ⟨64, 7⟩ 0x1000 (by decide)
    [.setLive true, .setIgnore true, .setLive false]
  exact ⟨hb, hl, hi⟩

def insertEntry (ptr : Nat) (v : AllocValue) : List (Nat × AllocValue) → List (Nat × AllocValue)
  | [] => [(ptr, v)]
  | e :: es => if e.1 = ptr then (ptr, v) :: es else e :: insertEntry ptr v es

theorem insertEntryFresh {ptr : Nat} (v : AllocValue) {es : List (Nat × AllocValue)}
    (h : ptr ∉ es.map Prod.fst) : insertEntry ptr v es = es ++ [(ptr, v)] := by
  induction es with
  | nil => rfl
  | cons e es ih =>
    simp only [List.map_cons, List.mem_cons, not_or] at h
    simp [insertEntry, Ne.symm h.1, ih h.2]

theorem keysInsertEntryPresent {ptr : Nat} (v : AllocValue) {es : List (Nat × AllocValue)}
    (h : ptr ∈ es.map Prod.fst) : (insertEntry ptr v es).map Prod.fst = es.map Prod.fst := by
  induction es with
  | nil => simp at h
  | cons e es ih =>
    by_cases he : e.1 = ptr
    · simp [insertEntry, he]
    · simp only [List.map_cons, List.mem_cons, Ne.symm he, false_or] at h
      simp [insertEntry, he, ih h]

theorem insertEntryNodup (ptr : Nat) (v : AllocValue) {es : List (Nat × AllocValue)}
    (h : (es.map Prod.fst).Nodup) : ((insertEntry ptr v es).map Prod.fst).Nodup := by
  by_cases hp : ptr ∈ es.map Prod.fst
  · rwa [keysInsertEntryPresent v hp]
  · simpa [insertEntryFresh v hp, List.nodup_append, hp] using h

structure AllocationMap where
  entries : List (Nat × AllocValue)
  keysNodup : (entries.map Prod.fst).Nodup

def AllocationMap.insert (m : AllocationMap) (ptr : Nat) (v : AllocValue) : AllocationMap :=
  ⟨insertEntry ptr v m.entries, insertEntryNodup ptr v m.keysNodup⟩

structure Bucket where
  stack : List Nat
  depth : Int
  deriving DecidableEq, Repr

structure AllocInfo where
  objectSize : Nat
  callStack : List Nat
  stackDepth : Int
  live : Bool
  ignored : Bool
  deriving DecidableEq, Repr

def reportAlloc (buckets : BitVec 64 → Option Bucket) (e : Nat × AllocValue) :
    Option (Nat × AllocInfo) := do
  let b ← buckets e.2.bucket
  pure (e.1, ⟨e.2.bytes, b.stack, b.depth, e.2.live, e.2.ignore⟩)

def iterateAllocs (buckets : BitVec 64 → Option Bucket) (m : AllocationMap) :
    Option (List (Nat × AllocInfo)) :=
  m.entries.mapM (reportAlloc buckets)

theorem mapMReportAlloc (buckets : BitVec 64 → Option Bucket) :
    ∀ es : List (Nat × AllocValue), (∀ e ∈ es, (buckets e.2.bucket).isSome) →
      ∃ infos, es.mapM (reportAlloc buckets) = some infos ∧
        infos.map Prod.fst = es.map Prod.fst ∧
        ∀ e ∈ es, ∃ b, buckets e.2.bucket = some b ∧
          (e.1, ⟨e.2.bytes, b.stack, b.depth, e.2.live, e.2.ignore⟩) ∈ infos
  | [], _ => ⟨[], rfl, rfl, fun _ h => absurd h (List.not_mem_nil _)⟩
  | e :: es, h => by
    obtain ⟨b, hb⟩ := Option.isSome_iff_exists.mp (h e (List.mem_cons_self _ _))
    obtain ⟨infos, hi, hk, hm⟩ :=
      mapMReportAlloc buckets es fun e' he' => h e' (List.mem_cons_of_mem _ he')
    refine ⟨(e.1, ⟨e.2.bytes, b.stack, b.depth, e.2.live, e.2.ignore⟩) :: infos, ?_, ?_, ?_⟩
    · simp only [List.mapM_cons, hi, reportAlloc, hb]; rfl
    · simp [hk]
    · intro e' he'
      rcases List.mem_cons.mp he' with rfl | he'
      · exact ⟨b, hb, List.mem_cons_self _ _⟩
      · obtain ⟨b', hb', hm'⟩ := hm e' he'
        exact ⟨b', hb', List.mem_cons_of_mem _ hm'⟩

theorem iterateAllocsReportsRecords (buckets : BitVec 64 → Option Bucket) (m : AllocationMap)
    (resolved : ∀ e ∈ m.entries, (buckets e.2.bucket).isSome) :
    ∃ infos, iterateAllocs buckets m = some infos ∧
      infos.map Prod.fst = m.entries.map Prod.fst ∧ (infos.map Prod.fst).Nodup ∧
      ∀ ptr (v : AllocValue) b updates, b.toNat % 4 = 0 →
        (ptr, applyAll (v.setBucket b) updates) ∈ m.entries →
        ∃ bucket, buckets b = some bucket ∧
          (ptr, ⟨v.bytes, bucket.stack, bucket.depth, lastLive updates, lastIgnore updates⟩) ∈ infos := by
  obtain ⟨infos, h, hk, hm⟩ := mapMReportAlloc buckets m.entries resolved
  refine ⟨infos, h, hk, hk ▸ m.keysNodup, fun ptr v b updates hb he => ?_⟩
  obtain ⟨bucket, hbk, hmem⟩ := hm _ he
  obtain ⟨rb, rl, ri⟩ := applyAllSetBucket v hb updates
  rw [rb] at hbk
  rw [rl, ri, bytesApplyAll] at hmem
  exact ⟨bucket, hbk, hmem⟩

theorem iterateAllocsOfLiveRecord :
    let buckets : BitVec 64 → Option Bucket := fun a => if a = 0x1000 then some ⟨[7, 3], 2⟩ else none
    let m : AllocationMap :=
      ⟨[(0x2000, applyAll (AllocValue.setBucket ⟨64, 0⟩ 0x1000) [.setLive true])], by decide⟩
    (∀ e ∈ m.entries, (buckets e.2.bucket).isSome) ∧ ∃ infos, iterateAllocs buckets m = some infos ∧
      infos.map Prod.fst = [0x2000] ∧ (0x2000, ⟨64, [7, 3], 2, true, false⟩) ∈ infos := by
  intro buckets m
  have resolved : ∀ e ∈ m.entries, (buckets e.2.bucket).isSome := by decide
  obtain ⟨infos, h, hk, -, hrep⟩ := iterateAllocsReportsRecords buckets m resolved
  obtain ⟨bucket, hb, hmem⟩ :=
    hrep 0x2000 ⟨64, 0⟩ 0x1000 [.setLive true] (by decide) (List.mem_singleton_self _)
  obtain rfl : bucket = ⟨[7, 3], 2⟩ := (Option.some.inj hb).symm
  exact ⟨resolved, infos, h, hk, hmem⟩

structure Stats where
  allocs : Int
  frees : Int
  allocSize : Int
  freeSize : Int
  deriving DecidableEq, Repr

structure Snapshot where
  total : Stats
  map : AllocationMap

namespace Snapshot

def new : Snapshot := ⟨⟨0, 0, 0, 0⟩, ⟨[], List.nodup_nil⟩⟩

def empty (s : Snapshot) : Bool := s.total.allocs == 0 && s.total.allocSize == 0

def add (s : Snapshot) (ptr : Nat) (v : AllocValue) : Snapshot :=
  ⟨{ s.total with allocs := s.total.allocs + 1, allocSize := s.total.allocSize + v.bytes },
    s.map.insert ptr v⟩

end Snapshot

def addAll (s : Snapshot) (adds : List (Nat × AllocValue)) : Snapshot :=
  adds.foldl (fun s a => s.add a.1 a.2) s

structure Totalled (s : Snapshot) : Prop where
  allocs : s.total.allocs = s.map.entries.length
  allocSize : s.total.allocSize = (s.map.entries.map fun e => (e.2.bytes : Int)).sum
  frees : s.total.frees = 0
  freeSize : s.total.freeSize = 0

theorem totalledNew : Totalled Snapshot.new := ⟨rfl, rfl, rfl, rfl⟩

theorem totalledAdd {s : Snapshot} (h : Totalled s) {ptr : Nat} (v : AllocValue)
    (fresh : ptr ∉ s.map.entries.map Prod.fst) :
    Totalled (s.add ptr v) ∧ (s.add ptr v).map.entries = s.map.entries ++ [(ptr, v)] := by
  have he : (s.add ptr v).map.entries = s.map.entries ++ [(ptr, v)] := insertEntryFresh v fresh
  refine ⟨⟨?_, ?_, h.frees, h.freeSize⟩, he⟩
  · rw [he, List.length_append, List.length_singleton, Int.natCast_add, ← h.allocs]; rfl
  · rw [he, List.map_append, List.sum_append, ← h.allocSize]; simp [Snapshot.add]

theorem totalledAddAll {s : Snapshot} (h : Totalled s) {adds : List (Nat × AllocValue)}
    (hn : (adds.map Prod.fst).Nodup) (hd : ∀ p ∈ adds.map Prod.fst, p ∉ s.map.entries.map Prod.fst) :
    Totalled (addAll s adds) ∧ (addAll s adds).map.entries = s.map.entries ++ adds := by
  induction adds generalizing s with
  | nil => exact ⟨h, (List.append_nil _).symm⟩
  | cons a as ih =>
    rw [List.map_cons, List.nodup_cons] at hn
    obtain ⟨h', he⟩ := totalledAdd h a.2 (hd a.1 (List.mem_cons_self _ _))
    have hd' : ∀ p ∈ as.map Prod.fst, p ∉ (s.add a.1 a.2).map.entries.map Prod.fst := by
      intro p hp hs
      rw [he, List.map_append, List.mem_append] at hs
      rcases hs with hs | hs
      · exact hd p (List.mem_cons_of_mem _ hp) hs
      · rw [List.map_singleton, List.mem_singleton] at hs
        exact hn.1 (hs ▸ hp)
    obtain ⟨ht, hm⟩ := ih h' hn.2 hd'
    exact ⟨ht, by rw [addAll, List.foldl_cons, ← addAll, hm, he, List.append_assoc]; rfl⟩

theorem emptyIffNoEntries {s : Snapshot} (h : Totalled s) :
    s.empty = true ↔ s.map.entries = [] := by
  rw [Snapshot.empty, h.allocs, h.allocSize]
  constructor
  · intro he
    simp only [Bool.and_eq_true, beq_iff_eq, Int.ofNat_eq_zero, List.length_eq_zero] at he
    exact he.1
  · intro he
    simp [he]

theorem snapshotTotalMatchesEntries (adds : List (Nat × AllocValue))
    (hn : (adds.map Prod.fst).Nodup) :
    Totalled (addAll Snapshot.new adds) ∧ (addAll Snapshot.new adds).map.entries = adds ∧
      ((addAll Snapshot.new adds).empty = true ↔ (addAll Snapshot.new adds).map.entries = []) := by
  obtain ⟨ht, hm⟩ := totalledAddAll totalledNew hn (fun _ _ hp => by simp [Snapshot.new] at hp)
  exact ⟨ht, hm, emptyIffNoEntries ht⟩

theorem snapshotOfTwoAllocations :
    (addAll Snapshot.new [(4096, ⟨64, 8192⟩), (4160, ⟨128, 8192⟩)]).total.allocs = 2 ∧
      (addAll Snapshot.new [(4096, ⟨64, 8192⟩), (4160, ⟨128, 8192⟩)]).total.allocSize = 192 ∧
      (addAll Snapshot.new [(4096, ⟨64, 8192⟩), (4160, ⟨128, 8192⟩)]).empty = false := by
  obtain ⟨⟨ha, hs, -, -⟩, hm, he⟩ :=
    snapshotTotalMatchesEntries [(4096, ⟨64, 8192⟩), (4160, ⟨128, 8192⟩)] (by decide)
  refine ⟨by rw [ha, hm]; rfl, by rw [hs, hm]; rfl, Bool.eq_false_iff.mpr fun h => ?_⟩
  exact absurd (he.mp h) (by rw [hm]; simp)

/-- The same address added twice: two allocations counted, one entry kept. -/
example : ((Snapshot.new.add 4096 ⟨64, 8192⟩).add 4096 ⟨32, 8192⟩).total.allocs = 2 ∧
    ((Snapshot.new.add 4096 ⟨64, 8192⟩).add 4096 ⟨32, 8192⟩).map.entries.length = 1 := by
  decide

end Gperftools.HeapProfileTable

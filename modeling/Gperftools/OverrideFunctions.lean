import Mathlib.Algebra.Group.Nat.Basic
import Mathlib.Data.List.Basic

/-! `_recalloc` (windows/override_functions.cc): `realloc` to `n * size` bytes with the overflow
guard in front and a zero-fill of the growth behind. `size_t` is 64 bits wide. tcmalloc.cc is not
in the sources: `realloc` and `tc_nallocx` are parameters, and a block is its bytes, as many as
`tc_malloc_size` reports. A `memset` outside its block is undefined and yields `none`. -/
namespace Gperftools.OverrideFunctions

abbrev SizeT := BitVec 64

structure Block where
  bytes : List UInt8
  fits : bytes.length < 2 ^ 64
  deriving DecidableEq, Repr

def bytesOf : Option Block → List UInt8
  | none => []
  | some b => b.bytes

def tcMallocSize (p : Option Block) : SizeT := BitVec.ofNat 64 (bytesOf p).length

theorem tcMallocSizeToNat (p : Option Block) : (tcMallocSize p).toNat = (bytesOf p).length := by
  cases p with
  | none => rfl
  | some b => exact Nat.mod_eq_of_lt b.fits

structure Allocator where
  realloc : Option Block → SizeT → Option Block
  tcNallocx : SizeT → SizeT

def memset (b : Block) (offset len : Nat) : Option Block :=
  if h : offset + len ≤ b.bytes.length then
    some ⟨b.bytes.take offset ++ List.replicate len 0 ++ b.bytes.drop (offset + len), by
      have := b.fits
      simp only [List.length_append, List.length_take, List.length_replicate, List.length_drop]
      omega⟩
  else none

inductive Outcome where
  | enomem
  | ok (newPtr : Option Block)
  deriving DecidableEq, Repr

def zeroFill (a : Allocator) (oldSize newSize : SizeT) : Option Block → Option Outcome
  | none => some (.ok none)
  | some b =>
    if newSize > oldSize then
      (memset b oldSize.toNat (a.tcNallocx newSize - oldSize).toNat).map (.ok ∘ some)
    else some (.ok (some b))

def recalloc (a : Allocator) (oldPtr : Option Block) (n size : SizeT) : Option Outcome :=
  if !(n == 0 || BitVec.allOnes 64 / n ≥ size) then some .enomem
  else
    let oldSize := tcMallocSize oldPtr
    let newSize := n * size
    zeroFill a oldSize newSize (a.realloc oldPtr newSize)

theorem memsetBytes {b b' : Block} {offset len : Nat} (h : memset b offset len = some b') (i : Nat) :
    b'.bytes.length = b.bytes.length ∧
      b'.bytes[i]? = if offset ≤ i ∧ i < offset + len then some 0 else b.bytes[i]? := by
  unfold memset at h
  split at h
  · rename_i fits
    cases h
    refine ⟨by simp only [List.length_append, List.length_take, List.length_replicate,
      List.length_drop]; omega, ?_⟩
    have h1 : (b.bytes.take offset).length = offset := by simp; omega
    have h2 : (List.replicate len (0 : UInt8)).length = len := List.length_replicate ..
    dsimp only
    rw [List.append_assoc]
    rcases Nat.lt_or_ge i offset with hi | hi
    · rw [List.getElem?_append_left (by omega), List.getElem?_take_of_lt hi, if_neg (by omega)]
    · rw [List.getElem?_append_right (by omega), h1]
      rcases Nat.lt_or_ge i (offset + len) with hj | hj
      · rw [List.getElem?_append_left (by omega), List.getElem?_replicate, if_pos (by omega),
          if_pos ⟨hi, hj⟩]
      · rw [List.getElem?_append_right (by omega), h2, List.getElem?_drop, if_neg (by omega)]
        congr 1; omega
  · cases h

theorem guardIffProductFits (n size : SizeT) :
    (n == 0 || BitVec.allOnes 64 / n ≥ size) = true ↔ n.toNat * size.toNat < 2 ^ 64 := by
  by_cases hn : n = 0
  · subst hn; simp
  · have hpos : 0 < n.toNat := Nat.pos_of_ne_zero fun h => hn (BitVec.eq_of_toNat_eq (by simp [h]))
    have hz : (n == 0) = false := by simpa using hn
    rw [hz, Bool.false_or, decide_eq_true_iff, ge_iff_le, BitVec.le_def, BitVec.toNat_udiv,
      BitVec.toNat_allOnes, Nat.le_div_iff_mul_le hpos, Nat.mul_comm]
    omega

theorem productToNat {n size : SizeT} (h : n.toNat * size.toNat < 2 ^ 64) :
    (n * size).toNat = n.toNat * size.toNat := by
  rw [BitVec.toNat_mul, Nat.mod_eq_of_lt h]

structure NallocxBounds (a : Allocator) : Prop where
  nallocxGe : ∀ x, x.toNat ≤ (a.tcNallocx x).toNat
  reallocUsable : ∀ old s b, a.realloc old s = some b → (a.tcNallocx s).toNat ≤ b.bytes.length

structure ReallocContract (a : Allocator) extends NallocxBounds a : Prop where
  keepsLeading : ∀ old s b, a.realloc old s = some b →
    ∀ i, i < min (bytesOf old).length s.toNat → b.bytes[i]? = (bytesOf old)[i]?

def classSize (x : SizeT) : SizeT := BitVec.ofNat 64 (min (2 ^ 64 - 1) ((x.toNat + 15) / 16 * 16))

theorem classSizeToNat (x : SizeT) :
    (classSize x).toNat = min (2 ^ 64 - 1) ((x.toNat + 15) / 16 * 16) :=
  Nat.mod_eq_of_lt (by omega)

theorem leClassSize (x : SizeT) : x.toNat ≤ (classSize x).toNat := by
  rw [classSizeToNat]
  have := x.isLt
  omega

theorem classSizeMono {x y : SizeT} (h : x.toNat ≤ y.toNat) :
    (classSize x).toNat ≤ (classSize y).toNat := by
  rw [classSizeToNat, classSizeToNat]
  omega

def growTarget (u : Nat) (s : SizeT) : SizeT :=
  if u < s.toNat then BitVec.ofNat 64 (min (2 ^ 64 - 1) (max s.toNat (u + u / 4))) else s

theorem leGrowTarget (u : Nat) (s : SizeT) : s.toNat ≤ (growTarget u s).toNat := by
  unfold growTarget
  split
  · rw [BitVec.toNat_ofNat, Nat.mod_eq_of_lt (by omega)]
    have := s.isLt
    omega
  · exact le_rfl

def freshBlock (old : Option Block) (s : SizeT) : Block :=
  ⟨(bytesOf old).take s.toNat ++
      List.replicate ((classSize s).toNat - min (bytesOf old).length s.toNat) 0xAA, by
    have := leClassSize s
    have := (classSize s).isLt
    simp only [List.length_append, List.length_take, List.length_replicate]
    omega⟩

theorem freshBlockLength (old : Option Block) (s : SizeT) :
    (freshBlock old s).bytes.length = (classSize s).toNat := by
  have := leClassSize s
  simp only [freshBlock, List.length_append, List.length_take, List.length_replicate]
  omega

theorem freshBlockKeeps (old : Option Block) {s t : SizeT} (hst : s.toNat ≤ t.toNat) {i : Nat}
    (hi : i < min (bytesOf old).length s.toNat) : (freshBlock old t).bytes[i]? = (bytesOf old)[i]? := by
  rw [freshBlock, List.getElem?_append_left (by simp; omega), List.getElem?_take_of_lt (by omega)]

/-- A size-class allocator whose `realloc` keeps a block while the request's size class fits in
it and the block is at most twice the request, and moves it otherwise. -/
def sizeClassAllocator : Allocator where
  realloc old s := match old with
    | some b =>
      if (classSize s).toNat ≤ b.bytes.length ∧ b.bytes.length ≤ 2 * s.toNat then some b
      else some (freshBlock old (growTarget b.bytes.length s))
    | none => some (freshBlock none s)
  tcNallocx := classSize

theorem sizeClassReallocCases {old : Option Block} {s : SizeT} {b : Block}
    (h : sizeClassAllocator.realloc old s = some b) :
    (old = some b ∧ (classSize s).toNat ≤ b.bytes.length) ∨
      ∃ t : SizeT, s.toNat ≤ t.toNat ∧ b = freshBlock old t := by
  rcases old with _ | o <;> simp only [sizeClassAllocator] at h
  · exact .inr ⟨s, le_rfl, (Option.some.inj h).symm⟩
  · split at h <;> cases h
    · rename_i hc; exact .inl ⟨rfl, hc.1⟩
    · exact .inr ⟨_, leGrowTarget _ _, rfl⟩

theorem sizeClassAllocatorContract : ReallocContract sizeClassAllocator := by
  refine ⟨⟨leClassSize, fun old s b hb => ?_⟩, fun old s b hb i hi => ?_⟩ <;>
    rcases sizeClassReallocCases hb with ⟨rfl, hc⟩ | ⟨t, hst, rfl⟩
  · exact hc
  · rw [freshBlockLength]; exact classSizeMono hst
  · rfl
  · exact freshBlockKeeps _ hst hi

theorem zeroFillInBounds (a : Allocator) (ha : NallocxBounds a) (old : Option Block) (s : SizeT)
    (b : Block) (hb : a.realloc old s = some b) (grow : (tcMallocSize old).toNat < s.toNat) :
    (a.tcNallocx s - tcMallocSize old).toNat = (a.tcNallocx s).toNat - (tcMallocSize old).toNat ∧
      (a.tcNallocx s).toNat ≤ b.bytes.length ∧
      ∃ b', memset b (tcMallocSize old).toNat (a.tcNallocx s - tcMallocSize old).toNat = some b' ∧
        zeroFill a (tcMallocSize old) s (some b) = some (.ok (some b')) := by
  have hge := ha.nallocxGe s
  have hroom := ha.reallocUsable old s b hb
  have hsub : (a.tcNallocx s - tcMallocSize old).toNat =
      (a.tcNallocx s).toNat - (tcMallocSize old).toNat := by
    rw [BitVec.toNat_sub]
    have := (a.tcNallocx s).isLt
    omega
  refine ⟨hsub, hroom, ?_⟩
  rw [hsub]
  refine ⟨_, dif_pos (by omega), ?_⟩
  simp only [zeroFill, gt_iff_lt, BitVec.lt_def, grow, if_true, hsub, memset, dif_pos (by omega : (tcMallocSize old).toNat + ((a.tcNallocx s).toNat - (tcMallocSize old).toNat) ≤ b.bytes.length)]
  rfl

theorem recallocOfFits (a : Allocator) (old : Option Block) {n size : SizeT}
    (h : n.toNat * size.toNat < 2 ^ 64) :
    recalloc a old n size = zeroFill a (tcMallocSize old) (n * size) (a.realloc old (n * size)) := by
  simp only [recalloc, (guardIffProductFits n size).mpr h, Bool.not_true]
  rfl

theorem recallocOfOverflow (a : Allocator) (old : Option Block) {n size : SizeT}
    (h : ¬n.toNat * size.toNat < 2 ^ 64) : recalloc a old n size = some .enomem := by
  have : (n == 0 || BitVec.allOnes 64 / n ≥ size) = false :=
    Bool.eq_false_iff.mpr fun hg => h ((guardIffProductFits n size).mp hg)
  simp only [recalloc, this, Bool.not_false, if_true]

theorem zeroFillNeverEnomem (a : Allocator) (oldSize newSize : SizeT) (p : Option Block) :
    zeroFill a oldSize newSize p ≠ some .enomem := by
  cases p with
  | none => simp [zeroFill]
  | some b =>
    simp only [zeroFill]
    split <;> simp [Option.map_eq_some']

theorem recallocGuardsProduct (a : Allocator) (old : Option Block) (n size : SizeT) :
    (recalloc a old n size = some .enomem ↔ n ≠ 0 ∧ 2 ^ 64 - 1 < n.toNat * size.toNat) ∧
    (n.toNat * size.toNat < 2 ^ 64 →
      (n * size).toNat = n.toNat * size.toNat ∧
      recalloc a old n size = zeroFill a (tcMallocSize old) (n * size) (a.realloc old (n * size)) ∧
      (NallocxBounds a → ∀ b, a.realloc old (n * size) = some b →
        (tcMallocSize old).toNat < (n * size).toNat →
        (a.tcNallocx (n * size) - tcMallocSize old).toNat =
          (a.tcNallocx (n * size)).toNat - (tcMallocSize old).toNat ∧
        (a.tcNallocx (n * size)).toNat ≤ b.bytes.length ∧
        ∃ b', memset b (tcMallocSize old).toNat
            (a.tcNallocx (n * size) - tcMallocSize old).toNat = some b' ∧
          recalloc a old n size = some (.ok (some b')))) := by
  refine ⟨⟨fun h => ?_, fun ⟨hn, hover⟩ => ?_⟩,
    fun h => ⟨productToNat h, recallocOfFits a old h, fun ha b hb grow => ?_⟩⟩
  · by_contra hfits
    have hlt : n.toNat * size.toNat < 2 ^ 64 := by
      by_contra hge
      exact hfits ⟨fun hn => by simp [hn] at hge, by omega⟩
    exact zeroFillNeverEnomem a _ _ _ ((recallocOfFits a old hlt).symm.trans h)
  · exact recallocOfOverflow a old (by omega)
  · obtain ⟨hsub, hroom, b', hm, hz⟩ := zeroFillInBounds a ha old (n * size) b hb grow
    exact ⟨hsub, hroom, b', hm, by rw [recallocOfFits a old h, hb, hz]⟩

theorem recallocGuardsProductOfGrowth :
    let old : Option Block := some ⟨List.replicate 4 255, by decide⟩
    (4 : SizeT).toNat * (3 : SizeT).toNat < 2 ^ 64 ∧ NallocxBounds sizeClassAllocator ∧
      sizeClassAllocator.realloc old (4 * 3) = some (freshBlock old 12) ∧
      (tcMallocSize old).toNat < ((4 : SizeT) * 3).toNat ∧
      ∃ b', memset (freshBlock old 12) (tcMallocSize old).toNat
          (sizeClassAllocator.tcNallocx (4 * 3) - tcMallocSize old).toNat = some b' ∧
        recalloc sizeClassAllocator old 4 3 = some (.ok (some b')) := by
  intro old
  have hfits : (4 : SizeT).toNat * (3 : SizeT).toNat < 2 ^ 64 := by decide
  have hb : sizeClassAllocator.realloc old (4 * 3) = some (freshBlock old 12) := rfl
  obtain ⟨-, -, b', hm, hr⟩ := ((recallocGuardsProduct sizeClassAllocator old 4 3).2 hfits).2.2
    sizeClassAllocatorContract.toNallocxBounds _ hb (by decide)
  exact ⟨hfits, sizeClassAllocatorContract.toNallocxBounds, hb, by decide, b', hm, hr⟩

theorem recallocReturned {a : Allocator} {old : Option Block} {n size : SizeT} {b : Block}
    (h : recalloc a old n size = some (.ok (some b))) :
    n.toNat * size.toNat < 2 ^ 64 ∧ ∃ r, a.realloc old (n * size) = some r ∧
      zeroFill a (tcMallocSize old) (n * size) (some r) = some (.ok (some b)) := by
  by_cases hfits : n.toNat * size.toNat < 2 ^ 64
  · rw [recallocOfFits a old hfits] at h
    cases hr : a.realloc old (n * size) with
    | none => rw [hr] at h; cases h
    | some r => rw [hr] at h; exact ⟨hfits, r, rfl, h⟩
  · rw [recallocOfOverflow a old hfits] at h; cases h

theorem zeroFillBytes {a : Allocator} (ha : NallocxBounds a) {old : Option Block} {s : SizeT}
    {r b : Block} (hr : a.realloc old s = some r)
    (h : zeroFill a (tcMallocSize old) s (some r) = some (.ok (some b))) (i : Nat) :
    b.bytes[i]? = if (bytesOf old).length < s.toNat ∧ (bytesOf old).length ≤ i ∧
        i < (a.tcNallocx s).toNat then some 0 else r.bytes[i]? := by
  have hu := tcMallocSizeToNat old
  by_cases grow : (tcMallocSize old).toNat < s.toNat
  · obtain ⟨hsub, -, b', hm, hz⟩ := zeroFillInBounds a ha old s r hr grow
    rw [hz] at h
    cases h
    rw [(memsetBytes hm i).2, hsub]
    have := ha.nallocxGe s
    split_ifs <;> first | rfl | omega
  · simp only [zeroFill, gt_iff_lt, BitVec.lt_def, grow, if_false, Option.some.injEq,
      Outcome.ok.injEq] at h
    cases h
    rw [if_neg (by omega)]

theorem recallocZeroesAboveOldSize (a : Allocator) (ha : ReallocContract a) (old : Option Block)
    (n size : SizeT) (b : Block) (h : recalloc a old n size = some (.ok (some b))) :
    ∀ i < n.toNat * size.toNat,
      b.bytes[i]? = if i < (bytesOf old).length then (bytesOf old)[i]? else some 0 := by
  intro i hi
  obtain ⟨hfits, r, hr, hz⟩ := recallocReturned h
  have hs := productToNat hfits
  have hge := ha.nallocxGe (n * size)
  have keep := ha.keepsLeading old (n * size) r hr i
  rw [zeroFillBytes ha.toNallocxBounds hr hz i]
  split_ifs <;> first | rfl | exact keep (by omega) | omega

theorem recallocGrowsFourToTwelve :
    ∃ b, recalloc sizeClassAllocator (some ⟨List.replicate 4 255, by decide⟩) 12 1 =
        some (.ok (some b)) ∧
      b.bytes[3]? = some 255 ∧ b.bytes[4]? = some 0 ∧ b.bytes[11]? = some 0 := by
  refine ⟨⟨List.replicate 4 255 ++ List.replicate 12 0, by decide⟩, by decide, ?_⟩
  have h := recallocZeroesAboveOldSize sizeClassAllocator sizeClassAllocatorContract
    (some ⟨List.replicate 4 255, by decide⟩) 12 1 ⟨List.replicate 4 255 ++ List.replicate 12 0, by decide⟩ (by decide)
  exact ⟨h 3 (by decide), h 4 (by decide), h 11 (by decide)⟩

set_option maxRecDepth 8000 in
/-- A chain of growths from `nullptr`: 128 bytes, then 129, then 150, the caller writing nothing.
The second call moves the block to 160 bytes and zeroes only up to `tc_nallocx(129) = 144`; the
third fits in those 160 bytes and zeroes nothing. Byte 144, inside the grown range `[129, 150)`,
keeps the allocator's `0xAA`. -/
theorem recallocGrowthLeavesUnzeroedByte :
    ReallocContract sizeClassAllocator ∧
    ∃ b₁ b₂ b₃ : Block,
      recalloc sizeClassAllocator none 128 1 = some (.ok (some b₁)) ∧
      recalloc sizeClassAllocator (some b₁) 129 1 = some (.ok (some b₂)) ∧
      recalloc sizeClassAllocator (some b₂) 150 1 = some (.ok (some b₃)) ∧
      b₃.bytes[144]? = some 0xAA :=
  ⟨sizeClassAllocatorContract, ⟨List.replicate 128 0, by simp⟩,
    ⟨List.replicate 144 0 ++ List.replicate 16 0xAA, by simp⟩,
    ⟨List.replicate 144 0 ++ List.replicate 16 0xAA, by simp⟩, by decide, by decide, by decide,
    by decide⟩

end Gperftools.OverrideFunctions

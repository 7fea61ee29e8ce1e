import Traefik.Metrics.LabelNamesValues

/-!
# Label lists as Go slices

Reference: `pkg/metrics/opentelemetry.go` (`otelLabelNamesValues.With`), and Go's `append`
(`runtime.growslice`).

An `otelLabelNamesValues` is a `[]string`: a header (backing array, length, capacity) over an
array that other headers may share. `With` ends in `append(lvs, labelValues...)`, which writes in
place when the capacity suffices and copies into a new array otherwise. Memory here is a heap of
arrays and a list is a `Slice` header over it; `Slice.read` is the list a header denotes at a
given moment.

`read_append` says that `append` extends what the header read by the values, and
`read_append_of_not_clobbers` that any other header reads the same afterwards unless the append
wrote in place over cells that header reads. That exception is real: two `With` calls on one list
with spare capacity write the same cells, and once the second has returned, the list the first
returned reads the second's labels (`read_With_sibling`). The capacity a growing `append`
allocates is the runtime's choice, `Growth`; `goGrowth` is `growslice` for lists of up to 16
strings.
-/

namespace Traefik.Metrics

/-- The backing arrays of the program's `[]string` values by address, and the next free address. -/
structure Heap where
  arrays : Nat → List String
  next : Nat

/-- The heap before any allocation. -/
def Heap.empty : Heap := ⟨fun _ => [], 0⟩

/-- A slice header: its backing array, `len` and `cap`. Every header built here starts at index 0
of its array. -/
structure Slice where
  array : Nat
  len : Nat
  cap : Nat
  deriving DecidableEq, Repr

/-- The capacity `append` allocates when a list outgrows its array, from the old capacity and the
length needed: never less than that length. -/
structure Growth where
  grow : Nat → Nat → Nat
  le_grow : ∀ cap n, n ≤ grow cap n

/-- `growslice` for a `[]string` below 256 elements: the length needed when it exceeds twice the
old capacity, else twice the old capacity. Up to 16 strings (256 bytes) the rounding to a size
class changes nothing. -/
def goGrowth : Growth :=
  ⟨fun cap n => if 2 * cap < n then n else 2 * cap, fun cap n => by dsimp only; split <;> omega⟩

/-- The array after writing `xs` from index `i`. -/
def writeAt (arr : List String) (i : Nat) (xs : List String) : List String :=
  arr.take i ++ xs ++ arr.drop (i + xs.length)

namespace Slice

open OtelLabelNamesValues

/-- The nil slice. -/
def nil : Slice := ⟨0, 0, 0⟩

/-- The list a header denotes in a heap: the first `len` cells of its array. -/
def read (heap : Heap) (s : Slice) : OtelLabelNamesValues :=
  (heap.arrays s.array).take s.len

/-- `append(s, xs...)`: in place when `len + len(xs) ≤ cap`, else into a new array of the grown
capacity holding the old cells, `xs`, and zero strings. -/
def append (growth : Growth) (heap : Heap) (s : Slice) (xs : List String) : Heap × Slice :=
  let n := s.len + xs.length
  if n ≤ s.cap then
    (⟨Function.update heap.arrays s.array (writeAt (heap.arrays s.array) s.len xs), heap.next⟩,
      ⟨s.array, n, s.cap⟩)
  else
    let cap := growth.grow s.cap n
    (⟨Function.update heap.arrays heap.next (s.read heap ++ xs ++ List.replicate (cap - n) ""),
        heap.next + 1⟩, ⟨heap.next, n, cap⟩)

/-- `otelLabelNamesValues.With` on headers: `append(lvs, labelValues...)` of the padded values.
The padding `append(labelValues, "unknown")` works on the variadic argument's own array, which no
handle holds, so it is a value here. -/
def With (growth : Growth) (heap : Heap) (lvs : Slice) (labelValues : List String) :
    Heap × Slice :=
  lvs.append growth heap (padLabelValues labelValues)

/-- A header the heap backs: `len ≤ cap`, and a header with capacity points at an allocated array
of exactly `cap` cells. -/
structure Backed (heap : Heap) (s : Slice) : Prop where
  len_le_cap : s.len ≤ s.cap
  allocated : 0 < s.cap → s.array < heap.next ∧ (heap.arrays s.array).length = s.cap

instance (heap : Heap) (s : Slice) : Decidable (s.Backed heap) :=
  decidable_of_iff (s.len ≤ s.cap ∧
      (0 < s.cap → s.array < heap.next ∧ (heap.arrays s.array).length = s.cap))
    ⟨fun h => ⟨h.1, h.2⟩, fun h => ⟨h.1, h.2⟩⟩

/-- A chain of `With` calls, each on the list the previous one returned. -/
def withAll (growth : Growth) : Heap → Slice → List (List String) → Heap × Slice
  | heap, s, [] => (heap, s)
  | heap, s, labelValues :: calls =>
    withAll growth (s.With growth heap labelValues).1 (s.With growth heap labelValues).2 calls

/-- `append(s, xs...)` with `k` values writes over cells `q` reads: it writes at least one cell, in
place, into `q`'s array below `q`'s length. -/
def Clobbers (s : Slice) (k : Nat) (q : Slice) : Prop :=
  s.len + k ≤ s.cap ∧ 0 < k ∧ q.array = s.array ∧ s.len < q.len

instance (s : Slice) (k : Nat) (q : Slice) : Decidable (s.Clobbers k q) :=
  inferInstanceAs (Decidable (_ ∧ _ ∧ _ ∧ _))

/-! ## Writing cells -/

theorem length_writeAt {arr : List String} {i : Nat} {xs : List String}
    (h : i + xs.length ≤ arr.length) : (writeAt arr i xs).length = arr.length := by
  simp only [writeAt, List.length_append, List.length_take, List.length_drop]
  omega

theorem writeAt_nil (arr : List String) (i : Nat) : writeAt arr i [] = arr := by
  simp [writeAt]

/-- Cells below the write are kept. -/
theorem take_writeAt_of_le {arr : List String} {i n : Nat} (xs : List String) (hn : n ≤ i)
    (hi : i ≤ arr.length) : (writeAt arr i xs).take n = arr.take n := by
  rw [writeAt, List.append_assoc, List.take_append_of_le_length (by simp; omega), List.take_take,
    min_eq_left hn]

/-- The cells up to the end of the write are the old prefix and the values written. -/
theorem take_writeAt {arr : List String} {i : Nat} (xs : List String) (hi : i ≤ arr.length) :
    (writeAt arr i xs).take (i + xs.length) = arr.take i ++ xs :=
  List.take_left' (by simp; omega)

/-! ## What `append` does to each header -/

theorem Backed.cap_le_length {heap : Heap} {s : Slice} (hb : s.Backed heap) :
    s.cap ≤ (heap.arrays s.array).length := by
  rcases Nat.eq_zero_or_pos s.cap with hc | hc
  · omega
  · exact (hb.allocated hc).2.ge

theorem Backed.len_le_length {heap : Heap} {s : Slice} (hb : s.Backed heap) :
    s.len ≤ (heap.arrays s.array).length :=
  hb.len_le_cap.trans hb.cap_le_length

theorem length_read {heap : Heap} {s : Slice} (hb : s.Backed heap) : (s.read heap).length = s.len := by
  rw [read, List.length_take, min_eq_left hb.len_le_length]

variable (growth : Growth) {heap : Heap} {s : Slice}

/-- The header `append` returns reads the old list followed by the values. -/
theorem read_append (hb : s.Backed heap) (xs : List String) :
    (s.append growth heap xs).2.read (s.append growth heap xs).1 = s.read heap ++ xs := by
  dsimp only [append]
  split <;> simp only [read, Function.update_same]
  · exact take_writeAt xs hb.len_le_length
  · exact List.take_left' (by simp [min_eq_left hb.len_le_length])

/-- The header `append` returns is backed. -/
theorem backed_append (hb : s.Backed heap) (xs : List String) :
    (s.append growth heap xs).2.Backed (s.append growth heap xs).1 := by
  dsimp only [append]
  split
  · rename_i hn
    exact ⟨hn, fun hc => ⟨(hb.allocated hc).1, by
      simp only [Function.update_same]
      rw [length_writeAt (hn.trans hb.cap_le_length), (hb.allocated hc).2]⟩⟩
  · have hle := growth.le_grow s.cap (s.len + xs.length)
    refine ⟨hle, fun _ => ⟨Nat.lt_succ_self _, ?_⟩⟩
    simp only [Function.update_same, List.length_append, List.length_replicate, length_read hb]
    omega

/-- Every header the heap backed stays backed. -/
theorem Backed.append {q : Slice} (hq : q.Backed heap) (hb : s.Backed heap) (xs : List String) :
    q.Backed (s.append growth heap xs).1 := by
  dsimp only [Slice.append]
  split
  · rename_i hn
    refine ⟨hq.len_le_cap, fun hc => ⟨(hq.allocated hc).1, ?_⟩⟩
    by_cases ha : q.array = s.array
    · dsimp only
      rw [ha, Function.update_same, length_writeAt (hn.trans hb.cap_le_length), ← ha,
        (hq.allocated hc).2]
    · simp only [Function.update_noteq ha]
      exact (hq.allocated hc).2
  · refine ⟨hq.len_le_cap, fun hc => ⟨Nat.lt_succ_of_lt (hq.allocated hc).1, ?_⟩⟩
    simp only [Function.update_noteq (hq.allocated hc).1.ne]
    exact (hq.allocated hc).2

/-- A header reads the same after an `append` that does not write over its cells. -/
theorem read_append_of_not_clobbers {q : Slice} (hq : q.Backed heap) (hb : s.Backed heap)
    {xs : List String} (h : ¬ s.Clobbers xs.length q) :
    q.read (s.append growth heap xs).1 = q.read heap := by
  dsimp only [Slice.append]
  split
  · rename_i hn
    by_cases ha : q.array = s.array
    · dsimp only [read]
      rw [ha, Function.update_same]
      rcases Nat.eq_zero_or_pos xs.length with hk | hk
      · rw [List.eq_nil_of_length_eq_zero hk, writeAt_nil]
      · have hle : q.len ≤ s.len := Nat.le_of_not_lt fun hlt => h ⟨hn, hk, ha, hlt⟩
        exact take_writeAt_of_le xs hle hb.len_le_length
    · simp only [read, Function.update_noteq ha]
  · rcases Nat.eq_zero_or_pos q.cap with hc | hc
    · have hl : q.len = 0 := by have := hq.len_le_cap; omega
      simp only [read, hl, List.take_zero]
    · simp only [read, Function.update_noteq (hq.allocated hc).1.ne]

/-! ## `With` -/

/-- The list `With` returns reads the parent's labels followed by the padded values. -/
theorem read_With (hb : s.Backed heap) (labelValues : List String) :
    (s.With growth heap labelValues).2.read (s.With growth heap labelValues).1 =
      (s.read heap).With labelValues :=
  read_append growth hb _

/-- Two `With` calls on one list, with room in its array for the padded values of the first and
padded values of the same length: the list the first returns reads its own labels until the
second call, and the second's labels from then on. -/
theorem read_With_sibling (hb : s.Backed heap) (labelValues₁ labelValues₂ : List String)
    (hroom : s.len + (padLabelValues labelValues₁).length ≤ s.cap)
    (hlen : (padLabelValues labelValues₂).length = (padLabelValues labelValues₁).length) :
    (s.With growth heap labelValues₁).2.read (s.With growth heap labelValues₁).1 =
        (s.read heap).With labelValues₁ ∧
      (s.With growth heap labelValues₁).2.read
          (s.With growth (s.With growth heap labelValues₁).1 labelValues₂).1 =
        (s.read heap).With labelValues₂ := by
  refine ⟨read_With growth hb labelValues₁, ?_⟩
  have hwrite := length_writeAt (hroom.trans hb.cap_le_length)
  simp only [With, append, hroom, hlen ▸ hroom, if_true, read, Function.update_same]
  rw [← hlen, take_writeAt _ (hwrite ▸ hb.len_le_length),
    take_writeAt_of_le _ le_rfl hb.len_le_length]
  rfl

/-- `read_With_sibling` on `nil.With("a", "1").With("b", "2").With("c", "3")`, whose six cells sit
in an array of eight: after `With("d", "5")` and then `With("d", "4")` on it, the list the first
call returned reads `d=4`. -/
theorem read_With_sibling_spare_capacity :
    (withAll goGrowth Heap.empty nil [["a", "1"], ["b", "2"], ["c", "3"]]).2.Backed
        (withAll goGrowth Heap.empty nil [["a", "1"], ["b", "2"], ["c", "3"]]).1 ∧
      (withAll goGrowth Heap.empty nil [["a", "1"], ["b", "2"], ["c", "3"]]).2.len +
          (padLabelValues ["d", "5"]).length ≤
        (withAll goGrowth Heap.empty nil [["a", "1"], ["b", "2"], ["c", "3"]]).2.cap ∧
      (padLabelValues ["d", "4"]).length = (padLabelValues ["d", "5"]).length ∧
      ((withAll goGrowth Heap.empty nil [["a", "1"], ["b", "2"], ["c", "3"]]).2.With goGrowth
            (withAll goGrowth Heap.empty nil [["a", "1"], ["b", "2"], ["c", "3"]]).1
            ["d", "5"]).2.read
          ((withAll goGrowth Heap.empty nil [["a", "1"], ["b", "2"], ["c", "3"]]).2.With goGrowth
            (withAll goGrowth Heap.empty nil [["a", "1"], ["b", "2"], ["c", "3"]]).1
            ["d", "5"]).1 =
        ((withAll goGrowth Heap.empty nil [["a", "1"], ["b", "2"], ["c", "3"]]).2.read
          (withAll goGrowth Heap.empty nil [["a", "1"], ["b", "2"], ["c", "3"]]).1).With
          ["d", "5"] ∧
      ((withAll goGrowth Heap.empty nil [["a", "1"], ["b", "2"], ["c", "3"]]).2.With goGrowth
            (withAll goGrowth Heap.empty nil [["a", "1"], ["b", "2"], ["c", "3"]]).1
            ["d", "5"]).2.read
          ((withAll goGrowth Heap.empty nil [["a", "1"], ["b", "2"], ["c", "3"]]).2.With goGrowth
            ((withAll goGrowth Heap.empty nil [["a", "1"], ["b", "2"], ["c", "3"]]).2.With goGrowth
              (withAll goGrowth Heap.empty nil [["a", "1"], ["b", "2"], ["c", "3"]]).1
              ["d", "5"]).1 ["d", "4"]).1 =
        ((withAll goGrowth Heap.empty nil [["a", "1"], ["b", "2"], ["c", "3"]]).2.read
          (withAll goGrowth Heap.empty nil [["a", "1"], ["b", "2"], ["c", "3"]]).1).With
          ["d", "4"] :=
  have hb : (withAll goGrowth Heap.empty nil [["a", "1"], ["b", "2"], ["c", "3"]]).2.Backed
      (withAll goGrowth Heap.empty nil [["a", "1"], ["b", "2"], ["c", "3"]]).1 := by decide
  ⟨hb, by decide, rfl, read_With_sibling goGrowth hb ["d", "5"] ["d", "4"] (by decide) rfl⟩

end Slice

end Traefik.Metrics

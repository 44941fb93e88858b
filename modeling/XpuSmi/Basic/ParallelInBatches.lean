import Mathlib.Data.List.Basic

/-!
# `Utility::parallel_in_batches`

`parallel_in_batches(num_elements, num_threads, functor, use_multithreading)` splits the
indices `[0, num_elements)` into `num_threads` batches, no more batches than elements, and
calls `functor(start, end)` once per batch, on a thread of its own or in line. Every batch
gets `num_elements / num_threads` indices, and the first `num_elements % num_threads` get one
more.

`parallelInBatches` is the list of ranges the functor is called on, in call order, or `none`
where the code divides by zero. The `int` bounds are exact here: each is at most
`num_elements` (`BatchPartition.le_of_mem`), so they are `int` values whenever
`num_elements ≤ INT_MAX`.

* `parallelInBatches_eq_none_iff` — the code divides by zero exactly when it has elements and
  `num_threads == 0`: the clamp to `num_elements` only ever lowers the thread count;
* `parallelInBatches_partition` — with at least one thread, the ranges are
  `min(num_threads, num_elements)` non-empty batches that tile `[0, num_elements)` left to
  right, with sizes within one of each other (`BatchPartition`), so that every index is handed
  to exactly one call (`BatchPartition.count_containing`).
-/

namespace XpuSmi

/-! ## What a caller is promised -/

/-- `ranges` tile `[a, b)` left to right: the first starts at `a`, each next one where the one
before ended, and the last ends at `b`. -/
def Tiles : Nat → List (Nat × Nat) → Nat → Prop
  | a, [], b => a = b
  | a, r :: rest, b => r.1 = a ∧ Tiles r.2 rest b

/-- A split of `[0, n)` into `k` batches: `k` non-empty ranges that tile `[0, n)` and whose
sizes differ by at most one. -/
structure BatchPartition (n k : Nat) (ranges : List (Nat × Nat)) : Prop where
  length_eq : ranges.length = k
  nonempty : ∀ r ∈ ranges, r.1 < r.2
  tiles : Tiles 0 ranges n
  balanced : ∀ r ∈ ranges, ∀ r' ∈ ranges, r.2 - r.1 ≤ r'.2 - r'.1 + 1

namespace Tiles

variable {ranges : List (Nat × Nat)}

/-- Ranges that tile `[a, b)` lie inside it. -/
theorem bounds {a b : Nat} (h : Tiles a ranges b) (hle : ∀ r ∈ ranges, r.1 ≤ r.2) :
    a ≤ b ∧ ∀ r ∈ ranges, a ≤ r.1 ∧ r.2 ≤ b := by
  induction ranges generalizing a with
  | nil => exact ⟨le_of_eq h, by simp⟩
  | cons r rest ih =>
    obtain ⟨rfl, hrest⟩ := h
    have hr := hle r (List.mem_cons_self _ _)
    obtain ⟨hb, hin⟩ := ih hrest fun r' h' => hle r' (List.mem_cons_of_mem _ h')
    refine ⟨hr.trans hb, ?_⟩
    simp only [List.mem_cons, forall_eq_or_imp]
    exact ⟨⟨le_rfl, hb⟩, fun r' h' => ⟨hr.trans (hin r' h').1, (hin r' h').2⟩⟩

/-- Each point of `[a, b)` lies in exactly one of the ranges that tile it, and no other point
lies in any. -/
theorem count_containing {a b : Nat} (h : Tiles a ranges b) (hle : ∀ r ∈ ranges, r.1 ≤ r.2)
    (x : Nat) :
    (ranges.filter fun r => r.1 ≤ x && x < r.2).length = if a ≤ x ∧ x < b then 1 else 0 := by
  induction ranges generalizing a with
  | nil =>
    have hab : a = b := h
    simp only [List.filter_nil, List.length_nil]; split_ifs <;> omega
  | cons r rest ih =>
    obtain ⟨rfl, hrest⟩ := h
    have hle' : ∀ r' ∈ rest, r'.1 ≤ r'.2 := fun r' h' => hle r' (List.mem_cons_of_mem _ h')
    have hr := hle r (List.mem_cons_self _ _)
    have hb := (bounds hrest hle').1
    rw [List.filter_cons, apply_ite List.length, List.length_cons, ih hrest hle']
    by_cases hx : r.1 ≤ x ∧ x < r.2
    · simp only [hx, decide_True, Bool.and_self, ite_true, true_and]; split_ifs <;> omega
    · simp only [Bool.and_eq_true, decide_eq_true_eq, hx, ite_false]; split_ifs <;> omega

end Tiles

namespace BatchPartition

variable {n k : Nat} {ranges : List (Nat × Nat)}

/-- Every bound handed to the functor is at most `n`. -/
theorem le_of_mem (h : BatchPartition n k ranges) {r : Nat × Nat} (hr : r ∈ ranges) :
    r.1 < r.2 ∧ r.2 ≤ n :=
  ⟨h.nonempty r hr,
    ((h.tiles.bounds fun r' h' => (h.nonempty r' h').le).2 r hr).2⟩

/-- Every index below `n` is in exactly one batch, and no other index is in any. -/
theorem count_containing (h : BatchPartition n k ranges) (x : Nat) :
    (ranges.filter fun r => r.1 ≤ x && x < r.2).length = if x < n then 1 else 0 := by
  rw [h.tiles.count_containing (fun r' h' => (h.nonempty r' h').le)]
  simp

end BatchPartition

namespace Utility

/-! ## The batch loop -/

/-- The loop of `parallel_in_batches` with `count` batches left, `remainder` of them still to
get one index more, and the next batch starting at `start`: the calls
`functor(start, start + real_batch_size)`, in order. -/
def batchLoop (batchSize : Nat) : (count remainder start : Nat) → List (Nat × Nat)
  | 0, _, _ => []
  | count + 1, remainder, start =>
    let realBatchSize := if remainder > 0 then batchSize + 1 else batchSize
    (start, start + realBatchSize) ::
      batchLoop batchSize count (if remainder > 0 then remainder - 1 else remainder)
        (start + realBatchSize)

/-- `Utility::parallel_in_batches`: the ranges `[start, end)` the functor is called on, in
call order, the same with and without `use_multithreading`; `none` for the undefined
`num_elements / num_threads` with `num_threads == 0`. -/
def parallelInBatches (numElements numThreads : UInt32) : Option (List (Nat × Nat)) :=
  if numElements == 0 then some []
  else
    let numThreads := if numThreads > numElements then numElements else numThreads
    if numThreads == 0 then none
    else
      some (batchLoop (numElements / numThreads).toNat numThreads.toNat
        (numElements % numThreads).toNat 0)

section Loop

variable (batchSize : Nat)

@[simp] theorem length_batchLoop (count remainder start : Nat) :
    (batchLoop batchSize count remainder start).length = count := by
  induction count generalizing remainder start with
  | zero => rfl
  | succ count ih => simp [batchLoop, ih]

/-- Each batch has `batch_size` indices, or one more. -/
theorem batchLoop_size (count remainder start : Nat) :
    ∀ r ∈ batchLoop batchSize count remainder start,
      r.2 = r.1 + batchSize ∨ r.2 = r.1 + (batchSize + 1) := by
  induction count generalizing remainder start with
  | zero => simp [batchLoop]
  | succ count ih =>
    simp only [batchLoop, List.mem_cons, forall_eq_or_imp]
    exact ⟨by split_ifs <;> simp, ih _ _⟩

/-- **The loop invariant.** The batches run from `start` on, one after the other, and end
`count * batch_size` indices later, plus one for each of the first `remainder` batches. -/
theorem batchLoop_tiles (count remainder start : Nat) :
    Tiles start (batchLoop batchSize count remainder start)
      (start + count * batchSize + min remainder count) := by
  induction count generalizing remainder start with
  | zero => simp [batchLoop, Tiles]
  | succ count ih =>
    refine ⟨rfl, ?_⟩
    convert ih _ _ using 1
    split_ifs <;> simp only [Nat.succ_mul, Nat.min_def] <;> split_ifs <;> omega

end Loop

/-! ## The two outcomes -/

theorem uint32_eq_zero_iff (a : UInt32) : a = 0 ↔ a.toNat = 0 :=
  ⟨fun h => h ▸ rfl, fun h => UInt32.toNat.inj h⟩

/-- The clamp `if (num_threads > num_elements) num_threads = num_elements;`. -/
theorem clamp_toNat (numElements numThreads : UInt32) :
    (if numThreads > numElements then numElements else numThreads).toNat =
      min numThreads.toNat numElements.toNat := by
  by_cases h : numElements.toNat < numThreads.toNat
  · rw [if_pos (show numThreads > numElements from h)]; omega
  · rw [if_neg (show ¬numThreads > numElements from h)]; omega

/-- `parallel_in_batches` over the counts: nothing for no element, a division by zero for no
thread, and otherwise the loop over `min(num_threads, num_elements)` batches. -/
theorem parallelInBatches_eq (numElements numThreads : UInt32) :
    parallelInBatches numElements numThreads =
      if numElements.toNat = 0 then some []
      else if numThreads.toNat = 0 then none
      else
        some (batchLoop (numElements.toNat / min numThreads.toNat numElements.toNat)
          (min numThreads.toNat numElements.toNat)
          (numElements.toNat % min numThreads.toNat numElements.toNat) 0) := by
  simp only [parallelInBatches, beq_iff_eq, uint32_eq_zero_iff, UInt32.toNat_div,
    UInt32.toNat_mod, clamp_toNat]
  split_ifs <;> first | rfl | omega

/-- **Division by zero.** The code divides by zero exactly when it has elements and
`num_threads == 0`, as `std::thread::hardware_concurrency()` may return. -/
theorem parallelInBatches_eq_none_iff (numElements numThreads : UInt32) :
    parallelInBatches numElements numThreads = none ↔
      0 < numElements.toNat ∧ numThreads.toNat = 0 := by
  rw [parallelInBatches_eq]
  split_ifs <;> simp <;> omega

example : parallelInBatches 1 0 = none := rfl

/-- **The batches.** With at least one thread, the functor is called on
`min(num_threads, num_elements)` non-empty ranges that tile `[0, num_elements)` and whose
sizes differ by at most one. -/
theorem parallelInBatches_partition (numElements numThreads : UInt32)
    (h : 0 < numThreads.toNat) :
    ∃ ranges, parallelInBatches numElements numThreads = some ranges ∧
      BatchPartition numElements.toNat (min numThreads.toNat numElements.toNat) ranges := by
  rw [parallelInBatches_eq, if_neg (Nat.pos_iff_ne_zero.1 h)]
  split_ifs with hn
  · rw [hn, Nat.min_zero]
    exact ⟨_, rfl, rfl, by simp, rfl, by simp⟩
  · set n := numElements.toNat
    set t := min numThreads.toNat n
    have ht : 0 < t := by omega
    -- with no more batches than elements, every batch gets at least one
    have hb : 0 < n / t := Nat.div_pos (Nat.min_le_right _ _) ht
    have hsize := batchLoop_size (n / t) t (n % t) 0
    refine ⟨_, rfl, length_batchLoop .., fun r hr => ?_, ?_, fun r hr r' hr' => ?_⟩
    · rcases hsize r hr with h | h <;> omega
    · convert batchLoop_tiles (n / t) t (n % t) 0 using 1
      rw [Nat.min_eq_left (Nat.mod_lt _ ht).le, Nat.zero_add, Nat.div_add_mod]
    · rcases hsize r hr with h | h <;> rcases hsize r' hr' with h' | h' <;> omega

example : parallelInBatches 10 4 = some [(0, 3), (3, 6), (6, 8), (8, 10)] := rfl

end Utility

end XpuSmi

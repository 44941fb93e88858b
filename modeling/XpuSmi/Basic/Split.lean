import Mathlib.Data.List.Basic

/-!
# `Utility::split`

`split(s, delim)` reads `s` through a `std::stringstream`, calling
`std::getline(ss, item, delim)` until it fails, and keeps the items that are not empty.
`getline` fails only when nothing is left to read; otherwise it extracts the characters up to
the next `delim`, which it consumes and drops, or up to the end of the stream.

`getline` is modelled on the characters left in the stream, and `splitLoop` is the `while`
loop around it.

* `split_eq_filter_splitOn` — the items are the fields between the delimiters with the empty
  ones dropped: consecutive, leading and trailing delimiters give no item;
* `split_intercalate` — **the round trip**: splitting items joined by `delim` gives them back,
  for any list of non-empty items that hold no `delim`.
-/

namespace XpuSmi

namespace Utility

/-- What `std::getline(ss, item, delim)` extracts from the characters left in the stream: the
item, up to the first `delim` or the end, and what follows the `delim`, which it consumes and
drops. -/
def getlineItem (delim : Char) : List Char → List Char × List Char
  | [] => ([], [])
  | c :: cs =>
    if c = delim then ([], cs)
    else
      let r := getlineItem delim cs
      (c :: r.1, r.2)

/-- `std::getline(ss, item, delim)`: `none` when it fails, with nothing left to extract. -/
def getline (delim : Char) : List Char → Option (List Char × List Char)
  | [] => none
  | c :: cs => some (getlineItem delim (c :: cs))

theorem getlineItem_rest_length_le (delim : Char) (s : List Char) :
    (getlineItem delim s).2.length ≤ s.length := by
  induction s with
  | nil => exact le_rfl
  | cons c cs ih =>
    rw [getlineItem]
    split_ifs
    · exact Nat.le_succ _
    · exact ih.trans (Nat.le_succ _)

/-- Each successful `getline` extracts at least one character. -/
theorem getline_rest_lt {delim : Char} {s item rest : List Char}
    (h : getline delim s = some (item, rest)) : rest.length < s.length := by
  match s, h with
  | c :: cs, h =>
    simp only [getline, Option.some.injEq] at h
    rw [show rest = (getlineItem delim (c :: cs)).2 by rw [h], getlineItem]
    split_ifs
    · exact Nat.lt_succ_self _
    · exact Nat.lt_succ_of_le (getlineItem_rest_length_le _ _)

/-- The loop `while (getline(ss, item, delim)) if (item.size() > 0) result.push_back(item);`
on the characters left in the stream. -/
def splitLoop (delim : Char) (s : List Char) : List String :=
  match h : getline delim s with
  | none => []
  | some (item, rest) =>
    have : rest.length < s.length := getline_rest_lt h
    (if item.length > 0 then [⟨item⟩] else []) ++ splitLoop delim rest
termination_by s.length

/-- `Utility::split`. -/
def split (s : String) (delim : Char) : List String := splitLoop delim s.data

/-! ## One item -/

theorem splitLoop_of_none {delim : Char} {s : List Char} (h : getline delim s = none) :
    splitLoop delim s = [] := by
  rw [splitLoop]
  split <;> simp_all

theorem splitLoop_of_some {delim : Char} {s item rest : List Char}
    (h : getline delim s = some (item, rest)) :
    splitLoop delim s = (if item.length > 0 then [⟨item⟩] else []) ++ splitLoop delim rest := by
  rw [splitLoop]
  split <;> simp_all

/-- What `getline` extracts holds no `delim`, and is either followed by the `delim` it consumed
or ran to the end of the stream. -/
theorem getlineItem_cases (delim : Char) (s : List Char) :
    delim ∉ (getlineItem delim s).1 ∧
      (s = (getlineItem delim s).1 ++ delim :: (getlineItem delim s).2 ∨
        (s = (getlineItem delim s).1 ∧ (getlineItem delim s).2 = [])) := by
  induction s with
  | nil => exact ⟨List.not_mem_nil _, .inr ⟨rfl, rfl⟩⟩
  | cons c cs ih =>
    rw [getlineItem]
    split_ifs with hc
    · exact ⟨List.not_mem_nil _, .inl (by rw [hc]; rfl)⟩
    · dsimp only
      obtain ⟨hnot, h | ⟨h, hrest⟩⟩ := ih
      · exact ⟨by simp [Ne.symm hc, hnot], .inl (by rw [List.cons_append, ← h])⟩
      · exact ⟨by simp [Ne.symm hc, hnot], .inr ⟨by rw [← h], hrest⟩⟩

/-- One step of the loop, in terms of the fields `splitOn` cuts: the first field, then the
fields of what follows. -/
theorem splitOn_of_getline {delim : Char} {s item rest : List Char}
    (h : getline delim s = some (item, rest)) :
    (s.splitOn delim).filter (· ≠ []) =
      (if item ≠ [] then [item] else []) ++ (rest.splitOn delim).filter (· ≠ []) := by
  match s, h with
  | c :: cs, h =>
    simp only [getline, Option.some.injEq] at h
    obtain ⟨hnot, hs⟩ := getlineItem_cases delim (c :: cs)
    simp only [h] at hnot hs
    have hsep : ∀ x ∈ item, ¬(x == delim) = true := fun x hx hx' =>
      hnot (beq_iff_eq.mp hx' ▸ hx)
    rcases hs with hs | ⟨hs, hrest⟩
    · rw [hs, List.splitOn, List.splitOnP_first _ _ hsep _ (beq_self_eq_true _), List.filter_cons]
      by_cases hi : item = [] <;> simp [hi, List.splitOn]
    · rw [hs, show rest = [] from hrest, List.splitOn, List.splitOnP_eq_single _ _ hsep]
      by_cases hi : item = [] <;> simp [hi]

/-! ## The loop -/

/-- **The items.** `split` returns the fields between the delimiters, in order, with the empty
ones dropped. -/
theorem splitLoop_eq (delim : Char) (s : List Char) :
    splitLoop delim s = ((s.splitOn delim).filter (· ≠ [])).map String.mk := by
  induction s using splitLoop.induct delim with
  | case1 s h =>
    rw [splitLoop_of_none h]
    cases s with
    | nil => rfl
    | cons c cs => cases h
  | case2 s item rest h _ ih =>
    rw [splitLoop_of_some h, ih, splitOn_of_getline h]
    by_cases hi : item = [] <;> simp [hi, List.length_pos]

/-- **The items.** `split` returns the fields between the delimiters, in order, with the empty
ones dropped. -/
theorem split_eq_filter_splitOn (s : String) (delim : Char) :
    split s delim = ((s.data.splitOn delim).filter (· ≠ [])).map String.mk :=
  splitLoop_eq delim s.data

example : split ",a,,b," ',' = ["a", "b"] := by
  rw [split, splitLoop_eq]; rfl

/-! ## The round trip -/

theorem intercalate_cons_append (sep x z : List Char) (ys : List (List Char)) :
    sep.intercalate ((x ++ z) :: ys) = x ++ sep.intercalate (z :: ys) := by
  cases ys <;> simp [List.intercalate, List.intersperse_cons_cons]

theorem intercalate_go_data (sep acc : String) (as : List String) :
    (String.intercalate.go acc sep as).data =
      sep.data.intercalate (acc.data :: as.map String.data) := by
  induction as generalizing acc with
  | nil => simp [String.intercalate.go, List.intercalate]
  | cons a as ih =>
    rw [String.intercalate.go, ih, String.data_append, String.data_append, List.map_cons,
      List.append_assoc, intercalate_cons_append, intercalate_cons_append]
    cases as <;> simp [List.intercalate, List.intersperse_cons_cons]

theorem intercalate_data (sep : String) (l : List String) :
    (String.intercalate sep l).data = sep.data.intercalate (l.map String.data) := by
  cases l with
  | nil => rfl
  | cons a as => exact intercalate_go_data sep a as

/-- **The round trip.** Joining non-empty items that hold no `delim` by `delim`, and splitting
the result on `delim`, gives the items back. -/
theorem split_intercalate (delim : Char) (items : List String) (hne : ∀ x ∈ items, x ≠ "")
    (hd : ∀ x ∈ items, delim ∉ x.data) :
    split (String.intercalate (String.singleton delim) items) delim = items := by
  by_cases hitems : items = []
  · subst hitems
    simp [split, splitLoop_eq, String.intercalate]
  · rw [split, splitLoop_eq, intercalate_data,
      show (String.singleton delim).data = [delim] from rfl,
      List.splitOn_intercalate _ _ (by simpa using hd) (by simpa using hitems)]
    have hkeep : ∀ l ∈ items.map String.data, decide (l ≠ []) = true := by
      simp only [List.mem_map, decide_eq_true_eq]
      rintro _ ⟨x, hx, rfl⟩ h
      exact hne x hx (String.ext h)
    rw [List.filter_eq_self.2 hkeep, List.map_map]
    exact List.map_id'' (fun _ => rfl) items

example : split (String.intercalate (String.singleton ',') ["0000", "8086"]) ',' =
    ["0000", "8086"] :=
  split_intercalate ',' _ (by decide) (by decide)

end Utility

end XpuSmi

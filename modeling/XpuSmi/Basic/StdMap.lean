import Mathlib.Data.Finset.Card

/-!
# `std::map` and `std::set` as sorted lists

The telemetry core keeps every keyed table in a `std::map`: device id to sample, sub-device
id to raw reading, engine handle or fabric id to a per-entity value. The enabled metrics are
a `std::set`. The code walks these containers in key order, looks keys up with `find`, and
erases while it walks; the loops of the rate computation depend on that order.

`StdMap κ α` is the list of entries in strictly increasing key order, the order carried as a
field so that no unsorted map can be built. `find?` is `std::map::find`, `erase` is
`std::map::erase`, and `adjust` rewrites the value stored under one key in place (a write
through `map[k]` on a key that is present). `alter` is a write through `map[k]` on any key:
a key that is missing is inserted in order with the default value first (`find?_alter`).
`StdSet κ` is the same for `std::set`.
-/

namespace XpuSmi

/-- A `std::map<κ, α>`: its entries in iteration order, keys strictly increasing. -/
structure StdMap (κ : Type) (α : Type) [LT κ] where
  entries : List (κ × α)
  sorted : entries.Pairwise (fun a b => a.1 < b.1)

/-- A `std::set<κ>`: its elements in iteration order, strictly increasing. -/
structure StdSet (κ : Type) [LT κ] where
  elems : List κ
  sorted : elems.Pairwise (· < ·)

namespace StdMap

/-! ## Lookup in an entry list -/

section Lookup

variable {κ α : Type} [DecidableEq κ]

theorem lookup_cons_self (k : κ) (a : α) (rest : List (κ × α)) :
    ((k, a) :: rest).lookup k = some a := by
  simp [List.lookup_cons]

theorem lookup_cons_ne {k k' : κ} (a : α) (rest : List (κ × α)) (h : k' ≠ k) :
    ((k, a) :: rest).lookup k' = rest.lookup k' := by
  simp [List.lookup_cons, beq_eq_false_iff_ne.mpr h]

theorem lookup_filter_ne (l : List (κ × α)) {k k' : κ} (h : k' ≠ k) :
    (l.filter (fun e => e.1 ≠ k)).lookup k' = l.lookup k' := by
  induction l with
  | nil => rfl
  | cons e rest ih =>
    obtain ⟨k'', b⟩ := e
    by_cases hk : k'' = k
    · subst hk
      simp only [List.filter_cons, ne_eq, not_true_eq_false, decide_False, ih,
        lookup_cons_ne b rest h, Bool.false_eq_true, ite_false]
    · simp only [List.filter_cons, ne_eq, hk, not_false_eq_true, decide_True, ite_true]
      by_cases hk' : k' = k''
      · subst hk'; simp only [lookup_cons_self]
      · rw [lookup_cons_ne b _ hk', lookup_cons_ne b _ hk', ih]

theorem lookup_filter_self (l : List (κ × α)) (k : κ) :
    (l.filter (fun e => e.1 ≠ k)).lookup k = none := by
  induction l with
  | nil => rfl
  | cons e rest ih =>
    obtain ⟨k'', b⟩ := e
    by_cases hk : k'' = k
    · subst hk; simpa [List.filter_cons] using ih
    · simp only [List.filter_cons, ne_eq, hk, not_false_eq_true, decide_True, ite_true]
      rw [lookup_cons_ne b _ (Ne.symm hk), ih]

theorem lookup_map_adjust (l : List (κ × α)) (k k' : κ) (f : α → α) :
    (l.map (fun e => if e.1 = k then (e.1, f e.2) else e)).lookup k' =
      if k' = k then (l.lookup k').map f else l.lookup k' := by
  induction l with
  | nil => simp
  | cons e rest ih =>
    obtain ⟨k'', b⟩ := e
    by_cases hk' : k' = k''
    · subst hk'; by_cases hk : k' = k <;> simp [hk, lookup_cons_self]
    · by_cases hk : k'' = k
      · subst hk; simp [lookup_cons_ne _ _ hk', ih]
      · simp [hk, lookup_cons_ne _ _ hk', ih]

end Lookup

variable {κ α : Type} [Preorder κ] [DecidableEq κ]

/-! ## Operations -/

/-- The empty map. -/
def empty : StdMap κ α := ⟨[], List.Pairwise.nil⟩

/-- `std::map::find`: the value stored under `k`, if any. -/
def find? (m : StdMap κ α) (k : κ) : Option α := m.entries.lookup k

/-- `std::map::erase`: the map without the entry under `k`. -/
def erase (m : StdMap κ α) (k : κ) : StdMap κ α :=
  ⟨m.entries.filter (fun e => e.1 ≠ k), m.sorted.filter _⟩

/-- The map with the value under `k` replaced by `f` of it; the keys do not change. -/
def adjust (m : StdMap κ α) (k : κ) (f : α → α) : StdMap κ α :=
  ⟨m.entries.map (fun e => if e.1 = k then (e.1, f e.2) else e),
    m.sorted.map _ (fun a b h => by split_ifs <;> exact h)⟩

/-! ## Sorted entry lists -/

/-- A key below every key of an entry list is absent from it. -/
theorem lookup_of_forall_lt {k : κ} {l : List (κ × α)} (hlt : ∀ e ∈ l, k < e.1) :
    l.lookup k = none := by
  induction l with
  | nil => rfl
  | cons e rest ih =>
    obtain ⟨k', b⟩ := e
    rw [lookup_cons_ne b rest (ne_of_lt (hlt _ (List.mem_cons_self _ _)))]
    exact ih fun e he => hlt e (List.mem_cons_of_mem _ he)

/-- In a sorted entry list the head's key is absent from the tail. -/
theorem lookup_tail_none {k : κ} {a : α} {rest : List (κ × α)}
    (hs : ((k, a) :: rest).Pairwise (fun a b => a.1 < b.1)) : rest.lookup k = none :=
  lookup_of_forall_lt fun _ he => List.rel_of_pairwise_cons hs he

/-- In a sorted entry list every entry is what lookup finds under its key. -/
theorem lookup_of_mem {l : List (κ × α)} (hs : l.Pairwise (fun a b => a.1 < b.1)) {k : κ}
    {a : α} (h : (k, a) ∈ l) : l.lookup k = some a := by
  induction l with
  | nil => cases h
  | cons e rest ih =>
    obtain ⟨k', b⟩ := e
    rcases List.mem_cons.mp h with he | hmem
    · cases he; exact lookup_cons_self k a rest
    · have hlt : k' < k := List.rel_of_pairwise_cons hs hmem
      rw [lookup_cons_ne b rest (ne_of_gt hlt)]
      exact ih hs.of_cons hmem

/-! ## `find?` after each operation -/

theorem find?_of_mem (m : StdMap κ α) {k : κ} {a : α} (h : (k, a) ∈ m.entries) :
    m.find? k = some a :=
  lookup_of_mem m.sorted h

@[simp] theorem find?_empty (k : κ) : (empty : StdMap κ α).find? k = none := rfl

@[simp] theorem find?_erase_self (m : StdMap κ α) (k : κ) : (m.erase k).find? k = none :=
  lookup_filter_self m.entries k

theorem find?_erase_ne (m : StdMap κ α) {k k' : κ} (h : k' ≠ k) :
    (m.erase k).find? k' = m.find? k' :=
  lookup_filter_ne m.entries h

theorem find?_adjust (m : StdMap κ α) (k k' : κ) (f : α → α) :
    (m.adjust k f).find? k' = if k' = k then (m.find? k').map f else m.find? k' :=
  lookup_map_adjust m.entries k k' f

/-! ## Writing through `map[k]` -/

section Alter

variable {κ' : Type} [LinearOrder κ']

/-- The entries after `map[k]` and a write through the reference it returns: the value under
`k`, or `dflt` when `k` is absent, replaced by `f` of it; a new key goes in its place in key
order. -/
def alterEntries (k : κ') (dflt : α) (f : α → α) : List (κ' × α) → List (κ' × α)
  | [] => [(k, f dflt)]
  | e :: rest =>
    if k < e.1 then (k, f dflt) :: e :: rest
    else if k = e.1 then (k, f e.2) :: rest
    else e :: alterEntries k dflt f rest

theorem key_of_mem_alterEntries {k : κ'} {dflt : α} {f : α → α} {l : List (κ' × α)}
    {e : κ' × α} (h : e ∈ alterEntries k dflt f l) : e.1 = k ∨ ∃ e' ∈ l, e'.1 = e.1 := by
  induction l with
  | nil => simp_all [alterEntries]
  | cons e' rest ih =>
    rw [alterEntries] at h
    split_ifs at h <;> simp only [List.mem_cons] at h
    · rcases h with rfl | rfl | h
      · exact .inl rfl
      · exact .inr ⟨_, List.mem_cons_self _ _, rfl⟩
      · exact .inr ⟨e, List.mem_cons_of_mem _ h, rfl⟩
    · rcases h with rfl | h
      · exact .inl rfl
      · exact .inr ⟨e, List.mem_cons_of_mem _ h, rfl⟩
    · rcases h with rfl | h
      · exact .inr ⟨_, List.mem_cons_self _ _, rfl⟩
      · rcases ih h with h' | ⟨e'', he'', h'⟩
        · exact .inl h'
        · exact .inr ⟨e'', List.mem_cons_of_mem _ he'', h'⟩

theorem alterEntries_sorted (k : κ') (dflt : α) (f : α → α) {l : List (κ' × α)}
    (h : l.Pairwise (fun a b => a.1 < b.1)) :
    (alterEntries k dflt f l).Pairwise (fun a b => a.1 < b.1) := by
  induction l with
  | nil => exact List.pairwise_singleton _ _
  | cons e rest ih =>
    rw [alterEntries]
    split_ifs with hlt heq
    · exact h.cons fun a ha => (List.mem_cons.mp ha).elim (fun ha => ha ▸ hlt)
        fun ha => hlt.trans (List.rel_of_pairwise_cons h ha)
    · exact h.of_cons.cons fun a ha => heq ▸ List.rel_of_pairwise_cons h ha
    · refine (ih h.of_cons).cons fun a ha => ?_
      rcases key_of_mem_alterEntries ha with h' | ⟨e', he', h'⟩
      · exact h' ▸ lt_of_le_of_ne (not_lt.mp hlt) (Ne.symm heq)
      · exact h' ▸ List.rel_of_pairwise_cons h he'

/-- `map[k]` and a write through the reference it returns. -/
def alter (m : StdMap κ' α) (k : κ') (dflt : α) (f : α → α) : StdMap κ' α :=
  ⟨alterEntries k dflt f m.entries, alterEntries_sorted k dflt f m.sorted⟩

theorem find?_alter (m : StdMap κ' α) (k k' : κ') (dflt : α) (f : α → α) :
    (m.alter k dflt f).find? k' =
      if k' = k then some (f ((m.find? k).getD dflt)) else m.find? k' := by
  obtain ⟨l, hs⟩ := m
  simp only [alter, find?]
  induction l with
  | nil =>
    by_cases h : k' = k
    · subst h; rw [if_pos rfl]; exact lookup_cons_self _ _ _
    · rw [if_neg h, alterEntries, lookup_cons_ne _ _ h]
  | cons e rest ih =>
    obtain ⟨k'', b⟩ := e
    rw [alterEntries]
    by_cases hlt : k < k''
    · -- a new key in front: it was absent
      rw [if_pos hlt]
      by_cases h : k' = k
      · subst h
        rw [if_pos rfl, lookup_cons_self, lookup_of_forall_lt fun e he =>
          (List.mem_cons.mp he).elim (fun he => he ▸ hlt)
            fun he => hlt.trans (List.rel_of_pairwise_cons hs he)]
        rfl
      · rw [if_neg h, lookup_cons_ne _ _ h]
    by_cases heq : k = k''
    · subst heq
      rw [if_neg hlt, if_pos rfl]
      by_cases h : k' = k
      · subst h; rw [if_pos rfl, lookup_cons_self, lookup_cons_self]; rfl
      · rw [if_neg h, lookup_cons_ne _ _ h, lookup_cons_ne _ _ h]
    · rw [if_neg hlt, if_neg heq]
      by_cases hk : k' = k''
      · subst hk
        rw [lookup_cons_self, if_neg (Ne.symm heq), lookup_cons_self]
      · rw [lookup_cons_ne _ _ hk, ih hs.of_cons, lookup_cons_ne _ _ hk,
          lookup_cons_ne _ _ heq]

end Alter

/-! ## Counting entries by key -/

/-- The entries whose key has property `p` are at most as many as any bound on the number of
distinct keys with `p`. -/
theorem length_filter_le (m : StdMap κ α) {p : κ → Bool} {n : Nat}
    (hbound : ∀ s : Finset κ, (∀ k ∈ s, p k) → s.card ≤ n) :
    (m.entries.filter fun e => p e.1).length ≤ n := by
  -- the keys of a map are distinct
  have hnd : ((m.entries.filter fun e => p e.1).map Prod.fst).Nodup :=
    ((List.pairwise_map.2 m.sorted).imp ne_of_lt).sublist ((List.filter_sublist _).map _)
  calc (m.entries.filter fun e => p e.1).length
      = ((m.entries.filter fun e => p e.1).map Prod.fst).toFinset.card := by
        rw [List.toFinset_card_of_nodup hnd, List.length_map]
    _ ≤ n := hbound _ fun k hk => by
        obtain ⟨e, he, rfl⟩ := List.mem_map.1 (List.mem_toFinset.1 hk)
        exact (List.mem_filter.1 he).2

end StdMap

end XpuSmi

import Mathlib.Data.List.Nodup
import Mathlib.Data.List.Perm.Basic
import JavaMetrics.Dict

set_option autoImplicit false

namespace JavaMetrics

namespace Entries

variable {α : Type} {k : String} {v : α} {xs : List (String × α)}

theorem lookup_eq_some_iff (h : (xs.map (·.1)).Nodup) : xs.lookup k = some v ↔ (k, v) ∈ xs := by
  induction xs with
  | nil => simp
  | cons x rest ih =>
    obtain ⟨j, w⟩ := x
    rw [List.map_cons, List.nodup_cons] at h
    rw [lookup_cons_if]
    split
    · rename_i hk
      subst hk
      -- The key stands nowhere else, so both sides speak of the first entry.
      have hnot : (k, v) ∉ rest := fun hm => h.1 (List.mem_map.2 ⟨(k, v), hm, rfl⟩)
      simp [hnot, eq_comm]
    · rename_i hk
      rw [ih h.2]
      simp [hk]

theorem nodup_keys_of_ascending (h : Ascending xs) : (xs.map (·.1)).Nodup := by
  refine List.pairwise_map.2 (h.imp ?_)
  intro a b hlt he
  exact String.lt_irrefl b.1 (he ▸ hlt)

theorem insert_perm (h : k ∉ xs.map (·.1)) : (insert k v xs).Perm ((k, v) :: xs) := by
  induction xs with
  | nil => exact .refl _
  | cons x rest ih =>
    obtain ⟨j, w⟩ := x
    simp only [List.map_cons, List.mem_cons, not_or] at h
    simp only [insert]
    split
    · exact .refl _
    · split
      · exact ((ih h.2).cons (j, w)).trans (.swap (k, v) (j, w) rest)
      · rename_i h₁ h₂
        rcases text_lt_or_eq_or_gt k j with e | e | e
        · exact absurd e h₁
        · exact absurd e h.1
        · exact absurd e h₂

end Entries

/-- Two ascending lists with the same items are equal. -/
theorem eq_of_ascending {α : Type} (key : α → String) {xs ys : List α}
    (hx : xs.Pairwise fun a b => key a < key b) (hy : ys.Pairwise fun a b => key a < key b)
    (h : ∀ a, a ∈ xs ↔ a ∈ ys) : xs = ys := by
  have hne : ∀ zs : List α, zs.Pairwise (fun a b => key a < key b) → zs.Nodup := by
    intro zs hz
    refine hz.imp ?_
    rintro a b hlt rfl
    exact String.lt_irrefl _ hlt
  refine ((List.perm_ext_iff_of_nodup (hne xs hx) (hne ys hy)).2 h).eq_of_pairwise ?_ hx hy
  intro a b _ _ hab hba
  exact absurd (String.lt_trans hab hba) (String.lt_irrefl _)

namespace Dict

variable {α β : Type}

theorem get?_eq_some_iff (d : Dict α) (k : String) (v : α) :
    d.get? k = some v ↔ (k, v) ∈ d.entries :=
  Entries.lookup_eq_some_iff (Entries.nodup_keys_of_ascending d.ascending)

theorem contains_iff (d : Dict α) (k : String) : d.contains k = true ↔ ∃ v, d.get? k = some v := by
  rw [contains, Option.isSome_iff_exists]

theorem get?_map (f : String → α → β) (d : Dict α) (k : String) (w : β) :
    (d.map f).get? k = some w ↔ ∃ v, d.get? k = some v ∧ f k v = w := by
  simp only [get?_eq_some_iff, map, List.mem_map]
  constructor
  · rintro ⟨⟨j, v⟩, hm, he⟩
    obtain ⟨rfl, rfl⟩ := Prod.mk.inj he
    exact ⟨v, hm, rfl⟩
  · rintro ⟨v, hm, rfl⟩
    exact ⟨(k, v), hm, rfl⟩

theorem foldl_insert_perm (xs : List (String × α)) (d : Dict α)
    (h : (d.entries.map (·.1) ++ xs.map (·.1)).Nodup) :
    (xs.foldl (fun d x => d.insert x.1 x.2) d).entries.Perm (d.entries ++ xs) := by
  induction xs generalizing d with
  | nil => simp
  | cons x rest ih =>
    obtain ⟨k, v⟩ := x
    have hk : k ∉ d.entries.map (·.1) := by
      intro hm
      exact (List.nodup_append.1 h).2.2 k hm k (by simp) rfl
    have hp : (d.insert k v).entries.Perm ((k, v) :: d.entries) := Entries.insert_perm hk
    have hkeys : ((d.insert k v).entries.map (·.1) ++ rest.map (·.1)).Perm
        (d.entries.map (·.1) ++ ((k, v) :: rest).map (·.1)) := by
      refine ((hp.map (·.1)).append_right _).trans ?_
      simpa using List.perm_middle.symm
    have hrest := ih (d.insert k v) (hkeys.nodup_iff.2 h)
    rw [List.foldl_cons]
    exact hrest.trans ((hp.append_right rest).trans List.perm_middle.symm)

theorem eq_of_get? {d e : Dict α} (h : ∀ k, d.get? k = e.get? k) : d = e := by
  refine eq_of_entries (eq_of_ascending Prod.fst d.ascending e.ascending ?_)
  rintro ⟨k, v⟩
  rw [← get?_eq_some_iff, ← get?_eq_some_iff, h]

theorem mem_values (d : Dict α) (v : α) : v ∈ d.values ↔ ∃ k, d.get? k = some v := by
  simp only [values, List.mem_map, get?_eq_some_iff]
  constructor
  · rintro ⟨⟨k, w⟩, hm, rfl⟩
    exact ⟨k, hm⟩
  · rintro ⟨k, hm⟩
    exact ⟨(k, v), hm, rfl⟩

theorem entries_ofList_perm (xs : List (String × α)) (h : (xs.map (·.1)).Nodup) :
    (ofList xs).entries.Perm xs :=
  foldl_insert_perm xs empty (by simpa [empty] using h)

theorem ofList_entries (d : Dict α) : ofList d.entries = d := by
  have hperm := entries_ofList_perm d.entries (Entries.nodup_keys_of_ascending d.ascending)
  exact eq_of_entries (eq_of_ascending Prod.fst (ofList d.entries).ascending d.ascending
    fun _ => hperm.mem_iff)

theorem get?_ofList (xs : List (String × α)) (h : (xs.map (·.1)).Nodup) (k : String) (v : α) :
    (ofList xs).get? k = some v ↔ (k, v) ∈ xs := by
  rw [get?_eq_some_iff, (entries_ofList_perm xs h).mem_iff]

theorem get?_foldl_insert_of_not_mem (xs : List (String × α)) (d : Dict α) {k : String}
    (h : k ∉ xs.map (·.1)) : (xs.foldl (fun d x => d.insert x.1 x.2) d).get? k = d.get? k := by
  induction xs generalizing d with
  | nil => rfl
  | cons x rest ih =>
    rw [List.map_cons, List.mem_cons, not_or] at h
    rw [List.foldl_cons, ih _ h.2, get?_insert, if_neg h.1]

theorem mem_of_get?_foldl_insert (xs : List (String × α)) {d : Dict α} {k : String} {v : α}
    (h : (xs.foldl (fun d x => d.insert x.1 x.2) d).get? k = some v) :
    (k, v) ∈ xs ∨ d.get? k = some v := by
  induction xs generalizing d with
  | nil => exact .inr h
  | cons x rest ih =>
    rcases ih h with hrest | hfirst
    · exact .inl (List.mem_cons_of_mem x hrest)
    · rw [get?_insert] at hfirst
      split at hfirst
      · rename_i hk
        left
        rw [hk, ← Option.some.inj hfirst]
        exact List.mem_cons_self
      · exact .inr hfirst

theorem mem_of_get?_ofList {xs : List (String × α)} {k : String} {v : α}
    (h : (ofList xs).get? k = some v) : (k, v) ∈ xs :=
  (mem_of_get?_foldl_insert xs h).resolve_right fun hempty => by cases hempty

theorem get?_ofList_last (before : List (String × α)) {after : List (String × α)} {k : String}
    (h : k ∉ after.map (·.1)) (v : α) :
    (ofList (before ++ (k, v) :: after)).get? k = some v := by
  rw [ofList, List.foldl_append, List.foldl_cons, get?_foldl_insert_of_not_mem after _ h, get?_insert,
    if_pos rfl]

theorem get?_foldl_insert_const (names : List String) (v : α) (d : Dict α) (n : String) :
    ((names.map fun m => (m, v)).foldl (fun d x => d.insert x.1 x.2) d).get? n =
      if n ∈ names then some v else d.get? n := by
  induction names generalizing d with
  | nil => simp
  | cons m rest ih =>
    rw [List.map_cons, List.foldl_cons, ih, get?_insert]
    by_cases hm : n = m <;> simp [hm]

theorem get?_ofList_const (names : List String) (v : α) (n : String) :
    (ofList (names.map fun m => (m, v))).get? n = if n ∈ names then some v else none :=
  get?_foldl_insert_const names v empty n

end Dict

theorem mem_foldl_new (names seen : List String) (n : String) :
    n ∈ names.foldl (fun seen n => if seen.contains n then seen else seen ++ [n]) seen ↔
      n ∈ seen ∨ n ∈ names := by
  induction names generalizing seen with
  | nil => simp
  | cons m rest ih =>
    have hstep : n ∈ (if seen.contains m then seen else seen ++ [m]) ↔ n ∈ seen ∨ n = m := by
      split
      · rename_i hm
        constructor
        · exact .inl
        · intro h
          rcases h with h | rfl
          · exact h
          · exact List.contains_iff_mem.1 hm
      · rw [List.mem_append, List.mem_singleton]
    rw [List.foldl_cons, ih, hstep, List.mem_cons, or_assoc]

theorem nodup_foldl_new (names : List String) {seen : List String} (h : seen.Nodup) :
    (names.foldl (fun seen n => if seen.contains n then seen else seen ++ [n]) seen).Nodup := by
  induction names generalizing seen with
  | nil => exact h
  | cons n rest ih =>
    rw [List.foldl_cons]
    apply ih
    split
    · exact h
    · rename_i hn
      have hnew : n ∉ seen := fun hm => hn (List.contains_iff_mem.2 hm)
      rw [← List.concat_eq_append]
      exact h.concat hnew

theorem nodup_of_pairwise_lt {xs : List String} (h : xs.Pairwise (· < ·)) : xs.Nodup := by
  refine h.imp ?_
  rintro a b hlt rfl
  exact String.lt_irrefl a hlt

theorem nodup_sortedNames (xs : List String) : (sortedNames xs).Nodup :=
  nodup_of_pairwise_lt (pairwise_sortedNames xs)

theorem sortedNames_congr {xs ys : List String} (h : ∀ a, a ∈ xs ↔ a ∈ ys) :
    sortedNames xs = sortedNames ys := by
  apply eq_of_ascending id (pairwise_sortedNames xs) (pairwise_sortedNames ys)
  intro a
  rw [mem_sortedNames, mem_sortedNames, h]

/-- A sort keeps repetitions; different names come out strictly ascending. -/
theorem pairwise_lt_mergeSort {xs : List String} (h : xs.Nodup) : xs.mergeSort.Pairwise (· < ·) := by
  have htrans (a b c : String) (hab : decide (a ≤ b) = true) (hbc : decide (b ≤ c) = true) :
      decide (a ≤ c) = true :=
    decide_eq_true (String.le_trans (of_decide_eq_true hab) (of_decide_eq_true hbc))
  have htotal (a b : String) : (decide (a ≤ b) || decide (b ≤ a)) = true := by
    simpa using String.le_total a b
  have hsorted := List.pairwise_mergeSort htrans htotal xs
  have hnodup := (List.mergeSort_perm xs fun a b => decide (a ≤ b)).nodup_iff.2 h
  refine (hsorted.and hnodup).imp ?_
  rintro a b ⟨hle, hne⟩
  rcases text_lt_or_eq_or_gt a b with hlt | heq | hgt
  · exact hlt
  · exact absurd heq hne
  · exact absurd hgt (String.not_lt.2 (of_decide_eq_true hle))

end JavaMetrics

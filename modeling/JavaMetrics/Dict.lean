
set_option autoImplicit false

namespace JavaMetrics

theorem text_lt_or_eq_or_gt (a b : String) : a < b ∨ a = b ∨ b < a := by
  by_cases h : a < b
  · exact .inl h
  · by_cases h' : b < a
    · exact .inr (.inr h')
    · exact .inr (.inl (String.le_antisymm (String.not_lt.mp h') (String.not_lt.mp h)))

namespace Entries

/-- Puts an entry in its place; an entry with the same key is replaced. -/
def insert {α : Type} (k : String) (v : α) : List (String × α) → List (String × α)
  | [] => [(k, v)]
  | (j, w) :: rest =>
    if k < j then (k, v) :: (j, w) :: rest
    else if j < k then (j, w) :: insert k v rest
    else (k, v) :: rest

def Ascending {α : Type} (xs : List (String × α)) : Prop := xs.Pairwise fun a b => a.1 < b.1

theorem mem_insert_key {α : Type} {k : String} {v : α} {xs : List (String × α)} {x : String × α}
    (h : x ∈ insert k v xs) : x.1 = k ∨ x ∈ xs := by
  induction xs with
  | nil => simp_all [insert]
  | cons y ys ih =>
    obtain ⟨j, w⟩ := y
    simp only [insert] at h
    split at h
    · simp at h; rcases h with rfl | h <;> simp_all
    · split at h
      · simp at h
        rcases h with rfl | h
        · simp
        · rcases ih h with h | h <;> simp [h]
      · simp at h; rcases h with rfl | h <;> simp_all

theorem ascending_insert {α : Type} {k : String} {v : α} {xs : List (String × α)}
    (h : Ascending xs) : Ascending (insert k v xs) := by
  induction xs with
  | nil => simp [insert, Ascending]
  | cons y ys ih =>
    obtain ⟨j, w⟩ := y
    obtain ⟨hy, hys⟩ := List.pairwise_cons.1 h
    simp only [insert]
    split
    · rename_i hk
      refine List.pairwise_cons.2 ⟨?_, h⟩
      intro x hx
      rcases List.mem_cons.1 hx with rfl | hx
      · exact hk
      · exact String.lt_trans hk (hy x hx)
    · split
      · rename_i hk
        refine List.pairwise_cons.2 ⟨?_, ih hys⟩
        intro x hx
        rcases mem_insert_key hx with hx | hx
        · exact hx ▸ hk
        · exact hy x hx
      · rename_i h₁ h₂
        have : k = j := by
          rcases text_lt_or_eq_or_gt k j with h | h | h <;> simp_all
        subst this
        exact List.pairwise_cons.2 ⟨fun x hx => hy x hx, hys⟩

theorem lookup_cons_if {α : Type} {k j : String} {v : α} {xs : List (String × α)} :
    ((k, v) :: xs).lookup j = if j = k then some v else xs.lookup j := by
  by_cases h : j = k
  · simp [h]
  · have : (j == k) = false := by simpa using h
    simp [List.lookup_cons, this, h]

theorem lookup_insert {α : Type} {k j : String} {v : α} {xs : List (String × α)} :
    (insert k v xs).lookup j = if j = k then some v else xs.lookup j := by
  induction xs with
  | nil => simp only [insert, lookup_cons_if]
  | cons y ys ih =>
    obtain ⟨i, w⟩ := y
    simp only [insert]
    split
    · simp only [lookup_cons_if]
    · split
      · rename_i hik
        simp only [lookup_cons_if, ih]
        by_cases hj : j = i
        · subst hj
          have : j ≠ k := fun e => String.lt_irrefl k (e ▸ hik)
          simp [this]
        · simp [hj]
      · rename_i h₁ h₂
        have hk : k = i := by
          rcases text_lt_or_eq_or_gt k i with e | e | e <;> simp_all
        subst hk
        simp only [lookup_cons_if]
        split <;> rfl

end Entries

structure Dict (α : Type) where
  entries : List (String × α)
  ascending : Entries.Ascending entries

namespace Dict

variable {α β : Type}

theorem eq_of_entries {d e : Dict α} (h : d.entries = e.entries) : d = e := by
  cases d; cases e; simp_all

instance [DecidableEq α] : DecidableEq (Dict α) := fun d e =>
  if h : d.entries = e.entries then isTrue (eq_of_entries h)
  else isFalse fun g => h (g ▸ rfl)

def empty : Dict α := ⟨[], List.Pairwise.nil⟩

instance : Inhabited (Dict α) := ⟨empty⟩

def insert (d : Dict α) (k : String) (v : α) : Dict α :=
  ⟨Entries.insert k v d.entries, Entries.ascending_insert d.ascending⟩

def ofList (xs : List (String × α)) : Dict α := xs.foldl (fun d x => d.insert x.1 x.2) empty

def get? (d : Dict α) (k : String) : Option α := d.entries.lookup k

theorem get?_insert (d : Dict α) (k j : String) (v : α) :
    (d.insert k v).get? j = if j = k then some v else d.get? j :=
  Entries.lookup_insert

def contains (d : Dict α) (k : String) : Bool := (d.get? k).isSome

def keys (d : Dict α) : List String := d.entries.map (·.1)

def values (d : Dict α) : List α := d.entries.map (·.2)

def size (d : Dict α) : Nat := d.entries.length

def map (f : String → α → β) (d : Dict α) : Dict β :=
  ⟨d.entries.map fun x => (x.1, f x.1 x.2), by
    simpa [Entries.Ascending, List.pairwise_map] using d.ascending⟩

end Dict

/-- Puts a name in its place in an ascending list, once. -/
def insertName (n : String) : List String → List String
  | [] => [n]
  | m :: rest => if n < m then n :: m :: rest else if m < n then m :: insertName n rest else m :: rest

theorem mem_insertName {a n : String} {xs : List String} :
    a ∈ insertName n xs ↔ a = n ∨ a ∈ xs := by
  induction xs with
  | nil => simp [insertName]
  | cons m rest ih =>
    simp only [insertName]
    split
    · simp
    · split
      · simp only [List.mem_cons, ih]
        constructor
        · rintro (h | h | h) <;> simp [h]
        · rintro (h | h | h) <;> simp [h]
      · rename_i h₁ h₂
        have : n = m := by
          rcases text_lt_or_eq_or_gt n m with e | e | e <;> simp_all
        simp [this]

theorem pairwise_insertName {n : String} {xs : List String} (h : xs.Pairwise (· < ·)) :
    (insertName n xs).Pairwise (· < ·) := by
  induction xs with
  | nil => simp [insertName]
  | cons m rest ih =>
    obtain ⟨hm, hrest⟩ := List.pairwise_cons.1 h
    simp only [insertName]
    split
    · rename_i hn
      refine List.pairwise_cons.2 ⟨?_, h⟩
      intro a ha
      rcases List.mem_cons.1 ha with rfl | ha
      · exact hn
      · exact String.lt_trans hn (hm a ha)
    · split
      · rename_i hn
        refine List.pairwise_cons.2 ⟨?_, ih hrest⟩
        intro a ha
        rcases mem_insertName.1 ha with rfl | ha
        · exact hn
        · exact hm a ha
      · exact h

def sortedNames (xs : List String) : List String := xs.foldl (fun s n => insertName n s) []

theorem mem_foldl_insertName {a : String} {xs s : List String} :
    a ∈ xs.foldl (fun s n => insertName n s) s ↔ a ∈ xs ∨ a ∈ s := by
  induction xs generalizing s with
  | nil => simp
  | cons x xs ih =>
    simp only [List.foldl_cons, ih, mem_insertName, List.mem_cons]
    constructor
    · rintro (h | h | h) <;> simp [h]
    · rintro ((h | h) | h) <;> simp [h]

theorem mem_sortedNames {a : String} {xs : List String} : a ∈ sortedNames xs ↔ a ∈ xs := by
  simp [sortedNames, mem_foldl_insertName]

theorem pairwise_foldl_insertName {xs s : List String} (h : s.Pairwise (· < ·)) :
    (xs.foldl (fun s n => insertName n s) s).Pairwise (· < ·) := by
  induction xs generalizing s with
  | nil => exact h
  | cons x xs ih => exact ih (pairwise_insertName h)

theorem pairwise_sortedNames (xs : List String) : (sortedNames xs).Pairwise (· < ·) :=
  pairwise_foldl_insertName List.Pairwise.nil

end JavaMetrics

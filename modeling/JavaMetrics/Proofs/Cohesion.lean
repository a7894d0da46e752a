import Mathlib.Algebra.BigOperators.Fin
import Mathlib.Data.Nat.Choose.Basic
import JavaMetrics.Metrics.Basic

set_option autoImplicit false

namespace JavaMetrics

open Finset

section Pairs

variable {α β : Type} (test : α → α → Bool)

def pairsWith (xs : List α) : Finset (Fin xs.length × Fin xs.length) :=
  univ.filter fun p => p.1 < p.2 ∧ test (xs.get p.1) (xs.get p.2) = true

theorem sum_positions (q : α → Bool) (xs : List α) :
    ∑ i : Fin xs.length, (if q (xs.get i) = true then 1 else 0) = (xs.filter q).length := by
  induction xs with
  | nil => rfl
  | cons a rest ih =>
    refine (Fin.sum_univ_succ _).trans ?_
    change (if q a = true then 1 else 0) +
      ∑ i : Fin rest.length, (if q (rest.get i) = true then 1 else 0) = _
    rw [ih]
    by_cases ha : q a = true
    · rw [if_pos ha, List.filter_cons_of_pos ha, List.length_cons, Nat.add_comm]
    · rw [if_neg ha, List.filter_cons_of_neg ha, Nat.zero_add]

/-- The recursion over the rest of the list meets every pair of positions once. -/
theorem card_pairsWith (xs : List α) : (pairsWith test xs).card = countPairs test xs := by
  rw [pairsWith, card_filter, Fintype.sum_prod_type]
  induction xs with
  | nil => rfl
  | cons a rest ih =>
    refine (Fin.sum_univ_succ _).trans ?_
    rw [countPairs, ← sum_positions (test a) rest, ← ih]
    -- The first position is in front of all others, and no position is in front of it.
    refine congrArg₂ (· + ·) ?_ (sum_congr rfl fun i _ => ?_)
    · refine (Fin.sum_univ_succ _).trans ?_
      simp
    · refine (Fin.sum_univ_succ _).trans ?_
      simp

theorem countPairs_add_not (xs : List α) :
    countPairs test xs + countPairs (fun a b => !test a b) xs = xs.length.choose 2 := by
  induction xs with
  | nil => rfl
  | cons a rest ih =>
    have hsplit := List.length_eq_length_filter_add (l := rest) (test a)
    have hchoose : (rest.length + 1).choose 2 = rest.length + rest.length.choose 2 := by
      rw [Nat.choose_succ_succ, Nat.choose_one_right]
    rw [countPairs, countPairs, List.length_cons, hchoose]
    omega

theorem countPairs_map (f : β → α) (xs : List β) :
    countPairs test (xs.map f) = countPairs (fun a b => test (f a) (f b)) xs := by
  induction xs with
  | nil => rfl
  | cons a rest ih =>
    rw [List.map_cons, countPairs, countPairs, ih, List.filter_map, List.length_map]
    rfl

variable {test}

theorem countPairs_of_forall₂ {test' : β → β → Bool} {R : α → β → Prop} {xs : List α} {ys : List β}
    (htest : ∀ a b a' b', R a a' → R b b' → test' a' b' = test a b) (h : List.Forall₂ R xs ys) :
    countPairs test' ys = countPairs test xs := by
  induction h with
  | nil => rfl
  | @cons a a' rest rest' ha hrest ih =>
    have hfilter : List.Forall₂ R (rest.filter (test a)) (rest'.filter (test' a')) :=
      List.rel_filter (fun b b' hb => by simp only [htest a b a' b' ha hb]) hrest
    rw [countPairs, countPairs, ih, hfilter.length_eq]

end Pairs

theorem shareField_iff (a b : List String) : shareField a b = true ↔ ∃ x ∈ a, x ∈ b := by
  rw [shareField, List.any_eq_true]
  simp only [List.contains_iff_mem]

theorem shareField_renamed {f : String → String} {s : Set String} (hf : Set.InjOn f s)
    {a b a' b' : List String} (ha : ∀ x ∈ a, x ∈ s) (hb : ∀ x ∈ b, x ∈ s)
    (ha' : ∀ y, y ∈ a' ↔ ∃ x ∈ a, f x = y) (hb' : ∀ y, y ∈ b' ↔ ∃ x ∈ b, f x = y) :
    shareField a' b' = shareField a b := by
  rw [Bool.eq_iff_iff, shareField_iff, shareField_iff]
  constructor
  · rintro ⟨y, hya, hyb⟩
    obtain ⟨x, hxa, rfl⟩ := (ha' y).1 hya
    obtain ⟨z, hzb, hz⟩ := (hb' _).1 hyb
    obtain rfl : z = x := hf (hb z hzb) (ha x hxa) hz
    exact ⟨z, hxa, hzb⟩
  · rintro ⟨x, hxa, hxb⟩
    exact ⟨f x, (ha' _).2 ⟨x, hxa, rfl⟩, (hb' _).2 ⟨x, hxb, rfl⟩⟩

/-- A method uses the fields of another one, under the names that `f` gives them. -/
def Method.UsesRenamed (f : String → String) (m m' : Method) : Prop :=
  ∀ y, y ∈ m'.body.fieldRefs ↔ ∃ x ∈ m.body.fieldRefs, f x = y

namespace ClassFacts

def sharingPairs (u : ClassFacts) : Finset (Fin u.methods.length × Fin u.methods.length) :=
  univ.filter fun p => p.1 < p.2 ∧
    ∃ x ∈ (u.methods.get p.1).body.fieldRefs, x ∈ (u.methods.get p.2).body.fieldRefs

theorem card_sharingPairs (u : ClassFacts) : u.sharingPairs.card = countPairs shareField u.fieldUses := by
  rw [fieldUses, countPairs_map, ← card_pairsWith]
  simp only [sharingPairs, pairsWith, shareField_iff]

theorem lackOfCohesion_eq (u : ClassFacts) :
    u.lackOfCohesion = u.methods.length.choose 2 - 2 * u.sharingPairs.card := by
  have hpairs := countPairs_add_not shareField u.fieldUses
  have hlength : u.fieldUses.length = u.methods.length := List.length_map _
  rw [hlength] at hpairs
  rw [lackOfCohesion, cohesionGap, card_sharingPairs]
  omega

theorem lackOfCohesion_renamed {u v : ClassFacts} {f : String → String}
    (hf : Set.InjOn f {x | ∃ m ∈ u.methods, x ∈ m.body.fieldRefs})
    (h : List.Forall₂ (Method.UsesRenamed f) u.methods v.methods) :
    v.lackOfCohesion = u.lackOfCohesion := by
  have hused : List.Forall₂ (fun m m' => m ∈ u.methods ∧ m.UsesRenamed f m') u.methods v.methods :=
    (List.forall₂_and_left _ _).2 ⟨fun m hm => hm, h⟩
  have hshare : ∀ a b a' b', (a ∈ u.methods ∧ a.UsesRenamed f a') →
      (b ∈ u.methods ∧ b.UsesRenamed f b') →
      shareField a'.body.fieldRefs b'.body.fieldRefs =
        shareField a.body.fieldRefs b.body.fieldRefs := by
    rintro a b a' b' ⟨ha, ha'⟩ ⟨hb, hb'⟩
    exact shareField_renamed hf (fun x hx => ⟨a, ha, hx⟩) (fun x hx => ⟨b, hb, hx⟩) ha' hb'
  have hnot := fun a b a' b' ha hb => congrArg not (hshare a b a' b' ha hb)
  rw [lackOfCohesion, lackOfCohesion, cohesionGap, cohesionGap, fieldUses, fieldUses]
  simp only [countPairs_map]
  rw [countPairs_of_forall₂ hshare hused, countPairs_of_forall₂ hnot hused]

/-- The measured value is the number of pairs of methods less twice the number of those with a common
field, or zero. Another class has the same value if its methods use the same fields, possibly under
other names; its constructors and whatever else it has do not matter. -/
theorem lackOfCohesion_exact (u : ClassFacts) :
    (ClassMetrics.ofFacts u).lcom = Float.ofNat u.lackOfCohesion ∧
    (u.lackOfCohesion : Int) =
      max 0 ((u.methods.length * (u.methods.length - 1) / 2 : Nat) - 2 * (u.sharingPairs.card : Int)) ∧
    (u.methods.length ≤ 1 → u.lackOfCohesion = 0) ∧
    u.lackOfCohesion ≤ u.methods.length * (u.methods.length - 1) / 2 ∧
    ∀ (f : String → String) (v : ClassFacts),
      Set.InjOn f {x | ∃ m ∈ u.methods, x ∈ m.body.fieldRefs} →
      List.Forall₂ (Method.UsesRenamed f) u.methods v.methods →
      v.lackOfCohesion = u.lackOfCohesion := by
  have hvalue := u.lackOfCohesion_eq
  rw [← Nat.choose_two_right]
  refine ⟨rfl, ?_, ?_, ?_, fun f v => lackOfCohesion_renamed⟩
  · omega
  · intro hn
    have hnone : u.methods.length.choose 2 = 0 := Nat.choose_eq_zero_of_lt (by omega)
    omega
  · omega

namespace Sample

def usingFields (name : String) (fields : List String) : Method :=
  { name, returnType := some "void", body := { fieldRefs := fields } }

def counters : ClassFacts where
  path := "Counters.java"
  name := "Counters"
  methods := [usingFields "a" ["x"], usingFields "b" ["x", "y"], usingFields "c" ["z"],
    usingFields "d" []]

def renamedCounters : ClassFacts where
  path := "Counters.java"
  name := "Counters"
  methods := [usingFields "a" ["_x"], usingFields "b" ["_y", "_x", "_y"], usingFields "c" ["_z"],
    usingFields "d" []]
  constructors := [usingFields "Counters" ["_x", "_y", "_z"]]

theorem forall₂_counters :
    List.Forall₂ (Method.UsesRenamed ("_" ++ ·)) counters.methods renamedCounters.methods := by
  simp [counters, renamedCounters, usingFields, Method.UsesRenamed, eq_comm, or_comm, or_left_comm]

end Sample

theorem lackOfCohesion_counters : Sample.counters.lackOfCohesion = 4 ∧
    Sample.renamedCounters.lackOfCohesion = 4 := by
  obtain ⟨-, hvalue, -, -, hrenamed⟩ := lackOfCohesion_exact Sample.counters
  have hpairs : Sample.counters.sharingPairs.card = 1 := by decide
  rw [hpairs] at hvalue
  have hfour : Sample.counters.lackOfCohesion = 4 := Int.ofNat_inj.1 hvalue
  refine ⟨hfour, (hrenamed _ _ ?_ Sample.forall₂_counters).trans hfour⟩
  exact Function.Injective.injOn fun x y => (String.append_right_inj _).1

end ClassFacts

end JavaMetrics

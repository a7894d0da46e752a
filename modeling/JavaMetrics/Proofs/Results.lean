import Mathlib.Data.List.Forall2

set_option autoImplicit false

namespace JavaMetrics

theorem exists_left_of_forall₂ {α β : Type} {R : α → β → Prop} {xs : List α} {ys : List β}
    (h : List.Forall₂ R xs ys) {y : β} (hy : y ∈ ys) : ∃ x ∈ xs, R x y := by
  induction h with
  | nil => cases hy
  | @cons x z xs ys hxz _ ih =>
    rcases List.mem_cons.1 hy with rfl | hy
    · exact ⟨x, List.mem_cons_self, hxz⟩
    · obtain ⟨w, hw, hwy⟩ := ih hy
      exact ⟨w, List.mem_cons_of_mem x hw, hwy⟩

section Read

variable {ε α β : Type} {f : α → Except ε β} {xs : List α} {ys : List β}

/-- A list is read when each of its items is, and what is read stands in the same places. -/
theorem mapM_eq_ok_iff : xs.mapM f = .ok ys ↔ List.Forall₂ (fun x y => f x = .ok y) xs ys := by
  induction xs generalizing ys with
  | nil =>
    rw [List.mapM_nil, List.forall₂_nil_left_iff]
    exact ⟨fun h => (Except.ok.inj h).symm, fun h => by rw [h]; rfl⟩
  | cons x xs ih =>
    rw [List.mapM_cons, List.forall₂_cons_left_iff]
    constructor
    · intro h
      cases hx : f x with
      | error e =>
        rw [hx] at h
        cases h
      | ok y =>
        cases hxs : xs.mapM f with
        | error e =>
          rw [hx, hxs] at h
          cases h
        | ok zs =>
          rw [hx, hxs] at h
          cases h
          exact ⟨y, zs, rfl, ih.1 hxs, rfl⟩
    · rintro ⟨y, zs, hx, hxs, rfl⟩
      rw [hx, ih.2 hxs]
      rfl

theorem exists_of_mem_mapM (h : xs.mapM f = .ok ys) {y : β} (hy : y ∈ ys) : ∃ x ∈ xs, f x = .ok y :=
  exists_left_of_forall₂ (mapM_eq_ok_iff.1 h) hy

theorem exists_mapM_of_mem (h : xs.mapM f = .ok ys) {x : α} (hx : x ∈ xs) : ∃ y ∈ ys, f x = .ok y :=
  exists_left_of_forall₂ (R := fun y x => f x = .ok y) (mapM_eq_ok_iff.1 h).flip hx

theorem exists_mapM_iff : (∃ ys, xs.mapM f = .ok ys) ↔ ∀ x ∈ xs, ∃ y, f x = .ok y := by
  constructor
  · rintro ⟨ys, hys⟩ x hx
    obtain ⟨y, -, hy⟩ := exists_mapM_of_mem hys hx
    exact ⟨y, hy⟩
  · intro h
    induction xs with
    | nil => exact ⟨[], rfl⟩
    | cons x xs ih =>
      obtain ⟨y, hy⟩ := h x List.mem_cons_self
      obtain ⟨ys, hys⟩ := ih fun z hz => h z (List.mem_cons_of_mem x hz)
      exact ⟨y :: ys, mapM_eq_ok_iff.2 (.cons hy (mapM_eq_ok_iff.1 hys))⟩

end Read

theorem cases_of_map_eq {ε α β : Type} {g : α → β} {e e' : Except ε α} (h : e'.map g = e.map g) :
    (∃ x, e = .error x ∧ e' = .error x) ∨ ∃ a b, e = .ok a ∧ e' = .ok b ∧ g b = g a := by
  cases e with
  | error x =>
    cases e' with
    | error y =>
      cases h
      exact .inl ⟨x, rfl, rfl⟩
    | ok b => cases h
  | ok a =>
    cases e' with
    | error y => cases h
    | ok b => exact .inr ⟨a, b, rfl, rfl, Except.ok.inj h⟩

theorem map_eq_of_map_eq {ε α β γ : Type} {g : α → β} {f : α → γ} {e e' : Except ε α}
    (h : e'.map g = e.map g) (hf : ∀ a b, e = .ok a → e' = .ok b → f b = f a) :
    e'.map f = e.map f := by
  rcases cases_of_map_eq h with ⟨x, ha, hb⟩ | ⟨a, b, ha, hb, -⟩
  · rw [ha, hb]
  · rw [ha, hb]
    exact congrArg Except.ok (hf a b ha hb)

theorem map_mapM_of_forall₂ {ε α β γ : Type} {R : α → α → Prop} {f f' : α → Except ε β} {g : β → γ}
    {xs ys : List α} (hf : ∀ a b, R a b → (f' b).map g = (f a).map g) (h : List.Forall₂ R xs ys) :
    (ys.mapM f').map (List.map g) = (xs.mapM f).map (List.map g) := by
  induction h with
  | nil => rfl
  | @cons a b xs ys hab _ ih =>
    rw [List.mapM_cons, List.mapM_cons]
    rcases cases_of_map_eq (hf a b hab) with ⟨x, ha, hb⟩ | ⟨c, d, ha, hb, hcd⟩
    · rw [ha, hb]
      rfl
    · rcases cases_of_map_eq ih with ⟨x, hxs, hys⟩ | ⟨cs, ds, hxs, hys, hall⟩
      · rw [ha, hb, hxs, hys]
        rfl
      · rw [ha, hb, hxs, hys]
        simp only [bind, Except.bind, pure, Except.pure, Except.map, List.map_cons, hcd, hall]

end JavaMetrics

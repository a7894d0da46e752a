import JavaMetrics.Coupling.References
import JavaMetrics.Proofs.Dict

set_option autoImplicit false

namespace JavaMetrics

def Keyed (targets : Dict TypeRef) : Prop := ∀ k t, targets.get? k = some t → t.primary = k

/-- A target is dropped for one that is resolved or no worse, or it takes its name. -/
theorem addTarget_cases (targets : Dict TypeRef) (t : TypeRef) :
    (addTarget targets t = targets ∧ ∃ old, targets.get? t.primary = some old ∧
      (old.isAmbiguous = false ∨ t.isAmbiguous = true)) ∨
    (addTarget targets t = targets.insert t.primary t ∧ ∀ old,
      targets.get? t.primary = some old → old.isAmbiguous = true ∧ t.isAmbiguous = false) := by
  unfold addTarget
  cases h : targets.get? t.primary with
  | none => exact .inr ⟨rfl, fun old hold => by cases hold⟩
  | some old => cases ho : old.isAmbiguous <;> cases ht : t.isAmbiguous <;> simp [ho]

theorem keyed_addTarget {targets : Dict TypeRef} (h : Keyed targets) (t : TypeRef) :
    Keyed (addTarget targets t) := by
  rcases addTarget_cases targets t with ⟨he, -⟩ | ⟨he, -⟩
  · rw [he]
    exact h
  · rw [he]
    intro k s hs
    rw [Dict.get?_insert] at hs
    split at hs
    · rename_i hk
      cases hs
      exact hk.symm
    · exact h k s hs

theorem contains_addTarget (targets : Dict TypeRef) (t : TypeRef) (k : String) :
    (addTarget targets t).contains k = true ↔ targets.contains k = true ∨ t.primary = k := by
  rcases addTarget_cases targets t with ⟨he, old, hold, -⟩ | ⟨he, -⟩
  · rw [he]
    refine ⟨.inl, ?_⟩
    rintro (h | rfl)
    · exact h
    · exact (targets.contains_iff _).2 ⟨old, hold⟩
  · rw [he, Dict.contains, Dict.get?_insert]
    by_cases hk : k = t.primary
    · simp [hk]
    · simp [hk, Ne.symm hk, Dict.contains]

theorem keyed_foldl_addTarget (ts : List TypeRef) {targets : Dict TypeRef} (h : Keyed targets) :
    Keyed (ts.foldl addTarget targets) := by
  induction ts generalizing targets with
  | nil => exact h
  | cons t rest ih => exact ih (keyed_addTarget h t)

theorem keyed_collectTargets (ts : List TypeRef) : Keyed (collectTargets ts) :=
  keyed_foldl_addTarget ts fun k t h => by cases h

theorem contains_foldl_addTarget (ts : List TypeRef) (targets : Dict TypeRef) (k : String) :
    (ts.foldl addTarget targets).contains k = true ↔
      targets.contains k = true ∨ ∃ t ∈ ts, t.primary = k := by
  induction ts generalizing targets with
  | nil => simp
  | cons t rest ih =>
    rw [List.foldl_cons, ih, contains_addTarget]
    simp only [List.mem_cons, exists_eq_or_imp, or_assoc]

theorem exists_collected {ts : List TypeRef} {t : TypeRef} (h : t ∈ ts) :
    ∃ s ∈ (collectTargets ts).values, s.primary = t.primary := by
  have hc : (collectTargets ts).contains t.primary = true :=
    (contains_foldl_addTarget ts .empty t.primary).2 (.inr ⟨t, h, rfl⟩)
  obtain ⟨s, hs⟩ := (Dict.contains_iff _ _).1 hc
  exact ⟨s, (Dict.mem_values _ _).2 ⟨_, hs⟩, keyed_collectTargets ts _ _ hs⟩

theorem get?_addTarget {targets : Dict TypeRef} {t s : TypeRef} {k : String}
    (h : (addTarget targets t).get? k = some s) : targets.get? k = some s ∨ s = t := by
  rcases addTarget_cases targets t with ⟨he, -⟩ | ⟨he, -⟩
  · exact .inl (he ▸ h)
  · rw [he, Dict.get?_insert] at h
    split at h
    · exact .inr (Option.some.inj h).symm
    · exact .inl h

theorem get?_foldl_addTarget (ts : List TypeRef) {targets : Dict TypeRef} {s : TypeRef} {k : String}
    (h : (ts.foldl addTarget targets).get? k = some s) : targets.get? k = some s ∨ s ∈ ts := by
  induction ts generalizing targets with
  | nil => exact .inl h
  | cons t rest ih =>
    rcases ih h with h | h
    · rcases get?_addTarget h with h | rfl
      · exact .inl h
      · exact .inr List.mem_cons_self
    · exact .inr (List.mem_cons_of_mem t h)

theorem mem_of_collected {ts : List TypeRef} {s : TypeRef} (h : s ∈ (collectTargets ts).values) :
    s ∈ ts := by
  obtain ⟨k, hk⟩ := (Dict.mem_values _ _).1 h
  exact (get?_foldl_addTarget ts hk).resolve_left fun hempty => by cases hempty

namespace ClassFacts

/-- Every reference that leaves the class is a dependency on what it is known by. -/
theorem exists_dependency {u : ClassFacts} {raw : String} {t : TypeRef} (hraw : raw ∈ u.references)
    (ht : u.resolve raw = some t) : ∃ d ∈ u.dependencies, d.target.primary = t.primary := by
  obtain ⟨s, hs, hp⟩ := exists_collected (List.mem_filterMap.2 ⟨raw, hraw, ht⟩)
  exact ⟨⟨u.qualifiedName, s⟩, List.mem_map.2 ⟨s, hs, rfl⟩, hp⟩

theorem exists_reference {u : ClassFacts} {d : Dependency} (h : d ∈ u.dependencies) :
    ∃ raw ∈ u.references, u.resolve raw = some d.target := by
  obtain ⟨t, ht, rfl⟩ := List.mem_map.1 h
  exact List.mem_filterMap.1 (mem_of_collected ht)

theorem superclass_mem_references {u : ClassFacts} {text : String} (h : u.superclass = some text) :
    text ∈ u.references := by
  simp [references, h]

end ClassFacts

end JavaMetrics

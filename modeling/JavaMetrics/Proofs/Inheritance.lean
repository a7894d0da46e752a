import Mathlib.Data.List.Perm.Subperm
import JavaMetrics.Proofs.Children
import JavaMetrics.Proofs.Dependencies
import JavaMetrics.Proofs.Neighbours

set_option autoImplicit false

namespace JavaMetrics

def ClassFacts.ImportsPackage (u : ClassFacts) : Prop :=
  ∃ i ∈ u.imports, i.isStatic = false ∧ i.isWildcard = true ∧
    (Resolver.ofFacts u).package ≠ some i.path

theorem ClassFacts.onDemand_eq_nil {u : ClassFacts} (h : ¬ u.ImportsPackage) :
    (Resolver.ofFacts u).onDemand = [] := by
  refine List.eq_nil_iff_forall_not_mem.2 fun p hp => h ?_
  obtain ⟨hforeign, i, hi, hstatic, hwildcard, rfl⟩ := (Resolver.mem_onDemand u p).1 hp
  exact ⟨i, hi, hstatic, hwildcard, hforeign⟩

namespace Batch

attribute [local irreducible] ClassFacts.dependencies

variable {config : Config} {items : List BatchItem} {revision : Revision} {expired : Nat → Bool}
  {chosen : List ClassFacts}

theorem edge_of_superclass (hn : (chosen.map (·.qualifiedName)).Nodup) {u : ClassFacts}
    (hu : u ∈ chosen) {text : String} {t : TypeRef} (htext : u.superclass = some text)
    (ht : u.resolve text = some t) (hc : (graphOf chosen).contains t.primary = true) :
    (u.qualifiedName, t.primary) ∈ (graphOf chosen).edges := by
  have hne : t.primary ≠ u.qualifiedName := Resolver.primary_ne_selfName ht
  obtain ⟨d, hd, hp⟩ := ClassFacts.exists_dependency (ClassFacts.superclass_mem_references htext) ht
  refine (mem_edges_graphOf hn hu _).2 ⟨hne.symm, d, hd, ?_⟩
  rw [ClassGraph.mem_targetsOf, hp, if_pos hc]

/-- A child of a class depends on it if no other package is imported as a whole. -/
theorem edge_of_parent (hn : (chosen.map (·.qualifiedName)).Nodup) {u : ClassFacts}
    (hu : u ∈ chosen) (himport : ¬ u.ImportsPackage) {p : String} (hp : p ∈ u.parents)
    (hc : (graphOf chosen).contains p = true) :
    (u.qualifiedName, p) ∈ (graphOf chosen).edges := by
  obtain ⟨text, t, htext, ht, hmem⟩ := (u.mem_parents p).1 hp
  rw [Resolver.candidates_of_onDemand_nil (ClassFacts.onDemand_eq_nil himport) ht] at hmem
  obtain rfl := List.mem_singleton.1 hmem
  exact edge_of_superclass hn hu htext ht hc

theorem countP_parents_le_inDegree (hn : (chosen.map (·.qualifiedName)).Nodup)
    (himport : ∀ u ∈ chosen, ¬ u.ImportsPackage) {p : String}
    (hc : (graphOf chosen).contains p = true) :
    (chosen.countP fun u => decide (p ∈ u.parents)) ≤ (graphOf chosen).inDegree p := by
  have hsub : (chosen.filter fun u => decide (p ∈ u.parents)).Sublist chosen := List.filter_sublist
  have hnodup := hn.sublist (hsub.map (·.qualifiedName))
  have hincoming : (chosen.filter fun u => decide (p ∈ u.parents)).map (·.qualifiedName) ⊆
      (graphOf chosen).incoming p := by
    intro a ha
    obtain ⟨u, hu, rfl⟩ := List.mem_map.1 ha
    obtain ⟨hu, hp⟩ := List.mem_filter.1 hu
    rw [ClassGraph.mem_incoming]
    exact edge_of_parent hn hu (himport u hu) (of_decide_eq_true hp) hc
  -- Children are counted once each: their names are different, and all of them are sources of edges.
  have hle := (List.subperm_of_subset hnodup hincoming).length_le
  rw [List.length_map, ← List.countP_eq_length_filter] at hle
  exact hle

/-- A class depends on its superclass if the report has the class by which that is known. Where no file imports
another package as a whole, a class has no more children than classes that depend on it. -/
theorem inheritance_of_run {r : Report} (hl : config.timeoutSecs = none)
    (h : run config items revision expired = .ok r) :
    (∀ a A first text t, r.class? a = some A → IsFirst (units items) first →
      first.1.qualifiedName = a → first.1.superclass = some text → first.1.resolve text = some t →
      r.classes.contains t.primary = true → t.primary ∈ A.metrics.dependenciesOut) ∧
    ((∀ u ∈ units items, ¬ u.ImportsPackage) →
      ∀ p P, r.class? p = some P → P.metrics.noc ≤ P.metrics.inDegree) := by
  obtain rfl := eq_report_of_run hl h
  have hn := nodup_names_choice items
  constructor
  · rintro a A ⟨u, place⟩ text t hA hfirst rfl htext ht hc
    have hu : u ∈ (choice items).1 := (mem_choose_iff_isFirst _ u).2 ⟨place, hfirst⟩
    obtain ⟨v, hv, hname, rfl⟩ := (get?_classesOf _ hn _ A).1 hA
    obtain rfl := List.inj_on_of_nodup_map hn hv hu hname
    rw [report_classes, contains_classesOf_eq _ hn] at hc
    rw [classReport_dependenciesOut, ClassGraph.mem_outgoing]
    exact edge_of_superclass hn hv htext ht hc
  · intro himport p P hP
    obtain ⟨u, hu, rfl, rfl⟩ := (get?_classesOf _ hn p P).1 hP
    have hchosen : ∀ v ∈ (choice items).1, ¬ v.ImportsPackage := by
      intro v hv
      obtain ⟨place, hfirst⟩ := (mem_choose_iff_isFirst _ v).1 hv
      exact himport v (List.fst_mem_of_mem_zipIdx hfirst.1)
    rw [noc_classReport _ hu, classReport_inDegree]
    exact countP_parents_le_inDegree hn hchosen ((contains_graphOf _).2 (List.mem_map_of_mem hu))

namespace Family

def heir : ClassFacts where
  path := "p/Heir.java"
  package := some "p"
  name := "Heir"
  imports := [⟨"p", false, true, 2⟩]
  superclass := some "Base"

theorem nodup_names_heir : ([base, heir].map (·.qualifiedName)).Nodup := by decide

theorem run_heir : run {} [.ok heir, .ok base] {} = .ok (report {} {} 2 [] [] [base, heir]) :=
  run_of_path_order Sample.validate_default rfl (by simp) (by decide) nodup_names_heir (by decide)
    (by decide) rfl

end Family

theorem inheritance_of_family :
    (∃ r A, run {} Family.batch {} = .ok r ∧ r.class? "p.Child" = some A ∧
      "p.Base" ∈ A.metrics.dependenciesOut) ∧
    ∃ r P, run {} [.ok Family.heir, .ok Family.base] {} = .ok r ∧ r.class? "p.Base" = some P ∧
      P.metrics.noc = 1 ∧ P.metrics.noc ≤ P.metrics.inDegree := by
  constructor
  · have hA := Family.class?_of_mem (u := Family.child) (by simp)
    have hfirst : IsFirst (units Family.batch) (Family.child, 2) := by decide
    have ht : Family.child.resolve "Base" = some (.ambiguous "Base" ["p.Base", "q.Base"]) := by
      decide +kernel
    have hc : Family.result.classes.contains "p.Base" = true :=
      (contains_classesOf _ Family.nodup_names _).2 (by decide)
    exact ⟨_, _, Family.run_batch, hA,
      (inheritance_of_run rfl Family.run_batch).1 _ _ _ _ _ hA hfirst rfl rfl ht hc⟩
  · have hP := (get?_classesOf {} Family.nodup_names_heir _ _).2
      ⟨Family.base, List.mem_cons_self, rfl, rfl⟩
    refine ⟨_, _, Family.run_heir, hP, ?_, (inheritance_of_run rfl Family.run_heir).2 ?_ _ _ hP⟩
    · rw [noc_classReport _ List.mem_cons_self]
      decide +kernel
    · intro u hu
      rcases List.mem_cons.1 hu with rfl | hu
      · rintro ⟨i, hi, -, -, hforeign⟩
        rw [List.mem_singleton.1 hi] at hforeign
        exact hforeign rfl
      · rcases List.mem_singleton.1 hu with rfl
        rintro ⟨i, hi, -⟩
        cases hi

end Batch

end JavaMetrics

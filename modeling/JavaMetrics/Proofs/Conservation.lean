import Mathlib.Algebra.Ring.Nat
import JavaMetrics.Proofs.Batch

set_option autoImplicit false

namespace JavaMetrics

theorem sumOf_eq_sum {α : Type} (f : α → Nat) (xs : List α) : sumOf f xs = (xs.map f).sum := by
  induction xs with
  | nil => rfl
  | cons x rest ih => rw [sumOf, ih, List.map_cons, List.sum_cons]

theorem sum_filter_counts (xs : List (SmellKind × Nat)) :
    ((xs.filter (·.2 != 0)).map (·.2)).sum = (xs.map (·.2)).sum := by
  induction xs with
  | nil => rfl
  | cons x rest ih =>
    rw [List.filter_cons]
    split
    · rw [List.map_cons, List.map_cons, List.sum_cons, List.sum_cons, ih]
    · rename_i hx
      have h0 : x.2 = 0 := by simpa using hx
      rw [ih, List.map_cons, List.sum_cons, h0, Nat.zero_add]

theorem sum_kinds (smells : List Smell) :
    (SmellKind.all.map fun k => (smells.filter (·.kind == k)).length).sum = smells.length := by
  induction smells with
  | nil => rfl
  | cons s rest ih =>
    simp only [SmellKind.all, List.map_cons, List.map_nil, List.sum_cons, List.sum_nil] at ih
    simp only [SmellKind.all, List.map_cons, List.map_nil, List.sum_cons, List.sum_nil,
      List.filter_cons, List.length_cons]
    cases s.kind <;> simp <;> omega

theorem Report.sum_breakdown (r : Report) : (r.breakdown.map (·.2)).sum = r.smells.length := by
  rw [breakdown, sum_filter_counts, List.map_map]
  exact sum_kinds r.smells

theorem Report.smells_length (r : Report) :
    r.smells.length = (r.classes.values.map (·.smells.length)).sum := by
  rw [smells, List.length_flatMap]

namespace Batch

variable {config : Config} {items : List BatchItem} {revision : Revision} {expired : Nat → Bool}

theorem length_items (items : List BatchItem) :
    items.length = (units items).length + (items.filterMap BatchItem.failure?).length := by
  induction items with
  | nil => rfl
  | cons item rest ih =>
    cases item with
    | ok u =>
      change rest.length + 1 = (units rest).length + 1 + (rest.filterMap BatchItem.failure?).length
      omega
    | error e =>
      change rest.length + 1 = (units rest).length + ((rest.filterMap BatchItem.failure?).length + 1)
      omega

theorem mem_units (items : List BatchItem) (u : ClassFacts) :
    u ∈ units items ↔ (.ok u : BatchItem) ∈ items := by
  rw [units, List.mem_filterMap]
  constructor
  · rintro ⟨item, hitem, hu⟩
    cases item with
    | ok v => exact Option.some.inj hu ▸ hitem
    | error e => cases hu
  · intro h
    exact ⟨.ok u, h, rfl⟩

theorem choice_eq_nil_iff (items : List BatchItem) :
    (choice items).1 = [] ↔ ∀ u, (.ok u : BatchItem) ∉ items := by
  have hnil : inPathOrder (units items) = [] ↔ units items = [] := by
    rw [← List.length_eq_zero_iff, (inPathOrder_perm _).length_eq, List.length_eq_zero_iff]
  rw [choice, choose_eq_nil_iff, hnil, List.eq_nil_iff_forall_not_mem]
  simp only [mem_units]

theorem choice_length (items : List BatchItem) :
    (choice items).1.length + (choice items).2.length = (units items).length := by
  rw [choice, choose_length, (inPathOrder_perm _).length_eq, List.length_nil, Nat.zero_add]

theorem choice_paths_perm (items : List BatchItem) :
    ((units items).map (·.path)).Perm
      ((choice items).1.map (·.path) ++ (choice items).2.map (·.path)) := by
  have hchoose := choose_paths_perm [] (inPathOrder (units items))
  have horder := (inPathOrder_perm (units items)).map (·.path)
  exact horder.symm.trans hchoose.symm

structure Balanced (items : List BatchItem) (r : Report) : Prop where
  none_skipped : r.skipped = []
  not_incomplete : r.incomplete = false
  files : r.counts.filesScanned = items.length
  shares : r.counts.filesScanned = r.counts.classesFound + r.failures.length
  /-- The failures of files come first; the others are those of classes declared before, and the
  paths of all classes are those of the reported ones and of these. -/
  paths : ∃ duplicates, r.failures = items.filterMap BatchItem.failure? ++ duplicates ∧
    (∀ f ∈ duplicates, ∃ u ∈ units items, ∃ first ∈ units items,
      first.qualifiedName = u.qualifiedName ∧ f = duplicate u first) ∧
    ((units items).map (·.path)).Perm
      (r.classes.values.map (·.metrics.filePath) ++ duplicates.map (·.path))
  classes : r.counts.classesFound = r.classes.size
  edges : r.counts.edgesFound = (r.classes.values.map (·.dependencies.length)).sum
  smells : r.counts.smellsFound = (r.classes.values.map (·.smells.length)).sum
  breakdown : (r.breakdown.map (·.2)).sum = r.counts.smellsFound

theorem balanced_report (items : List BatchItem) (t : SmellThresholds) (revision : Revision) :
    Balanced items (report t revision items.length (failures items) [] (choice items).1) where
  none_skipped := rfl
  not_incomplete := rfl
  files := rfl
  shares := by
    have hsize := size_classesOf t (nodup_names_choice items)
    have hitems := length_items items
    have hchoice := choice_length items
    change items.length = Dict.size (classesOf t (projectOf (choice items).1) (choice items).1) +
      (failures items).length
    rw [hsize, failures, List.length_append]
    omega
  paths := by
    refine ⟨(choice items).2, rfl, ?_, ?_⟩
    · intro f hf
      obtain ⟨u, hu, first, hfirst, h⟩ := mem_failures_choose hf
      have hmem : ∀ v, v ∈ inPathOrder (units items) → v ∈ units items :=
        fun v => (inPathOrder_perm _).mem_iff.1
      exact ⟨u, hmem u hu, first, hmem first hfirst, h⟩
    · have hvalues := (values_classesOf_perm t (nodup_names_choice items)).map
        (·.metrics.filePath)
      rw [List.map_map] at hvalues
      exact (choice_paths_perm items).trans (hvalues.symm.append_right _)
  classes := rfl
  edges := sumOf_eq_sum _ _
  smells := sumOf_eq_sum _ _
  breakdown := by
    rw [Report.sum_breakdown, Report.smells_length]
    exact (sumOf_eq_sum _ _).symm

/-- A batch with a class gives a balanced report; one without any class gives an error that counts
its files. -/
theorem run_balances (hv : config.validate = .ok ()) (hl : config.timeoutSecs = none) :
    ((∃ u, (.ok u : BatchItem) ∈ items) →
      ∃ r, run config items revision expired = .ok r ∧ Balanced items r) ∧
    ((∀ u, (.ok u : BatchItem) ∉ items) →
      run config items revision expired = .error (.emptyBatch items.length)) := by
  rw [run_of_no_limit hv hl]
  constructor
  · rintro ⟨u, hu⟩
    have hne : ¬ (choice items).1.isEmpty = true := by
      rw [List.isEmpty_iff, choice_eq_nil_iff]
      exact fun h => h u hu
    rw [if_neg hne]
    exact ⟨_, rfl, balanced_report items config.smells revision⟩
  · intro hnone
    have hnil := (choice_eq_nil_iff items).2 hnone
    have hitems := length_items items
    have hchoice := choice_length items
    rw [if_pos (by rw [hnil]; rfl)]
    rw [hnil, List.length_nil] at hchoice
    congr 2
    rw [failures, List.length_append]
    omega

theorem run_balances_sample :
    (∃ r, run {} Sample.batch {} (fun _ => true) = .ok r ∧ Balanced Sample.batch r) ∧
    run {} [.error (.io "y/C.java" "gone")] {} = .error (.emptyBatch 1) :=
  ⟨(run_balances Sample.validate_default rfl).1 ⟨Sample.twin, by simp [Sample.batch]⟩,
    (run_balances Sample.validate_default rfl).2 (by simp)⟩

end Batch

end JavaMetrics

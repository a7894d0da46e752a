import JavaMetrics.Proofs.Batch

set_option autoImplicit false

namespace JavaMetrics

def ClassReport.alone (c : ClassReport) : ClassReport :=
  { c with
    metrics := { c.metrics with
      noc := 0, dependenciesIn := [], dependenciesOut := [], inDegree := 0, outDegree := 0 } }

namespace Batch

attribute [local irreducible] ClassFacts.dependencies

variable {config : Config} {items : List BatchItem} {revision : Revision} {expired : Nat → Bool}

theorem classReport_alone (t : SmellThresholds) (chosen : List ClassFacts) (u : ClassFacts) :
    (classReport t chosen u).alone = ClassReport.ofFacts t u := rfl

/-- The failure of the class at a place names the first class of the same name. -/
def NamesFirst (us : List ClassFacts) (p : ClassFacts × Nat) (f : FileFailure) : Prop :=
  ∃ first, IsFirst us first ∧ first.1.qualifiedName = p.1.qualifiedName ∧
    f.path = p.1.path ∧ f.kind = .extraction ∧
    f.message = "no analyzable class in " ++ p.1.path ++ ": " ++
      ("class " ++ p.1.qualifiedName ++ " already declared in " ++ first.1.path)

theorem namesFirst_of_rejects {us : List ClassFacts} {p : ClassFacts × Nat} {f : FileFailure}
    (h : Rejects (inPathOrder us) p f) : NamesFirst us p f := by
  obtain ⟨w, hw, rfl⟩ := h
  obtain ⟨hname, place, hfirst⟩ := isFirst_of_find? hw
  exact ⟨(w, place), hfirst, hname, rfl, rfl, rfl⟩

theorem exists_others (us : List ClassFacts) :
    ∃ others : List (ClassFacts × Nat), others.Pairwise Before ∧
      (∀ p, p ∈ others ↔ p ∈ us.zipIdx ∧ ¬ IsFirst us p) ∧
      List.Forall₂ (NamesFirst us) others (choose [] (inPathOrder us)).2 := by
  obtain ⟨ps, hmap, hperm, hps⟩ := exists_placed us
  obtain ⟨others, hsub, hmem, hfail⟩ := exists_rejected [] hps
  rw [List.nil_append, hmap] at hfail
  refine ⟨others, hps.sublist hsub, fun p => ?_, hfail.imp fun _ _ => namesFirst_of_rejects⟩
  constructor
  · intro hp
    have hpps := hsub.subset hp
    exact ⟨hperm.mem_iff.1 hpps,
      (preceded_iff_not_isFirst hperm hpps).1 ((hmem p hpps).1 hp)⟩
  · rintro ⟨hp, hnot⟩
    have hpps := hperm.mem_iff.2 hp
    exact (hmem p hpps).2 ((preceded_iff_not_isFirst hperm hpps).2 hnot)

theorem exists_first {us : List ClassFacts} {u : ClassFacts} (hu : u ∈ us) :
    ∃ first, IsFirst us first ∧ first.1.qualifiedName = u.qualifiedName ∧
      first.1 ∈ (choose [] (inPathOrder us)).1 := by
  have hsome : ((inPathOrder us).find? (·.qualifiedName == u.qualifiedName)).isSome = true :=
    List.find?_isSome.2 ⟨u, (inPathOrder_perm us).mem_iff.2 hu, beq_self_eq_true _⟩
  obtain ⟨w, hw⟩ := Option.isSome_iff_exists.1 hsome
  obtain ⟨hname, place, hfirst⟩ := isFirst_of_find? hw
  have hchosen : (choose [] (inPathOrder us)).1.find? (·.qualifiedName == u.qualifiedName) =
      some w := by
    rw [find?_choose, List.nil_append, hw]
  exact ⟨(w, place), hfirst, hname, List.mem_of_find?_eq_some hchosen⟩

/-- Of the classes with one name the first in path order is reported; the others are failures that name its
path, in path order behind the failures of the files. -/
theorem first_path_wins {r : Report} (hl : config.timeoutSecs = none)
    (h : run config items revision expired = .ok r) :
    (∀ name, (∃ u ∈ units items, u.qualifiedName = name) →
      ∃ first, IsFirst (units items) first ∧ first.1.qualifiedName = name ∧
        ∃ c, r.class? name = some c ∧ c.metrics.qualifiedName = name ∧
          c.alone = ClassReport.ofFacts config.smells first.1) ∧
    ∃ others : List (ClassFacts × Nat), others.Pairwise Before ∧
      (∀ p, p ∈ others ↔ p ∈ (units items).zipIdx ∧ ¬ IsFirst (units items) p) ∧
      ∃ duplicates, r.failures = items.filterMap BatchItem.failure? ++ duplicates ∧
        List.Forall₂ (NamesFirst (units items)) others duplicates := by
  rw [run_of_no_limit (validate_of_run h) hl] at h
  split at h
  · cases h
  · obtain rfl := Except.ok.inj h
    constructor
    · rintro name ⟨u, hu, rfl⟩
      obtain ⟨first, hfirst, hname, hchosen⟩ := exists_first hu
      refine ⟨first, hfirst, hname, classReport config.smells (choice items).1 first.1, ?_, hname,
        classReport_alone _ _ _⟩
      rw [report_class?, get?_classesOf _ (nodup_names_choice items)]
      exact ⟨first.1, hchosen, hname, rfl⟩
    · obtain ⟨others, hsorted, hmem, hfail⟩ := exists_others (units items)
      exact ⟨others, hsorted, hmem, (choice items).2, rfl, hfail⟩

theorem first_path_wins_sample : ∃ r, run {} Sample.batch {} = .ok r ∧
    (∃ c, r.class? "p.A" = some c ∧ c.metrics.qualifiedName = "p.A" ∧
      c.alone = ClassReport.ofFacts {} Sample.caller) ∧
    ∃ others duplicates, (Sample.twin, 0) ∈ others ∧
      r.failures = [.ofError (.io "y/C.java" "gone")] ++ duplicates ∧
      List.Forall₂ (NamesFirst (units Sample.batch)) others duplicates := by
  obtain ⟨hwin, others, -, hmem, duplicates, hfail, hnames⟩ :=
    first_path_wins rfl Sample.run_batch
  obtain ⟨first, hfirst, hname, c, hc, hkey, halone⟩ :=
    hwin "p.A" ⟨Sample.caller, by simp [units, Sample.batch, BatchItem.facts?], by decide +kernel⟩
  have hcaller : IsFirst (units Sample.batch) (Sample.caller, 2) := by decide +kernel
  have htwin : (Sample.twin, 0) ∈ (units Sample.batch).zipIdx ∧
      ¬ IsFirst (units Sample.batch) (Sample.twin, 0) := by decide +kernel
  obtain rfl := hfirst.eq_of_name hcaller (hname.trans (by decide +kernel))
  exact ⟨_, Sample.run_batch, ⟨c, hc, hkey, halone⟩, others, duplicates, (hmem _).2 htwin, hfail,
    hnames⟩

end Batch

end JavaMetrics

import JavaMetrics.Proofs.Batch

set_option autoImplicit false

namespace JavaMetrics.Batch

attribute [local irreducible] ClassFacts.dependencies

variable {config : Config} {items fewer : List BatchItem} {revision : Revision}
  {expired : Nat → Bool}

/-- A batch without some of its failed files and without some classes; of these `lost` holds with
their places among the classes, counted from `place` on. -/
inductive Sheds (lost : ClassFacts × Nat → Prop) : Nat → List BatchItem → List BatchItem → Prop
  | nil (place : Nat) : Sheds lost place [] []
  | keepFailure {place : Nat} {items fewer : List BatchItem} (e : AnalysisError)
    (h : Sheds lost place items fewer) : Sheds lost place (.error e :: items) (.error e :: fewer)
  | keepClass {place : Nat} {items fewer : List BatchItem} (u : ClassFacts)
    (h : Sheds lost (place + 1) items fewer) : Sheds lost place (.ok u :: items) (.ok u :: fewer)
  | dropFailure {place : Nat} {items fewer : List BatchItem} (e : AnalysisError)
    (h : Sheds lost place items fewer) : Sheds lost place (.error e :: items) fewer
  | dropClass {place : Nat} {items fewer : List BatchItem} (u : ClassFacts) (hu : lost (u, place))
    (h : Sheds lost (place + 1) items fewer) : Sheds lost place (.ok u :: items) fewer

def ShedsLosers (items fewer : List BatchItem) : Prop :=
  Sheds (fun p => ¬ IsFirst (units items) p) 0 items fewer

theorem exists_kept {lost : ClassFacts × Nat → Prop} {place : Nat}
    (h : Sheds lost place items fewer) :
    ∃ qs : List (ClassFacts × Nat), qs.map (·.1) = units fewer ∧
      qs.Sublist ((units items).zipIdx place) ∧
      ∀ p ∈ (units items).zipIdx place, p ∉ qs → lost p := by
  induction h with
  | nil place => exact ⟨[], rfl, .slnil, by simp [units]⟩
  | keepFailure e h ih => exact ih
  | dropFailure e h ih => exact ih
  | @keepClass place items fewer u h ih =>
    obtain ⟨qs, hmap, hsub, hlost⟩ := ih
    refine ⟨(u, place) :: qs, ?_, hsub.cons_cons _, fun p hp hnot => ?_⟩
    · rw [List.map_cons, hmap]
      rfl
    · simp only [List.mem_cons, not_or] at hnot
      exact hlost p ((List.mem_cons.1 hp).resolve_left hnot.1) hnot.2
  | @dropClass place items fewer u hu h ih =>
    obtain ⟨qs, hmap, hsub, hlost⟩ := ih
    refine ⟨qs, hmap, hsub.cons _, fun p hp hnot => ?_⟩
    rcases List.mem_cons.1 hp with rfl | hp
    · exact hu
    · exact hlost p hp hnot

theorem eq_of_pairwise_before {ps qs : List (ClassFacts × Nat)} (hps : ps.Pairwise Before)
    (hqs : qs.Pairwise Before) (hmem : ∀ p, p ∈ ps ↔ p ∈ qs) : ps = qs := by
  have hperm := (List.perm_ext_iff_of_nodup (hps.imp Before.ne) (hqs.imp Before.ne)).2 hmem
  exact hperm.eq_of_pairwise (fun a b _ _ hab hba => absurd hba hab.asymm) hps hqs

theorem choice_of_shedsLosers (h : ShedsLosers items fewer) :
    (choice fewer).1 = (choice items).1 := by
  obtain ⟨qs, hunits, hsub, hlost⟩ := exists_kept h
  obtain ⟨ps, hmap, hperm, hps⟩ := exists_placed (units items)
  obtain ⟨ps', hmap', hperm', hps'⟩ := exists_ordered ((pairwise_zipIdx _).sublist hsub)
  have hfilter : ps' = ps.filter (fun p => decide (p ∈ qs)) := by
    refine eq_of_pairwise_before hps' (hps.filter _) fun p => ?_
    rw [hperm'.mem_iff, List.mem_filter, decide_eq_true_eq, hperm.mem_iff]
    exact ⟨fun hp => ⟨hsub.subset hp, hp⟩, And.right⟩
  rw [choice, choice, ← hunits, ← hmap', ← hmap, hfilter]
  refine choose_filter _ [] hps fun p hp hdrop => ?_
  rw [preceded_iff_not_isFirst hperm hp]
  exact hlost p (hperm.mem_iff.1 hp) (by simpa using hdrop)

/-- A class is reported as its file alone says, up to what the project adds; and the reported classes
and the notes stay when failed files and classes that were not first go. -/
theorem locality_of_run {r : Report} (hl : config.timeoutSecs = none)
    (h : run config items revision expired = .ok r) :
    (∀ a A, r.class? a = some A → ∃ first, IsFirst (units items) first ∧
      first.1.qualifiedName = a ∧ A.dependencies = first.1.dependencies ∧
      A.smells = config.smells.detect first.1 (ClassMetrics.ofFacts first.1) ∧
      A.metrics = { ClassMetrics.ofFacts first.1 with
        noc := A.metrics.noc
        dependenciesIn := A.metrics.dependenciesIn
        dependenciesOut := A.metrics.dependenciesOut
        inDegree := A.metrics.inDegree
        outDegree := A.metrics.outDegree }) ∧
    ∀ fewer, ShedsLosers items fewer → ∀ (revision' : Revision) (expired' : Nat → Bool),
      ∃ r', run config fewer revision' expired' = .ok r' ∧ r'.classes = r.classes ∧
        r'.ambiguities = r.ambiguities := by
  constructor
  · obtain rfl := eq_report_of_run hl h
    intro a A hA
    obtain ⟨u, hu, rfl, rfl⟩ := (get?_classesOf _ (nodup_names_choice items) a A).1 hA
    obtain ⟨place, hfirst⟩ := (mem_choose_iff_isFirst _ u).1 hu
    exact ⟨(u, place), hfirst, rfl, rfl, rfl, rfl⟩
  · intro fewer hf revision' expired'
    have hv := validate_of_run h
    rw [run_of_no_limit hv hl] at h
    rw [run_of_no_limit hv hl, choice_of_shedsLosers hf]
    split at h
    · cases h
    · rename_i hne
      obtain rfl := Except.ok.inj h
      rw [if_neg hne]
      exact ⟨_, rfl, rfl, rfl⟩

theorem locality_of_sample : ∃ r r' A, run {} Sample.batch {} = .ok r ∧
    run {} [.ok Sample.callee, .ok Sample.caller] {} = .ok r' ∧ r'.classes = r.classes ∧
    r'.ambiguities = r.ambiguities ∧ r'.class? "p.A" = some A ∧
    A.dependencies = Sample.caller.dependencies ∧ A.metrics.cbo = Sample.caller.coupledTypes.length := by
  obtain ⟨hlocal, hfewer⟩ := locality_of_run rfl Sample.run_batch
  have htwin : ¬ IsFirst (units Sample.batch) (Sample.twin, 0) := by decide
  have hsheds : ShedsLosers Sample.batch [.ok Sample.callee, .ok Sample.caller] :=
    .dropClass _ htwin (.dropFailure _ (.keepClass _ (.keepClass _ (.nil _))))
  obtain ⟨r', hr', hclasses, hamb⟩ := hfewer _ hsheds {} fun _ => false
  obtain ⟨first, hfirst, hname, hdeps, -, hmetrics⟩ := hlocal _ _ Sample.class?_caller
  have hcaller : IsFirst (units Sample.batch) (Sample.caller, 2) := by decide
  obtain rfl := hfirst.eq_of_name hcaller hname
  refine ⟨_, r', _, Sample.run_batch, hr', hclasses, hamb, ?_, hdeps, congrArg (·.cbo) hmetrics⟩
  rw [Report.class?, hclasses]
  exact Sample.class?_caller

end JavaMetrics.Batch

import JavaMetrics.Proofs.Batch

set_option autoImplicit false

namespace JavaMetrics

/-- A dependency selects a class of the report: its first name alone if the report has that class,
otherwise each candidate that the report has. -/
def Report.Selects (r : Report) (d : Dependency) (name : String) : Prop :=
  if r.classes.contains d.target.primary = true then name = d.target.primary
  else name ∈ d.target.candidates ∧ r.classes.contains name = true

namespace Batch

attribute [local irreducible] ClassFacts.dependencies

variable {config : Config} {items : List BatchItem} {revision : Revision} {expired : Nat → Bool}
  {chosen : List ClassFacts}

theorem contains_graphOf (name : String) :
    (graphOf chosen).contains name = true ↔ name ∈ chosen.map (·.qualifiedName) := by
  rw [graphOf, projectOf, ProjectMetrics.contains_ofLinks, List.map_map]
  rfl

theorem mem_targetsOf_iff_selects {r : Report}
    (hr : ∀ n, r.classes.contains n = true ↔ n ∈ chosen.map (·.qualifiedName)) (d : Dependency)
    (name : String) : name ∈ (graphOf chosen).targetsOf d.target ↔ r.Selects d name := by
  have hc : ∀ n, (graphOf chosen).contains n = true ↔ r.classes.contains n = true := fun n => by
    rw [contains_graphOf, hr]
  rw [ClassGraph.mem_targetsOf, Report.Selects]
  simp only [hc]

theorem mem_edges_graphOf (hn : (chosen.map (·.qualifiedName)).Nodup) {u : ClassFacts}
    (hu : u ∈ chosen) (name : String) :
    (u.qualifiedName, name) ∈ (graphOf chosen).edges ↔
      u.qualifiedName ≠ name ∧ ∃ d ∈ u.dependencies, name ∈ (graphOf chosen).targetsOf d.target := by
  rw [graphOf, projectOf, ProjectMetrics.mem_edges_ofLinks]
  constructor
  · rintro ⟨hne, c, hc, hname, h⟩
    obtain ⟨v, hv, rfl⟩ := List.mem_map.1 hc
    -- No other chosen class has this name.
    obtain rfl : v = u := List.inj_on_of_nodup_map hn hv hu hname
    exact ⟨hne, h⟩
  · rintro ⟨hne, h⟩
    exact ⟨hne, .ofFacts u, List.mem_map_of_mem hu, rfl, h⟩

theorem contains_classesOf_eq (t : SmellThresholds) (hn : (chosen.map (·.qualifiedName)).Nodup)
    (name : String) :
    (classesOf t (projectOf chosen) chosen).contains name = (graphOf chosen).contains name :=
  Bool.eq_iff_iff.2 ((contains_classesOf t hn name).trans (contains_graphOf name).symm)

theorem mem_dependenciesOut (t : SmellThresholds) (hn : (chosen.map (·.qualifiedName)).Nodup)
    {u : ClassFacts} (hu : u ∈ chosen) (name : String) :
    name ∈ (classReport t chosen u).metrics.dependenciesOut ↔
      u.qualifiedName ≠ name ∧ ∃ d ∈ u.dependencies, name ∈ (graphOf chosen).targetsOf d.target := by
  rw [classReport_dependenciesOut, ClassGraph.mem_outgoing, mem_edges_graphOf hn hu]

theorem contains_of_edge {a b : String} (h : (a, b) ∈ (graphOf chosen).edges) :
    (graphOf chosen).contains a = true ∧ (graphOf chosen).contains b = true := by
  obtain ⟨-, c, hc, rfl, d, -, hb⟩ := (ProjectMetrics.mem_edges_ofLinks _ a b).1 h
  refine ⟨?_, ClassGraph.contains_of_mem_targetsOf hb⟩
  rw [graphOf, projectOf, ProjectMetrics.contains_ofLinks]
  exact List.mem_map_of_mem hc

theorem simple_graphOf : (graphOf chosen).Simple := ProjectMetrics.simple_ofLinks _

/-- A class has another one among its outgoing dependencies if one of its references selects it, and the
incoming dependencies mirror the outgoing ones; both are strictly ascending and stay within the report. -/
theorem neighbours_of_run {r : Report} (h : run config items revision expired = .ok r) :
    (∀ a A, r.class? a = some A →
      A.metrics.dependenciesOut.Pairwise (· < ·) ∧ A.metrics.dependenciesIn.Pairwise (· < ·) ∧
      (∀ n ∈ A.metrics.dependenciesOut, r.classes.contains n = true) ∧
      (∀ n ∈ A.metrics.dependenciesIn, r.classes.contains n = true) ∧
      A.metrics.outDegree = A.metrics.dependenciesOut.length ∧
      A.metrics.inDegree = A.metrics.dependenciesIn.length) ∧
    ∀ a A b B, r.class? a = some A → r.class? b = some B →
      (b ∈ A.metrics.dependenciesOut ↔ a ≠ b ∧ ∃ d ∈ A.dependencies, r.Selects d b) ∧
      (a ∈ B.metrics.dependenciesIn ↔ b ∈ A.metrics.dependenciesOut) := by
  obtain ⟨fs, skipped, chosen, hn, rfl⟩ := report_of_run h
  have hcontains := contains_classesOf config.smells hn
  simp only [report_class?, report_classes]
  constructor
  · intro a A ha
    obtain ⟨u, hu, rfl, rfl⟩ := (get?_classesOf _ hn a A).1 ha
    rw [classReport_dependenciesOut, classReport_dependenciesIn, classReport_outDegree,
      classReport_inDegree]
    refine ⟨simple_graphOf.pairwise_outgoing _, simple_graphOf.pairwise_incoming _, ?_, ?_, rfl, rfl⟩
    · intro n hm
      have he := (ClassGraph.mem_outgoing _ _ n).1 hm
      rw [hcontains, ← contains_graphOf]
      exact (contains_of_edge he).2
    · intro n hm
      have he := (ClassGraph.mem_incoming _ n _).1 hm
      rw [hcontains, ← contains_graphOf]
      exact (contains_of_edge he).1
  · intro a A b B ha hb
    obtain ⟨u, hu, rfl, rfl⟩ := (get?_classesOf _ hn a A).1 ha
    obtain ⟨v, hv, rfl, rfl⟩ := (get?_classesOf _ hn b B).1 hb
    rw [classReport_dependenciesOut, classReport_dependenciesIn, classReport_dependencies,
      ClassGraph.mem_outgoing, ClassGraph.mem_incoming]
    refine ⟨(mem_edges_graphOf hn hu _).trans ?_, Iff.rfl⟩
    refine and_congr_right fun _ => exists_congr fun d => and_congr_right fun _ => ?_
    exact mem_targetsOf_iff_selects hcontains d v.qualifiedName

theorem selects_of_sample : Sample.result.Selects
    ⟨"p.A", .ambiguous "B" ["p.B", "q.B"]⟩ "q.B" := by
  have hfirst : ¬ Sample.result.classes.contains "p.B" = true := by
    rw [Sample.result, report_classes, contains_classesOf _ Sample.nodup_names]
    decide +kernel
  have hsecond : Sample.result.classes.contains "q.B" = true := by
    rw [Sample.result, report_classes, contains_classesOf _ Sample.nodup_names]
    decide +kernel
  change if Sample.result.classes.contains "p.B" = true then _ else _
  rw [if_neg hfirst]
  exact ⟨by simp [TypeRef.candidates], hsecond⟩

/-- The class of the sample that `B` stands for is found, although it is the second candidate. -/
theorem neighbours_of_sample : ∃ r A B, run {} Sample.batch {} = .ok r ∧
    r.class? "p.A" = some A ∧ r.class? "q.B" = some B ∧
    "q.B" ∈ A.metrics.dependenciesOut ∧ "p.A" ∈ B.metrics.dependenciesIn := by
  have hdep : Sample.caller.dependencies = [⟨"p.A", .ambiguous "B" ["p.B", "q.B"]⟩] := by
    decide +kernel
  obtain ⟨hout, hin⟩ := (neighbours_of_run Sample.run_batch).2 "p.A" _ "q.B" _
    Sample.class?_caller Sample.class?_callee
  rw [classReport_dependencies, hdep] at hout
  have hB := hout.2 ⟨by decide, _, List.mem_cons_self, selects_of_sample⟩
  exact ⟨_, _, _, Sample.run_batch, Sample.class?_caller, Sample.class?_callee, hB, hin.2 hB⟩

end Batch

end JavaMetrics

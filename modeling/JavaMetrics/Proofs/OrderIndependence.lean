import JavaMetrics.Proofs.Batch

set_option autoImplicit false

namespace JavaMetrics.Batch

variable {config : Config} {items others : List BatchItem}

theorem units_perm (h : items.Perm others) : (units items).Perm (units others) :=
  h.filterMap _

theorem choice_eq_of_perm (h : items.Perm others) (hd : ((units items).map (·.path)).Nodup) :
    choice items = choice others := by
  rw [choice, choice, inPathOrder_eq_of_perm (units_perm h) hd]

theorem failures_perm (h : items.Perm others) (hd : ((units items).map (·.path)).Nodup) :
    (failures items).Perm (failures others) := by
  rw [failures, failures, choice_eq_of_perm h hd]
  exact (h.filterMap _).append_right _

/-- Two runs over the same files in different orders, each with a clock of its own. -/
theorem run_of_perm (revision : Revision) (expired expired' : Nat → Bool)
    (hv : config.validate = .ok ()) (hl : config.timeoutSecs = none) (h : items.Perm others)
    (hd : ((units items).map (·.path)).Nodup) :
    (∃ n, run config items revision expired = .error (.emptyBatch n) ∧
      run config others revision expired' = .error (.emptyBatch n)) ∨
    ∃ r r', run config items revision expired = .ok r ∧
      run config others revision expired' = .ok r' ∧
      r.classes = r'.classes ∧ r.counts = r'.counts ∧ r.ambiguities = r'.ambiguities ∧
      r.thresholds = r'.thresholds ∧ r.incomplete = r'.incomplete ∧
      r.failures.Perm r'.failures := by
  have hchoice := choice_eq_of_perm h hd
  have hfail := failures_perm h hd
  rw [run_of_no_limit hv hl, run_of_no_limit hv hl, hchoice]
  split
  · left
    exact ⟨(failures others).length, by rw [hfail.length_eq], rfl⟩
  · right
    refine ⟨_, _, rfl, rfl, rfl, ?_, rfl, rfl, rfl, hfail⟩
    change count items.length _ = count others.length _
    rw [h.length_eq]

theorem run_of_perm_sample : ∃ r r', run {} Sample.batch {} = .ok r ∧
    run {} Sample.batch.reverse {} = .ok r' ∧ r.classes = r'.classes ∧ r.counts = r'.counts ∧
    r.ambiguities = r'.ambiguities ∧ r.failures.Perm r'.failures := by
  have h := run_of_perm {} (fun _ => false) (fun _ => false) Sample.validate_default rfl
    (List.reverse_perm Sample.batch).symm (by decide +kernel)
  rcases h with ⟨n, hn, -⟩ | ⟨r, r', hr, hr', hclasses, hcounts, hamb, -, -, hfail⟩
  · rw [Sample.run_batch] at hn
    cases hn
  · exact ⟨r, r', hr, hr', hclasses, hcounts, hamb, hfail⟩

end JavaMetrics.Batch

import JavaMetrics.Proofs.Choice
import JavaMetrics.Proofs.ClassGraph
import JavaMetrics.Proofs.Dict

set_option autoImplicit false

namespace JavaMetrics.Batch

attribute [local irreducible] ClassFacts.dependencies

variable {config : Config} {items : List BatchItem} {revision : Revision} {expired : Nat → Bool}

theorem inTime_of_never {late : Nat → Bool} (h : ∀ place, late place = false)
    (us : List ClassFacts) : inTime late us = us := by
  have hall : (us.zipIdx.filter fun x => !late x.2) = us.zipIdx :=
    List.filter_eq_self.2 fun x _ => by rw [h, Bool.not_false]
  rw [inTime, hall, List.zipIdx_map_fst]

theorem latePaths_of_never {late : Nat → Bool} (h : ∀ place, late place = false)
    (us : List ClassFacts) : latePaths late us = [] := by
  have hnone : (us.zipIdx.filter fun x => late x.2) = [] :=
    List.filter_eq_nil_iff.2 fun x _ => by simp [h]
  rw [latePaths, hnone, List.map_nil]

theorem isLate_of_no_limit (h : config.timeoutSecs = none) (expired : Nat → Bool) (place : Nat) :
    isLate config expired place = false := by
  rw [isLate, h]
  rfl

theorem validate_of_run {r : Report} (h : run config items revision expired = .ok r) :
    config.validate = .ok () := by
  cases hv : config.validate with
  | ok _ => rfl
  | error e =>
    rw [run, hv] at h
    cases h

theorem report_of_run {r : Report} (h : run config items revision expired = .ok r) :
    ∃ failures skipped chosen, (chosen.map (·.qualifiedName)).Nodup ∧
      r = report config.smells revision items.length failures skipped chosen := by
  rw [run, validate_of_run h] at h
  simp only at h
  split at h
  · cases h
  · exact ⟨_, _, _, nodup_names_choose [] _ List.nodup_nil, (Except.ok.inj h).symm⟩

/-- The classes a batch chooses from when there is no time limit. -/
def units (items : List BatchItem) : List ClassFacts := items.filterMap BatchItem.facts?

def choice (items : List BatchItem) : List ClassFacts × List FileFailure :=
  choose [] (inPathOrder (units items))

theorem nodup_names_choice (items : List BatchItem) :
    ((choice items).1.map (·.qualifiedName)).Nodup :=
  nodup_names_choose [] _ List.nodup_nil

def failures (items : List BatchItem) : List FileFailure :=
  items.filterMap BatchItem.failure? ++ (choice items).2

theorem run_of_no_limit (hv : config.validate = .ok ()) (hl : config.timeoutSecs = none) :
    run config items revision expired =
      if (choice items).1.isEmpty then .error (.emptyBatch (failures items).length)
      else .ok (report config.smells revision items.length (failures items) []
        (choice items).1) := by
  have hlate := isLate_of_no_limit hl expired
  rw [run, hv]
  simp only [inTime_of_never hlate, latePaths_of_never hlate]
  rfl

theorem eq_report_of_run {r : Report} (hl : config.timeoutSecs = none)
    (h : run config items revision expired = .ok r) :
    r = report config.smells revision items.length (failures items) [] (choice items).1 := by
  rw [run_of_no_limit (validate_of_run h) hl] at h
  split at h
  · cases h
  · exact (Except.ok.inj h).symm

/-- A batch of classes with different names and paths is reported on in path order. -/
theorem run_of_path_order (hv : config.validate = .ok ()) (hl : config.timeoutSecs = none)
    {us : List ClassFacts} (hne : us ≠ []) (hperm : us.Perm (units items))
    (hnames : (us.map (·.qualifiedName)).Nodup) (hpaths : (us.map (·.path)).Nodup)
    (hs : us.Pairwise fun a b => a.path ≤ b.path)
    (hok : items.filterMap BatchItem.failure? = []) :
    run config items revision expired =
      .ok (report config.smells revision items.length [] [] us) := by
  have hchoice : choice items = (us, []) := by
    rw [choice, ← inPathOrder_eq_of_perm hperm hpaths, inPathOrder_of_pairwise hs]
    exact choose_of_nodup [] us hnames
  rw [run_of_no_limit hv hl, failures, hok, hchoice, if_neg (by simpa using hne)]
  rfl

section Reports

variable (t : SmellThresholds) (chosen : List ClassFacts) (u : ClassFacts)

def projectOf : ProjectMetrics := .ofLinks (chosen.map .ofFacts)

def graphOf : ClassGraph := (projectOf chosen).graph

def classReport : ClassReport :=
  { ClassReport.ofFacts t u with
    metrics := (projectOf chosen).complete (ClassMetrics.ofFacts u) }

@[simp] theorem classReport_dependencies :
    (classReport t chosen u).dependencies = u.dependencies := rfl

@[simp] theorem classReport_dependenciesOut :
    (classReport t chosen u).metrics.dependenciesOut = (graphOf chosen).outgoing u.qualifiedName :=
  rfl

@[simp] theorem classReport_dependenciesIn :
    (classReport t chosen u).metrics.dependenciesIn = (graphOf chosen).incoming u.qualifiedName :=
  rfl

@[simp] theorem classReport_outDegree :
    (classReport t chosen u).metrics.outDegree = (graphOf chosen).outDegree u.qualifiedName := rfl

@[simp] theorem classReport_inDegree :
    (classReport t chosen u).metrics.inDegree = (graphOf chosen).inDegree u.qualifiedName := rfl

@[simp] theorem classReport_noc :
    (classReport t chosen u).metrics.noc = (projectOf chosen).childrenOf u.qualifiedName := rfl

@[simp] theorem classReport_filePath : (classReport t chosen u).metrics.filePath = u.path := rfl

@[simp] theorem classReport_qualifiedName :
    (classReport t chosen u).metrics.qualifiedName = u.qualifiedName := rfl

variable {chosen}

theorem nodup_keys (hn : (chosen.map (·.qualifiedName)).Nodup) :
    ((chosen.map fun u => (u.qualifiedName, ClassReport.ofFacts t u)).map (·.1)).Nodup := by
  rw [List.map_map]
  exact hn

theorem get?_classesOf (hn : (chosen.map (·.qualifiedName)).Nodup) (name : String)
    (c : ClassReport) :
    (classesOf t (projectOf chosen) chosen).get? name = some c ↔
      ∃ u ∈ chosen, u.qualifiedName = name ∧ c = classReport t chosen u := by
  rw [classesOf, Dict.get?_map]
  simp only [Dict.get?_ofList _ (nodup_keys t hn), List.mem_map, Prod.mk.injEq]
  constructor
  · rintro ⟨own, ⟨u, hu, hname, rfl⟩, rfl⟩
    exact ⟨u, hu, hname, rfl⟩
  · rintro ⟨u, hu, hname, rfl⟩
    exact ⟨ClassReport.ofFacts t u, ⟨u, hu, hname, rfl⟩, rfl⟩

theorem contains_classesOf (hn : (chosen.map (·.qualifiedName)).Nodup) (name : String) :
    (classesOf t (projectOf chosen) chosen).contains name = true ↔
      name ∈ chosen.map (·.qualifiedName) := by
  rw [Dict.contains_iff, List.mem_map]
  constructor
  · rintro ⟨c, hc⟩
    obtain ⟨u, hu, hname, -⟩ := (get?_classesOf t hn name c).1 hc
    exact ⟨u, hu, hname⟩
  · rintro ⟨u, hu, hname⟩
    exact ⟨_, (get?_classesOf t hn name _).2 ⟨u, hu, hname, rfl⟩⟩

/-- The reported classes are the chosen ones, in the order of their names. -/
theorem values_classesOf_perm (hn : (chosen.map (·.qualifiedName)).Nodup) :
    (classesOf t (projectOf chosen) chosen).values.Perm (chosen.map (classReport t chosen)) := by
  have h := (Dict.entries_ofList_perm _ (nodup_keys t hn)).map fun x =>
    { x.2 with metrics := (projectOf chosen).complete x.2.metrics }
  rw [List.map_map] at h
  rw [classesOf, Dict.values, Dict.map, List.map_map]
  exact h

theorem keys_classesOf_perm (hn : (chosen.map (·.qualifiedName)).Nodup) :
    (classesOf t (projectOf chosen) chosen).keys.Perm (chosen.map (·.qualifiedName)) := by
  have h := (Dict.entries_ofList_perm _ (nodup_keys t hn)).map (·.1)
  rw [List.map_map] at h
  rw [classesOf, Dict.keys, Dict.map, List.map_map]
  exact h

theorem size_classesOf (hn : (chosen.map (·.qualifiedName)).Nodup) :
    (classesOf t (projectOf chosen) chosen).size = chosen.length := by
  have h := (values_classesOf_perm t hn).length_eq
  rw [Dict.values, List.length_map, List.length_map] at h
  exact h

end Reports

@[simp] theorem report_classes (t : SmellThresholds) (revision : Revision) (files : Nat)
    (fs : List FileFailure) (skipped : List String) (chosen : List ClassFacts) :
    (report t revision files fs skipped chosen).classes = classesOf t (projectOf chosen) chosen :=
  rfl

@[simp] theorem report_class? (t : SmellThresholds) (revision : Revision) (files : Nat)
    (fs : List FileFailure) (skipped : List String) (chosen : List ClassFacts) (name : String) :
    (report t revision files fs skipped chosen).class? name =
      (classesOf t (projectOf chosen) chosen).get? name := rfl

theorem report_classesFound (t : SmellThresholds) (revision : Revision) (files : Nat)
    (fs : List FileFailure) (skipped : List String) {chosen : List ClassFacts}
    (hn : (chosen.map (·.qualifiedName)).Nodup) :
    (report t revision files fs skipped chosen).counts.classesFound = chosen.length :=
  size_classesOf t hn

namespace Sample

/-- A class that refers to `B`, which may be of its own package or of the imported one. -/
def caller : ClassFacts where
  path := "p/A.java"
  package := some "p"
  name := "A"
  imports := [⟨"q", false, true, 2⟩]
  fields := [⟨"b", "B", 4⟩]

def callee : ClassFacts where
  path := "q/B.java"
  package := some "q"
  name := "B"

def twin : ClassFacts where
  path := "z/A.java"
  package := some "p"
  name := "A"

/-- A batch with a file that failed, against path order. -/
def batch : List BatchItem :=
  [.ok twin, .error (.io "y/C.java" "gone"), .ok callee, .ok caller]

theorem inPathOrder_units : inPathOrder (units batch) = [caller, callee, twin] := by
  have hperm : (units batch).Perm [caller, callee, twin] := List.reverse_perm [caller, callee, twin]
  rw [inPathOrder_eq_of_perm hperm (by decide)]
  exact inPathOrder_of_pairwise (by decide)

theorem choice_batch : choice batch = ([caller, callee], [duplicate twin caller]) := by
  rw [choice, inPathOrder_units]
  decide

theorem validate_default : ({} : Config).validate = .ok () := rfl

def result : Report := report {} {} 4 (failures batch) [] [caller, callee]

theorem run_batch : run {} batch {} = .ok result := by
  rw [run_of_no_limit validate_default rfl, choice_batch]
  rfl

theorem nodup_names : ([caller, callee].map (·.qualifiedName)).Nodup := by decide

theorem class?_caller : result.class? "p.A" = some (classReport {} [caller, callee] caller) :=
  (get?_classesOf _ nodup_names "p.A" _).2 ⟨caller, by simp, by decide, rfl⟩

theorem class?_callee : result.class? "q.B" = some (classReport {} [caller, callee] callee) :=
  (get?_classesOf _ nodup_names "q.B" _).2 ⟨callee, by simp, by decide, rfl⟩

end Sample

end JavaMetrics.Batch

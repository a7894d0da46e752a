import Mathlib.Algebra.Ring.Nat
import Mathlib.Data.List.Count
import JavaMetrics.Proofs.Batch
import JavaMetrics.Proofs.Resolution

set_option autoImplicit false

namespace JavaMetrics

/-- The names of the classes that the superclass may stand for. -/
def ClassLinks.parents (c : ClassLinks) : List String :=
  match c.superclass with
  | some t => t.candidates
  | none => []

namespace ProjectMetrics

theorem get?_addChild (children : Dict Nat) (parent n : String) :
    (addChild children parent).get? n =
      (children.get? n).map (· + if parent = n then 1 else 0) := by
  unfold addChild
  cases hp : children.get? parent with
  | none =>
    by_cases hn : parent = n
    · subst hn
      simp [hp]
    · simp [hn]
  | some k =>
    rw [Dict.get?_insert]
    by_cases hn : n = parent
    · subst hn
      simp [hp]
    · simp [hn, Ne.symm hn]

theorem get?_foldl_addChild (parents : List String) (children : Dict Nat) (n : String) :
    (parents.foldl addChild children).get? n = (children.get? n).map (· + parents.count n) := by
  induction parents generalizing children with
  | nil => simp
  | cons p rest ih =>
    rw [List.foldl_cons, ih, get?_addChild, Option.map_map]
    congr 1
    funext k
    simp only [Function.comp, List.count_cons, beq_iff_eq]
    omega

theorem foldl_addDependency_children (m : ProjectMetrics) (name : String) (ds : List Dependency) :
    (ds.foldl (fun m d => m.addDependency name d) m).children = m.children := by
  induction ds generalizing m with
  | nil => rfl
  | cons d rest ih =>
    rw [List.foldl_cons, ih]
    rfl

theorem get?_children_addClass (m : ProjectMetrics) (c : ClassLinks) {n : String}
    (hn : m.graph.contains n = true) :
    (m.addClass c).children.get? n = (m.children.get? n).map (· + c.parents.count n) := by
  unfold addClass ClassLinks.parents
  rw [foldl_addDependency_children]
  cases c.superclass with
  | none => simp
  | some t =>
    change ((m.graph.candidatesIn t).foldl addChild m.children).get? n = _
    rw [get?_foldl_addChild, ClassGraph.candidatesIn, List.count_filter hn]

theorem get?_children_foldl_addClass (cs : List ClassLinks) (m : ProjectMetrics) {n : String}
    (hn : m.graph.contains n = true) :
    (cs.foldl addClass m).children.get? n =
      (m.children.get? n).map (· + (cs.map (·.parents.count n)).sum) := by
  induction cs generalizing m with
  | nil => simp
  | cons c rest ih =>
    have hn' : (m.addClass c).graph.contains n = true := by
      rw [ClassGraph.contains_congr (addClass_classes m c)]
      exact hn
    rw [List.foldl_cons, ih _ hn', get?_children_addClass m c hn, Option.map_map]
    congr 1
    funext k
    simp only [Function.comp, List.map_cons, List.sum_cons]
    omega

theorem get?_children_foldl_addClass_of_none (cs : List ClassLinks) {m : ProjectMetrics} {n : String}
    (hn : m.children.get? n = none) : (cs.foldl addClass m).children.get? n = none := by
  induction cs generalizing m with
  | nil => exact hn
  | cons c rest ih =>
    rw [List.foldl_cons]
    apply ih
    rw [addClass, foldl_addDependency_children]
    cases c.superclass with
    | none => exact hn
    | some t =>
      change ((m.graph.candidatesIn t).foldl addChild m.children).get? n = none
      rw [get?_foldl_addChild, hn, Option.map_none]

theorem get?_children_ofLinks (cs : List ClassLinks) (n : String) :
    (ofLinks cs).children.get? n =
      if n ∈ cs.map (·.name) then some (cs.map (·.parents.count n)).sum else none := by
  have hstart := Dict.get?_ofList_const (cs.map (·.name)) 0 n
  split
  · rename_i hn
    rw [if_pos hn] at hstart
    rw [ofLinks, get?_children_foldl_addClass _ _ ((ClassGraph.contains_ofNames _ n).2 hn), hstart,
      Option.map_some, Nat.zero_add]
  · rename_i hn
    rw [if_neg hn] at hstart
    exact get?_children_foldl_addClass_of_none cs hstart

theorem childrenOf_ofLinks (cs : List ClassLinks) {n : String} (hn : n ∈ cs.map (·.name)) :
    (ofLinks cs).childrenOf n = (cs.map (·.parents.count n)).sum := by
  rw [childrenOf, get?_children_ofLinks, if_pos hn, Option.getD_some]

end ProjectMetrics

namespace ClassFacts

def parents (u : ClassFacts) : List String := (ClassLinks.ofFacts u).parents

theorem parents_of_none {u : ClassFacts} (h : u.superclassRef = none) : u.parents = [] := by
  rw [parents, ClassLinks.parents, ClassLinks.ofFacts, h]

theorem parents_of_some {u : ClassFacts} {t : TypeRef} (h : u.superclassRef = some t) :
    u.parents = t.candidates := by
  rw [parents, ClassLinks.parents, ClassLinks.ofFacts, h]

theorem mem_parents (u : ClassFacts) (name : String) :
    name ∈ u.parents ↔
      ∃ text t, u.superclass = some text ∧ u.resolve text = some t ∧ name ∈ t.candidates := by
  cases h : u.superclass with
  | none =>
    have hnone : u.superclassRef = none := by rw [superclassRef, h]; rfl
    simp [parents_of_none hnone]
  | some text =>
    have hbind : u.superclassRef = u.resolve text := by rw [superclassRef, h]; rfl
    cases ht : u.resolve text with
    | none => simp [parents_of_none (hbind.trans ht), ht]
    | some t => simp [parents_of_some (hbind.trans ht), ht]

theorem nodup_candidates {u : ClassFacts} {raw : String} {t : TypeRef}
    (h : u.resolve raw = some t) : t.candidates.Nodup :=
  Resolver.nodup_candidates_of_resolve (Resolver.apart_ofFacts u) h

theorem nodup_parents (u : ClassFacts) : u.parents.Nodup := by
  cases h : u.superclassRef with
  | none => rw [parents_of_none h]; exact List.nodup_nil
  | some t =>
    obtain ⟨raw, -, ht⟩ := Option.bind_eq_some_iff.1 h
    rw [parents_of_some h]
    exact nodup_candidates ht

theorem sum_count_parents (us : List ClassFacts) (name : String) :
    (us.map (·.parents.count name)).sum = us.countP fun u => decide (name ∈ u.parents) := by
  induction us with
  | nil => rfl
  | cons u rest ih =>
    rw [List.map_cons, List.sum_cons, ih, List.countP_cons, u.nodup_parents.count]
    simp only [decide_eq_true_eq]
    omega

end ClassFacts

namespace Batch

variable {config : Config} {items : List BatchItem} {revision : Revision} {expired : Nat → Bool}

theorem noc_classReport (t : SmellThresholds) {chosen : List ClassFacts} {u : ClassFacts}
    (hu : u ∈ chosen) :
    (classReport t chosen u).metrics.noc =
      chosen.countP fun v => decide (u.qualifiedName ∈ v.parents) := by
  have hname : u.qualifiedName ∈ (chosen.map ClassLinks.ofFacts).map (·.name) := by
    rw [List.map_map]
    exact List.mem_map_of_mem hu
  rw [classReport_noc, projectOf, ProjectMetrics.childrenOf_ofLinks _ hname, List.map_map]
  exact ClassFacts.sum_count_parents chosen u.qualifiedName

/-- The first class of a name has another one among those that its superclass may stand for. -/
def IsChild (items : List BatchItem) (child parent : String) : Prop :=
  ∃ first, IsFirst (units items) first ∧ first.1.qualifiedName = child ∧
    ∃ text t, first.1.superclass = some text ∧ first.1.resolve text = some t ∧
      parent ∈ t.candidates

theorem isChild_iff_of_mem {u : ClassFacts} (hu : u ∈ (choice items).1) (parent : String) :
    IsChild items u.qualifiedName parent ↔ parent ∈ u.parents := by
  obtain ⟨place, hfirst⟩ := (mem_choose_iff_isFirst _ u).1 hu
  rw [u.mem_parents]
  constructor
  · rintro ⟨other, hother, hname, h⟩
    obtain rfl := hother.eq_of_name hfirst hname
    exact h
  · exact fun h => ⟨(u, place), hfirst, rfl, h⟩

instance (items : List BatchItem) (child parent : String) :
    Decidable (IsChild items child parent) :=
  decidable_of_iff (∃ first ∈ (units items).zipIdx, IsFirst (units items) first ∧
      first.1.qualifiedName = child ∧ parent ∈ first.1.parents) (by
    simp only [IsChild, ClassFacts.mem_parents]
    exact ⟨fun ⟨f, _, h⟩ => ⟨f, h⟩, fun ⟨f, h⟩ => ⟨f, h.1.1, h⟩⟩)

namespace Family

def base : ClassFacts where
  path := "p/Base.java"
  package := some "p"
  name := "Base"

def otherBase : ClassFacts where
  path := "q/Base.java"
  package := some "q"
  name := "Base"

def child : ClassFacts where
  path := "p/Child.java"
  package := some "p"
  name := "Child"
  imports := [⟨"q", false, true, 2⟩]
  superclass := some "Base"

def batch : List BatchItem := [.ok otherBase, .ok base, .ok child]

def result : Report := report {} {} 3 [] [] [base, child, otherBase]

theorem nodup_names : ([base, child, otherBase].map (·.qualifiedName)).Nodup := by decide

theorem run_batch : run {} batch {} = .ok result :=
  run_of_path_order Sample.validate_default rfl (by simp) (by decide) nodup_names (by decide)
    (by decide) rfl

theorem class?_of_mem {u : ClassFacts} (hu : u ∈ [base, child, otherBase]) :
    result.class? u.qualifiedName = some (classReport {} [base, child, otherBase] u) :=
  (get?_classesOf _ nodup_names _ _).2 ⟨u, hu, rfl, rfl⟩

end Family

/-- The number of children is the number of reported classes that are children. -/
theorem noc_of_run {r : Report} (hl : config.timeoutSecs = none)
    (h : run config items revision expired = .ok r) :
    (∀ (u : ClassFacts) (raw : String) (t : TypeRef), u.resolve raw = some t →
      t.candidates.Nodup) ∧
    ∀ p P, r.class? p = some P →
      P.metrics.noc = r.classes.keys.countP fun a => decide (IsChild items a p) := by
  refine ⟨fun u raw t => ClassFacts.nodup_candidates, ?_⟩
  obtain rfl := eq_report_of_run hl h
  have hn := nodup_names_choice items
  intro p P hP
  obtain ⟨u, hu, rfl, rfl⟩ := (get?_classesOf _ hn p P).1 hP
  rw [report_classes, (keys_classesOf_perm _ hn).countP_eq, List.countP_map, noc_classReport _ hu]
  -- Both sides count chosen classes now, and the first class of a chosen name is the chosen one.
  refine List.countP_congr fun v hv => ?_
  simp only [Function.comp, decide_eq_true_eq]
  exact (isChild_iff_of_mem hv _).symm

theorem noc_of_family : ∃ r P Q, run {} Family.batch {} = .ok r ∧ r.class? "p.Base" = some P ∧
    r.class? "q.Base" = some Q ∧ P.metrics.noc = 1 ∧ Q.metrics.noc = 1 := by
  have hnoc := (noc_of_run rfl Family.run_batch).2
  have hP := Family.class?_of_mem (u := Family.base) (by simp)
  have hQ := Family.class?_of_mem (u := Family.otherBase) (by simp)
  refine ⟨_, _, _, Family.run_batch, hP, hQ, (hnoc _ _ hP).trans ?_, (hnoc _ _ hQ).trans ?_⟩
  · rw [Family.result, report_classes, (keys_classesOf_perm _ Family.nodup_names).countP_eq]
    decide +kernel
  · rw [Family.result, report_classes, (keys_classesOf_perm _ Family.nodup_names).countP_eq]
    decide +kernel

end Batch

/-- The superclass is written by a name that the file leaves open, that is not the class itself in the
own package, and that is the class itself in a package imported whole. -/
def ClassFacts.NamesItself (u : ClassFacts) : Prop :=
  ∃ text name, u.superclass = some text ∧ TypeName.normalize text = some name ∧
    TypeName.isPrimitive name = false ∧ (Resolver.ofFacts u).leavesNameOpen name = true ∧
    (Resolver.ofFacts u).isSelf ((Resolver.ofFacts u).qualify name) = false ∧
    ∃ p ∈ (Resolver.ofFacts u).onDemand, p ++ "." ++ name = u.qualifiedName

theorem ClassFacts.mem_parents_self_iff (u : ClassFacts) :
    u.qualifiedName ∈ u.parents ↔ u.NamesItself := by
  rw [u.mem_parents]
  constructor
  · rintro ⟨text, t, htext, ht, hmem⟩
    have hne : t.primary ≠ u.qualifiedName := Resolver.primary_ne_selfName ht
    cases t with
    | resolved n => exact absurd (List.mem_singleton.1 hmem).symm hne
    | ambiguous name cs =>
      obtain ⟨hn, hp, hopen, -, hself, rfl⟩ := (Resolver.resolve_eq_ambiguous_iff text name cs).1 ht
      refine ⟨text, name, htext, hn, hp, hopen, hself, ?_⟩
      -- The first candidate is the one in the own package, which is not the class.
      rcases List.mem_cons.1 hmem with h | h
      · exact absurd h.symm hne
      · exact List.mem_map.1 h
  · rintro ⟨text, name, htext, hn, hp, hopen, hself, q, hq, hqn⟩
    have hd : (Resolver.ofFacts u).onDemand ≠ [] := List.ne_nil_of_mem hq
    refine ⟨text, _, htext,
      (Resolver.resolve_eq_ambiguous_iff text name _).2 ⟨hn, hp, hopen, hd, hself, rfl⟩, ?_⟩
    exact List.mem_cons_of_mem _ (List.mem_map.2 ⟨q, hq, hqn⟩)

namespace Batch

variable {config : Config} {items : List BatchItem} {revision : Revision} {expired : Nat → Bool}

/-- A class has fewer children than there are classes, unless it names itself as its superclass; then
it is its own child. -/
theorem noc_lt_classes {r : Report} (hl : config.timeoutSecs = none)
    (h : run config items revision expired = .ok r) :
    ∀ p P, r.class? p = some P → ∃ first, IsFirst (units items) first ∧
      first.1.qualifiedName = p ∧ (IsChild items p p ↔ first.1.NamesItself) ∧
      (¬ first.1.NamesItself → P.metrics.noc < r.counts.classesFound) := by
  obtain rfl := eq_report_of_run hl h
  have hn := nodup_names_choice items
  intro p P hP
  obtain ⟨u, hu, rfl, rfl⟩ := (get?_classesOf _ hn p P).1 hP
  obtain ⟨place, hfirst⟩ := (mem_choose_iff_isFirst _ u).1 hu
  refine ⟨(u, place), hfirst, rfl, ?_, fun hnot => ?_⟩
  · rw [isChild_iff_of_mem hu, u.mem_parents_self_iff]
  · have hself : u.qualifiedName ∉ u.parents := fun hm => hnot (u.mem_parents_self_iff.1 hm)
    rw [noc_classReport _ hu, report_classesFound _ _ _ _ _ hn]
    exact List.countP_lt_length_iff.2 ⟨u, hu, by simp [hself]⟩

namespace Family

def ownChild : ClassFacts where
  path := "a/B/C.java"
  package := some "a.B"
  name := "C"
  imports := [⟨"a", false, true, 3⟩]
  superclass := some "B.C"

theorem run_ownChild : run {} [.ok ownChild] {} = .ok (report {} {} 1 [] [] [ownChild]) :=
  run_of_path_order Sample.validate_default rfl (by simp) (.refl _) (List.nodup_singleton _)
    (List.nodup_singleton _) (List.pairwise_singleton _ _) rfl

end Family

theorem noc_lt_classes_family : ∃ r P, run {} Family.batch {} = .ok r ∧
    r.class? "q.Base" = some P ∧ P.metrics.noc < r.counts.classesFound := by
  have hP := Family.class?_of_mem (u := Family.otherBase) (by simp)
  obtain ⟨first, hfirst, hname, -, hlt⟩ := noc_lt_classes rfl Family.run_batch _ _ hP
  have hother : IsFirst (units Family.batch) (Family.otherBase, 0) := by decide
  obtain rfl := hfirst.eq_of_name hother hname
  refine ⟨_, _, Family.run_batch, hP, hlt ?_⟩
  rintro ⟨text, name, htext, -⟩
  cases htext

/-- A class alone in its batch that is its own child. -/
theorem not_noc_lt_classes : ¬ ∀ (config : Config) (items : List BatchItem) (revision : Revision)
    (r : Report), config.timeoutSecs = none → run config items revision = .ok r →
    ∀ p P, r.class? p = some P → P.metrics.noc ≤ r.counts.classesFound - 1 := by
  intro hall
  have hn : ([Family.ownChild].map (·.qualifiedName)).Nodup := List.nodup_singleton _
  have hP := (get?_classesOf {} hn _ _).2 ⟨Family.ownChild, List.mem_singleton_self _, rfl, rfl⟩
  have hle := hall {} _ {} _ rfl Family.run_ownChild _ _ hP
  have hone : ([Family.ownChild].countP fun v =>
      decide (Family.ownChild.qualifiedName ∈ v.parents)) = 1 := by decide +kernel
  rw [noc_classReport _ (List.mem_singleton_self _), hone, report_classesFound _ _ _ _ _ hn] at hle
  exact absurd hle (by decide)

end Batch

end JavaMetrics

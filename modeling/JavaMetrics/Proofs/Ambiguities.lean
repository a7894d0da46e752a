import JavaMetrics.Proofs.Children
import JavaMetrics.Proofs.Dependencies
import JavaMetrics.Proofs.Neighbours

set_option autoImplicit false

namespace JavaMetrics

theorem flatMap_noteOn {α : Type} (name : String) (context : AmbiguityContext) (ref : α → TypeRef)
    (found : α → List String) (xs : List α) :
    (xs.flatMap fun x => noteOn name (ref x) (found x) context) =
      (xs.filter fun x => decide (2 ≤ (found x).length)).map fun x =>
        ⟨name, (ref x).simpleName, found x, context⟩ := by
  induction xs with
  | nil => rfl
  | cons x rest ih =>
    rw [List.flatMap_cons, ih, List.filter_cons, noteOn]
    by_cases h : 1 < (found x).length
    · have htwo : decide (2 ≤ (found x).length) = true := decide_eq_true h
      rw [if_pos h, if_pos htwo]
      rfl
    · have htwo : decide (2 ≤ (found x).length) = false := decide_eq_false h
      rw [if_neg h, htwo]
      rfl

theorem of_mem_noteOn {name : String} {t : TypeRef} {found : List String}
    {context : AmbiguityContext} {n : AmbiguityNote} (h : n ∈ noteOn name t found context) :
    n.className = name ∧ n.context = context ∧ n.candidates = found := by
  unfold noteOn at h
  split at h
  · rw [List.mem_singleton.1 h]
    exact ⟨rfl, rfl, rfl⟩
  · cases h

namespace ClassGraph

def notesIn (g : ClassGraph) (c : ClassLinks) : AmbiguityContext → List AmbiguityNote
  | .superclass =>
    c.superclass.toList.flatMap fun t => noteOn c.name t (g.candidatesIn t) .superclass
  | .dependency =>
    c.dependencies.flatMap fun d => noteOn c.name d.target (g.targetsOf d.target) .dependency

def notesOf (g : ClassGraph) (c : ClassLinks) : List AmbiguityNote :=
  g.notesIn c .superclass ++ g.notesIn c .dependency

theorem notesOf_of_contains {g h : ClassGraph} (hc : g.contains = h.contains) :
    g.notesOf = h.notesOf := by
  funext c
  simp only [notesOf, notesIn, candidatesIn, hc, targetsOf_of_contains hc]

theorem notesOf_congr {g h : ClassGraph} (hc : g.classes = h.classes) : g.notesOf = h.notesOf :=
  notesOf_of_contains (contains_congr hc)

theorem superclassNotes_eq (g : ClassGraph) (c : ClassLinks) :
    g.notesIn c .superclass =
      (c.superclass.toList.filter fun t => decide (2 ≤ (g.candidatesIn t).length)).map fun t =>
        ⟨c.name, t.simpleName, g.candidatesIn t, .superclass⟩ :=
  flatMap_noteOn c.name .superclass id g.candidatesIn c.superclass.toList

/-- A dependency on a class of the graph stands for that class alone, so it is not noted. -/
theorem two_le_targetsOf (g : ClassGraph) (t : TypeRef) :
    2 ≤ (g.targetsOf t).length ↔ g.contains t.primary = false ∧ 2 ≤ (g.candidatesIn t).length := by
  unfold targetsOf
  cases g.contains t.primary <;> simp

theorem dependencyNotes_eq (g : ClassGraph) (c : ClassLinks) :
    g.notesIn c .dependency =
      (c.dependencies.filter fun d =>
        !g.contains d.target.primary && decide (2 ≤ (g.candidatesIn d.target).length)).map fun d =>
        ⟨c.name, d.target.simpleName, g.candidatesIn d.target, .dependency⟩ := by
  have hfilter : (c.dependencies.filter fun d => decide (2 ≤ (g.targetsOf d.target).length)) =
      c.dependencies.filter fun d =>
        !g.contains d.target.primary && decide (2 ≤ (g.candidatesIn d.target).length) := by
    refine List.filter_congr fun d _ => ?_
    rw [Bool.eq_iff_iff]
    simp [two_le_targetsOf]
  rw [notesIn, flatMap_noteOn c.name .dependency Dependency.target (fun d => g.targetsOf d.target),
    hfilter]
  refine List.map_congr_left fun d hd => ?_
  have hnot : g.contains d.target.primary = false := by
    have h := (List.mem_filter.1 hd).2
    simp only [Bool.and_eq_true, Bool.not_eq_true'] at h
    exact h.1
  rw [targetsOf, hnot, if_neg Bool.false_ne_true]

theorem exists_of_mem_superclassNotes {g : ClassGraph} {c : ClassLinks} {n : AmbiguityNote}
    (h : n ∈ g.notesIn c .superclass) :
    ∃ t, c.superclass = some t ∧ n.candidates = g.candidatesIn t := by
  obtain ⟨t, ht, hn⟩ := List.mem_flatMap.1 h
  exact ⟨t, Option.mem_toList.1 ht, (of_mem_noteOn hn).2.2⟩

theorem exists_of_mem_dependencyNotes {g : ClassGraph} {c : ClassLinks} {n : AmbiguityNote}
    (h : n ∈ g.notesIn c .dependency) :
    ∃ d ∈ c.dependencies, n.candidates = g.targetsOf d.target := by
  obtain ⟨d, hd, hn⟩ := List.mem_flatMap.1 h
  exact ⟨d, hd, (of_mem_noteOn hn).2.2⟩

theorem of_mem_notesIn {g : ClassGraph} {c : ClassLinks} {context : AmbiguityContext}
    {n : AmbiguityNote} (h : n ∈ g.notesIn c context) :
    n.className = c.name ∧ n.context = context := by
  cases context with
  | superclass =>
    obtain ⟨t, -, hn⟩ := List.mem_flatMap.1 h
    exact ⟨(of_mem_noteOn hn).1, (of_mem_noteOn hn).2.1⟩
  | dependency =>
    obtain ⟨d, -, hn⟩ := List.mem_flatMap.1 h
    exact ⟨(of_mem_noteOn hn).1, (of_mem_noteOn hn).2.1⟩

theorem mem_notesOf {g : ClassGraph} {c : ClassLinks} {n : AmbiguityNote} :
    n ∈ g.notesOf c ↔ n ∈ g.notesIn c n.context := by
  rw [notesOf, List.mem_append]
  constructor
  · rintro (h | h)
    · rwa [(of_mem_notesIn h).2]
    · rwa [(of_mem_notesIn h).2]
  · intro h
    cases hc : n.context with
    | superclass => exact .inl (hc ▸ h)
    | dependency => exact .inr (hc ▸ h)

theorem filter_notesIn (g : ClassGraph) (c : ClassLinks) (own context : AmbiguityContext) :
    (g.notesIn c own).filter (·.context == context) =
      if own = context then g.notesIn c own else [] := by
  split
  · refine List.filter_eq_self.2 fun n hn => ?_
    rw [(of_mem_notesIn hn).2, beq_iff_eq]
    assumption
  · refine List.filter_eq_nil_iff.2 fun n hn => ?_
    rw [(of_mem_notesIn hn).2, beq_iff_eq]
    assumption

theorem filter_notesOf (g : ClassGraph) (c : ClassLinks) (context : AmbiguityContext) :
    (g.notesOf c).filter (·.context == context) = g.notesIn c context := by
  rw [notesOf, List.filter_append, filter_notesIn, filter_notesIn]
  cases context <;> simp

end ClassGraph

namespace ProjectMetrics

theorem foldl_addDependency_ambiguities (m : ProjectMetrics) (name : String) (ds : List Dependency) :
    (ds.foldl (fun m d => m.addDependency name d) m).ambiguities =
      m.ambiguities ++
        ds.flatMap fun d => noteOn name d.target (m.graph.targetsOf d.target) .dependency := by
  induction ds generalizing m with
  | nil => simp
  | cons d rest ih =>
    rw [List.foldl_cons, ih, List.flatMap_cons, ← List.append_assoc]
    simp only [ClassGraph.targetsOf_congr (addDependency_classes m name d)]
    rfl

/-- One class adds its notes, whatever was added before. -/
theorem addClass_ambiguities (m : ProjectMetrics) (c : ClassLinks) :
    (m.addClass c).ambiguities = m.ambiguities ++ m.graph.notesOf c := by
  unfold addClass
  rw [foldl_addDependency_ambiguities, ClassGraph.notesOf, ClassGraph.notesIn, ClassGraph.notesIn,
    ← List.append_assoc]
  cases c.superclass with
  | none => simp
  | some t => simp [addSuperclass]

theorem foldl_addClass_ambiguities (cs : List ClassLinks) (m : ProjectMetrics) :
    (cs.foldl addClass m).ambiguities = m.ambiguities ++ cs.flatMap m.graph.notesOf := by
  induction cs generalizing m with
  | nil => simp
  | cons c rest ih =>
    rw [List.foldl_cons, ih, addClass_ambiguities, ClassGraph.notesOf_congr (addClass_classes m c),
      List.flatMap_cons, List.append_assoc]

theorem ambiguities_ofLinks (cs : List ClassLinks) :
    (ofLinks cs).ambiguities = cs.flatMap (ofLinks cs).graph.notesOf := by
  have hc : (ofLinks cs).graph.classes = (ClassGraph.ofNames (cs.map (·.name))).classes :=
    foldl_addClass_classes cs _
  rw [ClassGraph.notesOf_congr hc]
  exact foldl_addClass_ambiguities cs _

end ProjectMetrics

namespace Report

def candidatesOf (r : Report) (t : TypeRef) : List String := t.candidates.filter r.classes.contains

def notesOn (r : Report) (name : String) (context : AmbiguityContext) : List AmbiguityNote :=
  r.ambiguities.filter fun n => n.className == name && n.context == context

end Report

namespace Batch

attribute [local irreducible] ClassFacts.dependencies

variable {config : Config} {items : List BatchItem} {revision : Revision} {expired : Nat → Bool}
  {chosen : List ClassFacts}

def notesOf (chosen : List ClassFacts) (u : ClassFacts) : List AmbiguityNote :=
  (graphOf chosen).notesOf (.ofFacts u)

theorem ambiguities_projectOf (chosen : List ClassFacts) :
    (projectOf chosen).ambiguities = chosen.flatMap (notesOf chosen) := by
  rw [projectOf, ProjectMetrics.ambiguities_ofLinks, List.flatMap_map]
  rfl

theorem className_of_mem_notesOf {u : ClassFacts} {n : AmbiguityNote} (h : n ∈ notesOf chosen u) :
    n.className = u.qualifiedName :=
  (ClassGraph.of_mem_notesIn (ClassGraph.mem_notesOf.1 h)).1

theorem flatMap_eq_of_unique {α β : Type} {xs : List α} {f : α → List β} {x : α} (hx : x ∈ xs)
    (hn : xs.Nodup) (h : ∀ y ∈ xs, y ≠ x → f y = []) : xs.flatMap f = f x := by
  induction xs with
  | nil => cases hx
  | cons y rest ih =>
    obtain ⟨hy, hrest⟩ := List.nodup_cons.1 hn
    rw [List.flatMap_cons]
    rcases List.mem_cons.1 hx with rfl | hx
    · have hnil : rest.flatMap f = [] := List.flatMap_eq_nil_iff.2 fun z hz =>
        h z (List.mem_cons_of_mem _ hz) fun he => hy (he ▸ hz)
      rw [hnil, List.append_nil]
    · rw [h y List.mem_cons_self fun he => hy (he ▸ hx), List.nil_append]
      exact ih hx hrest fun z hz => h z (List.mem_cons_of_mem _ hz)

theorem notesOn_report (t : SmellThresholds) (revision : Revision) (files : Nat)
    (fs : List FileFailure) (skipped : List String) (hn : (chosen.map (·.qualifiedName)).Nodup)
    {u : ClassFacts} (hu : u ∈ chosen) (context : AmbiguityContext) :
    (report t revision files fs skipped chosen).notesOn u.qualifiedName context =
      (graphOf chosen).notesIn (.ofFacts u) context := by
  change (projectOf chosen).ambiguities.filter _ = _
  rw [ambiguities_projectOf, List.filter_flatMap,
    flatMap_eq_of_unique hu (List.Nodup.of_map _ hn) ?_, ← ClassGraph.filter_notesOf]
  · refine List.filter_congr fun n hmem => ?_
    rw [className_of_mem_notesOf hmem, beq_self_eq_true, Bool.true_and]
  · intro v hv hne
    refine List.filter_eq_nil_iff.2 fun n hmem htest => hne ?_
    simp only [Bool.and_eq_true, beq_iff_eq] at htest
    exact List.inj_on_of_nodup_map hn hv hu ((className_of_mem_notesOf hmem).symm.trans htest.1)

theorem candidatesOf_report (t : SmellThresholds) (revision : Revision) (files : Nat)
    (fs : List FileFailure) (skipped : List String) (hn : (chosen.map (·.qualifiedName)).Nodup)
    (ref : TypeRef) :
    (report t revision files fs skipped chosen).candidatesOf ref =
      (graphOf chosen).candidatesIn ref := by
  have hc := funext (contains_classesOf_eq t hn)
  rw [Report.candidatesOf, report_classes, hc]
  rfl

/-- A class that the superclass of a chosen class may stand for has a child. -/
theorem one_le_noc (t : SmellThresholds) {u v : ClassFacts} (hu : u ∈ chosen) (hv : v ∈ chosen)
    {ref : TypeRef} (href : u.superclassRef = some ref) (hmem : v.qualifiedName ∈ ref.candidates) :
    1 ≤ (classReport t chosen v).metrics.noc := by
  rw [noc_classReport t hv]
  refine List.countP_pos_iff.2 ⟨u, hu, decide_eq_true ?_⟩
  rw [ClassFacts.parents_of_some href]
  exact hmem

theorem nodup_candidatesIn {u : ClassFacts} {raw : String} {t : TypeRef}
    (h : u.resolve raw = some t) (g : ClassGraph) : (g.candidatesIn t).Nodup :=
  (ClassFacts.nodup_candidates h).filter _

theorem nodup_targetsOf {u : ClassFacts} {raw : String} {t : TypeRef}
    (h : u.resolve raw = some t) (g : ClassGraph) : (g.targetsOf t).Nodup := by
  unfold ClassGraph.targetsOf
  split
  · exact List.nodup_singleton _
  · exact nodup_candidatesIn h g

/-- The notes are those on superclasses that may stand for two or more reported classes, and on dependencies that
do so while the class they are known by is not reported. -/
theorem ambiguities_of_run {r : Report} (hl : config.timeoutSecs = none)
    (h : run config items revision expired = .ok r) :
    (∀ a A, r.class? a = some A → ∃ first, IsFirst (units items) first ∧
      first.1.qualifiedName = a ∧
      r.notesOn a .superclass =
        (first.1.superclassRef.toList.filter fun t => decide (2 ≤ (r.candidatesOf t).length)).map
          (fun t => ⟨a, t.simpleName, r.candidatesOf t, .superclass⟩) ∧
      r.notesOn a .dependency =
        (A.dependencies.filter fun d => !r.classes.contains d.target.primary &&
          decide (2 ≤ (r.candidatesOf d.target).length)).map
          (fun d => ⟨a, d.target.simpleName, r.candidatesOf d.target, .dependency⟩)) ∧
    ∀ n ∈ r.ambiguities, n.candidates.Nodup ∧ ∃ A, r.class? n.className = some A ∧
      match n.context with
      | .superclass => ∀ p ∈ n.candidates, ∃ P, r.class? p = some P ∧ 1 ≤ P.metrics.noc
      | .dependency => ∀ b ∈ n.candidates, b ≠ n.className → b ∈ A.metrics.dependenciesOut := by
  obtain rfl := eq_report_of_run hl h
  have hn := nodup_names_choice items
  constructor
  · intro a A hA
    obtain ⟨u, hu, rfl, rfl⟩ := (get?_classesOf _ hn a A).1 hA
    obtain ⟨place, hfirst⟩ := (mem_choose_iff_isFirst _ u).1 hu
    refine ⟨(u, place), hfirst, rfl, ?_, ?_⟩
    · simp only [candidatesOf_report _ _ _ _ _ hn]
      rw [notesOn_report _ _ _ _ _ hn hu, ClassGraph.superclassNotes_eq]
      rfl
    · simp only [candidatesOf_report _ _ _ _ _ hn, report_classes, contains_classesOf_eq _ hn]
      rw [notesOn_report _ _ _ _ _ hn hu, ClassGraph.dependencyNotes_eq]
      rfl
  · intro n hmem
    change n ∈ (projectOf (choice items).1).ambiguities at hmem
    rw [ambiguities_projectOf] at hmem
    obtain ⟨u, hu, hmem⟩ := List.mem_flatMap.1 hmem
    have hA := (get?_classesOf config.smells hn _ _).2 ⟨u, hu, rfl, rfl⟩
    rw [className_of_mem_notesOf hmem]
    have hcontext := ClassGraph.mem_notesOf.1 hmem
    split
    · rename_i hc
      rw [hc] at hcontext
      obtain ⟨t, ht, hcandidates⟩ := ClassGraph.exists_of_mem_superclassNotes hcontext
      obtain ⟨raw, -, hraw⟩ := Option.bind_eq_some_iff.1 ht
      rw [hcandidates]
      refine ⟨nodup_candidatesIn hraw _, _, hA, fun p hp => ?_⟩
      obtain ⟨hp, hreported⟩ := List.mem_filter.1 hp
      obtain ⟨v, hv, rfl⟩ := List.mem_map.1 ((contains_graphOf p).1 hreported)
      exact ⟨_, (get?_classesOf _ hn _ _).2 ⟨v, hv, rfl, rfl⟩, one_le_noc _ hu hv ht hp⟩
    · rename_i hc
      rw [hc] at hcontext
      obtain ⟨d, hd, hcandidates⟩ := ClassGraph.exists_of_mem_dependencyNotes hcontext
      obtain ⟨raw, -, hraw⟩ := ClassFacts.exists_reference hd
      rw [hcandidates]
      refine ⟨nodup_targetsOf hraw _, _, hA, fun b hb hne => ?_⟩
      exact (mem_dependenciesOut _ hn hu b).2 ⟨hne.symm, d, hd, hb⟩

namespace Family

def farBase : ClassFacts where
  path := "s/Base.java"
  package := some "s"
  name := "Base"

def stray : ClassFacts where
  path := "p/Stray.java"
  package := some "p"
  name := "Stray"
  imports := [⟨"q", false, true, 2⟩, ⟨"s", false, true, 3⟩]
  superclass := some "Base"

def openBase : TypeRef := .ambiguous "Base" ["p.Base", "q.Base", "s.Base"]

def strayNote (context : AmbiguityContext) : AmbiguityNote :=
  ⟨"p.Stray", "Base", ["q.Base", "s.Base"], context⟩

def strays : List ClassFacts := [stray, otherBase, farBase]

theorem stray_refs : stray.superclassRef = some openBase ∧
    stray.dependencies = [⟨stray.qualifiedName, openBase⟩] := by
  decide +kernel

theorem candidatesIn_strays : (graphOf strays).contains openBase.primary = false ∧
    (graphOf strays).candidatesIn openBase = ["q.Base", "s.Base"] := by
  decide +kernel

theorem nodup_names_strays : (strays.map (·.qualifiedName)).Nodup := by decide

theorem run_strays : run {} [.ok farBase, .ok otherBase, .ok stray] {} =
    .ok (report {} {} 3 [] [] strays) :=
  run_of_path_order Sample.validate_default rfl (by simp [strays]) (by decide) nodup_names_strays
    (by decide) (by decide) rfl

end Family

/-- The superclass of the stray is noted twice, as such and as a dependency, since the class it is
known by is missing. -/
theorem ambiguities_of_strays : ∃ r A B,
    run {} [.ok Family.farBase, .ok Family.otherBase, .ok Family.stray] {} = .ok r ∧
    r.class? "p.Stray" = some A ∧ r.class? "s.Base" = some B ∧
    r.notesOn "p.Stray" .superclass = [Family.strayNote .superclass] ∧
    r.notesOn "p.Stray" .dependency = [Family.strayNote .dependency] ∧
    1 ≤ B.metrics.noc ∧ "s.Base" ∈ A.metrics.dependenciesOut := by
  have hn := Family.nodup_names_strays
  have hA := (get?_classesOf {} hn _ _).2 ⟨Family.stray, List.mem_cons_self, rfl, rfl⟩
  obtain ⟨hexact, hcounted⟩ := ambiguities_of_run rfl Family.run_strays
  obtain ⟨first, hfirst, hname, hsuper, hdep⟩ := hexact _ _ hA
  have hstray : IsFirst (units [.ok Family.farBase, .ok Family.otherBase, .ok Family.stray])
      (Family.stray, 2) := by decide
  obtain rfl := hfirst.eq_of_name hstray hname
  simp only [candidatesOf_report _ _ _ _ _ hn, report_classes, contains_classesOf_eq _ hn,
    classReport_dependencies, Family.stray_refs] at hsuper hdep
  have hsuperNote : _ = [Family.strayNote .superclass] :=
    hsuper.trans (by simp [Family.candidatesIn_strays]; rfl)
  have hdepNote : _ = [Family.strayNote .dependency] :=
    hdep.trans (by simp [Family.candidatesIn_strays]; rfl)
  -- Both notes list the base class of the last package.
  have hfar : ∀ context, "s.Base" ∈ (Family.strayNote context).candidates := by
    simp [Family.strayNote]
  have hlisted : ∀ {context}, (report {} {} 3 [] [] Family.strays).notesOn "p.Stray" context =
      [Family.strayNote context] → Family.strayNote context ∈
        (report {} {} 3 [] [] Family.strays).ambiguities := fun h =>
    List.mem_of_mem_filter (h ▸ List.mem_singleton_self _)
  obtain ⟨-, _, -, hparents⟩ := hcounted _ (hlisted hsuperNote)
  obtain ⟨B, hB, hnoc⟩ := hparents _ (hfar .superclass)
  obtain ⟨-, A, hA, hout⟩ := hcounted _ (hlisted hdepNote)
  exact ⟨_, A, B, Family.run_strays, hA, hB, hsuperNote, hdepNote, hnoc,
    hout _ (hfar .dependency) (by decide)⟩

end Batch

end JavaMetrics

import Mathlib.Data.List.Perm.Subperm
import JavaMetrics.Proofs.Children
import JavaMetrics.Proofs.Neighbours

set_option autoImplicit false

namespace JavaMetrics

namespace ClassGraph

variable {g larger : ClassGraph}

theorem mem_targetsOf_of_larger
    (hsub : ∀ n, g.contains n = true → larger.contains n = true) {t : TypeRef} {b : String}
    (hb : g.contains b = true) (h : b ∈ larger.targetsOf t) : b ∈ g.targetsOf t := by
  rw [mem_targetsOf] at *
  by_cases hp : larger.contains t.primary = true
  · rw [if_pos hp] at h
    subst h
    rw [if_pos hb]
  · rw [if_neg hp] at h
    rw [if_neg fun hg => hp (hsub _ hg)]
    exact ⟨h.1, hb⟩

/-- A target is lost only to the first candidate of an ambiguous reference. -/
theorem ambiguous_of_lost_target
    (hsub : ∀ n, g.contains n = true → larger.contains n = true) {t : TypeRef} {b : String}
    (h : b ∈ g.targetsOf t) (hlost : b ∉ larger.targetsOf t) :
    t.isAmbiguous = true ∧ b ∈ t.candidates ∧ larger.contains t.primary = true ∧
      g.contains t.primary = false := by
  rw [mem_targetsOf] at *
  by_cases hp : g.contains t.primary = true
  · rw [if_pos hp] at h
    rw [if_pos (hsub _ hp)] at hlost
    exact absurd h hlost
  · rw [if_neg hp] at h
    -- Among all candidates `b` cannot be lost, so the larger graph prefers the first of them.
    by_cases hp' : larger.contains t.primary = true
    · refine ⟨?_, h.1, hp', Bool.not_eq_true _ ▸ hp⟩
      cases t with
      | resolved n =>
        rw [List.mem_singleton.1 h.1] at h
        exact absurd h.2 hp
      | ambiguous s cs => rfl
    · rw [if_neg hp'] at hlost
      exact absurd ⟨h.1, hsub _ h.2⟩ hlost

end ClassGraph

namespace Batch

/-- Classes join a batch at any places, under names that are not among `names`. -/
inductive Joins (names : List String) : List BatchItem → List BatchItem → Prop
  | nil : Joins names [] []
  | keep {items larger : List BatchItem} (item : BatchItem) (h : Joins names items larger) :
    Joins names (item :: items) (item :: larger)
  | add {items larger : List BatchItem} (u : ClassFacts) (hu : u.qualifiedName ∉ names)
    (h : Joins names items larger) : Joins names items (.ok u :: larger)

def Grows (items larger : List BatchItem) : Prop :=
  Joins ((units items).map (·.qualifiedName)) items larger

variable {config : Config} {items larger : List BatchItem}

theorem units_of_joins {names : List String} (h : Joins names items larger)
    (hnames : ∀ u ∈ units items, u.qualifiedName ∈ names) :
    units items = (units larger).filter fun u => decide (u.qualifiedName ∈ names) := by
  induction h with
  | nil => rfl
  | keep item h ih =>
    cases item with
    | error e => exact ih hnames
    | ok u =>
      change u :: units _ = List.filter _ (u :: units _)
      have hu : u.qualifiedName ∈ names := hnames u List.mem_cons_self
      rw [List.filter_cons_of_pos (by simpa using hu),
        ih fun v hv => hnames v (List.mem_cons_of_mem u hv)]
  | add u hu h ih =>
    change units _ = List.filter _ (u :: units _)
    rw [List.filter_cons_of_neg (by simpa using hu), ih hnames]

theorem find?_inPathOrder_of_grows (h : Grows items larger) {name : String}
    (hname : name ∈ (units items).map (·.qualifiedName)) :
    (inPathOrder (units larger)).find? (·.qualifiedName == name) =
      (inPathOrder (units items)).find? (·.qualifiedName == name) := by
  have hold := units_of_joins h fun u hu => List.mem_map_of_mem hu
  generalize (units items).map (·.qualifiedName) = names at hname hold
  rw [hold, ← filter_inPathOrder, List.find?_filter]
  -- Both tests agree: a class with this name has an old name.
  congr 1
  funext u
  by_cases hu : u.qualifiedName = name
  · simp [hu, hname]
  · simp [hu]

theorem name_of_mem_choice {u : ClassFacts} (hu : u ∈ (choice items).1) :
    u.qualifiedName ∈ (units items).map (·.qualifiedName) := by
  obtain ⟨place, hfirst⟩ := (mem_choose_iff_isFirst _ u).1 hu
  exact List.mem_map_of_mem (List.fst_mem_of_mem_zipIdx hfirst.1)

theorem choice_subset_of_grows (h : Grows items larger) : (choice items).1 ⊆ (choice larger).1 := by
  intro u hu
  have hfind := find?_inPathOrder_of_grows h (name_of_mem_choice hu)
  rw [choice, mem_choose_iff] at *
  rw [hfind]
  exact hu

theorem contains_graphOf_mono {chosen more : List ClassFacts} (h : chosen ⊆ more) (name : String)
    (hc : (graphOf chosen).contains name = true) : (graphOf more).contains name = true := by
  rw [contains_graphOf] at *
  exact List.map_subset _ h hc

theorem countP_parents_mono {chosen more : List ClassFacts}
    (hn : (chosen.map (·.qualifiedName)).Nodup) (h : chosen ⊆ more) (p : String) :
    (chosen.countP fun u => decide (p ∈ u.parents)) ≤
      more.countP fun u => decide (p ∈ u.parents) :=
  (List.subperm_of_subset (List.Nodup.of_map _ hn) h).countP_le _

attribute [local irreducible] ClassFacts.dependencies

/-- When classes with new names join a batch, the old ones stay as they are and lose no child. No dependency
between them appears, and one disappears only if it stood in for a class that has joined. -/
theorem growth_of_runs {revision revision' : Revision} {expired expired' : Nat → Bool}
    {r r' : Report} (hl : config.timeoutSecs = none) (hg : Grows items larger)
    (h : run config items revision expired = .ok r)
    (h' : run config larger revision' expired' = .ok r') :
    ∀ a A b B, r.class? a = some A → r.class? b = some B →
      ∃ A' B', r'.class? a = some A' ∧ r'.class? b = some B' ∧
        A'.dependencies = A.dependencies ∧ B.metrics.noc ≤ B'.metrics.noc ∧
        (b ∈ A.metrics.dependenciesOut → b ∉ A'.metrics.dependenciesOut →
          ∃ d ∈ A.dependencies, d.target.isAmbiguous = true ∧ b ∈ d.target.candidates ∧
            r'.classes.contains d.target.primary = true ∧
            r.classes.contains d.target.primary = false) ∧
        (b ∈ A'.metrics.dependenciesOut → b ∈ A.metrics.dependenciesOut) := by
  obtain rfl := eq_report_of_run hl h
  obtain rfl := eq_report_of_run hl h'
  have hn := nodup_names_choice items
  have hn' := nodup_names_choice larger
  have hsub := choice_subset_of_grows hg
  intro a A b B hA hB
  obtain ⟨u, hu, rfl, rfl⟩ := (get?_classesOf _ hn a A).1 hA
  obtain ⟨v, hv, rfl, rfl⟩ := (get?_classesOf _ hn b B).1 hB
  refine ⟨classReport _ _ u, classReport _ _ v,
    (get?_classesOf _ hn' _ _).2 ⟨u, hsub hu, rfl, rfl⟩,
    (get?_classesOf _ hn' _ _).2 ⟨v, hsub hv, rfl, rfl⟩, rfl, ?_, ?_, ?_⟩
  · rw [noc_classReport _ hv, noc_classReport _ (hsub hv)]
    exact countP_parents_mono hn hsub _
  · rw [mem_dependenciesOut _ hn hu, mem_dependenciesOut _ hn' (hsub hu)]
    rintro ⟨hne, d, hd, hb⟩ hout
    have hlost : v.qualifiedName ∉ (graphOf (choice larger).1).targetsOf d.target :=
      fun hb' => hout ⟨hne, d, hd, hb'⟩
    refine ⟨d, hd, ?_⟩
    rw [report_classes, report_classes, contains_classesOf_eq _ hn, contains_classesOf_eq _ hn']
    exact ClassGraph.ambiguous_of_lost_target (contains_graphOf_mono hsub) hb hlost
  · rw [mem_dependenciesOut _ hn hu, mem_dependenciesOut _ hn' (hsub hu)]
    rintro ⟨hne, d, hd, hb⟩
    have hold : (graphOf (choice items).1).contains v.qualifiedName = true :=
      (contains_graphOf _).2 (List.mem_map_of_mem hv)
    exact ⟨hne, d, hd, ClassGraph.mem_targetsOf_of_larger (contains_graphOf_mono hsub) hold hb⟩

namespace Family

def remote : List BatchItem := [.ok otherBase, .ok child]

theorem grows_remote : Grows remote batch :=
  .keep _ (.add base (by decide) (.keep _ .nil))

theorem nodup_names_remote : ([child, otherBase].map (·.qualifiedName)).Nodup := by decide

theorem run_remote : run {} remote {} = .ok (report {} {} 2 [] [] [child, otherBase]) :=
  run_of_path_order Sample.validate_default rfl (by simp) (by decide) nodup_names_remote (by decide)
    (by decide) rfl

theorem outgoing_child :
    (graphOf [child, otherBase]).outgoing "p.Child" = ["q.Base"] ∧
      (graphOf [base, child, otherBase]).outgoing "p.Child" = ["p.Base"] := by
  decide +kernel

end Family

/-- The child stands in for its own package's base class with the other one, until the base joins. -/
theorem growth_of_family : ∃ r r' A A', run {} Family.remote {} = .ok r ∧
    run {} Family.batch {} = .ok r' ∧ r.class? "p.Child" = some A ∧ r'.class? "p.Child" = some A' ∧
    "q.Base" ∈ A.metrics.dependenciesOut ∧ "q.Base" ∉ A'.metrics.dependenciesOut ∧
    ∃ d ∈ A.dependencies, d.target.isAmbiguous = true ∧ "q.Base" ∈ d.target.candidates ∧
      r'.classes.contains d.target.primary = true ∧
      r.classes.contains d.target.primary = false := by
  have hn := Family.nodup_names_remote
  have hA := (get?_classesOf {} hn _ _).2 ⟨Family.child, List.mem_cons_self, rfl, rfl⟩
  have hB := (get?_classesOf {} hn _ _).2
    ⟨Family.otherBase, List.mem_cons_of_mem _ List.mem_cons_self, rfl, rfl⟩
  obtain ⟨A', -, hA', -, -, -, hlost, -⟩ :=
    growth_of_runs rfl Family.grows_remote Family.run_remote Family.run_batch _ _ _ _ hA hB
  have hbefore : "q.Base" ∈ (graphOf [Family.child, Family.otherBase]).outgoing "p.Child" := by
    rw [Family.outgoing_child.1]
    exact List.mem_singleton_self _
  have hafter : "q.Base" ∉ A'.metrics.dependenciesOut := by
    obtain rfl := Option.some.inj ((Family.class?_of_mem (u := Family.child) (by simp)).symm.trans hA')
    change "q.Base" ∉ (graphOf [Family.base, Family.child, Family.otherBase]).outgoing "p.Child"
    rw [Family.outgoing_child.2]
    decide
  exact ⟨_, _, _, A', Family.run_remote, Family.run_batch, hA, hA', hbefore, hafter,
    hlost hbefore hafter⟩

end Batch

end JavaMetrics

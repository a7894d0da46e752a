import JavaMetrics.Coupling.Project
import JavaMetrics.Proofs.Dict

set_option autoImplicit false

namespace JavaMetrics

namespace ClassGraph

theorem contains_iff (g : ClassGraph) (n : String) : g.contains n = true ↔ n ∈ g.classes :=
  List.contains_iff_mem

theorem contains_congr {g h : ClassGraph} (hc : g.classes = h.classes) :
    g.contains = h.contains := by
  funext n
  rw [contains, contains, hc]

theorem contains_ofNames (names : List String) (n : String) :
    (ofNames names).contains n = true ↔ n ∈ names := by
  rw [contains_iff, ofNames, mem_foldl_new]
  simp

theorem admits_iff (g : ClassGraph) (a b : String) :
    g.admits a b = true ↔ g.contains a = true ∧ g.contains b = true ∧ a ≠ b ∧ (a, b) ∉ g.edges := by
  simp only [admits, Bool.and_eq_true, bne_iff_ne, Bool.not_eq_true', ne_eq,
    ← Bool.not_eq_true, List.contains_iff_mem, and_assoc]

@[simp] theorem add_classes (g : ClassGraph) (a b : String) : (g.add a b).classes = g.classes := by
  unfold add
  split <;> rfl

theorem mem_edges_add (g : ClassGraph) (a b : String) (e : String × String) :
    e ∈ (g.add a b).edges ↔
      e ∈ g.edges ∨ e = (a, b) ∧ g.contains a = true ∧ g.contains b = true ∧ a ≠ b := by
  unfold add
  split
  · rename_i h
    obtain ⟨ha, hb, hab, -⟩ := (g.admits_iff a b).1 h
    simp [ha, hb, hab]
  · rename_i h
    constructor
    · exact .inl
    · rintro (he | ⟨rfl, ha, hb, hab⟩)
      · exact he
      · -- The edge was refused although its ends fit, so it was there already.
        by_cases he : (a, b) ∈ g.edges
        · exact he
        · exact absurd ((g.admits_iff a b).2 ⟨ha, hb, hab, he⟩) h

theorem foldl_add_classes (g : ClassGraph) (a : String) (targets : List String) :
    (targets.foldl (fun g t => g.add a t) g).classes = g.classes := by
  induction targets generalizing g with
  | nil => rfl
  | cons t rest ih => rw [List.foldl_cons, ih, add_classes]

theorem mem_edges_foldl_add (g : ClassGraph) (a : String) (targets : List String)
    (e : String × String) :
    e ∈ (targets.foldl (fun g t => g.add a t) g).edges ↔
      e ∈ g.edges ∨ e.1 = a ∧ e.2 ∈ targets ∧ g.contains a = true ∧ g.contains e.2 = true ∧
        a ≠ e.2 := by
  induction targets generalizing g with
  | nil => simp
  | cons t rest ih =>
    obtain ⟨x, y⟩ := e
    rw [List.foldl_cons, ih, mem_edges_add, contains_congr (g.add_classes a t)]
    simp only [List.mem_cons, Prod.mk.injEq]
    constructor
    · rintro ((h | ⟨⟨rfl, rfl⟩, h⟩) | ⟨rfl, hy, h⟩)
      · exact .inl h
      · exact .inr ⟨rfl, .inl rfl, h⟩
      · exact .inr ⟨rfl, .inr hy, h⟩
    · rintro (h | ⟨rfl, rfl | hy, h⟩)
      · exact .inl (.inl h)
      · exact .inl (.inr ⟨⟨rfl, rfl⟩, h⟩)
      · exact .inr ⟨rfl, hy, h⟩

/-- No vertex and no edge is there twice, and every edge joins two different vertices. -/
structure Simple (g : ClassGraph) : Prop where
  nodup_classes : g.classes.Nodup
  nodup_edges : g.edges.Nodup
  joins : ∀ e ∈ g.edges, e.1 ∈ g.classes ∧ e.2 ∈ g.classes ∧ e.1 ≠ e.2

theorem simple_ofNames (names : List String) : (ofNames names).Simple where
  nodup_classes := nodup_foldl_new names List.nodup_nil
  nodup_edges := List.nodup_nil
  joins := fun _ h => absurd h List.not_mem_nil

theorem Simple.add {g : ClassGraph} (h : g.Simple) (a b : String) : (g.add a b).Simple := by
  unfold ClassGraph.add
  split
  · rename_i hadmits
    obtain ⟨ha, hb, hne, hnew⟩ := (g.admits_iff a b).1 hadmits
    refine ⟨h.nodup_classes, ?_, ?_⟩
    · -- This is where a dependency that is there already would do harm.
      rw [← List.concat_eq_append]
      exact h.nodup_edges.concat hnew
    · intro e he
      rcases List.mem_append.1 he with he | he
      · exact h.joins e he
      · rw [List.mem_singleton.1 he]
        exact ⟨(g.contains_iff a).1 ha, (g.contains_iff b).1 hb, hne⟩
  · exact h

theorem Simple.foldl_add {g : ClassGraph} (h : g.Simple) (a : String) (targets : List String) :
    (targets.foldl (fun g t => g.add a t) g).Simple := by
  induction targets generalizing g with
  | nil => exact h
  | cons t rest ih => exact ih (h.add a t)

theorem mem_neighbours (g : ClassGraph) (near far : String × String → String) (n m : String) :
    m ∈ g.neighbours near far n ↔ ∃ e ∈ g.edges, near e = n ∧ far e = m := by
  simp only [neighbours, List.mem_mergeSort, List.mem_map, List.mem_filter, beq_iff_eq, and_assoc]

theorem mem_outgoing (g : ClassGraph) (a b : String) : b ∈ g.outgoing a ↔ (a, b) ∈ g.edges := by
  rw [outgoing, mem_neighbours]
  constructor
  · rintro ⟨⟨x, y⟩, h, rfl, rfl⟩
    exact h
  · intro h
    exact ⟨(a, b), h, rfl, rfl⟩

theorem mem_incoming (g : ClassGraph) (a b : String) : a ∈ g.incoming b ↔ (a, b) ∈ g.edges := by
  rw [incoming, mem_neighbours]
  constructor
  · rintro ⟨⟨x, y⟩, h, rfl, rfl⟩
    exact h
  · intro h
    exact ⟨(a, b), h, rfl, rfl⟩

/-- Without parallel edges no neighbour is there twice. -/
theorem Simple.pairwise_neighbours {g : ClassGraph} (h : g.Simple)
    {near far : String × String → String} (hends : ∀ e f, near e = near f → far e = far f → e = f)
    (n : String) : (g.neighbours near far n).Pairwise (· < ·) := by
  refine pairwise_lt_mergeSort ((h.nodup_edges.filter _).map_on ?_)
  intro e he f hf hfar
  simp only [List.mem_filter, beq_iff_eq] at he hf
  exact hends e f (he.2.trans hf.2.symm) hfar

theorem Simple.pairwise_outgoing {g : ClassGraph} (h : g.Simple) (n : String) :
    (g.outgoing n).Pairwise (· < ·) :=
  h.pairwise_neighbours (fun _ _ => Prod.ext) n

theorem Simple.pairwise_incoming {g : ClassGraph} (h : g.Simple) (n : String) :
    (g.incoming n).Pairwise (· < ·) :=
  h.pairwise_neighbours (fun _ _ hnear hfar => Prod.ext hfar hnear) n

theorem targetsOf_of_contains {g h : ClassGraph} (hc : g.contains = h.contains) (t : TypeRef) :
    g.targetsOf t = h.targetsOf t := by
  rw [targetsOf, targetsOf, candidatesIn, candidatesIn, hc]

theorem targetsOf_congr {g h : ClassGraph} (hc : g.classes = h.classes) (t : TypeRef) :
    g.targetsOf t = h.targetsOf t :=
  targetsOf_of_contains (contains_congr hc) t

theorem mem_targetsOf (g : ClassGraph) (t : TypeRef) (b : String) :
    b ∈ g.targetsOf t ↔
      if g.contains t.primary = true then b = t.primary
      else b ∈ t.candidates ∧ g.contains b = true := by
  unfold targetsOf candidatesIn
  split <;> simp [List.mem_filter]

theorem contains_of_mem_targetsOf {g : ClassGraph} {t : TypeRef} {b : String}
    (h : b ∈ g.targetsOf t) : g.contains b = true := by
  rw [mem_targetsOf] at h
  split at h
  · rename_i hp
    rw [h]
    exact hp
  · exact h.2

end ClassGraph

namespace ProjectMetrics

open ClassGraph

@[simp] theorem addSuperclass_graph (m : ProjectMetrics) (name : String) (t : TypeRef) :
    (m.addSuperclass name t).graph = m.graph := rfl

@[simp] theorem addDependency_classes (m : ProjectMetrics) (name : String) (d : Dependency) :
    (m.addDependency name d).graph.classes = m.graph.classes :=
  foldl_add_classes _ _ _

theorem mem_edges_addDependency (m : ProjectMetrics) (name : String) (d : Dependency)
    (e : String × String) :
    e ∈ (m.addDependency name d).graph.edges ↔
      e ∈ m.graph.edges ∨ e.1 = name ∧ e.1 ≠ e.2 ∧ m.graph.contains name = true ∧
        e.2 ∈ m.graph.targetsOf d.target := by
  change e ∈ (List.foldl _ m.graph (m.graph.targetsOf d.target)).edges ↔ _
  rw [mem_edges_foldl_add]
  constructor
  · rintro (h | ⟨rfl, ht, hn, -, hne⟩)
    · exact .inl h
    · exact .inr ⟨rfl, hne, hn, ht⟩
  · rintro (h | ⟨rfl, hne, hn, ht⟩)
    · exact .inl h
    · exact .inr ⟨rfl, ht, hn, contains_of_mem_targetsOf ht, hne⟩

theorem foldl_addDependency_classes (m : ProjectMetrics) (name : String) (ds : List Dependency) :
    (ds.foldl (fun m d => m.addDependency name d) m).graph.classes = m.graph.classes := by
  induction ds generalizing m with
  | nil => rfl
  | cons d rest ih => rw [List.foldl_cons, ih, addDependency_classes]

theorem mem_edges_foldl_addDependency (m : ProjectMetrics) (name : String) (ds : List Dependency)
    (e : String × String) :
    e ∈ (ds.foldl (fun m d => m.addDependency name d) m).graph.edges ↔
      e ∈ m.graph.edges ∨ e.1 = name ∧ e.1 ≠ e.2 ∧ m.graph.contains name = true ∧
        ∃ d ∈ ds, e.2 ∈ m.graph.targetsOf d.target := by
  induction ds generalizing m with
  | nil => simp
  | cons d rest ih =>
    have hc := addDependency_classes m name d
    rw [List.foldl_cons, ih, mem_edges_addDependency, contains_congr hc]
    simp only [targetsOf_congr hc]
    constructor
    · rintro ((h | ⟨h₁, h₂, h₃, h₄⟩) | ⟨h₁, h₂, h₃, d', hd', h₄⟩)
      · exact .inl h
      · exact .inr ⟨h₁, h₂, h₃, d, List.mem_cons_self, h₄⟩
      · exact .inr ⟨h₁, h₂, h₃, d', List.mem_cons_of_mem _ hd', h₄⟩
    · rintro (h | ⟨h₁, h₂, h₃, d', hd', h₄⟩)
      · exact .inl (.inl h)
      · rcases List.mem_cons.1 hd' with rfl | hd'
        · exact .inl (.inr ⟨h₁, h₂, h₃, h₄⟩)
        · exact .inr ⟨h₁, h₂, h₃, d', hd', h₄⟩

theorem addClass_classes (m : ProjectMetrics) (c : ClassLinks) :
    (m.addClass c).graph.classes = m.graph.classes := by
  unfold addClass
  rw [foldl_addDependency_classes]
  cases c.superclass <;> rfl

theorem mem_edges_addClass (m : ProjectMetrics) (c : ClassLinks) (e : String × String) :
    e ∈ (m.addClass c).graph.edges ↔
      e ∈ m.graph.edges ∨ e.1 = c.name ∧ e.1 ≠ e.2 ∧ m.graph.contains c.name = true ∧
        ∃ d ∈ c.dependencies, e.2 ∈ m.graph.targetsOf d.target := by
  unfold addClass
  rw [mem_edges_foldl_addDependency]
  cases c.superclass <;> rfl

theorem foldl_addClass_classes (cs : List ClassLinks) (m : ProjectMetrics) :
    (cs.foldl addClass m).graph.classes = m.graph.classes := by
  induction cs generalizing m with
  | nil => rfl
  | cons c rest ih => rw [List.foldl_cons, ih, addClass_classes]

/-- The edges after a run over classes: the old ones and those the classes ask for. -/
theorem mem_edges_foldl_addClass (cs : List ClassLinks) (m : ProjectMetrics)
    (e : String × String) :
    e ∈ (cs.foldl addClass m).graph.edges ↔
      e ∈ m.graph.edges ∨ e.1 ≠ e.2 ∧ m.graph.contains e.1 = true ∧
        ∃ c ∈ cs, c.name = e.1 ∧ ∃ d ∈ c.dependencies, e.2 ∈ m.graph.targetsOf d.target := by
  induction cs generalizing m with
  | nil => simp
  | cons c rest ih =>
    have hc := addClass_classes m c
    rw [List.foldl_cons, ih, mem_edges_addClass, contains_congr hc]
    simp only [targetsOf_congr hc]
    constructor
    · rintro ((h | ⟨h₁, h₂, h₃, h₄⟩) | ⟨h₁, h₂, c', hc', h₃⟩)
      · exact .inl h
      · exact .inr ⟨h₂, h₁ ▸ h₃, c, List.mem_cons_self, h₁.symm, h₄⟩
      · exact .inr ⟨h₁, h₂, c', List.mem_cons_of_mem _ hc', h₃⟩
    · rintro (h | ⟨h₁, h₂, c', hc', h₃, h₄⟩)
      · exact .inl (.inl h)
      · rcases List.mem_cons.1 hc' with rfl | hc'
        · exact .inl (.inr ⟨h₃.symm, h₁, h₃ ▸ h₂, h₄⟩)
        · exact .inr ⟨h₁, h₂, c', hc', h₃, h₄⟩

theorem contains_ofLinks (cs : List ClassLinks) (n : String) :
    (ofLinks cs).graph.contains n = true ↔ n ∈ cs.map (·.name) := by
  rw [contains_iff, ofLinks, foldl_addClass_classes, ← contains_iff, contains_ofNames]

theorem mem_edges_ofLinks (cs : List ClassLinks) (a b : String) :
    (a, b) ∈ (ofLinks cs).graph.edges ↔
      a ≠ b ∧ ∃ c ∈ cs, c.name = a ∧
        ∃ d ∈ c.dependencies, b ∈ (ofLinks cs).graph.targetsOf d.target := by
  have hc : (ofLinks cs).graph.classes = (ClassGraph.ofNames (cs.map (·.name))).classes :=
    foldl_addClass_classes cs _
  simp only [targetsOf_congr hc]
  rw [ofLinks, mem_edges_foldl_addClass]
  constructor
  · rintro (h | ⟨hab, -, h⟩)
    · exact absurd h List.not_mem_nil
    · exact ⟨hab, h⟩
  · rintro ⟨hab, c, hc, rfl, h⟩
    refine .inr ⟨hab, ?_, c, hc, rfl, h⟩
    exact (contains_ofNames _ _).2 (List.mem_map_of_mem hc)

theorem simple_foldl_addDependency {m : ProjectMetrics} (h : m.graph.Simple) (name : String)
    (ds : List Dependency) : (ds.foldl (fun m d => m.addDependency name d) m).graph.Simple := by
  induction ds generalizing m with
  | nil => exact h
  | cons d rest ih => exact ih (h.foldl_add name (m.graph.targetsOf d.target))

theorem simple_addClass {m : ProjectMetrics} (h : m.graph.Simple) (c : ClassLinks) :
    (m.addClass c).graph.Simple := by
  refine simple_foldl_addDependency ?_ c.name c.dependencies
  cases c.superclass <;> exact h

theorem simple_foldl_addClass {m : ProjectMetrics} (h : m.graph.Simple) (cs : List ClassLinks) :
    (cs.foldl addClass m).graph.Simple := by
  induction cs generalizing m with
  | nil => exact h
  | cons c rest ih => exact ih (simple_addClass h c)

/-- The graph of a project has no parallel edges and no loops. -/
theorem simple_ofLinks (cs : List ClassLinks) : (ofLinks cs).graph.Simple :=
  simple_foldl_addClass (simple_ofNames _) cs

end ProjectMetrics

end JavaMetrics

import Mathlib.Algebra.BigOperators.Group.List.Basic
import JavaMetrics.Proofs.Ambiguities

/-!
The order of the classes of a project does not matter. While the classes are added one after the other
the vertices of the graph stay the same, so a class brings the same children, edges and notes
wherever it stands; children add up, edges are there or not, and only the notes keep the order.
-/

set_option autoImplicit false

namespace JavaMetrics

namespace ClassGraph

theorem neighbours_of_edges {g h : ClassGraph} (hg : g.Simple) (hh : h.Simple)
    (he : ∀ e, e ∈ g.edges ↔ e ∈ h.edges) {near far : String × String → String}
    (hends : ∀ e f, near e = near f → far e = far f → e = f) (n : String) :
    g.neighbours near far n = h.neighbours near far n := by
  apply eq_of_ascending id (hg.pairwise_neighbours hends n) (hh.pairwise_neighbours hends n)
  intro m
  simp only [mem_neighbours, he]

end ClassGraph

namespace ProjectMetrics

open ClassGraph

variable {cs ds : List ClassLinks}

section Perm

variable (h : cs.Perm ds)

include h

theorem children_of_perm : (ofLinks cs).children = (ofLinks ds).children := by
  apply Dict.eq_of_get?
  intro n
  have hmem : n ∈ cs.map (·.name) ↔ n ∈ ds.map (·.name) := (h.map _).mem_iff
  have hsum : (cs.map (·.parents.count n)).sum = (ds.map (·.parents.count n)).sum := (h.map _).sum_eq
  simp only [get?_children_ofLinks, hmem, hsum]

theorem contains_of_perm : (ofLinks cs).graph.contains = (ofLinks ds).graph.contains := by
  funext n
  rw [Bool.eq_iff_iff, contains_ofLinks, contains_ofLinks]
  exact (h.map _).mem_iff

theorem classes_perm : (ofLinks cs).graph.classes.Perm (ofLinks ds).graph.classes := by
  refine (List.perm_ext_iff_of_nodup (simple_ofLinks cs).nodup_classes
    (simple_ofLinks ds).nodup_classes).2 fun n => ?_
  rw [← contains_iff, ← contains_iff, contains_of_perm h]

theorem mem_edges_of_perm (e : String × String) :
    e ∈ (ofLinks cs).graph.edges ↔ e ∈ (ofLinks ds).graph.edges := by
  obtain ⟨a, b⟩ := e
  rw [mem_edges_ofLinks, mem_edges_ofLinks]
  simp only [targetsOf_of_contains (contains_of_perm h), h.mem_iff]

theorem ambiguities_perm : (ofLinks cs).ambiguities.Perm (ofLinks ds).ambiguities := by
  rw [ambiguities_ofLinks, ambiguities_ofLinks, notesOf_of_contains (contains_of_perm h)]
  exact h.flatMap_right _

end Perm

/-- What a project makes of its classes, in whatever order they come. -/
theorem ofLinks_of_perm (h : cs.Perm ds) :
    (ofLinks cs).children = (ofLinks ds).children ∧
    (ofLinks cs).graph.classes.Perm (ofLinks ds).graph.classes ∧
    (∀ n, (ofLinks cs).graph.incoming n = (ofLinks ds).graph.incoming n ∧
      (ofLinks cs).graph.outgoing n = (ofLinks ds).graph.outgoing n) ∧
    (ofLinks cs).ambiguities.Perm (ofLinks ds).ambiguities := by
  refine ⟨children_of_perm h, classes_perm h, fun n => ?_, ambiguities_perm h⟩
  have hsame {near far : String × String → String} :=
    @neighbours_of_edges _ _ (simple_ofLinks cs) (simple_ofLinks ds) (mem_edges_of_perm h) near far
  exact ⟨hsame (fun _ _ hnear hfar => Prod.ext hfar hnear) n, hsame (fun _ _ => Prod.ext) n⟩

namespace Sample

/-- Two classes of one name, a superclass and a dependency that stand for two classes each. -/
def kin : List ClassLinks :=
  [⟨"p.Child", some (.ambiguous "Base" ["p.Base", "q.Base"]),
      [⟨"p.Child", .ambiguous "Tool" ["p.Tool", "q.Base", "p.Base"]⟩]⟩,
    ⟨"p.Base", none, [⟨"p.Base", .resolved "q.Base"⟩]⟩,
    ⟨"q.Base", none, []⟩,
    ⟨"p.Base", some (.resolved "p.Child"), []⟩]

theorem outgoing_kin : (ofLinks kin).graph.outgoing "p.Child" = ["p.Base", "q.Base"] := by
  have hfar : ((ofLinks kin).graph.edges.filter (·.1 == "p.Child")).map (·.2) =
      ["q.Base", "p.Base"] := by decide
  rw [ClassGraph.outgoing, ClassGraph.neighbours, hfar]
  simp [List.mergeSort, List.MergeSort.Internal.splitInTwo]

end Sample

theorem ofLinks_of_perm_kin :
    (ofLinks Sample.kin.reverse).childrenOf "q.Base" = 1 ∧
    (ofLinks Sample.kin.reverse).graph.outgoing "p.Child" = ["p.Base", "q.Base"] ∧
    (ofLinks Sample.kin.reverse).ambiguities.length = 2 := by
  obtain ⟨hchildren, -, hneighbours, hnotes⟩ := ofLinks_of_perm (List.reverse_perm Sample.kin)
  refine ⟨?_, (hneighbours _).2.trans Sample.outgoing_kin, hnotes.length_eq.trans (by decide)⟩
  rw [childrenOf, hchildren]
  decide

end ProjectMetrics

end JavaMetrics

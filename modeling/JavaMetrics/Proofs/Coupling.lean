import Mathlib.Data.List.Perm.Subperm
import JavaMetrics.Facts.Extract
import JavaMetrics.Metrics.Basic
import JavaMetrics.Proofs.Dependencies
import JavaMetrics.Proofs.Results

set_option autoImplicit false

namespace JavaMetrics

theorem Method.returnType_of_ofNode {src : Text.Source} {fields : List String}
    {components : List Parameter} {n : Node} {m : Method}
    (h : Method.ofNode src fields components n = .ok m) (hn : n.kind ≠ .methodDeclaration) :
    m.returnType = none := by
  unfold Method.ofNode at h
  split at h
  · cases h
  · cases h
    simp [hn]

namespace ClassFacts

def PlainConstructors (u : ClassFacts) : Prop := ∀ c ∈ u.constructors, c.returnType = none

theorem plainConstructors_ofDeclaration {src : Text.Source} {path : String} {root decl : Node}
    {u : ClassFacts} (h : ofDeclaration src path root decl = .ok u) : u.PlainConstructors := by
  unfold ofDeclaration at h
  split at h
  · simp only [bind, Except.bind] at h
    split at h
    · cases h
    · split at h
      · cases h
      · rename_i constructors hconstructors
        cases h
        intro c hc
        obtain ⟨n, hn, hread⟩ := exists_of_mem_mapM hconstructors hc
        refine Method.returnType_of_ofNode hread fun hkind => ?_
        simp [hkind] at hn
  · cases h

theorem plainConstructors_ofTree {src : Text.Source} {path : String} {root : Node}
    {u : ClassFacts} (h : ofTree src path root = .ok u) : u.PlainConstructors := by
  unfold ofTree at h
  split at h
  · exact plainConstructors_ofDeclaration h
  · cases h

/-- Signatures are listed by both, in different orders; only return types of constructors are not. -/
theorem couplingReferences_subset {u : ClassFacts} (h : u.PlainConstructors) :
    u.couplingReferences ⊆ u.references := by
  intro raw hraw
  simp only [couplingReferences, callables, List.mem_append, List.mem_flatMap] at hraw
  simp only [references, List.mem_append, List.mem_flatMap]
  rcases hraw with (hfield | ⟨m, hm | hm, hsignature⟩) | hnew
  · simp [hfield]
  · have hmethod : ∃ m ∈ u.methods, raw ∈ m.returnType.toList ∨ raw ∈ m.parameters.map (·.typeName) :=
      ⟨m, hm, hsignature.symm⟩
    simp only [hmethod, true_or, or_true]
  · have hnone : raw ∉ m.returnType.toList := by simp [h m hm]
    have hconstructor : ∃ m ∈ u.constructors, raw ∈ m.parameters.map (·.typeName) :=
      ⟨m, hm, hsignature.resolve_right hnone⟩
    simp only [hconstructor, true_or, or_true]
  · simp only [hnew, true_or, or_true]

theorem mem_coupledTypes (u : ClassFacts) (name : String) :
    name ∈ u.coupledTypes ↔
      ∃ raw ∈ u.couplingReferences, ∃ t, u.resolve raw = some t ∧ t.primary = name := by
  simp only [coupledTypes, mem_sortedNames, List.mem_map, List.mem_filterMap]
  constructor
  · rintro ⟨t, ⟨raw, hraw, ht⟩, hname⟩
    exact ⟨raw, hraw, t, ht, hname⟩
  · rintro ⟨raw, hraw, t, ht, hname⟩
    exact ⟨t, ⟨raw, hraw, ht⟩, hname⟩

theorem coupledTypes_subset {u : ClassFacts} (h : u.PlainConstructors) :
    u.coupledTypes ⊆ u.dependencies.map (·.target.primary) := by
  intro name hname
  obtain ⟨raw, hraw, t, ht, rfl⟩ := (u.mem_coupledTypes name).1 hname
  obtain ⟨d, hd, hp⟩ := exists_dependency (couplingReferences_subset h hraw) ht
  exact List.mem_map.2 ⟨d, hd, hp⟩

theorem length_coupledTypes_le {u : ClassFacts} (h : u.PlainConstructors) :
    u.coupledTypes.length ≤ u.dependencies.length := by
  have hle := (List.subperm_of_subset (nodup_sortedNames _) (coupledTypes_subset h)).length_le
  rwa [List.length_map] at hle

/-- Every type that a class is coupled to is the target of one of its dependencies. -/
theorem coupling_covered :
    (∀ u : ClassFacts, u.PlainConstructors →
      (∀ name ∈ u.coupledTypes, ∃ d ∈ u.dependencies, d.target.primary = name) ∧
      (ClassMetrics.ofFacts u).cbo ≤ u.dependencies.length) ∧
    ∀ (src : Text.Source) (path : String) (root : Node) (u : ClassFacts),
      ofTree src path root = .ok u → u.PlainConstructors := by
  refine ⟨fun u h => ⟨fun name hname => ?_, length_coupledTypes_le h⟩,
    fun src path root u => plainConstructors_ofTree⟩
  exact List.mem_map.1 (coupledTypes_subset h hname)

namespace Sample

def source : Text.Source := .ofString "class A { A(B b) { } }"

def tree : Node :=
  let parameter : Node := .mk .formalParameter none 12 15
    [.mk .typeIdentifier (some .type) 12 13 [], .mk .identifier (some .name) 14 15 []]
  let constructor : Node := .mk .constructorDeclaration none 10 20
    [.mk .identifier (some .name) 10 11 [],
      .mk .formalParameters (some .parameters) 11 16 [parameter],
      .mk .constructorBody (some .body) 17 20 []]
  .mk .program none 0 22 [.mk .classDeclaration none 0 22
    [.mk .identifier (some .name) 6 7 [], .mk .classBody (some .body) 8 22 [constructor]]]

def facts : ClassFacts where
  path := "A.java"
  name := "A"
  constructors := [{ name := "A", parameters := [⟨"b", "B"⟩], span := ⟨10, 20, 1, 11, 1, 21⟩ }]
  span := ⟨0, 22, 1, 1, 1, 23⟩

theorem ofTree_tree : ofTree source "A.java" tree = .ok facts := rfl

end Sample

theorem coupling_covered_sample : ∃ u, ofTree Sample.source "A.java" Sample.tree = .ok u ∧
    u.PlainConstructors ∧ (ClassMetrics.ofFacts u).cbo = 1 ∧
    (∃ d ∈ u.dependencies, d.target.primary = "B") ∧
    (ClassMetrics.ofFacts u).cbo ≤ u.dependencies.length := by
  have hplain := coupling_covered.2 _ _ _ _ Sample.ofTree_tree
  obtain ⟨hcovered, hle⟩ := coupling_covered.1 Sample.facts hplain
  have hcoupled : Sample.facts.coupledTypes = ["B"] := by decide +kernel
  refine ⟨_, Sample.ofTree_tree, hplain, congrArg List.length hcoupled, hcovered "B" ?_, hle⟩
  rw [hcoupled]
  exact List.mem_singleton_self _

end ClassFacts

end JavaMetrics

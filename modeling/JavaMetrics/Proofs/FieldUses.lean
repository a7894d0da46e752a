import JavaMetrics.Proofs.Bindings
import JavaMetrics.Proofs.LexicalWalk

set_option autoImplicit false

namespace JavaMetrics.Node

section Uses

variable (src : Text.Source) (fields : List String) (parameters : List Parameter) (b : Node)

def ReadsThis (f : String) (p : List Nat) : Prop :=
  ∃ v, Visit.at? ⟨0, none, false, b⟩ p = some v ∧ v.readsThis src f

def ReadsName (f : String) (p : List Nat) : Prop :=
  ∃ v, Visit.at? ⟨0, none, false, b⟩ p = some v ∧ v.readsName src f

instance (f : String) (p : List Nat) : Decidable (b.ReadsName src f p) :=
  decidable_of_iff
    ((Visit.at? ⟨0, none, false, b⟩ p).any (fun v => decide (v.readsName src f)) = true)
    (by simp [ReadsName, Option.any_eq_true])

/-- A field is read through the object, or by its name where the name is not hidden. -/
def UsesField (hidden : List Nat → Prop) (f : String) : Prop :=
  f ∈ fields ∧ ((∃ p, b.ReadsThis src f p) ∨
    ∃ p, b.ReadsName src f p ∧ (∀ a ∈ parameters, a.name ≠ f) ∧ ¬ hidden p)

variable {src fields parameters b}

theorem isDeclared_iff_reached {i : Nat} {p : List Nat} (hp : b.addresses[i]? = some p)
    (x : String) : (b.stateAt src fields parameters none i).isDeclared x = true ↔
      (∃ a ∈ parameters, a.name = x) ∨ b.Reached src x p := by
  rw [isDeclared_stateAt src fields parameters none hp]
  refine or_congr_right ?_
  constructor
  · rintro ⟨j, q, hle, hj, hx, hhome⟩
    refine ⟨q, List.mem_of_getElem? hj, hx, ?_, hhome⟩
    rw [lt_iff_of_getElem? hp hj]
    omega
  · rintro ⟨q, hmem, hx, hlt, hhome⟩
    obtain ⟨j, hj⟩ := List.mem_iff_getElem?.1 hmem
    rw [lt_iff_of_getElem? hp hj] at hlt
    exact ⟨j, q, by omega, hj, hx, hhome⟩

theorem mem_fieldRefs_iff_reached (src : Text.Source) (fields : List String)
    (parameters : List Parameter) (b : Node) (f : String) :
    f ∈ (Body.ofNode src fields parameters (some b)).fieldRefs ↔
      b.UsesField src fields parameters (b.Reached src f) f := by
  have hwalk : (Body.ofNode src fields parameters (some b)).fieldRefs =
      ((Collector.start parameters).walk src fields none b).body.fieldRefs := by
    rw [Body.ofNode_some]
    rfl
  rw [hwalk, mem_fieldRefs_walk, UsesField]
  refine and_congr_right fun _ => ?_
  constructor
  · rintro ⟨i, v, hv, huse⟩
    rw [getElem?_visits] at hv
    obtain ⟨p, hp, hat⟩ := Option.bind_eq_some_iff.1 hv
    rcases huse with hthis | ⟨hname, hfree⟩
    · exact .inl ⟨p, v, hat, hthis⟩
    · have hnot := (isDeclared_iff_reached hp f).not.1 (by simpa using hfree)
      rw [not_or] at hnot
      exact .inr ⟨p, ⟨v, hat, hname⟩, fun a ha heq => hnot.1 ⟨a, ha, heq⟩, hnot.2⟩
  · rintro (⟨p, v, hat, hthis⟩ | ⟨p, ⟨v, hat, hname⟩, hparams, hfree⟩)
    · obtain ⟨i, -, hv⟩ := exists_index hat
      exact ⟨i, v, hv, .inl hthis⟩
    · obtain ⟨i, hi, hv⟩ := exists_index hat
      refine ⟨i, v, hv, .inr ⟨hname, ?_⟩⟩
      rw [← Bool.not_eq_true, isDeclared_iff_reached hi]
      rintro (⟨a, ha, heq⟩ | hreach)
      · exact hparams a ha heq
      · exact hfree hreach

theorem usesField_congr {hidden hidden' : List Nat → Prop} {f : String}
    (h : ∀ p, b.ReadsName src f p → (hidden p ↔ hidden' p)) :
    b.UsesField src fields parameters hidden f ↔ b.UsesField src fields parameters hidden' f := by
  refine and_congr_right fun _ => or_congr_right (exists_congr fun p => and_congr_right ?_)
  intro hread
  rw [h p hread]

/-- The fields in use in a body are those that are read through the object or by a name outside the
scopes and heads of its declarations. The language asks for the scopes alone, those of parameters of
variable arity included; so the two agree on a field that is named in no head and in no scope of such a
parameter. -/
theorem field_uses (src : Text.Source) (fields : List String) (parameters : List Parameter)
    {b : Node} (hb : b.IsBody) (f : String) :
    let used := f ∈ (Body.ofNode src fields parameters (some b)).fieldRefs
    (used ↔ b.UsesField src fields parameters
      (fun p => b.InScope src f p ∨ b.InHead src f p) f) ∧
    ((∀ p, b.ReadsName src f p → ¬ b.InHead src f p ∧ ¬ b.InVariadicScope src f p) →
      (used ↔ b.UsesField src fields parameters
        (fun p => b.InScope src f p ∨ b.InVariadicScope src f p) f)) := by
  intro used
  have hexact : used ↔ b.UsesField src fields parameters
      (fun p => b.InScope src f p ∨ b.InHead src f p) f := by
    refine (mem_fieldRefs_iff_reached src fields parameters b f).trans (usesField_congr ?_)
    rintro p ⟨v, hat, hname⟩
    have hnode := Visit.node_at? ⟨0, none, false, b⟩ p
    rw [hat] at hnode
    exact reached_iff hb hnode.symm hname.1 f
  refine ⟨hexact, fun hplain => hexact.trans (usesField_congr ?_)⟩
  intro p hread
  obtain ⟨hhead, hvariadic⟩ := hplain p hread
  simp [hhead, hvariadic]

end Uses

def isPlain (b : Node) : Bool :=
  b.preorder.all fun n =>
    match n.kind with
    | .classBody | .interfaceBody | .enumBody | .annotationTypeBody | .typePattern
    | .recordPattern => false
    | .instanceofExpression => !(n.children.getLast?.any (·.kind == .identifier))
    | _ => true

namespace Sample

def guarded : Text.Source := .ofString "{try(R f=r){f;}catch(E e){e;}f;}"

def guardedTree : Node := .mk .block none 0 32
  [.token 0,
    .mk .tryWithResourcesStatement none 1 29
      [.token 1 4,
        .mk .resourceSpecification none 4 11
          [.token 4,
            .mk .resource none 5 10
              [.leaf .typeIdentifier (some .type) 5, .leaf .identifier (some .name) 7,
                .token 8, .leaf .identifier none 9],
            .token 10],
        .mk .block none 11 15 [.token 11, use 12, .token 14],
        .mk .catchClause none 15 29
          [.token 15 20, .token 20,
            .mk .catchFormalParameter none 21 24
              [.mk .catchType none 21 22 [.leaf .typeIdentifier none 21],
                .leaf .identifier (some .name) 23],
            .token 24, .mk .block none 25 29 [.token 25, use 26, .token 28]]],
    use 29, .token 31]

def looped : Text.Source := .ofString "class A { int[] f; void g() { for (int f : f) { } } }"

def loopedTree : Node := .mk .block (some .body) 28 51
  [.token 28,
    .mk .enhancedForStatement none 30 49
      [.token 30 33, .token 34,
        .mk .integralType (some .type) 35 38 [.token 35 38],
        .leaf .identifier (some .name) 39, .token 41, .leaf .identifier none 43, .token 44,
        .mk .block none 46 49 [.token 46, .token 48]],
    .token 50]

end Sample

theorem field_uses_guarded : Sample.guardedTree.IsBody ∧
    (∀ p, Sample.guardedTree.ReadsName Sample.guarded "f" p →
      ¬ Sample.guardedTree.InHead Sample.guarded "f" p ∧
        ¬ Sample.guardedTree.InVariadicScope Sample.guarded "f" p) ∧
    "f" ∈ (Body.ofNode Sample.guarded ["f"] [] (some Sample.guardedTree)).fieldRefs ∧
    Sample.guardedTree.InScope Sample.guarded "f" [1, 2, 1, 0] := by
  have hbody : Sample.guardedTree.IsBody := by decide
  have hheads : ∀ p, Sample.guardedTree.ReadsName Sample.guarded "f" p →
      ¬ Sample.guardedTree.InHead Sample.guarded "f" p ∧
        ¬ Sample.guardedTree.InVariadicScope Sample.guarded "f" p := by
    intro p hread
    have hall : ∀ q ∈ Sample.guardedTree.addresses,
        Sample.guardedTree.ReadsName Sample.guarded "f" q →
          ¬ Sample.guardedTree.InHead Sample.guarded "f" q ∧
            ¬ Sample.guardedTree.InVariadicScope Sample.guarded "f" q := by decide
    obtain ⟨v, hat, -⟩ := id hread
    obtain ⟨i, hi, -⟩ := exists_index hat
    exact hall p (List.mem_of_getElem? hi) hread
  refine ⟨hbody, hheads, ?_, by decide⟩
  refine ((field_uses Sample.guarded ["f"] [] hbody "f").2 hheads).2
    ⟨List.mem_singleton_self "f", .inr ⟨[2, 0], ⟨_, rfl, rfl, rfl, rfl⟩, by simp, by decide⟩⟩

/-- A loop hides a field in the expression that it iterates over. -/
theorem not_field_uses : ¬ ∀ (src : Text.Source) (fields : List String)
    (parameters : List Parameter) (b : Node) (f : String), b.IsBody → b.isPlain = true →
      (f ∈ (Body.ofNode src fields parameters (some b)).fieldRefs ↔
        b.UsesField src fields parameters
          (fun p => b.InScope src f p ∨ b.InVariadicScope src f p) f) := by
  intro h
  have hloop := h Sample.looped ["f"] [] Sample.loopedTree "f" (by decide) (by decide)
  have huse : "f" ∈ (Body.ofNode Sample.looped ["f"] [] (some Sample.loopedTree)).fieldRefs :=
    hloop.2 ⟨List.mem_singleton_self "f",
      .inr ⟨[1, 5], ⟨_, rfl, rfl, rfl, rfl⟩, by simp, by decide⟩⟩
  exact absurd huse (by decide)

end JavaMetrics.Node

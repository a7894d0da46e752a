import JavaMetrics.Proofs.Cohesion
import JavaMetrics.Proofs.Conservation
import JavaMetrics.Proofs.References
import JavaMetrics.Smell.Detect

set_option autoImplicit false

namespace JavaMetrics

theorem countPairs_perm {α : Type} {test : α → α → Bool} (hsymm : ∀ a b, test a b = test b a)
    {xs ys : List α} (h : xs.Perm ys) : countPairs test xs = countPairs test ys := by
  induction h with
  | nil => rfl
  | cons a hrest ih => rw [countPairs, countPairs, (hrest.filter (test a)).length_eq, ih]
  | swap a b rest =>
    -- The pair of the first two items is counted for `b` on one side and for `a` on the other.
    simp only [countPairs, List.filter_cons, hsymm b a]
    split
    · simp only [List.length_cons]
      omega
    · omega
  | trans _ _ ih ih' => exact ih.trans ih'

theorem shareField_comm (a b : List String) : shareField a b = shareField b a := by
  rw [Bool.eq_iff_iff, shareField_iff, shareField_iff]
  simp only [and_comm]

theorem cohesionGap_perm {uses uses' : List (List String)} (h : uses.Perm uses') :
    cohesionGap uses = cohesionGap uses' := by
  rw [cohesionGap, cohesionGap, countPairs_perm shareField_comm h,
    countPairs_perm (fun a b => congrArg not (shareField_comm a b)) h]

theorem find?_field_perm {fields fields' : List FieldDecl} (h : fields.Perm fields')
    (hn : (fields.map (·.name)).Nodup) (x : String) :
    fields.find? (·.name == x) = fields'.find? (·.name == x) := by
  induction h with
  | nil => rfl
  | cons f hrest ih => rw [List.find?_cons, List.find?_cons, ih (List.nodup_cons.1 hn).2]
  | swap f g rest =>
    simp only [List.find?_cons]
    cases hf : f.name == x <;> cases hg : g.name == x
    · rfl
    · rfl
    · rfl
    · -- Two fields of one name are excluded.
      have hne : g.name ≠ f.name := by
        rintro he
        simp [he] at hn
      exact absurd ((beq_iff_eq.1 hg).trans (beq_iff_eq.1 hf).symm) hne
  | trans h₁ _ ih ih' => exact (ih hn).trans (ih' ((h₁.map (·.name)).nodup_iff.1 hn))

namespace ClassFacts

def withoutMembers (u : ClassFacts) : ClassFacts :=
  { u with interfaces := [], fields := [], methods := [], constructors := [] }

/-- A class with the members of another one in some order. -/
structure Rearranges (u v : ClassFacts) : Prop where
  methods : u.methods.Perm v.methods
  constructors : u.constructors.Perm v.constructors
  interfaces : u.interfaces.Perm v.interfaces
  /-- Fields keep their places unless their names are different. -/
  fields : u.fields = v.fields ∨ (u.fields.map (·.name)).Nodup ∧ u.fields.Perm v.fields
  rest : u.withoutMembers = v.withoutMembers

namespace Rearranges

variable {u v : ClassFacts} (h : u.Rearranges v)

include h

theorem perm_fields : u.fields.Perm v.fields := by
  rcases h.fields with he | ⟨-, hp⟩
  · rw [he]
  · exact hp

theorem field? : u.field? = v.field? := by
  funext x
  rw [ClassFacts.field?, ClassFacts.field?]
  rcases h.fields with he | ⟨hn, hp⟩
  · rw [he]
  · exact find?_field_perm hp hn x

theorem resolver : Resolver.ofFacts u = Resolver.ofFacts v :=
  (congrArg Resolver.ofFacts h.rest :)

theorem initializers : u.initializers = v.initializers :=
  (congrArg ClassFacts.initializers h.rest :)

theorem callables : u.callables.Perm v.callables := h.methods.append h.constructors

theorem bodies : u.bodies.Perm v.bodies := by
  rw [ClassFacts.bodies, ClassFacts.bodies, h.initializers]
  exact (h.callables.map (·.body)).append_right _

theorem weightedMethods : u.weightedMethods = v.weightedMethods := by
  rw [ClassFacts.weightedMethods, ClassFacts.weightedMethods, sumOf_eq_sum, sumOf_eq_sum]
  exact (h.callables.map _).sum_eq

theorem response : u.response = v.response := by
  have hnames : u.invokedNames = v.invokedNames := by
    rw [invokedNames, invokedNames]
    exact sortedNames_congr fun _ => (h.callables.flatMap_right _).mem_iff
  rw [ClassFacts.response, ClassFacts.response, hnames, h.methods.length_eq, h.constructors.length_eq]

theorem lackOfCohesion : u.lackOfCohesion = v.lackOfCohesion :=
  cohesionGap_perm (h.methods.map _)

theorem couplingReferences : u.couplingReferences.Perm v.couplingReferences :=
  ((h.perm_fields.map _).append (h.callables.flatMap_right _)).append (h.bodies.flatMap_right _)

theorem coupledTypes : u.coupledTypes = v.coupledTypes := by
  rw [ClassFacts.coupledTypes, ClassFacts.coupledTypes, h.resolver]
  exact sortedNames_congr fun _ => ((h.couplingReferences.filterMap _).map _).mem_iff

theorem calledTypes : u.calledTypes = v.calledTypes := by
  funext m b
  rw [ClassFacts.calledTypes, ClassFacts.calledTypes]
  congr 1
  funext c
  cases c.receiver <;> simp only [receiverType, h.field?]

theorem references : u.references.Perm v.references := by
  have himports : u.imports = v.imports := (congrArg ClassFacts.imports h.rest :)
  have hsuper : u.superclass = v.superclass := (congrArg ClassFacts.superclass h.rest :)
  rw [ClassFacts.references, ClassFacts.references, himports, hsuper, h.initializers, h.calledTypes]
  refine List.Perm.append_right _ ?_
  refine List.Perm.append ?_ (h.callables.flatMap_right _)
  refine List.Perm.append ?_ (h.bodies.flatMap_right _)
  refine List.Perm.append ?_ (h.bodies.flatMap_right _)
  refine List.Perm.append ?_ (h.constructors.flatMap_right _)
  refine List.Perm.append ?_ (h.methods.flatMap_right _)
  exact (h.interfaces.append_left _).append (h.perm_fields.map _)

theorem dependencies : u.dependencies = v.dependencies := by
  apply dependencies_congr h.resolver
  intro raw
  constructor
  · intro hraw
    exact refers_of_mem_references (h.references.mem_iff.1 (mem_references_of_refers hraw))
  · intro hraw
    exact refers_of_mem_references (h.references.mem_iff.2 (mem_references_of_refers hraw))

theorem metrics : ClassMetrics.ofFacts u = ClassMetrics.ofFacts v := by
  calc ClassMetrics.ofFacts u
    _ = { ClassMetrics.ofFacts u.withoutMembers with
          wmc := u.weightedMethods
          cbo := u.coupledTypes.length
          rfc := u.response
          lcom := Float.ofNat u.lackOfCohesion
          methodCount := u.methods.length
          attributeCount := u.fields.length } := rfl
    _ = { ClassMetrics.ofFacts v.withoutMembers with
          wmc := v.weightedMethods
          cbo := v.coupledTypes.length
          rfc := v.response
          lcom := Float.ofNat v.lackOfCohesion
          methodCount := v.methods.length
          attributeCount := v.fields.length } := by
      rw [h.rest, h.weightedMethods, h.coupledTypes, h.response, h.lackOfCohesion,
        h.methods.length_eq, h.perm_fields.length_eq]
    _ = ClassMetrics.ofFacts v := rfl

variable (t : SmellThresholds)

theorem dataClass : t.dataClass u = t.dataClass v := by
  have hname : u.name = v.name := (congrArg ClassFacts.name h.rest :)
  have hspan : u.span = v.span := (congrArg ClassFacts.span h.rest :)
  rw [SmellThresholds.dataClass, SmellThresholds.dataClass, SmellThresholds.isDataClass,
    SmellThresholds.isDataClass, h.methods.length_eq, h.methods.all_eq, hname, hspan]

theorem detect (c : ClassMetrics) : (t.detect u c).Perm (t.detect v c) := by
  -- The findings that are not about all methods at once name the class and read nothing else of it.
  have hgod : t.godClass u c = t.godClass v c := (congrArg (t.godClass · c) h.rest :)
  have hlong : t.longMethod u = t.longMethod v := (congrArg t.longMethod h.rest :)
  have hparameters : t.longParameters u = t.longParameters v := (congrArg t.longParameters h.rest :)
  have henvy : t.featureEnvy u = t.featureEnvy v := (congrArg t.featureEnvy h.rest :)
  rw [SmellThresholds.detect, SmellThresholds.detect, hgod, hlong, hparameters, henvy, h.dataClass]
  refine List.Perm.append ?_ (h.methods.flatMap_right _)
  refine List.Perm.append_right _ ?_
  refine List.Perm.append ?_ (h.callables.flatMap_right _)
  exact (h.methods.flatMap_right _).append_left _

end Rearranges

/-- A rearranged class is measured alike and depends on the same types; what is found about it is the
same, in some order. -/
theorem rearranged_alike {u v : ClassFacts} (h : u.Rearranges v) :
    u.weightedMethods = v.weightedMethods ∧ u.response = v.response ∧
    u.coupledTypes = v.coupledTypes ∧ u.lackOfCohesion = v.lackOfCohesion ∧
    u.dependencies = v.dependencies ∧ ClassMetrics.ofFacts u = ClassMetrics.ofFacts v ∧
    ∀ (t : SmellThresholds) (c : ClassMetrics), (t.detect u c).Perm (t.detect v c) :=
  ⟨h.weightedMethods, h.response, h.coupledTypes, h.lackOfCohesion, h.dependencies, h.metrics,
    h.detect⟩

namespace Sample

def desk : ClassFacts where
  path := "Desk.java"
  package := some "shop"
  name := "Desk"
  imports := [⟨"other", false, true, 1⟩]
  interfaces := ["Opened", "Closed"]
  fields := [⟨"cart", "Cart", 3⟩, ⟨"log", "Log", 4⟩]
  methods := [usingFields "clear" ["log"],
    { name := "total"
      parameters := [⟨"rate", "Rate"⟩]
      returnType := some "Price"
      body := { fieldRefs := ["cart"], calls := [⟨"sum", .name "cart", 7⟩] } }]
  constructors := [{ name := "Desk" }, { name := "Desk", parameters := [⟨"cart", "Cart"⟩] }]

def turnedDesk : ClassFacts := { desk with
  interfaces := desk.interfaces.reverse
  fields := desk.fields.reverse
  methods := desk.methods.reverse
  constructors := desk.constructors.reverse }

theorem rearranges_desk : turnedDesk.Rearranges desk where
  methods := List.reverse_perm _
  constructors := List.reverse_perm _
  interfaces := List.reverse_perm _
  fields := .inr ⟨by decide, List.reverse_perm _⟩
  rest := rfl

end Sample

theorem rearranged_alike_desk : Sample.turnedDesk ≠ Sample.desk ∧
    Sample.turnedDesk.lackOfCohesion = 1 ∧
    Sample.turnedDesk.dependencies = Sample.desk.dependencies ∧
    ∀ (t : SmellThresholds) (c : ClassMetrics),
      (t.detect Sample.turnedDesk c).Perm (t.detect Sample.desk c) := by
  obtain ⟨-, -, -, hcohesion, hdependencies, -, hdetect⟩ := rearranged_alike Sample.rearranges_desk
  exact ⟨by decide, hcohesion.trans (by decide), hdependencies, hdetect⟩

end ClassFacts

end JavaMetrics

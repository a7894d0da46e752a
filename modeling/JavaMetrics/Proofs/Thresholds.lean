import Mathlib.Data.List.Basic
import JavaMetrics.Smell.Detect

set_option autoImplicit false

namespace JavaMetrics

def Smell.place (s : Smell) : SmellKind × String × Option String × Nat :=
  (s.kind, s.className, s.member, s.line)

namespace ClassFacts

def classPlace (u : ClassFacts) (k : SmellKind) : SmellKind × String × Option String × Nat :=
  (k, u.name, none, u.span.startLine)

def memberPlace (u : ClassFacts) (k : SmellKind) (m : Method) :
    SmellKind × String × Option String × Nat :=
  (k, u.name, some m.name, m.span.startLine)

end ClassFacts

namespace SmellThresholds

section Places

variable (t : SmellThresholds) (u : ClassFacts)

theorem places_godClass (c : ClassMetrics) : (t.godClass u c).map Smell.place =
    if t.isGodClass c then [u.classPlace .godClass] else [] := by
  unfold godClass
  split <;> rfl

theorem places_dataClass : (t.dataClass u).map Smell.place =
    if t.isDataClass u then [u.classPlace .dataClass] else [] := by
  unfold dataClass
  split <;> rfl

/-- A heuristic that looks at one member at a time finds the members that pass its test. -/
theorem places_members {find : Method → List Smell} {test : Method → Bool} {k : SmellKind}
    (h : ∀ m, (find m).map Smell.place = if test m then [u.memberPlace k m] else [])
    (ms : List Method) :
    (ms.flatMap find).map Smell.place = (ms.filter test).map (u.memberPlace k) := by
  induction ms with
  | nil => rfl
  | cons m rest ih =>
    rw [List.flatMap_cons, List.map_append, h, ih, List.filter_cons]
    split <;> rfl

def isLong (m : Method) : Bool := t.longMethodLoc < m.loc

def takesMany (m : Method) : Bool := t.longParameterList < m.parameters.length

theorem places_longMethod (m : Method) : (t.longMethod u m).map Smell.place =
    if t.isLong m then [u.memberPlace .longMethod m] else [] := by
  simp only [longMethod, isLong, decide_eq_true_eq]
  split <;> rfl

theorem places_longParameters (m : Method) : (t.longParameters u m).map Smell.place =
    if t.takesMany m then [u.memberPlace .longParameterList m] else [] := by
  simp only [longParameters, takesMany, decide_eq_true_eq]
  split <;> rfl

theorem places_featureEnvy (m : Method) : (t.featureEnvy u m).map Smell.place =
    if t.isEnvious m then [u.memberPlace .featureEnvy m] else [] := by
  unfold featureEnvy
  split <;> rfl

theorem places_detect (c : ClassMetrics) : (t.detect u c).map Smell.place =
    (if t.isGodClass c then [u.classPlace .godClass] else []) ++
      (u.methods.filter t.isLong).map (u.memberPlace .longMethod) ++
      (u.callables.filter t.takesMany).map (u.memberPlace .longParameterList) ++
      (if t.isDataClass u then [u.classPlace .dataClass] else []) ++
      (u.methods.filter t.isEnvious).map (u.memberPlace .featureEnvy) := by
  simp only [detect, List.map_append, places_godClass, places_dataClass,
    places_members u (t.places_longMethod u), places_members u (t.places_longParameters u),
    places_members u (t.places_featureEnvy u)]

end Places

/-- Harder to exceed. A data class stays below its threshold, so that one goes down. -/
structure Tightens (t' t : SmellThresholds) : Prop where
  godClassLoc : t.godClassLoc ≤ t'.godClassLoc
  godClassWmc : t.godClassWmc ≤ t'.godClassWmc
  godClassCbo : t.godClassCbo ≤ t'.godClassCbo
  longMethodLoc : t.longMethodLoc ≤ t'.longMethodLoc
  longParameterList : t.longParameterList ≤ t'.longParameterList
  dataClassMaxMethods : t'.dataClassMaxMethods ≤ t.dataClassMaxMethods
  featureEnvyRatio : t'.featureEnvyRatio = t.featureEnvyRatio
  featureEnvyMinExternalCalls : t.featureEnvyMinExternalCalls ≤ t'.featureEnvyMinExternalCalls

namespace Tightens

variable {t t' : SmellThresholds} (h : t'.Tightens t)
include h

theorem isGodClass {c : ClassMetrics} (hc : t'.isGodClass c = true) : t.isGodClass c = true := by
  simp only [SmellThresholds.isGodClass, Bool.and_eq_true, decide_eq_true_eq] at hc ⊢
  obtain ⟨⟨hloc, hwmc⟩, hcbo⟩ := hc
  exact ⟨⟨Nat.lt_of_le_of_lt h.godClassLoc hloc, Nat.lt_of_le_of_lt h.godClassWmc hwmc⟩,
    Nat.lt_of_le_of_lt h.godClassCbo hcbo⟩

theorem isLong {m : Method} (hm : t'.isLong m = true) : t.isLong m = true := by
  simp only [SmellThresholds.isLong, decide_eq_true_eq] at hm ⊢
  exact Nat.lt_of_le_of_lt h.longMethodLoc hm

theorem takesMany {m : Method} (hm : t'.takesMany m = true) : t.takesMany m = true := by
  simp only [SmellThresholds.takesMany, decide_eq_true_eq] at hm ⊢
  exact Nat.lt_of_le_of_lt h.longParameterList hm

theorem isDataClass {u : ClassFacts} (hu : t'.isDataClass u = true) : t.isDataClass u = true := by
  simp only [SmellThresholds.isDataClass, Bool.and_eq_true, decide_eq_true_eq] at hu ⊢
  obtain ⟨⟨hsome, hfew⟩, haccess⟩ := hu
  exact ⟨⟨hsome, Nat.le_trans hfew h.dataClassMaxMethods⟩, haccess⟩

theorem isEnvious {m : Method} (hm : t'.isEnvious m = true) : t.isEnvious m = true := by
  simp only [SmellThresholds.isEnvious, Bool.and_eq_true, decide_eq_true_eq] at hm ⊢
  rw [h.featureEnvyRatio] at hm
  exact ⟨hm.1, Nat.lt_of_le_of_lt h.featureEnvyMinExternalCalls hm.2⟩

end Tightens

theorem sublist_ite {α : Type} {p q : Prop} [Decidable p] [Decidable q] (h : p → q) (a : α) :
    (if p then [a] else []).Sublist (if q then [a] else []) := by
  by_cases hp : p
  · rw [if_pos hp, if_pos (h hp)]
  · rw [if_neg hp]
    exact List.nil_sublist _

/-- Tighter thresholds leave some of the findings, in their order. -/
theorem detect_sublist {t t' : SmellThresholds} (h : t'.Tightens t) (u : ClassFacts)
    (c : ClassMetrics) :
    ((t'.detect u c).map Smell.place).Sublist ((t.detect u c).map Smell.place) := by
  rw [places_detect, places_detect]
  refine List.Sublist.append ?_ ((List.monotone_filter_right _ fun m => h.isEnvious).map _)
  refine List.Sublist.append ?_ (sublist_ite h.isDataClass _)
  refine List.Sublist.append ?_ ((List.monotone_filter_right _ fun m => h.takesMany).map _)
  exact (sublist_ite h.isGodClass _).append
    ((List.monotone_filter_right _ fun m => h.isLong).map _)

namespace Sample

def ledger : ClassFacts where
  path := "Ledger.java"
  name := "Ledger"
  methods := [
    { name := "getRows", returnType := some "Rows", span := .lines 10 64 },
    { name := "setRows", parameters := [⟨"rows", "Rows"⟩], returnType := some "void",
      span := .lines 70 121 }]
  constructors := [
    { name := "Ledger", parameters := List.replicate 6 ⟨"x", "int"⟩, span := .lines 130 131 },
    { name := "Ledger", parameters := List.replicate 7 ⟨"x", "int"⟩, span := .lines 140 141 }]
  span := .lines 2 602

def ledgerMetrics : ClassMetrics := { (default : ClassMetrics) with loc := 601, wmc := 60, cbo := 11 }

def tight : SmellThresholds where
  godClassCbo := 11
  longMethodLoc := 52
  longParameterList := 6
  dataClassMaxMethods := 2

theorem tightens_tight : tight.Tightens {} where
  godClassLoc := by decide
  godClassWmc := by decide
  godClassCbo := by decide
  longMethodLoc := by decide
  longParameterList := by decide
  dataClassMaxMethods := by decide
  featureEnvyRatio := rfl
  featureEnvyMinExternalCalls := by decide

def found (t : SmellThresholds) : List (SmellKind × String × Option String × Nat) :=
  (t.detect ledger ledgerMetrics).map Smell.place

end Sample

theorem detect_sublist_ledger : (Sample.found Sample.tight).Sublist (Sample.found {}) ∧
    Sample.found {} = [(.godClass, "Ledger", none, 2), (.longMethod, "Ledger", some "getRows", 10),
      (.longMethod, "Ledger", some "setRows", 70), (.longParameterList, "Ledger", some "Ledger", 130),
      (.longParameterList, "Ledger", some "Ledger", 140), (.dataClass, "Ledger", none, 2)] ∧
    Sample.found Sample.tight = [(.longMethod, "Ledger", some "getRows", 10),
      (.longParameterList, "Ledger", some "Ledger", 140), (.dataClass, "Ledger", none, 2)] :=
  ⟨detect_sublist Sample.tightens_tight Sample.ledger Sample.ledgerMetrics, by decide, by decide⟩

end SmellThresholds

end JavaMetrics

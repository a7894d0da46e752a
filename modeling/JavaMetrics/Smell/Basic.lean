
set_option autoImplicit false

namespace JavaMetrics

inductive SmellKind where
  | godClass | longMethod | longParameterList | dataClass | featureEnvy
deriving DecidableEq, Repr, Inhabited

namespace SmellKind

def all : List SmellKind := [godClass, longMethod, longParameterList, dataClass, featureEnvy]

def text : SmellKind → String
  | godClass => "god_class"
  | longMethod => "long_method"
  | longParameterList => "long_parameter_list"
  | dataClass => "data_class"
  | featureEnvy => "feature_envy"

def ofText? (s : String) : Option SmellKind := all.find? (·.text == s)

theorem ofText?_text (k : SmellKind) : ofText? k.text = some k := by cases k <;> decide

end SmellKind

/-- A finding needs a value above the threshold; a data class at most that many methods. -/
structure SmellThresholds where
  godClassLoc : Nat := 500
  godClassWmc : Nat := 50
  godClassCbo : Nat := 10
  longMethodLoc : Nat := 50
  longParameterList : Nat := 5
  dataClassMaxMethods : Nat := 10
  featureEnvyRatio : Float := 0.5
  featureEnvyMinExternalCalls : Nat := 3
deriving Inhabited

structure Measurement where
  metric : String
  observed : Float
  threshold : Float
deriving Inhabited

def Measurement.count (metric : String) (observed threshold : Nat) : Measurement :=
  ⟨metric, Float.ofNat observed, Float.ofNat threshold⟩

structure Smell where
  kind : SmellKind
  className : String
  member : Option String := none
  line : Nat
  details : String
  evidence : List Measurement := []
deriving Inhabited

end JavaMetrics

import JavaMetrics.Json.Members
import JavaMetrics.Smell.Basic

set_option autoImplicit false

namespace JavaMetrics

open Json.Members

namespace Measurement

def toJson (m : Measurement) : Json :=
  .obj [("metric", .str m.metric), ("observed", .ofFloat m.observed),
    ("threshold", .ofFloat m.threshold)]

def ofJson? : Json → Option Measurement := Json.toRecord? do
  return ⟨← required "metric" Json.toText?, ← required "observed" Json.toFloat?,
    ← required "threshold" Json.toFloat?⟩

end Measurement

namespace SmellThresholds

def toJson (t : SmellThresholds) : Json :=
  .obj [("god_class_loc", .nat t.godClassLoc), ("god_class_wmc", .nat t.godClassWmc),
    ("god_class_cbo", .nat t.godClassCbo), ("long_method_loc", .nat t.longMethodLoc),
    ("long_parameter_list", .nat t.longParameterList),
    ("data_class_max_methods", .nat t.dataClassMaxMethods),
    ("feature_envy_ratio", .ofFloat t.featureEnvyRatio),
    ("feature_envy_min_external_calls", .nat t.featureEnvyMinExternalCalls)]

def ofJson? : Json → Option SmellThresholds := Json.toRecord? do
  let d : SmellThresholds := {}
  return ⟨← orElse "god_class_loc" Json.toNat? d.godClassLoc,
    ← orElse "god_class_wmc" Json.toNat? d.godClassWmc,
    ← orElse "god_class_cbo" Json.toNat? d.godClassCbo,
    ← orElse "long_method_loc" Json.toNat? d.longMethodLoc,
    ← orElse "long_parameter_list" Json.toNat? d.longParameterList,
    ← orElse "data_class_max_methods" Json.toNat? d.dataClassMaxMethods,
    ← orElse "feature_envy_ratio" Json.toFloat? d.featureEnvyRatio,
    ← orElse "feature_envy_min_external_calls" Json.toNat? d.featureEnvyMinExternalCalls⟩

end SmellThresholds

namespace Smell

def toJson (s : Smell) : Json :=
  .obj ([("kind", .str s.kind.text), ("class_name", .str s.className)] ++
    (s.member.map fun m => ("member", .str m)).toList ++
    [("line", .nat s.line), ("details", .str s.details),
      ("evidence", .ofList Measurement.toJson s.evidence)])

def ofJson? : Json → Option Smell := Json.toRecord? do
  return ⟨← required "kind" (Json.toChoice? SmellKind.ofText?),
    ← required "class_name" Json.toText?, ← orElse "member" (Json.toOption? Json.toText?) none,
    ← required "line" Json.toNat?, ← required "details" Json.toText?,
    ← orElse "evidence" (Json.toList? Measurement.ofJson?) []⟩

end Smell

end JavaMetrics

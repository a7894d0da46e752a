import JavaMetrics.Decimal.Layout
import JavaMetrics.Failure
import JavaMetrics.Glob.Match
import JavaMetrics.Smell.Form
import JavaMetrics.Text.Quoted

set_option autoImplicit false

namespace JavaMetrics

structure Config where
  smells : SmellThresholds := {}
  excludedPaths : List String := []
  includeTestFiles : Option Bool := none
  timeoutSecs : Option Nat := none
  parallel : Bool := true
deriving Inhabited

namespace Config

def includesTests (c : Config) : Bool := c.includeTestFiles.getD false

def exclusions : List String → Except AnalysisError (List Glob)
  | [] => .ok []
  | p :: ps =>
    match Glob.parse p with
    | .ok g => (exclusions ps).map (g :: ·)
    | .error e =>
      .error (.config ("invalid excluded_paths pattern " ++ Text.quote p ++
        ": error parsing glob '" ++ p ++ "': " ++ e.message))

def validate (c : Config) : Except AnalysisError Unit :=
  let ratio := c.smells.featureEnvyRatio
  if !(0.0 ≤ ratio && ratio ≤ 1.0) then
    .error (.config ("feature_envy_ratio must be within [0, 1], got " ++ Decimal.plainText ratio))
  else if c.smells.dataClassMaxMethods == 0 then
    .error (.config "data_class_max_methods must be at least 1")
  else if c.timeoutSecs == some 0 then
    .error (.config "timeout_secs must be positive when set")
  else (exclusions c.excludedPaths).map fun _ => ()

/-- The time limit leaves a deadline that a clock of 64 bits can show. -/
def hasDeadline (c : Config) : Bool := c.timeoutSecs.all (· < Nat.pow 2 63 - 1)

open Json.Members

def toJson (c : Config) : Json :=
  .obj [("smells", c.smells.toJson), ("excluded_paths", .strs c.excludedPaths),
    ("include_test_files", .ofOption .bool c.includeTestFiles),
    ("timeout_secs", .ofOption .nat c.timeoutSecs), ("parallel", .bool c.parallel)]

def ofJson? : Json → Option Config := Json.toRecord? do
  return ⟨← orElse "smells" SmellThresholds.ofJson? {},
    ← orElse "excluded_paths" (Json.toList? Json.toText?) [],
    ← orElse "include_test_files" (Json.toOption? Json.toBool?) none,
    ← orElse "timeout_secs" (Json.toOption? Json.toNat?) none,
    ← orElse "parallel" Json.toBool? true⟩

end Config

end JavaMetrics

import JavaMetrics.Decimal.Layout
import JavaMetrics.Metrics.Basic
import JavaMetrics.Smell.Basic

set_option autoImplicit false

namespace JavaMetrics

/-- A getter returns something and takes nothing; a setter takes one value and returns nothing. -/
def Method.isAccessor (m : Method) : Bool :=
  let getter := (Text.startsWith m.name "get" || Text.startsWith m.name "is") &&
    m.parameters.isEmpty && !m.returnsVoid
  let setter := Text.startsWith m.name "set" && m.parameters.length == 1 && m.returnsVoid
  getter || setter

namespace SmellThresholds

variable (t : SmellThresholds)

def memberSmell (u : ClassFacts) (m : Method) (kind : SmellKind) (details : String)
    (evidence : List Measurement) : Smell :=
  { kind, className := u.name, member := some m.name, line := m.span.startLine, details, evidence }

def isGodClass (c : ClassMetrics) : Bool :=
  t.godClassLoc < c.loc && t.godClassWmc < c.wmc && t.godClassCbo < c.cbo

def godClass (u : ClassFacts) (c : ClassMetrics) : List Smell :=
  if t.isGodClass c then
    [{ kind := .godClass
       className := u.name
       line := u.span.startLine
       details := s!"class has LOC={c.loc}, WMC={c.wmc}, CBO={c.cbo}, exceeds maximum of " ++
         s!"LOC={t.godClassLoc}, WMC={t.godClassWmc}, CBO={t.godClassCbo}"
       evidence := [.count "loc" c.loc t.godClassLoc, .count "wmc" c.wmc t.godClassWmc,
         .count "cbo" c.cbo t.godClassCbo] }]
  else []

def longMethod (u : ClassFacts) (m : Method) : List Smell :=
  let max := t.longMethodLoc
  let loc := m.loc
  if max < loc then
    [memberSmell u m .longMethod
      ("method '" ++ m.name ++ s!"' has {loc} lines, exceeds maximum of {max}")
      [.count "loc" loc max]]
  else []

def longParameters (u : ClassFacts) (m : Method) : List Smell :=
  let max := t.longParameterList
  let count := m.parameters.length
  if max < count then
    [memberSmell u m .longParameterList
      ("'" ++ m.name ++ s!"' takes {count} parameters, exceeds maximum of {max}")
      [.count "parameters" count max]]
  else []

def isDataClass (u : ClassFacts) : Bool :=
  let count := u.methods.length
  0 < count && count ≤ t.dataClassMaxMethods && u.methods.all (·.isAccessor)

def dataClass (u : ClassFacts) : List Smell :=
  if t.isDataClass u then
    let count := u.methods.length
    let max := t.dataClassMaxMethods
    [{ kind := .dataClass
       className := u.name
       line := u.span.startLine
       details := s!"class has only {count} getter/setter method(s), " ++
         s!"at most {max} allowed for a data class"
       evidence := [.count "accessor_methods" count max] }]
  else []

def externalRatio (m : Method) : Float :=
  Float.ofNat m.body.externalCalls.length / Float.ofNat m.body.calls.length

def isEnvious (m : Method) : Bool :=
  m.body.calls.length != 0 && externalRatio m > t.featureEnvyRatio &&
    t.featureEnvyMinExternalCalls < m.body.externalCalls.length

def featureEnvy (u : ClassFacts) (m : Method) : List Smell :=
  if t.isEnvious m then
    let ext := m.body.externalCalls.length
    let total := m.body.calls.length
    let ratio := externalRatio m
    [memberSmell u m .featureEnvy
      ("method '" ++ m.name ++ s!"' makes {ext} of {total} calls on other objects (ratio " ++
        Decimal.fixedText 2 ratio ++ ", maximum " ++ Decimal.fixedText 2 t.featureEnvyRatio ++ ")")
      [⟨"external_ratio", ratio, t.featureEnvyRatio⟩,
       .count "external_calls" ext t.featureEnvyMinExternalCalls]]
  else []

def detect (u : ClassFacts) (c : ClassMetrics) : List Smell :=
  t.godClass u c ++ u.methods.flatMap (t.longMethod u) ++ u.callables.flatMap (t.longParameters u) ++
    t.dataClass u ++ u.methods.flatMap (t.featureEnvy u)

end SmellThresholds

end JavaMetrics

import JavaMetrics.Config.Basic
import JavaMetrics.Report.Basic
import JavaMetrics.Smell.Detect

/-!
The analysis of a batch. Files that failed are listed first. The classes are taken in the order of
their paths, and those that come up after the time limit are skipped; of several with one name the
first is reported and the others count as failures. The metrics of the project are added at the
end. Without any class there is no report.
-/

set_option autoImplicit false

namespace JavaMetrics

abbrev BatchItem := Except AnalysisError ClassFacts

namespace BatchItem

def facts? : BatchItem → Option ClassFacts
  | .ok u => some u
  | .error _ => none

def failure? : BatchItem → Option FileFailure
  | .ok _ => none
  | .error e => some (.ofError e)

end BatchItem

def ClassReport.ofFacts (t : SmellThresholds) (u : ClassFacts) : ClassReport :=
  let metrics := ClassMetrics.ofFacts u
  ⟨metrics, u.dependencies, t.detect u metrics⟩

namespace Batch

def inPathOrder (units : List ClassFacts) : List ClassFacts :=
  units.mergeSort fun a b => decide (a.path ≤ b.path)

/-- The class at a place in path order is late if the clock says that the limit has passed; without
a limit none is. -/
def isLate (config : Config) (expired : Nat → Bool) (place : Nat) : Bool :=
  config.timeoutSecs.isSome && expired place

def inTime (late : Nat → Bool) (units : List ClassFacts) : List ClassFacts :=
  (units.zipIdx.filter fun x => !late x.2).map (·.1)

def latePaths (late : Nat → Bool) (units : List ClassFacts) : List String :=
  (units.zipIdx.filter fun x => late x.2).map (·.1.path)

def duplicate (u first : ClassFacts) : FileFailure :=
  .ofError (.extraction u.path
    ("class " ++ u.qualifiedName ++ " already declared in " ++ first.path))

/-- The classes that are reported, after those chosen before, and the failures of the others. -/
def choose (chosen : List ClassFacts) : List ClassFacts → List ClassFacts × List FileFailure
  | [] => (chosen, [])
  | u :: us =>
    match chosen.find? (·.qualifiedName == u.qualifiedName) with
    | some first =>
      let (ws, fs) := choose chosen us
      (ws, duplicate u first :: fs)
    | none => choose (chosen ++ [u]) us

def count (files : Nat) (classes : Dict ClassReport) : BatchCounts where
  filesScanned := files
  classesFound := classes.size
  edgesFound := sumOf (·.dependencies.length) classes.values
  smellsFound := sumOf (·.smells.length) classes.values

def classesOf (t : SmellThresholds) (project : ProjectMetrics) (chosen : List ClassFacts) :
    Dict ClassReport :=
  let own : Dict ClassReport :=
    .ofList (chosen.map fun u => (u.qualifiedName, ClassReport.ofFacts t u))
  own.map fun _ c => { c with metrics := project.complete c.metrics }

def report (t : SmellThresholds) (revision : Revision) (files : Nat) (failures : List FileFailure)
    (skipped : List String) (chosen : List ClassFacts) : Report :=
  let project := ProjectMetrics.ofLinks (chosen.map .ofFacts)
  let classes := classesOf t project chosen
  { revision, classes, failures, skipped
    counts := count files classes
    ambiguities := project.ambiguities
    thresholds := t
    incomplete := !skipped.isEmpty }

/-- Analyzes a batch. `expired` tells for each place in path order whether the time limit has passed
when the class there is taken up. -/
def run (config : Config) (items : List BatchItem) (revision : Revision)
    (expired : Nat → Bool := fun _ => false) : Except AnalysisError Report :=
  match config.validate with
  | .error e => .error e
  | .ok () =>
    let units := inPathOrder (items.filterMap BatchItem.facts?)
    let late := isLate config expired
    let choice := choose [] (inTime late units)
    let failures := items.filterMap BatchItem.failure? ++ choice.2
    if choice.1.isEmpty then .error (.emptyBatch failures.length)
    else .ok (report config.smells revision items.length failures (latePaths late units) choice.1)

end Batch

end JavaMetrics

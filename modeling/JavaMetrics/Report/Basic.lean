import JavaMetrics.Coupling.Form
import JavaMetrics.Failure
import JavaMetrics.Metrics.Form
import JavaMetrics.Smell.Form

set_option autoImplicit false

namespace JavaMetrics

open Json.Members

structure Revision where
  repositoryId : String := ""
  revisionId : String := ""
deriving DecidableEq, Repr, Inhabited

namespace Revision

def text (r : Revision) : String := r.repositoryId ++ "@" ++ r.revisionId

def toJson (r : Revision) : Json :=
  .obj [("repository_id", .str r.repositoryId), ("revision_id", .str r.revisionId)]

def ofJson? : Json → Option Revision := Json.toRecord? do
  return ⟨← required "repository_id" Json.toText?, ← required "revision_id" Json.toText?⟩

end Revision

structure ClassReport where
  metrics : ClassMetrics
  dependencies : List Dependency
  smells : List Smell
deriving Inhabited

namespace ClassReport

def toJson (c : ClassReport) : Json :=
  .obj [("metrics", c.metrics.toJson), ("dependencies", .ofList Dependency.toJson c.dependencies),
    ("smells", .ofList Smell.toJson c.smells)]

def ofJson? : Json → Option ClassReport := Json.toRecord? do
  return ⟨← required "metrics" ClassMetrics.ofJson?,
    ← required "dependencies" (Json.toList? Dependency.ofJson?),
    ← required "smells" (Json.toList? Smell.ofJson?)⟩

end ClassReport

structure BatchCounts where
  filesScanned : Nat
  classesFound : Nat
  edgesFound : Nat
  smellsFound : Nat
deriving DecidableEq, Repr, Inhabited

namespace BatchCounts

def toJson (c : BatchCounts) : Json :=
  .obj [("files_scanned", .nat c.filesScanned), ("classes_found", .nat c.classesFound),
    ("edges_found", .nat c.edgesFound), ("smells_found", .nat c.smellsFound)]

def ofJson? : Json → Option BatchCounts := Json.toRecord? do
  return ⟨← required "files_scanned" Json.toNat?, ← required "classes_found" Json.toNat?,
    ← required "edges_found" Json.toNat?, ← required "smells_found" Json.toNat?⟩

end BatchCounts

structure Report where
  revision : Revision
  classes : Dict ClassReport
  counts : BatchCounts
  failures : List FileFailure := []
  /-- Files that were not reached in time. -/
  skipped : List String := []
  ambiguities : List AmbiguityNote := []
  thresholds : SmellThresholds
  incomplete : Bool := false
deriving Inhabited

namespace Report

def class? (r : Report) (name : String) : Option ClassReport := r.classes.get? name

def smells (r : Report) : List Smell := r.classes.values.flatMap (·.smells)

def breakdown (r : Report) : List (SmellKind × Nat) :=
  (SmellKind.all.map fun k => (k, (r.smells.filter (·.kind == k)).length)).filter (·.2 != 0)

/-- A list that is left out when it is empty. -/
def listField {α : Type} (k : String) (enc : α → Json) (xs : List α) : List (String × Json) :=
  if xs.isEmpty then [] else [(k, .ofList enc xs)]

def toJson (r : Report) : Json :=
  .obj ([("revision", r.revision.toJson), ("classes", .ofDict ClassReport.toJson r.classes),
      ("counts", r.counts.toJson)] ++
    listField "failures" FileFailure.toJson r.failures ++ listField "skipped" .str r.skipped ++
    listField "ambiguities" AmbiguityNote.toJson r.ambiguities ++
    [("thresholds", r.thresholds.toJson), ("incomplete", .bool r.incomplete)])

def ofJson? : Json → Option Report := Json.toRecord? do
  return ⟨← required "revision" Revision.ofJson?,
    ← required "classes" (Json.toDict? ClassReport.ofJson?),
    ← required "counts" BatchCounts.ofJson?,
    ← orElse "failures" (Json.toList? FileFailure.ofJson?) [],
    ← orElse "skipped" (Json.toList? Json.toText?) [],
    ← orElse "ambiguities" (Json.toList? AmbiguityNote.ofJson?) [],
    ← required "thresholds" SmellThresholds.ofJson?,
    ← orElse "incomplete" Json.toBool? false⟩

def text (r : Report) : String := r.toJson.pretty

def fileText (r : Report) : String := r.text ++ "\n"

end Report

end JavaMetrics

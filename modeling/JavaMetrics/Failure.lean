import JavaMetrics.Json.Members

set_option autoImplicit false

namespace JavaMetrics

inductive AnalysisError where
  | parse (path reason : String)
  | extraction (path reason : String)
  | io (path reason : String)
  | config (reason : String)
  | emptyBatch (failures : Nat)
deriving DecidableEq, Repr, Inhabited

inductive FailureKind where
  | parse | extraction | io | other
deriving DecidableEq, Repr, Inhabited

namespace FailureKind

def text : FailureKind → String
  | parse => "parse"
  | extraction => "extraction"
  | io => "io"
  | other => "other"

def ofText? : String → Option FailureKind
  | "parse" => some parse
  | "extraction" => some extraction
  | "io" => some io
  | "other" => some other
  | _ => none

theorem ofText?_text (k : FailureKind) : ofText? k.text = some k := by cases k <;> rfl

end FailureKind

namespace AnalysisError

def message : AnalysisError → String
  | parse p r => "failed to parse " ++ p ++ ": " ++ r
  | extraction p r => "no analyzable class in " ++ p ++ ": " ++ r
  | io p r => "I/O error on " ++ p ++ ": " ++ r
  | config r => "invalid configuration: " ++ r
  | emptyBatch n => s!"no analyzable classes in batch ({n} file(s) failed)"

def kind : AnalysisError → FailureKind
  | parse _ _ => .parse
  | extraction _ _ => .extraction
  | io _ _ => .io
  | config _ => .other
  | emptyBatch _ => .other

def path? : AnalysisError → Option String
  | parse p _ => some p
  | extraction p _ => some p
  | io p _ => some p
  | config _ => none
  | emptyBatch _ => none

end AnalysisError

structure FileFailure where
  path : String
  kind : FailureKind
  message : String
deriving DecidableEq, Repr, Inhabited

namespace FileFailure

def ofError (e : AnalysisError) : FileFailure := ⟨e.path?.getD "(unknown)", e.kind, e.message⟩

open Json.Members

def toJson (f : FileFailure) : Json :=
  .obj [("path", .str f.path), ("kind", .str f.kind.text), ("message", .str f.message)]

def ofJson? : Json → Option FileFailure := Json.toRecord? do
  return ⟨← required "path" Json.toText?,
    ← required "kind" (Json.toChoice? FailureKind.ofText?), ← required "message" Json.toText?⟩

end FileFailure

end JavaMetrics

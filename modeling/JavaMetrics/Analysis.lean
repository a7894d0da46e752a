import JavaMetrics.Facts.Extract
import JavaMetrics.Failure
import JavaMetrics.Smell.Detect
import JavaMetrics.Syntax.Parse

set_option autoImplicit false

namespace JavaMetrics

structure Analyzer where
  language : String
  extensions : List String
deriving DecidableEq, Repr, Inhabited

def Analyzer.handles (a : Analyzer) (ext : String) : Bool := a.extensions.contains ext

def analyzers : List Analyzer := [⟨"java", ["java"]⟩]

def registeredExtensions : List String := analyzers.flatMap (·.extensions)

def analyzerFor? (ext : String) : Option Analyzer := analyzers.find? (·.handles ext)

def analyzeSource (path : String) (src : Text.Source) : Except AnalysisError ClassFacts :=
  match Node.ofSource src with
  | .error (line, column) =>
    .error (.parse path ("syntax error at " ++ toString line ++ ":" ++ toString column))
  | .ok root =>
    match ClassFacts.ofTree src path root with
    | .ok u => .ok u
    | .error e => .error (.extraction path e.message)

end JavaMetrics

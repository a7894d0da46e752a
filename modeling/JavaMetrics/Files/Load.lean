import JavaMetrics.Analysis
import JavaMetrics.Config.Basic
import JavaMetrics.Files.Tree

set_option autoImplicit false

namespace JavaMetrics

namespace FileTree

def toolDirectories : List String := ["target", "build", "out", "node_modules", "vendor"]

def isSkipped (name : String) : Bool :=
  Text.startsWith name "." || toolDirectories.contains name

mutual

/-- The files at or below a place, by their components. -/
def files : FileTree → List (List String)
  | file _ => [[]]
  | directory entries => filesIn entries

def filesIn : List (String × FileTree) → List (List String)
  | [] => []
  | (n, t) :: rest =>
    (if t.isDirectory && isSkipped n then [] else t.files.map (n :: ·)) ++ filesIn rest

end

end FileTree

structure Loader where
  root : String
  excludedPaths : List String := []
  includeTests : Bool := false

namespace Loader

def ofConfig (root : String) (c : Config) : Loader := ⟨root, c.excludedPaths, c.includesTests⟩

def takes (l : Loader) (excluded : String → Bool) (names : List String) : Bool :=
  let relative := "/".intercalate names
  (Path.extension? (Path.join l.root names)).any registeredExtensions.contains &&
    !excluded relative && (l.includeTests || !Path.isTestSource relative)

def collect (l : Loader) (excluded : String → Bool) (tree : FileTree) : List String :=
  ((tree.files.filter (l.takes excluded)).mergeSort Path.notAfter).map (Path.join l.root)

/-- The files to load and what went wrong in looking for them, where `excluded` says which to leave out. -/
def collectFrom (l : Loader) (excluded : String → Bool) (fs : FileSystem) :
    List String × List AnalysisError :=
  match fs.open? l.root with
  | .error e => ([], [.io l.root ("IO error for operation on " ++ l.root ++ ": " ++ e.message)])
  | .ok tree => (l.collect excluded tree, [])

def collectFiles (l : Loader) (fs : FileSystem) : List String × List AnalysisError :=
  match Config.exclusions l.excludedPaths with
  | .error e => ([], [e])
  | .ok globs => l.collectFrom (fun p => globs.any (·.matches p)) fs

def loadFile (l : Loader) (fs : FileSystem) (path : String) : Except AnalysisError ClassFacts :=
  match (Path.extension? path).bind analyzerFor? with
  | none => .error (.extraction path "unsupported file type")
  | some _ =>
    match fs.read? path with
    | .ok src => analyzeSource (Path.relativeTo l.root path) src
    | .error e => .error (.io path e.message)

def load (l : Loader) (fs : FileSystem) : List (Except AnalysisError ClassFacts) :=
  let (paths, errors) := l.collectFiles fs
  errors.map .error ++ paths.map (l.loadFile fs)

end Loader

end JavaMetrics

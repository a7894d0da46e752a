import JavaMetrics.Path
import JavaMetrics.Text.Source

set_option autoImplicit false

namespace JavaMetrics

inductive FileTree where
  | file (content : Text.Source)
  | directory (entries : List (String × FileTree))

inductive FileError where
  | missing | notDirectory | isDirectory
deriving DecidableEq, Repr

def FileError.message : FileError → String
  | missing => "No such file or directory (os error 2)"
  | notDirectory => "Not a directory (os error 20)"
  | isDirectory => "Is a directory (os error 21)"

namespace FileTree

def empty : FileTree := directory []

instance : Inhabited FileTree := ⟨empty⟩

def isDirectory : FileTree → Bool
  | directory _ => true
  | file _ => false

/-- Follows components below a directory; `up` holds the directories above it, nearest first. Above the
root is the root itself. -/
def follow (up : List FileTree) (t : FileTree) : List String → Except FileError FileTree
  | [] => .ok t
  | c :: cs =>
    match t with
    | file _ => .error .notDirectory
    | directory entries =>
      if c == "." then follow up t cs
      else if c == ".." then
        match up with
        | above :: rest => follow rest above cs
        | [] => follow [] t cs
      else
        match entries.lookup c with
        | some child => follow (t :: up) child cs
        | none => .error .missing

mutual

def insert (node : FileTree) : List String → FileTree → FileTree
  | [], t => if node.isDirectory && t.isDirectory then t else node
  | c :: cs, directory entries => directory (insertEntry node c cs entries)
  | c :: cs, file _ => directory (insertEntry node c cs [])

def insertEntry (node : FileTree) (c : String) (cs : List String) :
    List (String × FileTree) → List (String × FileTree)
  | [] => [(c, insert node cs empty)]
  | (n, t) :: rest =>
    if n == c then (n, insert node cs t) :: rest else (n, t) :: insertEntry node c cs rest

end

end FileTree

/-- A tree of files and the names that lead from its root to the current directory. -/
structure FileSystem where
  root : FileTree
  current : List String := []
deriving Inhabited

instance : Coe FileTree FileSystem := ⟨fun t => { root := t }⟩

namespace FileSystem

def fromRoot (fs : FileSystem) : List String → List String
  | "/" :: cs => cs
  | cs => fs.current ++ cs

/-- What a path leads to. A path that ends in a separator leads to a directory. -/
def open? (fs : FileSystem) (path : String) : Except FileError FileTree :=
  match Path.components path with
  | [] => .error .missing
  | cs =>
    match fs.root.follow [] (fs.fromRoot cs) with
    | .ok found =>
      if !found.isDirectory && (Text.endsWith path "/" || Text.endsWith path "/.") then
        .error .notDirectory
      else .ok found
    | .error e => .error e

def read? (fs : FileSystem) (path : String) : Except FileError Text.Source :=
  match fs.open? path with
  | .ok (.file content) => .ok content
  | .ok (.directory _) => .error .isDirectory
  | .error e => .error e

end FileSystem

end JavaMetrics

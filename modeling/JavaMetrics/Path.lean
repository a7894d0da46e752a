import JavaMetrics.Text.Split

set_option autoImplicit false

namespace JavaMetrics.Path

def components (p : String) : List String :=
  let parts := Text.split '/' p
  let inner := fun (xs : List String) => xs.filter fun c => c != "" && c != "."
  if Text.startsWith p "/" then "/" :: inner parts
  else
    match parts with
    | "." :: rest => "." :: inner rest
    | _ => inner parts

/-- Components in order, one after the other; a path comes before those below it. -/
def notAfter : List String → List String → Bool
  | [], _ => true
  | _ :: _, [] => false
  | a :: as, b :: bs => decide (a < b) || (a == b && notAfter as bs)

def fileName? (p : String) : Option String :=
  match (components p).getLast? with
  | some c => if c == "/" || c == "." || c == ".." then none else some c
  | none => none

def splitName (n : String) : String × Option String :=
  let parts := Text.split '.' n
  match parts.getLast? with
  | some ext =>
    let stem := ".".intercalate parts.dropLast
    if stem.isEmpty then (n, none) else (stem, some ext)
  | none => (n, none)

def stem (p : String) : String := ((fileName? p).map fun n => (splitName n).1).getD ""

def extension? (p : String) : Option String := (fileName? p).bind fun n => (splitName n).2

def join (p : String) (names : List String) : String :=
  if names.isEmpty then p
  else if Text.endsWith p "/" then p ++ "/".intercalate names
  else p ++ "/" ++ "/".intercalate names

/-- Drops as many components from written pieces as are given, and what counts as none behind
them. -/
def dropPieces : List String → List String → List String
  | [], rest => rest.dropWhile fun c => c == "" || c == "."
  | _ :: names, rest =>
    dropPieces names ((rest.dropWhile fun c => c == "" || c == ".").drop 1)

def trimEnd (pieces : List String) : List String :=
  (pieces.reverse.dropWhile fun c => c == "" || c == ".").reverse

/-- The part of a path behind `root`, as it is written; the path itself if it does not lie
there. -/
def relativeTo (root p : String) : String :=
  let base := components root
  if base.isEmpty || !base.isPrefixOf (components p) then p
  else
    let pieces := Text.split '/' p
    let (base, pieces) := match base with
      | "." :: names => (names, pieces.drop 1)
      | "/" :: names => (names, pieces.drop 1)
      | names => (names, pieces)
    "/".intercalate (trimEnd (dropPieces base pieces))

def isTestSource (p : String) : Bool :=
  let forward := String.ofList (p.toList.map fun c => if c == '\\' then '/' else c)
  Text.startsWith forward "src/test/" || Text.contains forward "/src/test/" ||
    Text.endsWith (stem p) "Test" || Text.endsWith (stem p) "Tests"

end JavaMetrics.Path

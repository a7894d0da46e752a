
set_option autoImplicit false

namespace JavaMetrics.Text

/-- The pieces between separators; always at least one. -/
def pieces (sep : Char) : List Char → List (List Char)
  | [] => [[]]
  | c :: cs =>
    if c = sep then [] :: pieces sep cs
    else
      match pieces sep cs with
      | [] => [[c]]
      | p :: ps => (c :: p) :: ps

def split (sep : Char) (s : String) : List String := (pieces sep s.toList).map String.ofList

def afterLast (sep : Char) (s : String) : String :=
  String.ofList (s.toList.reverse.takeWhile (· != sep)).reverse

def startsWith (s front : String) : Bool := front.toList.isPrefixOf s.toList

def endsWith (s back : String) : Bool := back.toList.reverse.isPrefixOf s.toList.reverse

def occursIn (part : List Char) : List Char → Bool
  | [] => part.isEmpty
  | c :: cs => part.isPrefixOf (c :: cs) || occursIn part cs

def contains (s part : String) : Bool := occursIn part.toList s.toList

end JavaMetrics.Text

import JavaMetrics.Glob.Basic

set_option autoImplicit false

namespace JavaMetrics.Glob

/-- What is left of a path. All rests come from one path, so their lengths tell them apart. -/
abbrev Rest := List UInt8

def slash : UInt8 := 47

def dot : UInt8 := 46

def bytesOf (c : Char) : List UInt8 := c.toString.toUTF8.toList

def unite (xs ys : List Rest) : List Rest :=
  xs ++ ys.filter fun y => xs.all fun x => x.length != y.length

def tails : Rest → List Rest
  | [] => [[]]
  | b :: r => (b :: r) :: tails r

def afterSlashes : Rest → List Rest
  | [] => []
  | b :: r => if b == slash then r :: afterSlashes r else afterSlashes r

def longest? (rests : List Rest) : Option Rest :=
  rests.foldl (fun best r =>
    match best with
    | some b => if b.length < r.length then some r else best
    | none => some r) none

def behindSlash (rests : List Rest) : List Rest :=
  rests.filterMap fun r =>
    match r with
    | b :: r => if b == slash then some r else none
    | [] => none

/-- A range in a class covers its first and last character byte by byte: the bytes of both ends
and everything between the last byte of the one and the first byte of the other. -/
def inRange (b : UInt8) (range : Char × Char) : Bool :=
  let first := bytesOf range.1
  let last := bytesOf range.2
  first.contains b || last.contains b ||
    (range.1 != range.2 && first.getLast?.any (· ≤ b) && last.head?.any (b ≤ ·))

mutual

def Part.after : Part → List Rest → List Rest
  | .literal c, rests =>
    rests.filterMap fun r =>
      if (bytesOf c).isPrefixOf r then some (r.drop (bytesOf c).length) else none
  | .any, rests => rests.filterMap List.tail?
  | .anyText, rests => ((longest? rests).map tails).getD []
  | .anyFront, rests =>
    unite rests (((longest? rests).map afterSlashes).getD [])
  | .anyBelow, rests => ((longest? (behindSlash rests)).map tails).getD []
  | .anyBetween, rests =>
    let below := behindSlash rests
    unite below (((longest? below).map afterSlashes).getD [])
  | .oneOf negated ranges, rests =>
    rests.filterMap fun r =>
      match r with
      | b :: r => if ranges.any (inRange b) != negated then some r else none
      | [] => none
  | .alternatives branches, rests => afterAny branches rests none

/-- What may be left after one of the branches, added to what was found before. A branch that
writes nothing does not count; without any other the group stands for nothing. -/
def afterAny : List (List Part) → List Rest → Option (List Rest) → List Rest
  | [], rests, found => found.getD rests
  | b :: bs, rests, found =>
    if isBlank b then afterAny bs rests found
    else afterAny bs rests (some (unite (found.getD []) (afterAll b rests)))

def afterAll : List Part → List Rest → List Rest
  | [], rests => rests
  | p :: ps, rests => afterAll ps (p.after rests)

def isBlank : List Part → Bool
  | [] => true
  | .alternatives branches :: ps => allBlank branches && isBlank ps
  | _ :: _ => false

def allBlank : List (List Part) → Bool
  | [] => true
  | b :: bs => isBlank b && allBlank bs

end

def Part.isLiteral : Part → Bool
  | .literal _ => true
  | _ => false

def Part.isSlash : Part → Bool
  | .literal c => c == '/'
  | _ => false

def Part.isDot : Part → Bool
  | .literal c => c == '.'
  | _ => false

/-- Whether a pattern that ends in a dot can match a path that does. A file whose name ends in a
dot counts as a file without name and extension; only a pattern that is literal up to an opening
`*`, or that has several components behind an opening `**`, does without them. -/
def matchesFinalDot : List Part → Bool
  | .anyFront :: .anyText :: ps => ps.all (·.isLiteral) && ps.length != 1
  | .anyFront :: ps => ps.all (·.isLiteral) && ps.any (·.isSlash)
  | .anyText :: ps => ps.all (·.isLiteral) && ps.length != 1
  | ps => ps.all (·.isLiteral)

end JavaMetrics.Glob

namespace JavaMetrics

def Glob.matchesBytes (g : Glob) (path : List UInt8) : Bool :=
  match g.parts with
  | [.anyFront] => true
  | parts =>
    (Glob.afterAll parts [path]).any List.isEmpty &&
      (path.getLast? != some Glob.dot || !parts.getLast?.any (·.isDot) || Glob.matchesFinalDot parts)

def Glob.matches (g : Glob) (path : String) : Bool := g.matchesBytes path.toUTF8.toList

end JavaMetrics

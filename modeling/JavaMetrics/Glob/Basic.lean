/-!
Path patterns. `?` stands for one byte and `*` for any text, separators included. `**` is special
where it fills a whole path component; elsewhere it is two `*`. Classes in brackets may be negated
and hold ranges; alternatives in braces may nest. A backslash takes the next character as it is.
-/

set_option autoImplicit false

namespace JavaMetrics

inductive GlobError where
  | unclosedClass
  | invalidRange (first last : Char)
  | unopenedGroup
  | unclosedGroup
  | danglingEscape
deriving DecidableEq, Repr

namespace GlobError

def message : GlobError → String
  | unclosedClass => "unclosed character class; missing ']'"
  | invalidRange a b => "invalid range; '" ++ a.toString ++ "' > '" ++ b.toString ++ "'"
  | unopenedGroup =>
    "unopened alternate group; missing '\x7b' (maybe escape '\x7d' with '[\x7d]'?)"
  | unclosedGroup =>
    "unclosed alternate group; missing '\x7d' (maybe escape '\x7b' with '[\x7b]'?)"
  | danglingEscape => "dangling '\\'"

end GlobError

namespace Glob

inductive Part where
  | literal (c : Char)
  | any
  | anyText
  | anyFront
  | anyBelow
  | anyBetween
  | oneOf (negated : Bool) (ranges : List (Char × Char))
  | alternatives (branches : List (List Part))
deriving Inhabited

/-- The ranges of a class, last one first, read up to its closing bracket. A bracket or a dash in
front stands for itself, and so does a dash at the end. -/
def readRanges (first inRange : Bool) (ranges : List (Char × Char)) :
    List Char → Except GlobError (List (Char × Char) × List Char)
  | [] => .error .unclosedClass
  | c :: cs =>
    if c = ']' && !first then .ok (if inRange then ('-', '-') :: ranges else ranges, cs)
    else if c = '-' && !first && !inRange then readRanges false true ranges cs
    else
      match inRange, ranges with
      | true, (a, _) :: rest =>
        if c < a then .error (.invalidRange a c) else readRanges false false ((a, c) :: rest) cs
      | _, _ => readRanges false false ((c, c) :: ranges) cs

theorem length_readRanges {first inRange : Bool} {ranges rs : List (Char × Char)}
    {cs rest : List Char} (h : readRanges first inRange ranges cs = .ok (rs, rest)) :
    rest.length < cs.length := by
  induction cs generalizing first inRange ranges with
  | nil => simp [readRanges] at h
  | cons c cs ih =>
    simp only [readRanges] at h
    split at h
    · cases h; simp
    · split at h
      · exact Nat.lt_succ_of_lt (ih h)
      · split at h
        · split at h
          · cases h
          · exact Nat.lt_succ_of_lt (ih h)
        · exact Nat.lt_succ_of_lt (ih h)

def readClass (cs : List Char) : Except GlobError (Part × List Char) :=
  let negated := cs.head? = some '!' || cs.head? = some '^'
  match readRanges true false [] (if negated then cs.tail else cs) with
  | .ok (rs, rest) => .ok (.oneOf negated rs.reverse, rest)
  | .error e => .error e

theorem length_readClass {cs rest : List Char} {p : Part} (h : readClass cs = .ok (p, rest)) :
    rest.length < cs.length := by
  simp only [readClass] at h
  split at h
  · rename_i rs rest' hr
    simp only [Except.ok.injEq, Prod.mk.injEq] at h
    have hl := length_readRanges hr
    rw [h.2] at hl
    have ht : (if cs.head? = some '!' || cs.head? = some '^' then cs.tail else cs).length ≤
        cs.length := by
      split <;> simp
    omega
  · cases h

structure Draft where
  parts : List Part := []
  /-- The open groups, innermost first: their finished branches, last one first, and the parts in
  front of the group. -/
  groups : List (List (List Part) × List Part) := []

namespace Draft

def push (d : Draft) (p : Part) : Draft := { d with parts := p :: d.parts }

def inGroup (d : Draft) : Bool := !d.groups.isEmpty

def openGroup (d : Draft) : Draft := { parts := [], groups := ([], d.parts) :: d.groups }

def closeGroup (d : Draft) : Except GlobError Draft :=
  match d.groups with
  | (done, front) :: groups =>
    .ok { parts := .alternatives (d.parts.reverse :: done).reverse :: front, groups }
  | [] => .error .unopenedGroup

def comma (d : Draft) : Draft :=
  match d.groups with
  | (done, front) :: groups => { parts := [], groups := (d.parts.reverse :: done, front) :: groups }
  | [] => d.push (.literal ',')

/-- A `**` behind the character `prev` that fills a component takes the separator in front of it;
next to another `**` it adds nothing. -/
def wholeComponent (d : Draft) (p : Part) : Draft :=
  match d.parts with
  | .anyFront :: _ => d
  | .anyBelow :: _ => d
  | _ :: front => { d with parts := p :: front }
  | [] => d.push p

/-- A `**` behind the character `prev`, with `next` after it, and whether it takes a separator that
comes next. -/
def doubleStar (d : Draft) (prev next : Option Char) : Draft × Bool :=
  let stars := ((d.push .anyText).push .anyText, false)
  let atSeparator := next = some '/'
  if d.parts.isEmpty then
    if next.isNone || atSeparator then (d.push .anyFront, atSeparator) else stars
  else if prev ≠ some '/' && !(d.inGroup && (prev = some ',' || prev = some '\x7b')) then stars
  else if next.isNone || (d.inGroup && (next = some ',' || next = some '\x7d')) then
    (d.wholeComponent .anyBelow, false)
  else if atSeparator then (d.wholeComponent .anyBetween, true)
  else stars

end Draft

def readParts (d : Draft) (prev : Option Char) : List Char → Except GlobError (List Part)
  | [] => if d.inGroup then .error .unclosedGroup else .ok d.parts.reverse
  | '?' :: cs => readParts (d.push .any) (some '?') cs
  | '*' :: '*' :: cs =>
    let (d', takes) := d.doubleStar prev cs.head?
    if takes then readParts d' (some '/') cs.tail else readParts d' (some '*') cs
  | '*' :: cs => readParts (d.push .anyText) (some '*') cs
  | '[' :: cs =>
    match _h : readClass cs with
    | .ok (p, rest) => readParts (d.push p) (some ']') rest
    | .error e => .error e
  | '\x7b' :: cs => readParts d.openGroup (some '\x7b') cs
  | '\x7d' :: cs =>
    match d.closeGroup with
    | .ok d => readParts d (some '\x7d') cs
    | .error e => .error e
  | ',' :: cs => readParts d.comma (some ',') cs
  | ['\\'] => .error .danglingEscape
  | '\\' :: c :: cs => readParts (d.push (.literal c)) (some c) cs
  | c :: cs => readParts (d.push (.literal c)) (some c) cs
termination_by cs => cs.length
decreasing_by
  all_goals simp only [List.length_cons, List.length_tail]
  all_goals first
    | omega
    | exact Nat.lt_succ_of_lt (length_readClass _h)

end Glob

structure Glob where
  parts : List Glob.Part
deriving Inhabited

def Glob.parse (pattern : String) : Except GlobError Glob :=
  match Glob.readParts {} none pattern.toList with
  | .ok parts => .ok ⟨parts⟩
  | .error e => .error e

end JavaMetrics

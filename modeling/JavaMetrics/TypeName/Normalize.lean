import JavaMetrics.Text.Letters
import JavaMetrics.Text.Split

set_option autoImplicit false

namespace JavaMetrics.TypeName

def dropGroup (opened : Nat) : List Char → List Char
  | [] => []
  | c :: cs =>
    if c = '(' then dropGroup (opened + 1) cs
    else if c = ')' then if opened ≤ 1 then cs else dropGroup (opened - 1) cs
    else dropGroup opened cs

def isAnnotationChar (c : Char) : Bool :=
  Text.isAlphanumeric c || c == '_' || c == '$' || c == '.'

/-- Drops an annotation after its `@`: the name, blanks, and a group in parentheses if one
follows. -/
def dropAnnotationText (cs : List Char) : List Char :=
  let rest := (cs.dropWhile isAnnotationChar).dropWhile Text.isBlank
  if rest.head? = some '(' then dropGroup 0 rest else rest

theorem length_dropGroup_le (n : Nat) (cs : List Char) : (dropGroup n cs).length ≤ cs.length := by
  induction cs generalizing n with
  | nil => simp [dropGroup]
  | cons c cs ih =>
    simp only [dropGroup]
    split
    · exact Nat.le_succ_of_le (ih _)
    · split
      · split
        · exact Nat.le_succ _
        · exact Nat.le_succ_of_le (ih _)
      · exact Nat.le_succ_of_le (ih _)

theorem length_dropAnnotationText_le (cs : List Char) : (dropAnnotationText cs).length ≤ cs.length := by
  have h₁ : (cs.dropWhile isAnnotationChar).length ≤ cs.length :=
    (List.dropWhile_sublist _).length_le
  have h₂ : ((cs.dropWhile isAnnotationChar).dropWhile Text.isBlank).length ≤
      (cs.dropWhile isAnnotationChar).length := (List.dropWhile_sublist _).length_le
  have h₃ := length_dropGroup_le 0 ((cs.dropWhile isAnnotationChar).dropWhile Text.isBlank)
  simp only [dropAnnotationText]
  split <;> omega

def bare (depth : Nat) : List Char → List Char
  | [] => []
  | c :: cs =>
    if c = '<' then bare (depth + 1) cs
    else if c = '>' then bare (depth - 1) cs
    else if 0 < depth then bare depth cs
    else if c = '@' then bare 0 (dropAnnotationText cs)
    else if c = '[' || c = ']' || Text.isBlank c then bare 0 cs
    else c :: bare 0 cs
termination_by cs => cs.length
decreasing_by
  all_goals simp only [List.length_cons]
  all_goals first
    | omega
    | exact Nat.lt_succ_of_le (length_dropAnnotationText_le cs)

def trimDots (cs : List Char) : List Char :=
  ((cs.reverse.dropWhile (· == '.')).reverse).dropWhile (· == '.')

def normalize (raw : String) : Option String :=
  let name := trimDots (bare 0 raw.toList)
  if name.isEmpty then none else some (String.ofList name)

def primitives : List String :=
  ["byte", "short", "int", "long", "float", "double", "boolean", "char", "Byte", "Short",
   "Integer", "Long", "Float", "Double", "Boolean", "Character", "void", "Void"]

/-- Types of `java.lang` that count only when they are imported by name. -/
def implicits : List String :=
  ["String", "Object", "Throwable", "Exception", "RuntimeException", "Error", "Cloneable",
   "Comparable", "Serializable", "Iterable", "Number", "Enum"]

def javaLang : String := "java.lang."

def withoutJavaLang (name : String) : String :=
  if Text.startsWith name javaLang then String.ofList (name.toList.drop javaLang.toList.length)
  else name

def isPrimitive (name : String) : Bool := primitives.contains (withoutJavaLang name)

def isImplicit (name : String) : Bool := implicits.contains (withoutJavaLang name)

def startsUpper (name : String) : Bool := (name.toList.head?).any Text.isUpper

end JavaMetrics.TypeName

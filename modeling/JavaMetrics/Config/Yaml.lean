import JavaMetrics.Config.Basic
import JavaMetrics.Decimal.Read
import JavaMetrics.Yaml.Document

set_option autoImplicit false

namespace JavaMetrics.Yaml

def coreTag (name : String) : String := "tag:yaml.org,2002:" ++ name

def digits? (base : Nat) (cs : List Char) : Option Nat := do
  if cs.isEmpty then none
  let n ← cs.foldlM (fun n c => do
    let d ← hexDigit? c
    if d < base then some (base * n + d) else none) 0
  if n < Json.wordLimit then some n else none

def withoutPlus : List Char → List Char
  | '+' :: cs => cs
  | cs => cs

/-- A whole number that is not negative. Decimal numbers have no leading zeros. -/
def wholeNumber? (s : String) : Option Nat :=
  match withoutPlus s.toList with
  | '0' :: 'x' :: cs => digits? 16 cs
  | '0' :: 'o' :: cs => digits? 8 cs
  | '0' :: 'b' :: cs => digits? 2 cs
  | '0' :: _ :: _ => none
  | cs => if cs.all Char.isDigit then digits? 10 cs else none

def exponent? : List Char → Option Int
  | [] => some 0
  | c :: cs =>
    if c == 'e' || c == 'E' then
      let (negative, ds) := match cs with
        | '-' :: ds => (true, ds)
        | '+' :: ds => (false, ds)
        | ds => (false, ds)
      if ds.isEmpty || !ds.all Char.isDigit then none
      else
        let n : Int := ds.foldl (fun n d => 10 * n + (d.toNat - '0'.toNat)) 0
        some (if negative then -n else n)
    else none

def decimal? (cs : List Char) : Option Float := do
  let (negative, cs) := match cs with
    | '-' :: cs => (true, cs)
    | '+' :: cs => (false, cs)
    | cs => (false, cs)
  let whole := cs.takeWhile Char.isDigit
  let rest := cs.drop whole.length
  let (part, rest) := match rest with
    | '.' :: rest => (rest.takeWhile Char.isDigit, rest.dropWhile Char.isDigit)
    | rest => ([], rest)
  if whole.isEmpty && part.isEmpty then none
  let e ← exponent? rest
  let ds := (whole ++ part).foldl (fun n d => 10 * n + (d.toNat - '0'.toNat)) 0
  let f := Decimal.nearest negative ds (e - part.length)
  if f.isFinite then some f else none

def float? (s : String) : Option Float :=
  let cs := withoutPlus s.toList
  if s.toList.head? == some '+' && (cs.head? == some '+' || cs.head? == some '-') then none
  else
    let plain := String.ofList cs
    if [".inf", ".Inf", ".INF"].contains plain then some (1.0 / 0.0)
    else if ["-.inf", "-.Inf", "-.INF"].contains s then some (-1.0 / 0.0)
    else if [".nan", ".NaN", ".NAN"].contains s then some (0.0 / 0.0)
    else decimal? cs

def bool? (s : String) : Option Bool :=
  if ["true", "True", "TRUE"].contains s then some true
  else if ["false", "False", "FALSE"].contains s then some false
  else none

def isNull (s : String) : Bool := ["null", "Null", "NULL", "~"].contains s

namespace Document

variable {α : Type} (d : Document)

/-- A scalar that stands for a value of a kind: plain, or a literal block tagged as that kind. -/
def value? (kind : String) (read : String → Option α) (n : Node) : Option α :=
  match d.follow n with
  | .scalar .plain _ s => read s
  | .scalar .literal tag s => if tag == some (coreTag kind) then read s else none
  | _ => none

def text? (n : Node) : Option String :=
  match d.follow n with
  | .scalar _ _ s => some s
  | _ => none

def option? (read : Node → Option α) (n : Node) : Option (Option α) :=
  match d.follow n with
  | .scalar .plain none s => if s.isEmpty || isNull s then some none else (read n).map some
  | .scalar .plain (some tag) s =>
    if tag == coreTag "null" then if isNull s then some none else none
    else (read n).map some
  | _ => (read n).map some

def list? (read : Node → Option α) (n : Node) : Option (List α) :=
  match d.follow n with
  | .sequence items => items.mapM read
  | .scalar .plain _ s => if s.isEmpty then some [] else none
  | _ => none

def entries? (n : Node) : Option (List (String × Node)) :=
  match d.follow n with
  | .mapping entries => entries.mapM fun e => (d.text? e.1).map (·, e.2)
  | .scalar .plain _ s => if s.isEmpty then some [] else none
  | _ => none

def entry? (entries : List (String × Node)) (k : String) (read : Node → Option α) (default : α) :
    Option α :=
  match entries.filter (·.1 == k) with
  | [] => some default
  | [e] => read e.2
  | _ => none

def nat? (n : Node) : Option Nat := d.value? "int" wholeNumber? n

def thresholds? (n : Node) : Option SmellThresholds := do
  let es ← d.entries? n
  let t : SmellThresholds := {}
  return ⟨← entry? es "god_class_loc" d.nat? t.godClassLoc,
    ← entry? es "god_class_wmc" d.nat? t.godClassWmc,
    ← entry? es "god_class_cbo" d.nat? t.godClassCbo,
    ← entry? es "long_method_loc" d.nat? t.longMethodLoc,
    ← entry? es "long_parameter_list" d.nat? t.longParameterList,
    ← entry? es "data_class_max_methods" d.nat? t.dataClassMaxMethods,
    ← entry? es "feature_envy_ratio" (d.value? "float" float?) t.featureEnvyRatio,
    ← entry? es "feature_envy_min_external_calls" d.nat? t.featureEnvyMinExternalCalls⟩

def config? : Option Config := do
  let es ← d.entries? d.root
  return ⟨← entry? es "smells" d.thresholds? {},
    ← entry? es "excluded_paths" (d.list? d.text?) [],
    ← entry? es "include_test_files" (d.option? (d.value? "bool" bool?)) none,
    ← entry? es "timeout_secs" (d.option? d.nat?) none,
    ← entry? es "parallel" (d.value? "bool" bool?) true⟩

end Document

end JavaMetrics.Yaml

namespace JavaMetrics

def Config.ofYaml? (text : String) : Option Config := (Yaml.Document.read? text).bind (·.config?)

end JavaMetrics

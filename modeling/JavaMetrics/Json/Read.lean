import JavaMetrics.Decimal.Read
import JavaMetrics.Json.Value

set_option autoImplicit false

namespace JavaMetrics.Json

def isBlank (c : Char) : Bool := c == ' ' || c == '\n' || c == '\r' || c == '\t'

def skip (cs : List Char) : List Char := cs.dropWhile isBlank

def digitValue (c : Char) : Nat := c.toNat - '0'.toNat

def readNat (ds : List Char) : Nat := ds.foldl (fun n c => 10 * n + digitValue c) 0

/-- A whole number, or a floating-point number if it is out of range. -/
def wholeNumber (negative : Bool) (n : Nat) : Json :=
  if negative then
    if n == 0 || Nat.pow 2 63 < n then float (Decimal.nearest true n 0) else int (-(n : Int))
  else if n < wordLimit then int n else float (Decimal.nearest false n 0)

def readExponent (cs : List Char) : Option (Option Int × List Char) :=
  match cs with
  | c :: rest =>
    if c == 'e' || c == 'E' then
      let (negative, rest) := match rest with
        | '-' :: r => (true, r)
        | '+' :: r => (false, r)
        | r => (false, r)
      let ds := rest.takeWhile Char.isDigit
      if ds.isEmpty then none
      else
        let n : Int := readNat ds
        some (some (if negative then -n else n), rest.drop ds.length)
    else some (none, cs)
  | [] => some (none, [])

def readFraction (cs : List Char) : Option (Option (List Char) × List Char) :=
  match cs with
  | '.' :: rest =>
    let ds := rest.takeWhile Char.isDigit
    if ds.isEmpty then none else some (some ds, rest.drop ds.length)
  | _ => some (none, cs)

def readNumber (cs : List Char) : Option (Json × List Char) := do
  let (negative, cs) := match cs with
    | '-' :: r => (true, r)
    | r => (false, r)
  let ds := cs.takeWhile Char.isDigit
  if ds.isEmpty || (ds.length > 1 && ds.head? == some '0') then none
  let (frac, rest) ← readFraction (cs.drop ds.length)
  let (exp, rest) ← readExponent rest
  match frac, exp with
  | none, none => some (wholeNumber negative (readNat ds), rest)
  | _, _ =>
    let fs := frac.getD []
    let f := Decimal.nearest negative (readNat (ds ++ fs)) (exp.getD 0 - fs.length)
    if f.isFinite then some (float f, rest) else none

def hexValue? (c : Char) : Option Nat :=
  if c.isDigit then some (digitValue c)
  else if 'a' ≤ c && c ≤ 'f' then some (c.toNat - 'a'.toNat + 10)
  else if 'A' ≤ c && c ≤ 'F' then some (c.toNat - 'A'.toNat + 10)
  else none

def readHex4 (cs : List Char) : Option (Nat × List Char) := do
  let [a, b, c, d] := cs.take 4 | none
  let a ← hexValue? a
  let b ← hexValue? b
  let c ← hexValue? c
  let d ← hexValue? d
  some (((a * 16 + b) * 16 + c) * 16 + d, cs.drop 4)

def simpleEscape? (c : Char) : Option Char :=
  match c with
  | '"' => some '"'
  | '\\' => some '\\'
  | '/' => some '/'
  | 'b' => some '\x08'
  | 'f' => some '\x0c'
  | 'n' => some '\n'
  | 'r' => some '\r'
  | 't' => some '\t'
  | _ => none

/-- A character given by its code, with its second half if it has two. -/
def readCode (cs : List Char) : Option (Char × List Char) := do
  let (n, rest) ← readHex4 cs
  if 0xD800 ≤ n && n < 0xDC00 then
    match rest with
    | '\\' :: 'u' :: more =>
      let (m, more) ← readHex4 more
      if 0xDC00 ≤ m && m < 0xE000 then
        some (Char.ofNat (0x10000 + (n - 0xD800) * 0x400 + (m - 0xDC00)), more)
      else none
    | _ => none
  else if 0xDC00 ≤ n && n < 0xE000 then none
  else some (Char.ofNat n, rest)

def readChars : Nat → List Char → List Char → Option (String × List Char)
  | 0, _, _ => none
  | fuel + 1, cs, done =>
    match cs with
    | [] => none
    | '"' :: rest => some (String.ofList done.reverse, rest)
    | '\\' :: 'u' :: rest => do
      let (c, rest) ← readCode rest
      readChars fuel rest (c :: done)
    | '\\' :: c :: rest => do
      let c ← simpleEscape? c
      readChars fuel rest (c :: done)
    | c :: rest => if c.toNat < 32 then none else readChars fuel rest (c :: done)

def literal? (cs : List Char) : Option (Json × List Char) :=
  match cs with
  | 'n' :: 'u' :: 'l' :: 'l' :: rest => some (null, rest)
  | 't' :: 'r' :: 'u' :: 'e' :: rest => some (bool true, rest)
  | 'f' :: 'a' :: 'l' :: 's' :: 'e' :: rest => some (bool false, rest)
  | _ => none

mutual

def readValue : Nat → List Char → Option (Json × List Char)
  | 0, _ => none
  | fuel + 1, cs =>
    match skip cs with
    | '[' :: rest =>
      match skip rest with
      | ']' :: rest => some (arr [], rest)
      | rest => (readItems fuel rest []).map fun (xs, r) => (arr xs, r)
    | '\x7b' :: rest =>
      match skip rest with
      | '\x7d' :: rest => some (obj [], rest)
      | rest => (readFields fuel rest []).map fun (fs, r) => (obj fs, r)
    | '"' :: rest => (readChars (rest.length + 1) rest []).map fun (s, r) => (str s, r)
    | cs =>
      match literal? cs with
      | some r => some r
      | none => readNumber cs

def readItems : Nat → List Char → List Json → Option (List Json × List Char)
  | 0, _, _ => none
  | fuel + 1, cs, done => do
    let (x, rest) ← readValue fuel cs
    match skip rest with
    | ',' :: rest => readItems fuel rest (x :: done)
    | ']' :: rest => some ((x :: done).reverse, rest)
    | _ => none

def readFields : Nat → List Char → List (String × Json) → Option (List (String × Json) × List Char)
  | 0, _, _ => none
  | fuel + 1, cs, done =>
    match skip cs with
    | '"' :: rest => do
      let (k, rest) ← readChars (rest.length + 1) rest []
      let ':' :: rest := skip rest | none
      let (v, rest) ← readValue fuel rest
      match skip rest with
      | ',' :: rest => readFields fuel rest ((k, v) :: done)
      | '\x7d' :: rest => some (((k, v) :: done).reverse, rest)
      | _ => none
    | _ => none

end

def read? (s : String) : Option Json :=
  let cs := s.toList
  match readValue (2 * cs.length + 2) cs with
  | some (j, rest) => if (skip rest).isEmpty then some j else none
  | none => none

end JavaMetrics.Json

import JavaMetrics.Dict
import JavaMetrics.Json.Value

set_option autoImplicit false

namespace JavaMetrics.Json

variable {α : Type}

def toText? : Json → Option String
  | str s => some s
  | _ => none

def toBool? : Json → Option Bool
  | bool b => some b
  | _ => none

def toNat? : Json → Option Nat
  | int (.ofNat n) => if n < wordLimit then some n else none
  | _ => none

def toFloat? : Json → Option Float
  | int n => some (Float.ofInt n)
  | float f => some f
  | _ => none

def toList? (dec : Json → Option α) : Json → Option (List α)
  | arr items => items.mapM dec
  | _ => none

def toOption? (dec : Json → Option α) : Json → Option (Option α)
  | null => some none
  | j => (dec j).map some

def ofDict (enc : α → Json) (d : Dict α) : Json := obj (d.entries.map fun e => (e.1, enc e.2))

def toDict? (dec : Json → Option α) : Json → Option (Dict α)
  | obj fields => (fields.mapM fun f => (dec f.2).map (f.1, ·)).map .ofList
  | _ => none

/-- The name of a choice, alone or as the only name of an object that holds null. -/
def toName? : Json → Option String
  | str s => some s
  | obj [(s, null)] => some s
  | _ => none

def toChoice? (ofText? : String → Option α) (j : Json) : Option α := j.toName?.bind ofText?

inductive Members where
  | named (fields : List (String × Json))
  | listed (items : List Json)

namespace Members

abbrev Reader := StateT Members Option

/-- The next member: by its name, or the next item. -/
def take? (k : String) : Reader (Option Json)
  | named fields => some (fields.lookup k, named fields)
  | listed [] => some (none, listed [])
  | listed (j :: rest) => some (some j, listed rest)

def required (k : String) (dec : Json → Option α) : Reader α := do
  match ← take? k with
  | some j => (dec j : Option α)
  | none => none

def orElse (k : String) (dec : Json → Option α) (default : α) : Reader α := do
  match ← take? k with
  | some j => (dec j : Option α)
  | none => pure default

def optional (k : String) (dec : Json → Option α) : Reader (Option α) := fun m =>
  match m with
  | listed [] => none
  | _ => orElse k (toOption? dec) none m

def isDone : Members → Bool
  | named _ => true
  | listed items => items.isEmpty

def run? (r : Reader α) (m : Members) : Option α :=
  match StateT.run r m with
  | some (a, rest) => if rest.isDone then some a else none
  | none => none

end Members

def toRecord? (r : Members.Reader α) : Json → Option α
  | obj fields => Members.run? r (.named fields)
  | arr items => Members.run? r (.listed items)
  | _ => none

end JavaMetrics.Json

import JavaMetrics.Decimal.Layout

set_option autoImplicit false

namespace JavaMetrics

inductive Json where
  | null
  | bool (b : Bool)
  | int (n : Int)
  | float (f : Float)
  | str (s : String)
  | arr (items : List Json)
  | obj (fields : List (String × Json))
deriving Inhabited

namespace Json

def wordLimit : Nat := Nat.pow 2 64

def nat (n : Nat) : Json := int n

/-- A number that is not finite is written as null. -/
def ofFloat (f : Float) : Json := if f.isFinite then float f else null

def ofOption {α : Type} (enc : α → Json) : Option α → Json
  | some a => enc a
  | none => null

def ofList {α : Type} (enc : α → Json) (xs : List α) : Json := arr (xs.map enc)

def strs (xs : List String) : Json := ofList str xs

def field? (j : Json) (k : String) : Option Json :=
  match j with
  | obj fields => fields.lookup k
  | _ => none

def hexDigit (n : Nat) : Char := (Nat.toDigits 16 n).headD '0'

def escape (c : Char) : List Char :=
  if c == '"' then ['\\', '"']
  else if c == '\\' then ['\\', '\\']
  else if c == '\n' then ['\\', 'n']
  else if c == '\r' then ['\\', 'r']
  else if c == '\t' then ['\\', 't']
  else if c == '\x08' then ['\\', 'b']
  else if c == '\x0c' then ['\\', 'f']
  else if c.toNat < 32 then ['\\', 'u', '0', '0', hexDigit (c.toNat / 16), hexDigit (c.toNat % 16)]
  else [c]

def quoted (s : String) : String := String.ofList ('"' :: s.toList.flatMap escape ++ ['"'])

def scalarText : Json → String
  | bool true => "true"
  | bool false => "false"
  | int n => toString n
  | float f => (Decimal.Layout.json.text? f).getD "null"
  | str s => quoted s
  | _ => "null"

def indent (depth : Nat) : String := "\n" ++ String.ofList (List.replicate (2 * depth) ' ')

mutual

def addCompact (out : String) : Json → String
  | arr xs => addItems (out ++ "[") xs ++ "]"
  | obj fs => addFields (out ++ "\x7b") fs ++ "\x7d"
  | j => out ++ scalarText j

def addItems (out : String) : List Json → String
  | [] => out
  | [x] => addCompact out x
  | x :: xs => addItems (addCompact out x ++ ",") xs

def addFields (out : String) : List (String × Json) → String
  | [] => out
  | [(k, v)] => addCompact (out ++ quoted k ++ ":") v
  | (k, v) :: rest => addFields (addCompact (out ++ quoted k ++ ":") v ++ ",") rest

end

def compact (j : Json) : String := j.addCompact ""

mutual

/-- Adds the indented text at a depth; empty arrays and objects stay on one line. -/
def addPretty (depth : Nat) (out : String) : Json → String
  | arr [] => out ++ "[]"
  | arr (x :: xs) => addPrettyItems (depth + 1) (out ++ "[") (x :: xs) ++ indent depth ++ "]"
  | obj [] => out ++ "\x7b\x7d"
  | obj (f :: fs) =>
    addPrettyFields (depth + 1) (out ++ "\x7b") (f :: fs) ++ indent depth ++ "\x7d"
  | j => out ++ scalarText j

def addPrettyItems (depth : Nat) (out : String) : List Json → String
  | [] => out
  | [x] => addPretty depth (out ++ indent depth) x
  | x :: xs => addPrettyItems depth (addPretty depth (out ++ indent depth) x ++ ",") xs

def addPrettyFields (depth : Nat) (out : String) : List (String × Json) → String
  | [] => out
  | [(k, v)] => addPretty depth (out ++ indent depth ++ quoted k ++ ": ") v
  | (k, v) :: rest =>
    addPrettyFields depth (addPretty depth (out ++ indent depth ++ quoted k ++ ": ") v ++ ",") rest

end

def pretty (j : Json) : String := j.addPretty 0 ""

end Json

end JavaMetrics

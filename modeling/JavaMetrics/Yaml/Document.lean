import JavaMetrics.Yaml.Token

set_option autoImplicit false

namespace JavaMetrics.Yaml

inductive Node where
  | scalar (style : Style) (tag : Option String) (text : String)
  | sequence (items : List Node)
  | mapping (entries : List (Node × Node))
  | reference (anchor : Nat)
deriving Inhabited

namespace Node

def absent : Node := scalar .plain none ""

end Node

structure Document where
  root : Node
  anchored : List (Nat × Node)
deriving Inhabited

def Document.follow (d : Document) : Node → Node
  | .reference n => (d.anchored.lookup n).getD .absent
  | n => n

structure Parser where
  tokens : List Token
  names : List (String × Nat) := []
  anchored : List (Nat × Node) := []
  handles : List (String × String) := []

namespace Parser

abbrev Reader := StateT Parser Option

def fail {α : Type} : Reader α := fun _ => none

def peek : Reader (Option Token) := fun p => some (p.tokens.head?, p)

def drop : Reader Unit := fun p => some ((), { p with tokens := p.tokens.tail })

def atAny (ts : List Token) : Reader Bool := do
  match ← peek with
  | some t => return ts.contains t
  | none => return true

def accept (t : Token) : Reader Bool := do
  if (← peek) == some t then drop; return true else return false

def comma : Reader Unit := do
  if ← accept .flowEntry then return else fail

def nameAnchor (name : String) : Reader Nat := fun p =>
  some (p.names.length, { p with names := (name, p.names.length) :: p.names })

def keep (id : Option Nat) (n : Node) : Reader Node := fun p =>
  match id with
  | some i => some (n, { p with anchored := (i, n) :: p.anchored })
  | none => some (n, p)

def anchor? : Reader (Option Nat) := do
  match ← peek with
  | some (.anchor name) => drop; return some (← nameAnchor name)
  | _ => return none

def tag? : Reader (Option String) := do
  match ← peek with
  | some (.tag handle rest) =>
    drop
    if handle.isEmpty then return some rest
    match (← get).handles.lookup handle with
    | some stem => return some (stem ++ rest)
    | none => fail
  | _ => return none

def properties : Reader (Option Nat × Option String) := do
  match ← anchor? with
  | some a => return (some a, ← tag?)
  | none =>
    match ← tag? with
    | some t => return (← anchor?, some t)
    | none => return (none, none)

mutual

/-- A node. Blocks are not allowed inside flow collections; as a value in a block mapping, a
sequence may stand at the column of its key. -/
def node (fuel : Nat) (block indentless : Bool) : Reader Node :=
  match fuel with
  | 0 => fail
  | fuel + 1 => do
    match ← peek with
    | some (.aliasOf name) =>
      drop
      match (← get).names.lookup name with
      | some id => return .reference id
      | none => fail
    | _ =>
      let (id, tag) ← properties
      match ← peek with
      | some (.scalar style text) => drop; keep id (.scalar style tag text)
      | some .flowSequence => drop; keep id (.sequence (← flowItems fuel true))
      | some .flowMapping => drop; keep id (.mapping (← flowEntries fuel true))
      | some .blockEntry =>
        if indentless then keep id (.sequence (← entryItems fuel))
        else bare id tag
      | some .blockSequence =>
        if block then drop; keep id (.sequence (← blockItems fuel)) else bare id tag
      | some .blockMapping =>
        if block then drop; keep id (.mapping (← blockEntries fuel)) else bare id tag
      | _ => bare id tag

def bare (id : Option Nat) (tag : Option String) : Reader Node :=
  if id.isNone && tag.isNone then fail else keep id (.scalar .plain tag "")

def blockItems (fuel : Nat) : Reader (List Node) :=
  match fuel with
  | 0 => fail
  | fuel + 1 => do
    if ← accept .blockEntry then
      let item ← if ← atAny [.blockEntry, .blockEnd] then pure .absent else node fuel true false
      return item :: (← blockItems fuel)
    else if ← accept .blockEnd then return []
    else fail

def entryItems (fuel : Nat) : Reader (List Node) :=
  match fuel with
  | 0 => fail
  | fuel + 1 => do
    if ← accept .blockEntry then
      let item ← if ← atAny [.blockEntry, .key, .value, .blockEnd] then pure .absent
        else node fuel true false
      return item :: (← entryItems fuel)
    else return []

def blockEntries (fuel : Nat) : Reader (List (Node × Node)) :=
  match fuel with
  | 0 => fail
  | fuel + 1 => do
    if ← accept .key then
      let k ← if ← atAny [.key, .value, .blockEnd] then pure .absent else node fuel true true
      let v ← if ← accept .value then
          if ← atAny [.key, .value, .blockEnd] then pure .absent else node fuel true true
        else pure .absent
      return (k, v) :: (← blockEntries fuel)
    else if ← accept .blockEnd then return []
    else fail

def flowItems (fuel : Nat) (first : Bool) : Reader (List Node) :=
  match fuel with
  | 0 => fail
  | fuel + 1 => do
    if ← accept .flowSequenceEnd then return []
    unless first do comma
    if ← accept .flowSequenceEnd then return []
    let item ← if ← accept .key then singlePair fuel else node fuel false false
    return item :: (← flowItems fuel false)

def singlePair (fuel : Nat) : Reader Node :=
  match fuel with
  | 0 => fail
  | fuel + 1 => do
    let k ← if ← atAny [.value, .flowEntry, .flowSequenceEnd] then drop; pure .absent
      else node fuel false false
    let v ← if ← accept .value then
        if ← atAny [.flowEntry, .flowSequenceEnd] then pure .absent else node fuel false false
      else pure .absent
    return .mapping [(k, v)]

def flowEntries (fuel : Nat) (first : Bool) : Reader (List (Node × Node)) :=
  match fuel with
  | 0 => fail
  | fuel + 1 => do
    if ← accept .flowMappingEnd then return []
    unless first do comma
    if ← accept .flowMappingEnd then return []
    let entry ← if ← accept .key then do
        let k ← if ← atAny [.value, .flowEntry, .flowMappingEnd] then pure .absent
          else node fuel false false
        let v ← if ← accept .value then
            if ← atAny [.flowEntry, .flowMappingEnd] then pure .absent else node fuel false false
          else pure .absent
        pure (k, v)
      else do pure (← node fuel false false, .absent)
    return entry :: (← flowEntries fuel false)

end

def isDirective : Token → Bool
  | .version _ _ => true
  | .tagRule _ _ => true
  | _ => false

/-- Reads directives: the version is given once at most and has to be 1.1 or 1.2, and so is every
handle. Returns whether there were any. -/
def directives (fuel : Nat) (versioned : Bool) (handles : List (String × String)) : Reader Unit :=
  match fuel with
  | 0 => fail
  | fuel + 1 => do
    match ← peek with
    | some (.version major minor) =>
      if versioned || major != 1 || (minor != 1 && minor != 2) then fail
      drop
      directives fuel true handles
    | some (.tagRule handle stem) =>
      if (handles.lookup handle).isSome then fail
      drop
      directives fuel versioned ((handle, stem) :: handles)
    | _ => modify fun p => { p with handles := handles ++ [("!", "!"), ("!!", coreTag)] }
where
  coreTag : String := "tag:yaml.org,2002:"

def skipEnds (fuel : Nat) : Reader Unit :=
  match fuel with
  | 0 => fail
  | fuel + 1 => do if ← accept .documentEnd then skipEnds fuel

def document (fuel : Nat) : Reader (Option Node) := do
  match ← peek with
  | none => return none
  | some t =>
    directives fuel false []
    let root ← if isDirective t || t == .documentStart then do
        if !(← accept .documentStart) then fail
        match ← peek with
        | none | some .documentStart | some .documentEnd => pure .absent
        | some t => if isDirective t then pure .absent else node fuel true false
      else node fuel true false
    skipEnds fuel
    if (← peek).isSome then fail
    return some root

end Parser

/-- Reads a text with one document at most; an empty one counts as an absent node. -/
def Document.read? (text : String) : Option Document := do
  let tokens ← Token.scan? text
  let (root, p) ← (Parser.document (2 * tokens.length + 2)).run { tokens }
  return ⟨root.getD .absent, p.anchored⟩

end JavaMetrics.Yaml

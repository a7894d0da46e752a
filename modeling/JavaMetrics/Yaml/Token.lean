import JavaMetrics.Yaml.Scalar

/-!
The tokens of YAML text. Indentation shows as starts and ends of blocks. A key is known only when
its colon is reached, so the place of every possible key is kept until then: the key has to be on
one line and within 1024 characters. Without a result the text is malformed.
-/

set_option autoImplicit false

namespace JavaMetrics.Yaml

inductive Token where
  | version (major minor : Nat)
  | tagRule (handle stem : String)
  | documentStart
  | documentEnd
  | blockSequence
  | blockMapping
  | blockEnd
  | flowSequence
  | flowSequenceEnd
  | flowMapping
  | flowMappingEnd
  | blockEntry
  | flowEntry
  | key
  | value
  | aliasOf (name : String)
  | anchor (name : String)
  | tag (handle rest : String)
  | scalar (style : Style) (text : String)
deriving DecidableEq, Repr, Inhabited

/-- A place where a key may have started. -/
structure PossibleKey where
  required : Bool
  token : Nat
  line : Nat
  column : Nat
  index : Nat

structure Scan where
  cursor : Cursor
  tokens : Array Token := #[]
  flowLevel : Nat := 0
  /-- The column of the current block; -1 outside of all blocks. -/
  indent : Int := -1
  outer : List Int := []
  keyAllowed : Bool := true
  keys : List (Option PossibleKey) := [none]

namespace Scan

def inFlow (s : Scan) : Bool := 0 < s.flowLevel

def push (s : Scan) (t : Token) : Scan := { s with tokens := s.tokens.push t }

def insertAt (s : Scan) (n : Nat) (t : Token) : Scan :=
  { s with tokens := (s.tokens.extract 0 n).push t ++ s.tokens.extract n s.tokens.size }

def allowKey (s : Scan) (b : Bool) : Scan := { s with keyAllowed := b }

def move (s : Scan) (c : Cursor) : Scan := { s with cursor := c }

def skip (s : Scan) (n : Nat) : Scan := s.move (s.cursor.skip n)

def expireKeys (s : Scan) : Option Scan := do
  let keys ← s.keys.mapM fun k =>
    match k with
    | some k =>
      if k.line < s.cursor.line || k.index + 1024 < s.cursor.index then
        if k.required then none else some none
      else some (some k)
    | none => some none
  return { s with keys }

def clearKey (s : Scan) : Option Scan :=
  match s.keys with
  | some k :: rest => if k.required then none else some { s with keys := none :: rest }
  | _ => some s

def noteKey (s : Scan) : Option Scan :=
  if s.keyAllowed then do
    let s ← s.clearKey
    let k : PossibleKey :=
      { required := !s.inFlow && s.indent == s.cursor.column
        token := s.tokens.size
        line := s.cursor.line
        column := s.cursor.column
        index := s.cursor.index }
    return { s with keys := some k :: s.keys.tail }
  else some s

/-- Starts a block at a deeper column; its first token gets the number `n`. -/
def openBlock (s : Scan) (column n : Nat) (t : Token) : Scan :=
  if !s.inFlow && s.indent < column then
    { s with indent := column, outer := s.indent :: s.outer }.insertAt n t
  else s

def closeBlocksTo (s : Scan) (column : Int) : List Int → Scan
  | [] => s
  | i :: rest =>
    if column < s.indent then closeBlocksTo { s.push .blockEnd with indent := i, outer := rest } column rest
    else s

def closeBlocks (s : Scan) (column : Int) : Scan := if s.inFlow then s else s.closeBlocksTo column s.outer

def isTagChar (full : Bool) (c : Char) : Bool :=
  isWordChar c || ";/?:@&=+$.%!~*'()".toList.contains c || (full && ",[]".toList.contains c)

/-- Replaces `%xx` by bytes; none unless they spell characters. -/
def unescapeTag : List Char → Option (List UInt8)
  | '%' :: a :: b :: rest => do
    let hi ← hexDigit? a
    let lo ← hexDigit? b
    return (16 * hi + lo).toUInt8 :: (← unescapeTag rest)
  | '%' :: _ => none
  | c :: rest => do return c.toString.toUTF8.toList ++ (← unescapeTag rest)
  | [] => some []

/-- The rest of a tag behind `head`; one of both has to be there. -/
def readTagRest (full : Bool) (head : List Char) (c : Cursor) : Option (String × Cursor) := do
  let (cs, c) := c.takeWhile (isTagChar full)
  if head.isEmpty && cs.isEmpty then none
  let bytes ← unescapeTag cs
  let text ← String.fromUTF8? ⟨bytes.toArray⟩
  return (String.ofList head.tail ++ text, c)

def readTagHandle (c : Cursor) : Option (List Char × Cursor) :=
  if c.isAt '!' then
    let (name, c) := (c.skip 1).takeWhile isWordChar
    if c.isAt '!' then some ('!' :: name ++ ['!'], c.skip 1) else some ('!' :: name, c)
  else none

def readTag (c : Cursor) : Option (Token × Cursor) :=
  if c.peek 1 == some '<' then do
    let (rest, c) ← readTagRest true [] (c.skip 2)
    if c.isAt '>' then return (.tag "" rest, c.skip 1) else none
  else do
    let (handle, c) ← readTagHandle c
    if 1 < handle.length && handle.getLast? == some '!' then
      let (rest, c) ← readTagRest false [] c
      return (.tag (String.ofList handle) rest, c)
    else
      let (rest, c) ← readTagRest false handle c
      return (if rest.isEmpty then .tag "" "!" else .tag "!" rest, c)

def readNumber (c : Cursor) : Option (Nat × Cursor) :=
  let (ds, c) := c.takeWhile Char.isDigit
  if ds.isEmpty || 9 < ds.length then none
  else some (ds.foldl (fun n d => 10 * n + (d.toNat - '0'.toNat)) 0, c)

def readDirective (c : Cursor) : Option (Token × Cursor) := do
  let (name, c) := c.takeWhile isWordChar
  if name.isEmpty || !c.gapAt 0 then none
  let c := c.skipWhile isBlank
  match String.ofList name with
  | "YAML" =>
    let (major, c) ← readNumber c
    if !c.isAt '.' then none
    let (minor, c) ← readNumber (c.skip 1)
    return (.version major minor, c)
  | "TAG" =>
    let (handle, c) ← readTagHandle c
    if 1 < handle.length && handle.getLast? != some '!' then none
    if !c.sees 0 isBlank then none
    let (stem, c) ← readTagRest true [] (c.skipWhile isBlank)
    if !c.gapAt 0 then none
    return (.tagRule (String.ofList handle) stem, c)
  | _ => none

def readName (c : Cursor) : Option (String × Cursor) :=
  let (name, c) := c.takeWhile isWordChar
  if name.isEmpty || !(c.gapAt 0 || c.sees 0 "?:,]\x7d%@`".toList.contains) then none
  else some (String.ofList name, c)

def skipGaps : Nat → Scan → Scan
  | 0, s => s
  | fuel + 1, s =>
    let c := s.cursor
    let c := if c.column == 0 && c.isAt '\uFEFF' then c.skip 1 else c
    let c := c.skipWhile fun ch => ch == ' ' || ((s.inFlow || !s.keyAllowed) && ch == '\t')
    let c := c.skipComment
    if c.sees 0 isBreak then
      skipGaps fuel { s with cursor := c.skipBreak, keyAllowed := s.keyAllowed || !s.inFlow }
    else s.move c

def closeAll (s : Scan) : Option Scan := do
  let s ← (s.closeBlocks (-1)).clearKey
  return s.allowKey false

def addDirective (s : Scan) : Option Scan := do
  let s ← s.closeAll
  let (t, c) ← readDirective (s.cursor.skip 1)
  let c := (c.skipWhile isBlank).skipComment
  if !c.lineDone then none
  return (s.push t).move (if c.atEnd then c else c.skipBreak)

def addMarker (s : Scan) (t : Token) : Option Scan := do
  let s ← s.closeAll
  return (s.push t).skip 3

def startFlow (s : Scan) (t : Token) : Option Scan := do
  let s ← s.noteKey
  let s := { s with keys := none :: s.keys, flowLevel := s.flowLevel + 1, keyAllowed := true }
  return (s.push t).skip 1

def endFlow (s : Scan) (t : Token) : Option Scan := do
  let s ← s.clearKey
  let s := if s.inFlow then { s with keys := s.keys.tail, flowLevel := s.flowLevel - 1 } else s
  return ((s.allowKey false).push t).skip 1

def addComma (s : Scan) : Option Scan := do
  let s ← s.clearKey
  return ((s.allowKey true).push .flowEntry).skip 1

def addItem (s : Scan) : Option Scan := do
  if !s.inFlow && !s.keyAllowed then none
  let s ← (s.openBlock s.cursor.column s.tokens.size .blockSequence).clearKey
  return ((s.allowKey true).push .blockEntry).skip 1

def addKey (s : Scan) : Option Scan := do
  if !s.inFlow && !s.keyAllowed then none
  let s ← (s.openBlock s.cursor.column s.tokens.size .blockMapping).clearKey
  return ((s.allowKey !s.inFlow).push .key).skip 1

def addValue (s : Scan) : Option Scan :=
  match s.keys with
  | some k :: rest =>
    let s := (s.insertAt k.token .key).openBlock k.column k.token .blockMapping
    some (({ s with keys := none :: rest, keyAllowed := false }.push .value).skip 1)
  | _ =>
    if !s.inFlow && !s.keyAllowed then none
    else
      let s := s.openBlock s.cursor.column s.tokens.size .blockMapping
      some (((s.allowKey !s.inFlow).push .value).skip 1)

def addName (s : Scan) (token : String → Token) : Option Scan := do
  let s ← s.noteKey
  let (name, c) ← readName (s.cursor.skip 1)
  return ((s.allowKey false).push (token name)).move c

def addTag (s : Scan) : Option Scan := do
  let s ← s.noteKey
  let (t, c) ← readTag s.cursor
  if !(s.inFlow && c.isAt ',') && !c.gapAt 0 then none
  return ((s.allowKey false).push t).move c

def addBlockScalar (s : Scan) (fold : Bool) : Option Scan := do
  let s ← s.clearKey
  let (text, c) ← readBlock fold s.indent (s.cursor.skip 1)
  let style := if fold then Style.folded else .literal
  return ((s.allowKey true).push (.scalar style (String.ofList text))).move c

def addQuoted (s : Scan) (single : Bool) : Option Scan := do
  let s ← s.noteKey
  let c := s.cursor.skip 1
  let (text, c) ← readQuoted single (c.rest.length + 2) c []
  return ((s.allowKey false).push (.scalar .quoted (String.ofList text))).move c

def addPlain (s : Scan) : Option Scan := do
  let s ← s.noteKey
  let c := s.cursor
  let (text, broken, c) ← readPlain s.inFlow (s.indent + 1).toNat (c.rest.length + 1) c [] {}
  return ((s.allowKey broken).push (.scalar .plain (String.ofList text))).move c

def startsPlain (s : Scan) (ch : Char) : Bool :=
  !(isBlank ch || isBreak ch || "-?:,[]\x7b\x7d#&*!|>'\"%@`".toList.contains ch) ||
    (ch == '-' && !s.cursor.sees 1 isBlank) ||
    (!s.inFlow && (ch == '?' || ch == ':') && !s.cursor.gapAt 1)

def addToken (s : Scan) (ch : Char) : Option Scan :=
  let c := s.cursor
  if c.column == 0 && ch == '%' then s.addDirective
  else if c.atMarker '-' then s.addMarker .documentStart
  else if c.atMarker '.' then s.addMarker .documentEnd
  else if ch == '[' then s.startFlow .flowSequence
  else if ch == '\x7b' then s.startFlow .flowMapping
  else if ch == ']' then s.endFlow .flowSequenceEnd
  else if ch == '\x7d' then s.endFlow .flowMappingEnd
  else if ch == ',' then s.addComma
  else if ch == '-' && c.gapAt 1 then s.addItem
  else if ch == '?' && (s.inFlow || c.gapAt 1) then s.addKey
  else if ch == ':' && (s.inFlow || c.gapAt 1) then s.addValue
  else if ch == '*' then s.addName .aliasOf
  else if ch == '&' then s.addName .anchor
  else if ch == '!' then s.addTag
  else if ch == '|' && !s.inFlow then s.addBlockScalar false
  else if ch == '>' && !s.inFlow then s.addBlockScalar true
  else if ch == '\'' then s.addQuoted true
  else if ch == '"' then s.addQuoted false
  else if s.startsPlain ch then s.addPlain
  else none

def run : Nat → Scan → Option (List Token)
  | 0, _ => none
  | fuel + 1, s => do
    let s := skipGaps (s.cursor.rest.length + 1) s
    let s ← s.expireKeys
    let s := s.closeBlocks s.cursor.column
    match s.cursor.peek 0 with
    | none =>
      let s ← (s.closeBlocks (-1)).clearKey
      return s.tokens.toList
    | some ch => run fuel (← s.addToken ch)

end Scan

def Token.scan? (text : String) : Option (List Token) :=
  let cs := text.toList
  if cs.all isAllowed then Scan.run (cs.length + 1) { cursor := { rest := cs } } else none

end JavaMetrics.Yaml

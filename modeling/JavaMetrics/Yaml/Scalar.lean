import JavaMetrics.Yaml.Cursor

set_option autoImplicit false

namespace JavaMetrics.Yaml

inductive Style where
  | plain | quoted | literal | folded
deriving DecidableEq, Repr, Inhabited

structure Gap where
  blanks : List Char := []
  first : List Char := []
  more : List Char := []
  broken : Bool := false

def Gap.text (g : Gap) : List Char :=
  if g.broken then
    if g.first == ['\n'] then if g.more.isEmpty then [' '] else g.more
    else g.first ++ g.more
  else g.blanks

/-- Reads a gap; a tab may not stand in for indentation up to column `indent`. -/
def readGap (indent : Nat) : Nat → Cursor → Gap → Option (Gap × Cursor)
  | 0, _, _ => none
  | fuel + 1, c, g =>
    match c.peek 0 with
    | none => some (g, c)
    | some ch =>
      if isBlank ch then
        if g.broken && c.column < indent && ch == '\t' then none
        else readGap indent fuel (c.skip 1) (if g.broken then g else { g with blanks := g.blanks ++ [ch] })
      else if isBreak ch then
        readGap indent fuel c.skipBreak
          (if g.broken then { g with more := g.more ++ c.breakText }
           else { g with first := c.breakText, broken := true })
      else some (g, c)

def readPlainRun (flow : Bool) : Nat → Cursor → List Char → Option (List Char × Cursor)
  | 0, _, _ => none
  | fuel + 1, c, done =>
    match c.peek 0 with
    | none => some (done.reverse, c)
    | some ch =>
      let bracket (x : Char) : Bool :=
        x == ',' || x == '[' || x == ']' || x == '\x7b' || x == '\x7d'
      if c.gapAt 0 then some (done.reverse, c)
      else if flow && ch == ':' && c.sees 1 (fun x => bracket x || x == '?') then none
      else if (ch == ':' && c.gapAt 1) || (flow && bracket ch) then some (done.reverse, c)
      else readPlainRun flow fuel (c.skip 1) (ch :: done)

/-- Reads a plain scalar, which ends at a line with less indentation; also tells whether a line was
ended behind it. -/
def readPlain (flow : Bool) (indent : Nat) :
    Nat → Cursor → List Char → Gap → Option (List Char × Bool × Cursor)
  | 0, _, _, _ => none
  | fuel + 1, c, done, gap => do
    if c.atMarker '-' || c.atMarker '.' || c.isAt '#' then return (done, gap.broken, c)
    let (run, c) ← readPlainRun flow (c.rest.length + 1) c []
    let done := if run.isEmpty then done else done ++ gap.text ++ run
    let gap := if run.isEmpty then gap else {}
    if c.atEnd || !c.gapAt 0 then return (done, gap.broken, c)
    let (gap, c) ← readGap indent (c.rest.length + 1) c gap
    if !flow && c.column < indent then return (done, gap.broken, c)
    readPlain flow indent fuel c done gap

def hexDigit? (c : Char) : Option Nat :=
  if c.isDigit then some (c.toNat - '0'.toNat)
  else if 'a' ≤ c && c ≤ 'f' then some (c.toNat - 'a'.toNat + 10)
  else if 'A' ≤ c && c ≤ 'F' then some (c.toNat - 'A'.toNat + 10)
  else none

def readHex? (cs : List Char) : Option Nat :=
  cs.foldlM (fun n c => (hexDigit? c).map (16 * n + ·)) 0

def charOf? (n : Nat) : Option Char :=
  if (0xD800 ≤ n && n ≤ 0xDFFF) || 0x10FFFF < n then none else some (Char.ofNat n)

def simpleEscape? : Char → Option Char
  | '0' => some '\x00'
  | 'a' => some '\x07'
  | 'b' => some '\x08'
  | 't' => some '\t'
  | '\t' => some '\t'
  | 'n' => some '\n'
  | 'v' => some '\x0b'
  | 'f' => some '\x0c'
  | 'r' => some '\r'
  | 'e' => some '\x1b'
  | ' ' => some ' '
  | '"' => some '"'
  | '/' => some '/'
  | '\\' => some '\\'
  | 'N' => some '\u0085'
  | '_' => some '\u00A0'
  | 'L' => some '\u2028'
  | 'P' => some '\u2029'
  | _ => none

def escapeDigits : Char → Nat
  | 'x' => 2
  | 'u' => 4
  | 'U' => 8
  | _ => 0

def readEscape (c : Cursor) : Option (Char × Cursor) := do
  let letter ← c.peek 0
  let c := c.skip 1
  match escapeDigits letter with
  | 0 => return (← simpleEscape? letter, c)
  | n =>
    let digits := c.rest.take n
    if digits.length < n then none
    else return (← charOf? (← readHex? digits), c.skip n)

/-- Reads words of a quoted scalar up to a blank, the closing quote or an escaped line break; tells
whether it was the last of these. -/
def readQuotedRun (single : Bool) :
    Nat → Cursor → List Char → Option (List Char × Bool × Cursor)
  | 0, _, _ => none
  | fuel + 1, c, done =>
    match c.peek 0 with
    | none => some (done.reverse, false, c)
    | some ch =>
      if c.gapAt 0 then some (done.reverse, false, c)
      else if single then
        if ch == '\'' then
          if c.peek 1 == some '\'' then readQuotedRun single fuel (c.skip 2) ('\'' :: done)
          else some (done.reverse, false, c)
        else readQuotedRun single fuel (c.skip 1) (ch :: done)
      else if ch == '"' then some (done.reverse, false, c)
      else if ch == '\\' then
        if c.sees 1 isBreak then some (done.reverse, true, (c.skip 1).skipBreak)
        else do
          let (e, c) ← readEscape (c.skip 1)
          readQuotedRun single fuel c (e :: done)
      else readQuotedRun single fuel (c.skip 1) (ch :: done)

def readQuoted (single : Bool) : Nat → Cursor → List Char → Option (List Char × Cursor)
  | 0, _, _ => none
  | fuel + 1, c, done => do
    if c.atMarker '-' || c.atMarker '.' || c.atEnd then none
    let (run, escaped, c) ← readQuotedRun single (c.rest.length + 1) c []
    let done := done ++ run
    if c.isAt (if single then '\'' else '"') then return (done, c.skip 1)
    let (gap, c) ← readGap 0 (c.rest.length + 1) c { broken := escaped }
    readQuoted single fuel c (done ++ gap.text)

inductive Chomping where
  | strip | clip | keep
deriving DecidableEq

def readHeader (c : Cursor) : Option (Nat × Chomping × Cursor) :=
  let chomping (c : Cursor) : Option Chomping × Cursor :=
    if c.isAt '+' then (some .keep, c.skip 1)
    else if c.isAt '-' then (some .strip, c.skip 1)
    else (none, c)
  let digit (c : Cursor) : Option (Nat × Cursor) :=
    match c.peek 0 with
    | some ch =>
      if ch == '0' then none
      else if ch.isDigit then some (ch.toNat - '0'.toNat, c.skip 1)
      else some (0, c)
    | none => some (0, c)
  match chomping c with
  | (some ch, c) => (digit c).map fun (n, c) => (n, ch, c)
  | (none, c) =>
    (digit c).map fun (n, c) =>
      if n == 0 then (n, .clip, c)
      else
        let (ch, c) := chomping c
        (n, ch.getD .clip, c)

def readEmptyLines (indent : Nat) :
    Nat → Cursor → Nat → List Char → Option (Nat × List Char × Cursor)
  | 0, _, _, _ => none
  | fuel + 1, c, deepest, breaks =>
    let spaces := (c.rest.takeWhile (· == ' ')).length
    let c := c.skip (if indent == 0 then spaces else min spaces (indent - c.column))
    let deepest := max deepest c.column
    if (indent == 0 || c.column < indent) && c.isAt '\t' then none
    else if c.sees 0 isBreak then
      readEmptyLines indent fuel c.skipBreak deepest (breaks ++ c.breakText)
    else some (deepest, breaks, c)

/-- Reads the lines of a block scalar; `first` is the break behind the last line and `more` the
empty lines after it. Returns the text and both. -/
def readBlockLines (fold : Bool) (indent : Nat) :
    Nat → Cursor → List Char → List Char → List Char → Bool →
      Option (List Char × List Char × List Char × Cursor)
  | 0, _, _, _, _, _ => none
  | fuel + 1, c, done, first, more, wasBlank =>
    if c.column == indent && !c.atEnd then do
      let blank := c.sees 0 isBlank
      let join :=
        if fold && first == ['\n'] && !wasBlank && !blank then
          if more.isEmpty then [' '] else []
        else first
      let (line, c) := c.takeWhile (!isBreak ·)
      let first := c.breakText
      let c' := if c.atEnd then c else c.skipBreak
      let (_, empty, c) ← readEmptyLines indent (c'.rest.length + 1) c' 0 []
      readBlockLines fold indent fuel c (done ++ join ++ more ++ line) first empty blank
    else some (done, first, more, c)

def readBlock (fold : Bool) (parent : Int) (c : Cursor) : Option (List Char × Cursor) := do
  let (given, chomping, c) ← readHeader c
  let c := (c.skipWhile isBlank).skipComment
  if !c.lineDone then none
  let c := if c.atEnd then c else c.skipBreak
  let indent := if given == 0 then 0 else (max parent 0).toNat + given
  let (deepest, breaks, c) ← readEmptyLines indent (c.rest.length + 1) c 0 []
  let indent := if indent == 0 then max (max deepest (parent + 1).toNat) 1 else indent
  let (text, first, more, c) ← readBlockLines fold indent (c.rest.length + 1) c [] [] breaks false
  match chomping with
  | .strip => return (text, c)
  | .clip => return (text ++ first, c)
  | .keep => return (text ++ first ++ more, c)

end JavaMetrics.Yaml

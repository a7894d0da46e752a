import JavaMetrics.Grammar.Java
import JavaMetrics.Grammar.Parse
import JavaMetrics.Syntax.Node

set_option autoImplicit false

namespace JavaMetrics
open Grammar

namespace Node

def javaTables : Thunk Tables := Thunk.mk fun _ => Tables.ofRules Java.rules

def javaLexicon : Thunk Lexicon := Thunk.mk fun _ => Lexicon.ofTerminals javaTables.get.terminals

def terminalKind : Terminal → Kind
  | .spelled "static" => .staticKeyword
  | .spelled "default" => .defaultKeyword
  | .lexeme l => l.kind
  | _ => .token

def visibleKind (g : Tables) (cat : Nat) : Option Kind :=
  if cat < g.named then
    let k := Kind.ofNat cat
    if k.isHidden then none else some k
  else none

def fillRole (role : Option Field) (n : Node) : Node :=
  match role with
  | some f => if n.role.isNone && !n.kind.isComment then n.withRole f else n
  | none => n

mutual

def ofTree (g : Tables) (offset : Nat → Nat) (role : Option Field) (label : Option Kind) :
    Tree → List Node → List Node
  | .leaf t _ s e _, rest =>
    mk (label.getD (terminalKind (g.terminals.getD t .endOfInput))) role (offset s) (offset e) [] :: rest
  | .branch item cat _ s e _ cs, rest =>
    let steps := (g.productionOf item).steps.toList
    match label <|> visibleKind g cat with
    | some k => mk k role (offset s) (offset e) (ofTrees g offset steps cs []) :: rest
    | none =>
      if role.isNone then ofTrees g offset steps cs rest
      else (ofTrees g offset steps cs []).map (fillRole role) ++ rest

/-- The nodes of a row of trees that stand for the given steps; comments stand for none. -/
def ofTrees (g : Tables) (offset : Nat → Nat) : List Step → List Tree → List Node → List Node
  | _, [], rest => rest
  | steps, t :: ts, rest =>
    if t.isComment then ofTree g offset none none t (ofTrees g offset steps ts rest)
    else
      match steps with
      | st :: steps => ofTree g offset st.role st.label t (ofTrees g offset steps ts rest)
      | [] => ofTree g offset none none t (ofTrees g offset [] ts rest)

end

/-- The syntax tree of a source file, or the line and column of a syntax error. -/
def ofSource (s : Text.Source) : Except (Nat × Nat) Node :=
  let units := s.glyphs
  let g := javaTables.get
  let offset := fun i => (units[i]?.map (·.offset)).getD s.size
  match parseTree ⟨g, javaLexicon.get, units⟩ with
  | .error i => .error (s.position (offset i))
  | .ok t =>
    match ofTree g offset none none t [] with
    | n :: _ => .ok n
    | [] => .error (s.position 0)

end Node

end JavaMetrics

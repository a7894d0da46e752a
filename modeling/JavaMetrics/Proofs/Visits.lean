import JavaMetrics.Facts.Collect

set_option autoImplicit false

namespace JavaMetrics

namespace Visit

variable (src : Text.Source) (v : Visit)

def calls : List Call :=
  match v.node.kind with
  | .methodInvocation =>
    match v.node.child? .name with
    | some name =>
      [⟨src.textOf name, receiverOf src (v.node.child? .object), src.lineOf v.node⟩]
    | none => []
  | _ => []

def created : List String :=
  match v.node.kind with
  | .objectCreationExpression => (v.node.child? .type).toList.map src.textOf
  | _ => []

def castTypes : List String :=
  match v.node.kind with
  | .castExpression => (v.node.inRole .type).map src.textOf
  | _ => []

def declarations : List (String × Option String) :=
  match v.node.kind with
  | .localVariableDeclaration =>
    let declared := ((v.node.child? .type).map src.textOf).getD ""
    (v.node.inRole .declarator).filterMap fun d =>
      (d.child? .name).map fun name => (src.textOf name, Collector.variableType src declared d)
  | .enhancedForStatement | .resource =>
    match v.node.child? .type, v.node.child? .name with
    | some t, some name => [(src.textOf name, Collector.writtenType (src.textOf t))]
    | _, _ => []
  | .catchFormalParameter =>
    match v.node.child? .name with
    | some name =>
      let caught := (v.node.named? .catchType).bind fun t => t.namedChildren.head?
      [(src.textOf name, caught.map src.textOf)]
    | none => []
  | .lambdaExpression =>
    match v.node.child? .parameters with
    | some ps => (Collector.lambdaNames src ps).map fun x => (x, none)
    | none => []
  | _ => []

def fieldUses (fields : List String) (declared : String → Bool) : List String :=
  match v.node.kind with
  | .fieldAccess =>
    match v.node.child? .object, v.node.child? .member with
    | some o, some m =>
      if o.kind == .thisRef && fields.contains (src.textOf m) then [src.textOf m] else []
    | _, _ => []
  | .identifier =>
    let name := src.textOf v.node
    if fields.contains name && v.isValue && !declared name then [name] else []
  | _ => []

end Visit

def Scope.declareIn : List Scope → String → List Scope
  | s :: rest, x => { s with names := x :: s.names } :: rest
  | [], _ => []

def recordType (types : Dict String) (d : String × Option String) : Dict String :=
  match d.2 with
  | some t => types.insert d.1 t
  | none => types

namespace Collector

def addDeclaration (c : Collector) (d : String × Option String) : Collector where
  body := { c.body with localTypes := recordType c.body.localTypes d }
  scopes := Scope.declareIn c.scopes d.1

theorem declare_eq (c : Collector) (x : String) :
    c.declare x = { c with scopes := Scope.declareIn c.scopes x } := by
  obtain ⟨body, scopes⟩ := c
  cases scopes <;> rfl

theorem addLocal_eq (c : Collector) (x : String) (type : Option String) :
    c.addLocal x type = c.addDeclaration (x, type) := by
  cases type <;> simp [addLocal, addDeclaration, declare_eq, recordType]

theorem foldl_declare (names : List String) (c : Collector) :
    names.foldl declare c = (names.map fun x => (x, none)).foldl addDeclaration c := by
  induction names generalizing c with
  | nil => rfl
  | cons x rest ih =>
    rw [List.foldl_cons, ih, List.map_cons, List.foldl_cons, declare_eq]
    rfl

theorem foldl_addDeclaration (ds : List (String × Option String)) (c : Collector) :
    ds.foldl addDeclaration c =
      { body := { c.body with localTypes := ds.foldl recordType c.body.localTypes }
        scopes := (ds.map (·.1)).foldl Scope.declareIn c.scopes } := by
  induction ds generalizing c with
  | nil => rfl
  | cons d rest ih => rw [List.foldl_cons, ih]; rfl

/-- The state after a visit, in terms of what the visit adds. -/
def receive (src : Text.Source) (fields : List String) (c : Collector) (v : Visit) : Collector where
  body := { c.body with
    calls := c.body.calls ++ v.calls src
    instantiations := c.body.instantiations ++ v.created src
    casts := c.body.casts ++ v.castTypes src
    fieldRefs := (v.fieldUses src fields c.isDeclared).foldl (fun s x => insertName x s) c.body.fieldRefs
    localTypes := (v.declarations src).foldl recordType c.body.localTypes }
  scopes := ((v.declarations src).map (·.1)).foldl Scope.declareIn c.scopes

theorem visit_eq (src : Text.Source) (fields : List String) (c : Collector) (v : Visit) :
    c.visit src fields v = c.receive src fields v := by
  -- Each category of node makes one kind of addition; the others are empty.
  unfold visit receive Visit.calls Visit.created Visit.castTypes Visit.declarations Visit.fieldUses
  simp only
  split
  case h_1 hk => cases hname : v.node.child? .name <;> simp [hk]
  case h_2 hk => cases htype : v.node.child? .type <;> simp [hk]
  case h_3 hk => simp [hk]
  case h_4 hk =>
    simp only [hk, List.append_nil, List.foldl_nil]
    rw [← foldl_addDeclaration, List.foldl_filterMap]
    congr 1
    funext c d
    cases d.child? .name <;> simp [addLocal_eq]
  case h_5 hk | h_6 hk =>
    simp only [hk, List.append_nil, List.foldl_nil, ← foldl_addDeclaration]
    cases v.node.child? .type <;> cases v.node.child? .name <;> simp [addLocal_eq]
  case h_7 hk =>
    simp only [hk, List.append_nil, List.foldl_nil, ← foldl_addDeclaration]
    cases v.node.child? .name <;> simp [addLocal_eq]
  case h_8 hk =>
    simp only [hk, List.append_nil, List.foldl_nil, ← foldl_addDeclaration]
    cases v.node.child? .parameters <;> simp [foldl_declare]
  case h_9 hk =>
    simp only [hk, List.append_nil, List.map_nil, List.foldl_nil]
    cases v.node.child? .object with
    | none => rfl
    | some o =>
      cases v.node.child? .member with
      | none => rfl
      | some m =>
        by_cases hf : (o.kind == .thisRef && fields.contains (src.textOf m)) = true
        · simp only [if_pos hf]
          rfl
        · simp only [if_neg hf]
          rfl
  case h_10 hk =>
    simp only [hk, List.append_nil, List.map_nil, List.foldl_nil]
    by_cases hf : (fields.contains (src.textOf v.node) && v.isValue &&
        !c.isDeclared (src.textOf v.node)) = true
    · simp only [if_pos hf]
      rfl
    · simp only [if_neg hf]
      rfl
  case h_11 => simp [*]

theorem step_eq (src : Text.Source) (fields : List String) (c : Collector) (v : Visit) :
    c.step src fields v = (c.enter v).receive src fields v :=
  visit_eq src fields (c.enter v) v

theorem closeTo_closeTo {d e : Nat} (hle : d ≤ e) (ss : List Scope) :
    closeTo d (closeTo e ss) = closeTo d ss := by
  fun_induction closeTo e ss with
  | case1 s t rest hclosed ih =>
    have hd : d ≤ s.depth := by omega
    rw [ih, closeTo, if_pos hd]
  | case2 s t rest hopen => rfl
  | case3 ss hshort => rfl

variable (src : Text.Source) (fields : List String)

theorem calls_foldl_step (vs : List Visit) (c : Collector) :
    (vs.foldl (step src fields) c).body.calls = c.body.calls ++ vs.flatMap (Visit.calls src) := by
  induction vs generalizing c with
  | nil => simp
  | cons v rest ih => simp [ih, step_eq, receive, enter]

theorem localTypes_foldl_step (vs : List Visit) (c : Collector) :
    (vs.foldl (step src fields) c).body.localTypes =
      (vs.flatMap (Visit.declarations src)).foldl recordType c.body.localTypes := by
  induction vs generalizing c with
  | nil => rfl
  | cons v rest ih => simp [ih, step_eq, receive, enter]

def start (parameters : List Parameter) : Collector where
  scopes := [⟨0, (parameters.map (·.name)).reverse⟩]

theorem foldl_declare_single (body : Body) (s : Scope) (parameters : List Parameter) :
    parameters.foldl (fun c p => c.declare p.name) (⟨body, [s]⟩ : Collector) =
      ⟨body, [{ s with names := (parameters.map (·.name)).reverse ++ s.names }]⟩ := by
  induction parameters generalizing s with
  | nil => rfl
  | cons p rest ih =>
    rw [List.foldl_cons, declare_eq, Scope.declareIn, ih]
    simp

end Collector

def Node.bodyVisits (b : Node) : List Visit := b.visits 0 none false

theorem Body.ofNode_some (src : Text.Source) (fields : List String) (parameters : List Parameter)
    (b : Node) : Body.ofNode src fields parameters (some b) =
      { (b.bodyVisits.foldl (Collector.step src fields) (.start parameters)).body with
        decisions := b.decisions } := by
  simp [Body.ofNode, Collector.foldl_declare_single, Collector.walk, Collector.start,
    Node.bodyVisits]

namespace Node

/-- Nodes without children, for samples. -/
def leaf (k : Kind) (r : Option Field) (s : Nat) : Node := .mk k r s (s + 1) []

def token (s : Nat) (e : Nat := s + 1) : Node := .mk .token none s e []

end Node

end JavaMetrics

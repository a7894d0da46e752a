import JavaMetrics.Proofs.CommentedBodies
import JavaMetrics.Proofs.Results

set_option autoImplicit false

namespace JavaMetrics

variable {src src' : Text.Source}

def Import.unplaced (i : Import) : Import := { i with line := 0 }

def FieldDecl.unplaced (f : FieldDecl) : FieldDecl := { f with line := 0 }

def Method.unplaced (m : Method) : Method := { m with span := {}, body := m.body.unplaced }

namespace ClassFacts

def unplaced (u : ClassFacts) : ClassFacts := { u with
  imports := u.imports.map Import.unplaced
  fields := u.fields.map FieldDecl.unplaced
  methods := u.methods.map Method.unplaced
  constructors := u.constructors.map Method.unplaced
  initializers := u.initializers.unplaced
  span := {} }

def others (u : ClassFacts) : ClassFacts := { u.unplaced with superclass := none, interfaces := [] }

end ClassFacts

theorem Import.map_unplaced_distinct (all seen : List Import) :
    (all.foldl (fun seen i => if seen.any i.sameTarget then seen else seen ++ [i]) seen).map unplaced =
      (all.map unplaced).foldl (fun seen i => if seen.any i.sameTarget then seen else seen ++ [i])
        (seen.map unplaced) := by
  induction all generalizing seen with
  | nil => rfl
  | cons i rest ih =>
    have hany : (seen.map unplaced).any i.unplaced.sameTarget = seen.any i.sameTarget := by
      rw [List.any_map]
      rfl
    rw [List.map_cons, List.foldl_cons, List.foldl_cons, ih, hany]
    split
    · rfl
    · rw [List.map_append]
      rfl

namespace Node

theorem isWritten_of_isName {n : Node} (h : n.kind.isName = true) : n.isWritten = true := by
  obtain ⟨k, r, s, e, cs⟩ := n
  refine isWritten_of_isNamePath ?_
  simp only [kind, Kind.isName] at h
  split at h <;> simp_all [isNamePath]

def superclassNode? (decl : Node) : Option Node :=
  (decl.child? .superclass).bind fun s => s.namedChildren.head?

def interfaceList? (decl : Node) : Option Node :=
  (decl.child? .interfaces).bind fun i => i.namedChildren.head?

def interfaceNodes (decl : Node) : List Node :=
  match decl.interfaceList? with
  | some list => list.namedChildren
  | none => []

/-- What is read as the superclass is a type and no comment. -/
def readsSuperclass (decl : Node) : Bool :=
  (decl.child? .superclass).all (·.kind == .superclass) &&
    decl.superclassNode?.all (!·.kind.isComment)

/-- What is read as the interfaces is a list of types without comments. -/
def readsInterfaces (decl : Node) : Bool :=
  decl.interfaceList?.all (·.kind == .typeList) && decl.interfaceNodes.all (!·.kind.isComment)

end Node

namespace Commented

variable {n n' decl decl' root root' : Node}

theorem members (h : Commented src src' decl decl') :
    Interspersed (Commented src src') Node.IsComment decl.members decl'.members := by
  unfold Node.members
  rcases h.child? .body with ⟨ha, hb⟩ | ⟨a, b, ha, hb, hab, -⟩
  · rw [ha, hb]
    exact .nil
  · rw [ha, hb]
    refine hab.namedChildren.flatMap (fun m m' hm => ?_) (fun c hc => ?_)
    · rw [hm.kind_eq]
      split
      · exact hm.namedChildren
      · exact .keep hm .nil
    · have hk := hc.test_eq_false (p := (· == .enumBodyDeclarations)) rfl rfl
      rw [hk]
      exact .extra hc .nil

theorem typeParameterNames_eq (h : Commented src src' decl decl') :
    decl'.typeParameterNames src' = decl.typeParameterNames src := by
  unfold Node.typeParameterNames
  rcases h.child? .typeParameters with ⟨ha, hb⟩ | ⟨a, b, ha, hb, hab, -⟩
  · rw [ha, hb]
  · rw [ha, hb]
    refine hab.namedChildren.filterMap_eq (fun p p' hp => ?_) (fun c hc => ?_)
    · rw [hp.kind_eq]
      split
      · refine map_eq_of_rel (fun x y hxy => hxy.1.text_eq ?_)
          (hp.namedChildren.find?_kind (p := fun k => k == .typeIdentifier || k == .identifier) rfl rfl)
        have hk := hxy.2
        simp only [Bool.or_eq_true, beq_iff_eq] at hk
        rcases hk with hk | hk
        · exact Node.isWritten_of_isType (by rw [hk]; rfl)
        · exact Node.isWritten_of_identifier hk
      · rfl
    · have hk := hc.test_eq_false (p := (· == .typeParameter)) rfl rfl
      rw [hk]
      rfl

theorem parameter?_eq (h : Commented src src' n n') : n'.parameter? src' = n.parameter? src := by
  unfold Node.parameter?
  rw [h.kind_eq]
  split
  · rw [h.roleText_eq (.inl rfl), h.roleText_eq (.inr (.inl rfl))]
  · have htype : (n'.namedChildren.find? (·.kind.isType)).map (fun t => src'.textOf t ++ "...") =
        (n.namedChildren.find? (·.kind.isType)).map fun t => src.textOf t ++ "..." := by
      refine map_eq_of_rel (fun x y hxy => ?_) (h.namedChildren.find?_kind (p := Kind.isType) rfl rfl)
      rw [hxy.1.text_eq (Node.isWritten_of_isType hxy.2)]
    have hname : (n'.named? .variableDeclarator).bind (fun d => d.roleText src' .name) =
        (n.named? .variableDeclarator).bind fun d => d.roleText src .name :=
      bind_eq_of_rel (fun x y hxy => hxy.1.roleText_eq (.inl rfl))
        (h.namedChildren.find?_kind (p := (· == .variableDeclarator)) rfl rfl)
    simp only [htype, hname]
  · rfl

theorem parametersOf_eq (h : Commented src src' decl decl') :
    decl'.parametersOf src' = decl.parametersOf src := by
  unfold Node.parametersOf
  rcases h.child? .parameters with ⟨ha, hb⟩ | ⟨a, b, ha, hb, hab, -⟩
  · rw [ha, hb]
  · rw [ha, hb]
    refine hab.namedChildren.filterMap_eq (fun p p' hp => hp.parameter?_eq) (fun c hc => ?_)
    rcases hc.kind_cases with hk | hk <;> simp [Node.parameter?, hk]

theorem fieldsOf_eq (h : Commented src src' n n') :
    (n'.fieldsOf src').map FieldDecl.unplaced = (n.fieldsOf src).map FieldDecl.unplaced := by
  unfold Node.fieldsOf
  rw [h.kind_eq]
  split
  · rw [List.map_filterMap, List.map_filterMap, h.roleText_eq (.inr (.inl rfl))]
    refine filterMap_eq_of_forall₂ ?_ (h.inRole .declarator)
    rintro d d' ⟨hd, -⟩
    simp only [hd.roleText_eq (.inl rfl), Option.map_map, Function.comp_def, FieldDecl.unplaced]
  · rfl

theorem initializersOf (h : Commented src src' n n') :
    List.Forall₂ (fun a b => Commented src src' a.1 b.1 ∧ Commented src src' a.2 b.2)
      n.initializersOf n'.initializersOf := by
  unfold Node.initializersOf
  rw [h.kind_eq]
  split
  · refine List.rel_filterMap (R := fun a b => Commented src src' a b ∧ _) ?_ (h.inRole .declarator)
    rintro d d' ⟨hd, -⟩
    rcases hd.child? .value with ⟨ha, hb⟩ | ⟨a, b, ha, hb, hab, -⟩
    · simp only [ha, hb, Option.map_none]
      exact .none
    · simp only [ha, hb, Option.map_some]
      exact .some ⟨hd, hab⟩
  · exact .cons ⟨h, h⟩ .nil
  · exact .cons ⟨h, h⟩ .nil
  · have hparts := h.namedChildren.filter_kind
      (p := fun k => k == .argumentList || k == .classBody) rfl rfl
    rw [List.forall₂_map_left_iff, List.forall₂_map_right_iff]
    exact hparts.imp fun a b hab => ⟨h, hab.1⟩
  · exact .nil

theorem nestedTypeOf_eq (h : Commented src src' n n') :
    n'.nestedTypeOf src' = n.nestedTypeOf src := by
  unfold Node.nestedTypeOf
  rw [h.kind_eq, h.roleText_eq (.inl rfl)]

theorem superclass_eq (h : Commented src src' decl decl') (hreads : decl'.readsSuperclass = true) :
    decl'.superclassNode?.map src'.textOf = decl.superclassNode?.map src.textOf := by
  unfold Node.readsSuperclass Node.superclassNode? at *
  rcases h.child? .superclass with ⟨ha, hb⟩ | ⟨s, s', ha, hb, hs, -⟩
  · simp only [ha, hb, Option.bind_none, Option.map_none]
  · simp only [ha, hb, Option.bind_some, Option.all_some, Bool.and_eq_true] at hreads ⊢
    obtain ⟨hclause, hfirst⟩ := hreads
    have hk : s.kind.listsTypes = true := by
      rw [← hs.kind_eq, beq_iff_eq.1 hclause]
      rfl
    refine map_eq_of_rel (fun x y hxy => hxy) ((hs.listedTypes hk).head?_rel fun c hc hcomment => ?_)
    simp [Option.mem_def.1 hc, hcomment.kind] at hfirst

theorem interfaceList?_rel (h : Commented src src' decl decl')
    (hlist : decl'.interfaceList?.all (·.kind == .typeList) = true) :
    Option.Rel (Commented src src') decl.interfaceList? decl'.interfaceList? := by
  unfold Node.interfaceList? at *
  rcases h.child? .interfaces with ⟨ha, hb⟩ | ⟨i, i', ha, hb, hi, -⟩
  · rw [ha, hb]
    exact .none
  · simp only [ha, hb, Option.bind_some] at hlist ⊢
    refine hi.namedChildren.head?_rel fun c hc hcomment => ?_
    rw [Option.mem_def.1 hc] at hlist
    have hkind := hcomment.kind
    rw [beq_iff_eq.1 hlist] at hkind
    cases hkind

theorem interfaces_eq (h : Commented src src' decl decl') (hreads : decl'.readsInterfaces = true) :
    decl'.interfaceNodes.map src'.textOf = decl.interfaceNodes.map src.textOf := by
  simp only [Node.readsInterfaces, Bool.and_eq_true] at hreads
  obtain ⟨hlist, hlisted⟩ := hreads
  unfold Node.interfaceNodes at hlisted ⊢
  rcases rel_cases (h.interfaceList?_rel hlist) with ⟨ha, hb⟩ | ⟨l, l', ha, hb, hl⟩
  · simp only [ha, hb, List.map_nil]
  · simp only [ha, hb, Option.all_some] at hlist hlisted ⊢
    have hk : l.kind.listsTypes = true := by
      rw [← hl.kind_eq, beq_iff_eq.1 hlist]
      rfl
    refine (hl.listedTypes hk).map_eq (fun a b hab => hab) fun c hc hcomment => ?_
    simpa [hcomment.kind] using List.all_eq_true.1 hlisted c hc

theorem import_eq (h : Commented src src' n n') :
    (Import.ofNode? src' n').map Import.unplaced = (Import.ofNode? src n).map Import.unplaced := by
  have hnames := h.children.filter_kind (p := Kind.isName) rfl rfl
  have hpath : ((n'.children.filter (·.kind.isName)).getLast?).map src'.textOf =
      ((n.children.filter (·.kind.isName)).getLast?).map src.textOf := by
    rw [← List.getLast?_map, ← List.getLast?_map]
    refine congrArg List.getLast? (map_eq_of_forall₂ ?_ hnames)
    rintro a b ⟨hab, hk⟩
    exact hab.text_eq (Node.isWritten_of_isName hk)
  have hstatic := h.children.any_kind (p := (· == .staticKeyword)) rfl rfl
  have hwild := h.children.any_kind (p := (· == .asterisk)) rfl rfl
  simp only [Import.ofNode?, hpath, hstatic, hwild]
  split <;> rfl

theorem importsOf_eq (h : Commented src src' root root') :
    (importsOf src' root').map Import.unplaced = (importsOf src root).map Import.unplaced := by
  have hall := filterMap_eq_of_forall₂ (fun a b hab => hab.1.import_eq)
    (h.preorder.filter_kind (p := (· == .importDeclaration)) rfl rfl)
  simp only [importsOf, Import.map_unplaced_distinct, List.map_filterMap, hall]

theorem packageOf_eq (h : Commented src src' root root') : packageOf src' root' = packageOf src root := by
  have hname : ∀ a b, Commented src src' a b →
      (b.children.find? (·.kind.isName)).map src'.textOf =
        (a.children.find? (·.kind.isName)).map src.textOf := by
    intro a b hab
    exact map_eq_of_rel (fun x y hxy => hxy.1.text_eq (Node.isWritten_of_isName hxy.2))
      (hab.children.find?_kind (p := Kind.isName) rfl rfl)
  have hnames := congrArg (List.findSome? id) (map_eq_of_forall₂ (fun a b hab => hname a b hab.1)
    (h.preorder.filter_kind (p := (· == .packageDeclaration)) rfl rfl))
  simpa only [packageOf, List.findSome?_map, Function.id_comp] using hnames

theorem analyzedClass?_rel (h : Commented src src' root root') (path : String) :
    Option.Rel (Commented src src') (analyzedClass? src path root)
      (analyzedClass? src' path root') := by
  have hcandidates :=
    (h.namedChildren.filter_kind (p := Kind.isAnalyzable) rfl rfl).imp fun _ _ hab => hab.1
  have hstem : ∀ a b, Commented src src' a b →
      (b.roleText src' .name == some (Path.stem path)) =
        (a.roleText src .name == some (Path.stem path)) :=
    fun a b hab => by rw [hab.roleText_eq (.inl rfl)]
  have hnamed := find?_of_forall₂ hstem hcandidates
  rcases rel_cases hnamed with ⟨ha, hb⟩ | ⟨a, b, ha, hb, hab⟩
  · simp only [analyzedClass?, ha, hb]
    exact head?_of_forall₂ hcandidates
  · simp only [analyzedClass?, ha, hb]
    exact .some hab

theorem method_eq (h : Commented src src' n n') (fields : List String) (components : List Parameter) :
    (Method.ofNode src' fields components n').map Method.unplaced =
      (Method.ofNode src fields components n).map Method.unplaced := by
  unfold Method.ofNode
  rw [h.kind_eq, h.roleText_eq (.inl rfl), h.roleText_eq (.inr (.inl rfl)), h.parametersOf_eq]
  split
  · rfl
  · simp only [Except.map, Method.unplaced, Body.unplaced_ofNode (h.child?_rel .body)]

end Commented

namespace Node

def components (src : Text.Source) (decl : Node) : List Parameter :=
  if ClassKind.ofNode decl == .record then decl.parametersOf src else []

def declaredFields (src : Text.Source) (decl : Node) : List FieldDecl :=
  (decl.components src).map (fun p => ⟨p.name, p.typeName, (src.spanOf decl).startLine⟩) ++
    decl.members.flatMap (fieldsOf src)

def fieldNames (src : Text.Source) (decl : Node) : List String := (decl.declaredFields src).map (·.name)

def methodNodes (decl : Node) : List Node := decl.members.filter (·.kind == .methodDeclaration)

def constructorNodes (decl : Node) : List Node := decl.members.filter fun m =>
  m.kind == .constructorDeclaration || m.kind == .compactConstructorDeclaration

end Node

namespace Commented

variable {decl decl' : Node}

theorem classKind_eq (h : Commented src src' decl decl') :
    ClassKind.ofNode decl' = ClassKind.ofNode decl := by
  unfold ClassKind.ofNode
  rw [h.kind_eq]

theorem components_eq (h : Commented src src' decl decl') :
    decl'.components src' = decl.components src := by
  unfold Node.components
  rw [h.classKind_eq, h.parametersOf_eq]

theorem declaredFields_eq (h : Commented src src' decl decl') :
    (decl'.declaredFields src').map FieldDecl.unplaced =
      (decl.declaredFields src).map FieldDecl.unplaced := by
  have hmembers : decl'.members.flatMap (fun m => (m.fieldsOf src').map FieldDecl.unplaced) =
      decl.members.flatMap fun m => (m.fieldsOf src).map FieldDecl.unplaced := by
    refine h.members.flatMap_eq (fun a b hab => hab.fieldsOf_eq) (fun c hc => ?_)
    have hk := hc.test_eq_false (p := (· == .fieldDeclaration)) rfl rfl
    simp [Node.fieldsOf, hk]
  simp only [Node.declaredFields, List.map_append, List.map_map, List.map_flatMap, hmembers,
    h.components_eq]
  rfl

theorem fieldNames_eq (h : Commented src src' decl decl') :
    decl'.fieldNames src' = decl.fieldNames src := by
  have hnames := congrArg (List.map FieldDecl.name) h.declaredFields_eq
  rw [List.map_map, List.map_map] at hnames
  exact hnames

theorem methodNodes (h : Commented src src' decl decl') :
    List.Forall₂ (Commented src src') decl.methodNodes decl'.methodNodes :=
  (h.members.filter_kind (p := (· == .methodDeclaration)) rfl rfl).imp fun _ _ hab => hab.1

theorem constructorNodes (h : Commented src src' decl decl') :
    List.Forall₂ (Commented src src') decl.constructorNodes decl'.constructorNodes :=
  (h.members.filter_kind
    (p := fun k => k == .constructorDeclaration || k == .compactConstructorDeclaration)
    rfl rfl).imp fun _ _ hab => hab.1

theorem methodTypeParameters_eq (h : Commented src src' decl decl') :
    decl'.methodNodes.flatMap (Node.typeParameterNames src') =
      decl.methodNodes.flatMap (Node.typeParameterNames src) := by
  rw [List.flatMap_def, List.flatMap_def,
    map_eq_of_forall₂ (fun a b hab => hab.typeParameterNames_eq) h.methodNodes]

theorem nestedTypes_eq (h : Commented src src' decl decl') :
    decl'.members.filterMap (Node.nestedTypeOf src') =
      decl.members.filterMap (Node.nestedTypeOf src) := by
  refine h.members.filterMap_eq (fun a b hab => hab.nestedTypeOf_eq) (fun c hc => ?_)
  have hk := hc.test_eq_false (p := Kind.isTypeDeclaration) rfl rfl
  simp [Node.nestedTypeOf, hk]

theorem initializers_eq (h : Commented src src' decl decl') (fields : List String) :
    (Body.ofNodes src' fields (decl'.members.flatMap Node.initializersOf)).unplaced =
      (Body.ofNodes src fields (decl.members.flatMap Node.initializersOf)).unplaced := by
  refine Body.unplaced_ofNodes fields (h.members.forall₂_flatMap (fun a b hab => hab.initializersOf)
    (fun c hc => ?_))
  rcases hc.kind_cases with hk | hk <;> simp [Node.initializersOf, hk]

end Commented

namespace ClassFacts

variable {root root' decl decl' : Node}

def ofMembers (src : Text.Source) (path : String) (root decl : Node) (name : String)
    (methods constructors : List Method) : ClassFacts where
  path := path
  package := packageOf src root
  name := name
  kind := ClassKind.ofNode decl
  imports := importsOf src root
  superclass := decl.superclassNode?.map src.textOf
  interfaces := decl.interfaceNodes.map src.textOf
  nestedTypes := decl.members.filterMap (Node.nestedTypeOf src)
  typeParameters := addNew (decl.typeParameterNames src)
    (decl.methodNodes.flatMap (Node.typeParameterNames src))
  fields := decl.declaredFields src
  methods := methods
  constructors := constructors
  initializers := Body.ofNodes src (decl.fieldNames src) (decl.members.flatMap Node.initializersOf)
  span := src.spanOf decl

theorem ofDeclaration_of_name (src : Text.Source) (path : String) (root decl : Node) {name : String}
    (h : decl.roleText src .name = some name) :
    ofDeclaration src path root decl =
      (decl.methodNodes.mapM (Method.ofNode src (decl.fieldNames src) [])).bind fun methods =>
        (decl.constructorNodes.mapM
          (Method.ofNode src (decl.fieldNames src) (decl.components src))).map
            (ofMembers src path root decl name methods) := by
  have hsuperclass : ((decl.child? .superclass).bind fun s => s.namedChildren.head?.map src.textOf) =
      decl.superclassNode?.map src.textOf := by
    rw [Node.superclassNode?, Option.map_bind]
    rfl
  unfold ofDeclaration
  rw [h]
  unfold ofMembers Node.interfaceNodes Node.interfaceList?
  simp only [hsuperclass]
  cases (decl.child? .interfaces).bind fun i => i.namedChildren.head? with
  | none => rfl
  | some list => rfl

theorem ofDeclaration_of_unnamed (src : Text.Source) (path : String) (root decl : Node)
    (h : decl.roleText src .name = none) :
    ofDeclaration src path root decl = .error .unnamedType := by
  unfold ofDeclaration
  rw [h]
  rfl

theorem exists_ofMembers {path : String} {u : ClassFacts}
    (h : ofDeclaration src path root decl = .ok u) :
    ∃ name methods constructors, u = ofMembers src path root decl name methods constructors := by
  cases hname : decl.roleText src .name with
  | none =>
    rw [ofDeclaration_of_unnamed src path root decl hname] at h
    cases h
  | some name =>
    rw [ofDeclaration_of_name src path root decl hname] at h
    cases hms : decl.methodNodes.mapM (Method.ofNode src (decl.fieldNames src) []) with
    | error e =>
      rw [hms] at h
      cases h
    | ok ms =>
      cases hcs : decl.constructorNodes.mapM
          (Method.ofNode src (decl.fieldNames src) (decl.components src)) with
      | error e =>
        rw [hms, hcs] at h
        cases h
      | ok cs =>
        rw [hms, hcs] at h
        cases h
        exact ⟨name, ms, cs, rfl⟩

theorem heritage_of_ofTree {path : String} {u : ClassFacts}
    (hdecl : analyzedClass? src path root = some decl) (h : ofTree src path root = .ok u) :
    u.superclass = decl.superclassNode?.map src.textOf ∧
      u.interfaces = decl.interfaceNodes.map src.textOf := by
  rw [ofTree, hdecl] at h
  obtain ⟨name, ms, cs, rfl⟩ := exists_ofMembers h
  exact ⟨rfl, rfl⟩

theorem others_ofMembers (hroot : Commented src src' root root') (h : Commented src src' decl decl')
    (path name : String) {ms ms' cs cs' : List Method}
    (hms : ms'.map Method.unplaced = ms.map Method.unplaced)
    (hcs : cs'.map Method.unplaced = cs.map Method.unplaced) :
    (ofMembers src' path root' decl' name ms' cs').others =
      (ofMembers src path root decl name ms cs).others := by
  simp only [others, unplaced, ofMembers, hms, hcs, h.classKind_eq, h.declaredFields_eq,
    h.fieldNames_eq, h.typeParameterNames_eq, h.methodTypeParameters_eq, h.nestedTypes_eq,
    h.initializers_eq, hroot.importsOf_eq, hroot.packageOf_eq]

theorem others_ofDeclaration (hroot : Commented src src' root root')
    (h : Commented src src' decl decl') (path : String) :
    (ofDeclaration src' path root' decl').map others =
      (ofDeclaration src path root decl).map others := by
  have hname : decl'.roleText src' .name = decl.roleText src .name := h.roleText_eq (.inl rfl)
  cases hwritten : decl.roleText src .name with
  | none =>
    rw [ofDeclaration_of_unnamed src path root decl hwritten,
      ofDeclaration_of_unnamed src' path root' decl' (hname.trans hwritten)]
  | some name =>
    rw [ofDeclaration_of_name src path root decl hwritten,
      ofDeclaration_of_name src' path root' decl' (hname.trans hwritten), h.fieldNames_eq,
      h.components_eq]
    have hmethods := map_mapM_of_forall₂
      (fun a b hab => hab.method_eq (decl.fieldNames src) []) h.methodNodes
    have hconstructors := map_mapM_of_forall₂
      (fun a b hab => hab.method_eq (decl.fieldNames src) (decl.components src)) h.constructorNodes
    rcases cases_of_map_eq hmethods with ⟨e, ha, hb⟩ | ⟨ms, ms', ha, hb, hms⟩
    · simp only [ha, hb, Except.bind]
    · rcases cases_of_map_eq hconstructors with ⟨e, hc, hd⟩ | ⟨cs, cs', hc, hd, hcs⟩
      · simp only [ha, hb, hc, hd, Except.bind, Except.map]
      · simp only [ha, hb, hc, hd, Except.bind, Except.map]
        rw [others_ofMembers hroot h path name hms hcs]

theorem others_ofTree (hroot : Commented src src' root root') (path : String) :
    (ofTree src' path root').map others = (ofTree src path root).map others := by
  unfold ofTree
  rcases rel_cases (hroot.analyzedClass?_rel path) with ⟨ha, hb⟩ | ⟨decl, decl', ha, hb, h⟩
  · simp only [ha, hb]
  · simp only [ha, hb]
    exact others_ofDeclaration hroot h path

/-- Comments change no fact but the superclass and the interfaces, and these only where a comment is
read as one of them. -/
theorem facts_of_commented (hroot : Commented src src' root root') (path : String) :
    (ofTree src' path root').map others = (ofTree src path root).map others ∧
      ∀ decl', analyzedClass? src' path root' = some decl' →
        (decl'.readsSuperclass = true →
          (ofTree src' path root').map superclass = (ofTree src path root).map superclass) ∧
        (decl'.readsInterfaces = true →
          (ofTree src' path root').map interfaces = (ofTree src path root).map interfaces) ∧
        ∀ u', ofTree src' path root' = .ok u' →
          (∀ c ∈ decl'.superclassNode?, c.IsComment → u'.superclass = some (src'.textOf c)) ∧
          (∀ c ∈ decl'.interfaceList?, c.IsComment → u'.interfaces = []) ∧
          ∀ c ∈ decl'.interfaceNodes, c.IsComment → src'.textOf c ∈ u'.interfaces := by
  have hothers := others_ofTree hroot path
  refine ⟨hothers, fun decl' hdecl' => ?_⟩
  obtain ⟨decl, hdecl, h⟩ : ∃ decl, analyzedClass? src path root = some decl ∧
      Commented src src' decl decl' := by
    rcases rel_cases (hroot.analyzedClass?_rel path) with ⟨-, hb⟩ | ⟨decl, d, ha, hb, h⟩
    · rw [hdecl'] at hb
      cases hb
    · rw [hdecl'] at hb
      cases hb
      exact ⟨decl, ha, h⟩
  refine ⟨fun hreads => ?_, fun hreads => ?_, fun u' hu' => ?_⟩
  · refine map_eq_of_map_eq hothers fun u u' hu hu' => ?_
    rw [(heritage_of_ofTree hdecl hu).1, (heritage_of_ofTree hdecl' hu').1, h.superclass_eq hreads]
  · refine map_eq_of_map_eq hothers fun u u' hu hu' => ?_
    rw [(heritage_of_ofTree hdecl hu).2, (heritage_of_ofTree hdecl' hu').2, h.interfaces_eq hreads]
  · obtain ⟨hsuperclass, hinterfaces⟩ := heritage_of_ofTree hdecl' hu'
    refine ⟨fun c hc _ => ?_, fun c hc hcomment => ?_, fun c hc _ => ?_⟩
    · rw [hsuperclass, Option.mem_def.1 hc]
      rfl
    · have hnone : c.namedChildren = [] := by simp [Node.namedChildren, hcomment.leaf]
      rw [hinterfaces, Node.interfaceNodes, Option.mem_def.1 hc]
      simp only [hnone, List.map_nil]
    · rw [hinterfaces]
      exact List.mem_map_of_mem hc

namespace Sample

/-- A class whose superclass stands at `t` and whose method returns at `r`, with comments in front of
its clauses, in the clause of its superclass and at the start of the method. -/
def derived (front clause block : List Node) (s t r : Nat) : Node :=
  let call : Node := .mk .methodInvocation none (r + 7) (r + 12)
    [.leaf .identifier (some .object) (r + 7), .token (r + 8),
      .leaf .identifier (some .name) (r + 9),
      .mk .argumentList none (r + 10) (r + 12) [.token (r + 10), .token (r + 11)]]
  let method : Node := .mk .methodDeclaration none (t + 17) (r + 15)
    [.leaf .typeIdentifier (some .type) (t + 17), .leaf .identifier (some .name) (t + 19),
      .mk .formalParameters (some .parameters) (t + 20) (t + 22)
        [.token (t + 20), .token (t + 21)],
      .mk .block (some .body) (t + 23) (r + 15) (.token (t + 23) :: (block ++
        [.mk .returnStatement none r (r + 13) [.token r (r + 6), call, .token (r + 12)],
          .token (r + 14)]))]
  .mk .program none 0 (r + 17) [.mk .classDeclaration none 0 (r + 17)
    (.token 0 5 :: .leaf .identifier (some .name) 6 :: (front ++
      [.mk .superclass (some .superclass) s (t + 1)
          (.token s (s + 7) :: (clause ++ [.leaf .typeIdentifier none t])),
        .mk .superInterfaces (some .interfaces) (t + 2) (t + 14)
          [.token (t + 2) (t + 12),
            .mk .typeList none (t + 13) (t + 14) [.leaf .typeIdentifier none (t + 13)]],
        .mk .classBody (some .body) (t + 15) (r + 17)
          [.token (t + 15), method, .token (r + 16)]]))]

theorem commented_token {s e s' e' : Nat} : Commented src src' (.token s e) (.token s' e') :=
  .mk nofun .nil

theorem commented_leaf (k : Kind) (r : Option Field) {s s' : Nat}
    (h : src'.text s' (s' + 1) = src.text s (s + 1)) :
    Commented src src' (.leaf k r s) (.leaf k r s') :=
  .mk (fun _ => h) .nil

theorem commentedAll_append {k : Kind} {before cs ns ns' : List Node} (hcs : ∀ c ∈ cs, c.IsComment)
    (hk : k.admitsComment before = true) (h : CommentedAll src src' k before ns ns') :
    CommentedAll src src' k before ns (cs ++ ns') := by
  induction cs with
  | nil => exact h
  | cons c rest ih =>
    exact .comment (hcs c List.mem_cons_self) hk (ih fun d hd => hcs d (List.mem_cons_of_mem c hd))

theorem commented_derived {front clause block : List Node}
    (hcomments : ∀ c ∈ front ++ clause ++ block, c.IsComment) {s s' t t' r r' : Nat}
    (hkeyword : src'.text s' (s' + 7) = src.text s (s + 7))
    (htext : ∀ p ∈ [(6, 6), (t, t'), (t + 13, t' + 13), (t + 17, t' + 17), (t + 19, t' + 19),
      (r + 7, r' + 7), (r + 9, r' + 9)], src'.text p.2 (p.2 + 1) = src.text p.1 (p.1 + 1)) :
    Commented src src' (derived [] [] [] s t r) (derived front clause block s' t' r') := by
  simp only [List.mem_cons, List.not_mem_nil, or_false, forall_eq_or_imp, forall_eq] at htext
  obtain ⟨hclass, hsuper, hinterface, htype, hmethod, hobject, hcalled⟩ := htext
  have hfront : ∀ c ∈ front, c.IsComment := fun c hc => hcomments c (by simp [hc])
  have hclause : ∀ c ∈ clause, c.IsComment := fun c hc => hcomments c (by simp [hc])
  have hblock : ∀ c ∈ block, c.IsComment := fun c hc => hcomments c (by simp [hc])
  refine .mk nofun (.keep (.mk nofun ?_) nofun .nil)
  refine .keep commented_token nofun (.keep (commented_leaf _ _ hclass) nofun ?_)
  refine commentedAll_append hfront rfl ?_
  refine .keep (.mk nofun ?_) nofun (.keep (.mk nofun ?_) nofun (.keep (.mk nofun ?_) nofun .nil))
  · refine .keep commented_token (fun _ => hkeyword) (commentedAll_append hclause rfl ?_)
    exact .keep (commented_leaf _ _ hsuper) (fun _ => hsuper) .nil
  · refine .keep commented_token nofun (.keep (.mk nofun ?_) nofun .nil)
    exact .keep (commented_leaf _ _ hinterface) (fun _ => hinterface) .nil
  · refine .keep commented_token nofun (.keep (.mk nofun ?_) nofun (.keep commented_token nofun .nil))
    refine .keep (commented_leaf _ _ htype) nofun (.keep (commented_leaf _ _ hmethod) nofun ?_)
    refine .keep (.mk nofun (.keep commented_token nofun (.keep commented_token nofun .nil))) nofun ?_
    refine .keep (.mk nofun ?_) nofun .nil
    refine .keep commented_token nofun (commentedAll_append hblock rfl ?_)
    refine .keep (.mk nofun ?_) nofun (.keep commented_token nofun .nil)
    refine .keep commented_token nofun (.keep (.mk nofun ?_) nofun (.keep commented_token nofun .nil))
    refine .keep (commented_leaf _ _ hobject) nofun (.keep commented_token nofun ?_)
    refine .keep (commented_leaf _ _ hcalled) nofun (.keep (.mk nofun ?_) nofun .nil)
    exact .keep commented_token nofun (.keep commented_token nofun .nil)

def plainText : Text.Source := .ofString "class A extends B implements I { X f() { return y.g(); } }"

def apartText : Text.Source :=
  .ofString "class A /* a */ extends B implements I { X f() { /* b */ return y.g(); } }"

def insideText : Text.Source :=
  .ofString "class A extends /* a */ B implements I { X f() { return y.g(); } }"

def remark (s : Nat) : Node := .mk .blockComment none s (s + 7) []

theorem isComment_remark (s : Nat) : (remark s).IsComment := ⟨rfl, rfl, rfl⟩

def plain : Node := derived [] [] [] 8 16 41

def apart : Node := derived [remark 8] [] [remark 49] 16 24 57

def inside : Node := derived [] [remark 16] [] 8 24 49

theorem commented_apart : Commented plainText apartText plain apart :=
  commented_derived (by simp [isComment_remark]) (by decide +kernel) (by decide +kernel)

theorem commented_inside : Commented plainText insideText plain inside :=
  commented_derived (by simp [isComment_remark]) (by decide +kernel) (by decide +kernel)

theorem superclass_plain :
    (ofTree plainText "A.java" plain).map (superclass ∘ unplaced) = .ok (some "B") := by
  decide +kernel

theorem superclass_inside :
    (ofTree insideText "A.java" inside).map (superclass ∘ unplaced) = .ok (some "/* a */") := by
  decide +kernel

end Sample

theorem facts_of_commented_apart :
    (ofTree Sample.apartText "A.java" Sample.apart).map others =
        (ofTree Sample.plainText "A.java" Sample.plain).map others ∧
      (ofTree Sample.apartText "A.java" Sample.apart).map superclass = .ok (some "B") ∧
      (ofTree Sample.apartText "A.java" Sample.apart).map interfaces = .ok ["I"] := by
  obtain ⟨hothers, hheritage⟩ := facts_of_commented Sample.commented_apart "A.java"
  obtain ⟨hsuperclass, hinterfaces, -⟩ := hheritage _ rfl
  exact ⟨hothers, (hsuperclass rfl).trans rfl, (hinterfaces rfl).trans rfl⟩

theorem not_facts_of_commented : ¬ ∀ (src src' : Text.Source) (root root' : Node) (path : String),
    Commented src src' root root' →
      (ofTree src' path root').map unplaced = (ofTree src path root).map unplaced := by
  intro hall
  have hsame := congrArg (Except.map superclass) (hall _ _ _ _ "A.java" Sample.commented_inside)
  have hread := Sample.superclass_inside.symm.trans (hsame.trans Sample.superclass_plain)
  exact absurd hread (by decide)

end ClassFacts

end JavaMetrics

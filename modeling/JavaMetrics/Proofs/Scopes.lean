import JavaMetrics.Proofs.Visits

set_option autoImplicit false

namespace JavaMetrics

/-- The names declared in an open scope, latest first, each with its type if that is known. -/
structure TypedScope where
  depth : Nat
  names : List (String × Option String)

namespace TypedScope

def scope (s : TypedScope) : Scope := ⟨s.depth, s.names.map (·.1)⟩

def declareIn : List TypedScope → String × Option String → List TypedScope
  | s :: rest, d => { s with names := d :: s.names } :: rest
  | [], _ => []

def closeTo (depth : Nat) : List TypedScope → List TypedScope
  | s :: t :: rest => if depth ≤ s.depth then closeTo depth (t :: rest) else s :: t :: rest
  | ss => ss

def enter (ss : List TypedScope) (v : Visit) : List TypedScope :=
  if v.node.kind.opensScope then ⟨v.depth, []⟩ :: closeTo v.depth ss else closeTo v.depth ss

def step (src : Text.Source) (ss : List TypedScope) (v : Visit) : List TypedScope :=
  (v.declarations src).foldl declareIn (enter ss v)

def afterVisits (src : Text.Source) (parameters : List Parameter) (vs : List Visit) :
    List TypedScope :=
  vs.foldl (step src) [⟨0, (parameters.map fun p => (p.name, none)).reverse⟩]

/-- What the innermost declaration of a name says of its type; none if the name is not declared. -/
def typeOf? (ss : List TypedScope) (x : String) : Option (Option String) :=
  ss.findSome? fun s => s.names.lookup x

theorem map_scope_declareIn (ss : List TypedScope) (d : String × Option String) :
    (declareIn ss d).map scope = Scope.declareIn (ss.map scope) d.1 := by
  cases ss <;> rfl

theorem map_scope_foldl_declareIn (ds : List (String × Option String)) (ss : List TypedScope) :
    (ds.foldl declareIn ss).map scope = (ds.map (·.1)).foldl Scope.declareIn (ss.map scope) := by
  induction ds generalizing ss with
  | nil => rfl
  | cons d rest ih =>
    rw [List.foldl_cons, ih, map_scope_declareIn]
    rfl

theorem map_scope_closeTo (depth : Nat) (ss : List TypedScope) :
    (closeTo depth ss).map scope = Collector.closeTo depth (ss.map scope) := by
  fun_induction closeTo depth ss with
  | case1 s t rest hle ih =>
    rw [ih]
    simp [Collector.closeTo, scope, hle]
  | case2 s t rest hlt => simp [Collector.closeTo, scope, hlt]
  | case3 ss hshort =>
    rcases ss with _ | ⟨s, _ | ⟨t, rest⟩⟩
    · rfl
    · rfl
    · exact absurd rfl (hshort s t rest)

theorem map_scope_enter (c : Collector) {ss : List TypedScope} (h : ss.map scope = c.scopes)
    (v : Visit) : (enter ss v).map scope = (c.enter v).scopes := by
  simp only [enter, Collector.enter, ← h, ← map_scope_closeTo]
  split <;> rfl

theorem map_scope_step (src : Text.Source) (fields : List String) (c : Collector)
    {ss : List TypedScope} (h : ss.map scope = c.scopes) (v : Visit) :
    (step src ss v).map scope = (c.step src fields v).scopes := by
  rw [step, map_scope_foldl_declareIn, map_scope_enter c h, Collector.step_eq]
  rfl

theorem map_scope_foldl_step (src : Text.Source) (fields : List String) (vs : List Visit)
    (c : Collector) {ss : List TypedScope} (h : ss.map scope = c.scopes) :
    (vs.foldl (step src) ss).map scope = (vs.foldl (Collector.step src fields) c).scopes := by
  induction vs generalizing c ss with
  | nil => exact h
  | cons v rest ih => exact ih (c.step src fields v) (map_scope_step src fields c h v)

theorem map_scope_afterVisits (src : Text.Source) (fields : List String)
    (parameters : List Parameter) (vs : List Visit) :
    (afterVisits src parameters vs).map scope =
      (vs.foldl (Collector.step src fields) (.start parameters)).scopes := by
  refine map_scope_foldl_step src fields vs (.start parameters) ?_
  simp [scope, Collector.start]

def Declared (src : Text.Source) (vs : List Visit) (ss : List TypedScope) : Prop :=
  ∀ s ∈ ss, ∀ x t, (x, some t) ∈ s.names → ∃ v ∈ vs, (x, some t) ∈ v.declarations src

theorem mem_of_mem_closeTo {depth : Nat} {ss : List TypedScope} {s : TypedScope}
    (h : s ∈ closeTo depth ss) : s ∈ ss := by
  fun_induction closeTo depth ss with
  | case1 s' t rest hle ih => exact List.mem_cons_of_mem _ (ih h)
  | case2 s' t rest hlt => exact h
  | case3 ss hshort => exact h

variable {src : Text.Source} {vs : List Visit} {ss : List TypedScope}

theorem Declared.mono {ws : List Visit} (h : Declared src vs ss) (hsub : vs ⊆ ws) :
    Declared src ws ss := by
  intro s hs x t hmem
  obtain ⟨v, hv, hd⟩ := h s hs x t hmem
  exact ⟨v, hsub hv, hd⟩

theorem Declared.enter (h : Declared src vs ss) (v : Visit) : Declared src vs (enter ss v) := by
  have hclose : Declared src vs (closeTo v.depth ss) := by
    intro s hs
    exact h s (mem_of_mem_closeTo hs)
  unfold TypedScope.enter
  split
  · intro s hs x t hmem
    rcases List.mem_cons.1 hs with rfl | hs
    · simp at hmem
    · exact hclose s hs x t hmem
  · exact hclose

theorem Declared.declareIn {d : String × Option String} (h : Declared src vs ss)
    (hd : ∃ v ∈ vs, d ∈ v.declarations src) : Declared src vs (declareIn ss d) := by
  cases ss with
  | nil => exact h
  | cons s₀ rest =>
    intro s hs x t hmem
    rcases List.mem_cons.1 hs with rfl | hs
    · rcases List.mem_cons.1 hmem with rfl | hmem
      · exact hd
      · exact h s₀ List.mem_cons_self x t hmem
    · exact h s (List.mem_cons_of_mem s₀ hs) x t hmem

theorem Declared.foldl_declareIn {ds : List (String × Option String)} (h : Declared src vs ss)
    (hds : ∀ d ∈ ds, ∃ v ∈ vs, d ∈ v.declarations src) :
    Declared src vs (ds.foldl TypedScope.declareIn ss) := by
  induction ds generalizing ss with
  | nil => exact h
  | cons d rest ih =>
    have hd := hds d List.mem_cons_self
    exact ih (h.declareIn hd) fun e he => hds e (List.mem_cons_of_mem d he)

theorem Declared.foldl_step (ws : List Visit) (h : Declared src vs ss) :
    Declared src (vs ++ ws) (ws.foldl (step src) ss) := by
  induction ws generalizing vs ss with
  | nil => simpa using h
  | cons v rest ih =>
    have hgrown : Declared src (vs ++ [v]) (TypedScope.enter ss v) :=
      (h.enter v).mono (List.subset_append_left vs [v])
    have hstep : Declared src (vs ++ [v]) (step src ss v) :=
      hgrown.foldl_declareIn fun d hd => ⟨v, by simp, hd⟩
    simpa using ih hstep

theorem declared_afterVisits (src : Text.Source) (parameters : List Parameter) (vs : List Visit) :
    Declared src vs (afterVisits src parameters vs) := by
  have hstart : Declared src [] [⟨0, (parameters.map fun p => (p.name, none)).reverse⟩] := by
    intro s hs x t hmem
    rw [List.mem_singleton] at hs
    simp [hs] at hmem
  simpa [afterVisits] using hstart.foldl_step vs

theorem Declared.of_typeOf? {x t : String} (h : Declared src vs ss)
    (ht : typeOf? ss x = some (some t)) : ∃ v ∈ vs, (x, some t) ∈ v.declarations src := by
  obtain ⟨s, hs, hlookup⟩ := List.exists_of_findSome?_eq_some ht
  obtain ⟨before, after, hnames, -⟩ := List.lookup_eq_some_iff.1 hlookup
  exact h s hs x t (by simp [hnames])

end TypedScope

/-- The type of the last declaration of a name that has one. -/
def lastType? (ds : List (String × Option String)) (x : String) : Option String :=
  ds.reverse.findSome? fun d => if d.1 = x then d.2 else none

theorem lastType?_cons (d : String × Option String) (ds : List (String × Option String)) (x : String) :
    lastType? (d :: ds) x = (lastType? ds x).or (if d.1 = x then d.2 else none) := by
  simp [lastType?, List.findSome?_append]

theorem get?_recordType (types : Dict String) (d : String × Option String) (x : String) :
    (recordType types d).get? x = (if d.1 = x then d.2 else none).or (types.get? x) := by
  obtain ⟨y, type⟩ := d
  cases type with
  | none => simp [recordType]
  | some t =>
    by_cases hy : y = x
    · simp [recordType, Dict.get?_insert, hy]
    · simp [recordType, Dict.get?_insert, hy, Ne.symm hy]

theorem get?_foldl_recordType (ds : List (String × Option String)) (types : Dict String) (x : String) :
    (ds.foldl recordType types).get? x = (lastType? ds x).or (types.get? x) := by
  induction ds generalizing types with
  | nil => rfl
  | cons d rest ih => rw [List.foldl_cons, ih, get?_recordType, lastType?_cons, Option.or_assoc]

theorem exists_lastType? {ds : List (String × Option String)} {x t : String} (h : (x, some t) ∈ ds) :
    ∃ last, lastType? ds x = some last := by
  rw [← Option.isSome_iff_exists, lastType?, List.findSome?_isSome_iff]
  exact ⟨(x, some t), List.mem_reverse.2 h, by simp⟩

theorem mem_of_lastType? {ds : List (String × Option String)} {x t : String}
    (h : lastType? ds x = some t) : (x, some t) ∈ ds := by
  obtain ⟨⟨y, type⟩, hmem, hif⟩ := List.exists_of_findSome?_eq_some h
  by_cases hy : y = x
  · have htype : type = some t := by simpa [hy] using hif
    rw [← hy, ← htype]
    exact List.mem_reverse.1 hmem
  · simp [hy] at hif

end JavaMetrics

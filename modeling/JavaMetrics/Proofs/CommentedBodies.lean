import JavaMetrics.Proofs.Comments
import JavaMetrics.Proofs.Visits

/-!
Bodies with comments put in. A comment adds nothing to the facts of a body, and the scopes that it closes are
those that the next node closes too. So two walks stay alike: the same facts up to lines, and the same
scopes as soon as the next node is entered.
-/

set_option autoImplicit false

namespace JavaMetrics

def Call.unplaced (c : Call) : Call := { c with line := 0 }

def Body.unplaced (b : Body) : Body := { b with calls := b.calls.map Call.unplaced }

variable {src src' : Text.Source}

theorem Node.isWritten_of_isType {n : Node} (h : n.kind.isType = true) : n.isWritten = true := by
  simp [isWritten, h]

theorem Node.isWritten_of_isNamePath {n : Node} (h : n.isNamePath = true) : n.isWritten = true := by
  simp [isWritten, h]

theorem Node.isWritten_of_identifier {n : Node} (h : n.kind = .identifier) : n.isWritten = true := by
  obtain ⟨k, r, s, e, cs⟩ := n
  cases h
  exact isWritten_of_isNamePath (by simp [isNamePath])

theorem Node.isWritten_of_role {n : Node} {f : Field} (h : n.role = some f)
    (hf : f = .name ∨ f = .type ∨ f = .member) : n.isWritten = true := by
  rcases hf with rfl | rfl | rfl <;> simp [isWritten, h]

theorem Commented.receiverOf_eq {n n' : Node} (h : Commented src src' n n') :
    receiverOf src' (n'.child? .object) = receiverOf src (n.child? .object) := by
  rcases h.child? .object with ⟨ho, ho'⟩ | ⟨o, o', ho, ho', hoo, -⟩
  · rw [ho, ho']
    rfl
  · rw [ho, ho']
    simp only [receiverOf, hoo.kind_eq, hoo.isNamePath_eq]
    split
    case h_3 hk => rw [hoo.text_eq (Node.isWritten_of_identifier hk)]
    case h_4 | h_5 =>
      split
      · rename_i hpath
        rw [hoo.text_eq (Node.isWritten_of_isNamePath hpath)]
      · rfl
    all_goals rfl

theorem Commented.lambdaNames_eq {ps ps' : Node} (h : Commented src src' ps ps') :
    Collector.lambdaNames src' ps' = Collector.lambdaNames src ps := by
  have hnames : ∀ a b, Commented src src' a b →
      (if b.kind == .identifier then some (src'.textOf b) else (b.child? .name).map src'.textOf) =
        if a.kind == .identifier then some (src.textOf a) else (a.child? .name).map src.textOf := by
    intro a b hab
    rw [hab.kind_eq]
    split
    · rename_i hk
      rw [hab.text_eq (Node.isWritten_of_identifier (by simpa using hk))]
    · exact hab.roleText_eq (.inl rfl)
  have hcomment : ∀ b : Node, b.IsComment →
      (if b.kind == .identifier then some (src'.textOf b) else (b.child? .name).map src'.textOf) =
        none := by
    intro b hb
    have hk : (b.kind == .identifier) = false := hb.test_eq_false (p := (· == .identifier)) rfl rfl
    simp [hk, Node.child?, hb.leaf]
  unfold Collector.lambdaNames
  rw [h.kind_eq]
  split
  · rename_i hk
    rw [h.text_eq (Node.isWritten_of_identifier (by simpa using hk))]
  · exact h.namedChildren.filterMap_eq hnames hcomment

theorem Commented.variableType_eq {d d' : Node} (h : Commented src src' d d') (declared : String) :
    Collector.variableType src' declared d' = Collector.variableType src declared d := by
  unfold Collector.variableType
  rcases h.child? .value with ⟨hv, hv'⟩ | ⟨v, v', hv, hv', hvv, -⟩
  · simp only [hv, hv']
  · have htype : (v'.child? .type).map src'.textOf = (v.child? .type).map src.textOf :=
      hvv.roleText_eq (.inr (.inl rfl))
    simp only [hv, hv', hvv.kind_eq, htype]

theorem CommentedAll.caught_eq {before cs cs' : List Node}
    (h : CommentedAll src src' .catchType before cs cs')
    (hbefore : before.any (·.kind.isNamed) = false) :
    ((cs'.filter (·.kind.isNamed)).head?).map src'.textOf =
      ((cs.filter (·.kind.isNamed)).head?).map src.textOf := by
  induction cs' generalizing before cs with
  | nil =>
    cases h
    rfl
  | cons c rest ih =>
    cases h with
    | @keep _ _ ns _ n _ hn htext hrest =>
      rw [List.filter_cons, List.filter_cons, hn.kind_eq]
      cases hnamed : n.kind.isNamed with
      | true => simp [htext rfl]
      | false =>
        simp only [Bool.false_eq_true, if_false]
        exact ih hrest (by simp [hbefore, hnamed])
    | comment _ hadmitted _ =>
      simp [Kind.admitsComment, hbefore] at hadmitted

theorem Commented.caught_eq {n n' : Node} (h : Commented src src' n n') :
    ((n'.named? .catchType).bind fun t => t.namedChildren.head?).map src'.textOf =
      ((n.named? .catchType).bind fun t => t.namedChildren.head?).map src.textOf := by
  rw [Option.map_bind, Option.map_bind]
  refine bind_eq_of_rel (fun t t' htt => ?_) (h.namedChildren.find?_kind (p := (· == .catchType)) rfl rfl)
  have hall := htt.1.all
  rw [beq_iff_eq.1 htt.2] at hall
  exact hall.caught_eq rfl

structure CommentedVisit (src src' : Text.Source) (v v' : Visit) : Prop where
  depth : v'.depth = v.depth
  node : Commented src src' v.node v'.node
  parent : Option.Rel (Commented src src') v.parent v'.parent
  leads : ∀ p, v.parent = some p → p.kind = .methodReference → v'.leads = v.leads

namespace CommentedVisit

variable {v v' : Visit}

theorem isValue_eq (h : CommentedVisit src src' v v') : v'.isValue = v.isValue := by
  rcases rel_cases h.parent with ⟨hp, hp'⟩ | ⟨p, p', hp, hp', hpp⟩
  · simp only [Visit.isValue, hp, hp']
  · simp only [Visit.isValue, hp, hp', hpp.kind_eq, h.node.role_eq]
    by_cases hk : p.kind = .methodReference
    · simp only [hk, h.leads p hp hk]
    · split <;> first | rfl | contradiction

theorem calls_eq (h : CommentedVisit src src' v v') :
    (v'.calls src').map Call.unplaced = (v.calls src).map Call.unplaced := by
  unfold Visit.calls
  rw [h.node.kind_eq, h.node.receiverOf_eq]
  split
  · rcases h.node.child? .name with ⟨ha, hb⟩ | ⟨a, b, ha, hb, hab, hrole⟩
    · simp only [ha, hb]
    · simp only [ha, hb, hab.text_eq (Node.isWritten_of_role hrole (.inl rfl))]
      rfl
  · rfl

theorem created_eq (h : CommentedVisit src src' v v') : v'.created src' = v.created src := by
  have htype : (v'.node.child? .type).map src'.textOf = (v.node.child? .type).map src.textOf :=
    h.node.roleText_eq (.inr (.inl rfl))
  unfold Visit.created
  rw [h.node.kind_eq, ← Option.toList_map, ← Option.toList_map, htype]

theorem castTypes_eq (h : CommentedVisit src src' v v') : v'.castTypes src' = v.castTypes src := by
  have htypes : (v'.node.inRole .type).map src'.textOf = (v.node.inRole .type).map src.textOf := by
    refine map_eq_of_forall₂ ?_ (h.node.inRole .type)
    rintro a b ⟨hab, hrole⟩
    exact hab.text_eq (Node.isWritten_of_role (by simpa using hrole) (.inr (.inl rfl)))
  unfold Visit.castTypes
  rw [h.node.kind_eq, htypes]

theorem declarations_eq (h : CommentedVisit src src' v v') :
    v'.declarations src' = v.declarations src := by
  have hname : ∀ {a b : Node}, a.role = some .name → Commented src src' a b →
      src'.textOf b = src.textOf a :=
    fun hrole hab => hab.text_eq (Node.isWritten_of_role hrole (.inl rfl))
  have htype : (v'.node.child? .type).map src'.textOf = (v.node.child? .type).map src.textOf :=
    h.node.roleText_eq (.inr (.inl rfl))
  unfold Visit.declarations
  rw [h.node.kind_eq]
  split
  · simp only [htype]
    refine filterMap_eq_of_forall₂ ?_ (h.node.inRole .declarator)
    rintro d d' ⟨hdd, -⟩
    rcases hdd.child? .name with ⟨ha, hb⟩ | ⟨a, b, ha, hb, hab, hrole⟩
    · simp only [ha, hb, Option.map_none]
    · simp only [ha, hb, Option.map_some, hname hrole hab, hdd.variableType_eq]
  case h_2 | h_3 =>
    rcases h.node.child? .type with ⟨ht, ht'⟩ | ⟨t, t', ht, ht', htt, htrole⟩
    · simp only [ht, ht']
    · rcases h.node.child? .name with ⟨ha, hb⟩ | ⟨a, b, ha, hb, hab, hrole⟩
      · simp only [ht, ht', ha, hb]
      · have htext := htt.text_eq (Node.isWritten_of_role htrole (.inr (.inl rfl)))
        simp only [ht, ht', ha, hb, hname hrole hab, htext]
  · rcases h.node.child? .name with ⟨ha, hb⟩ | ⟨a, b, ha, hb, hab, hrole⟩
    · simp only [ha, hb]
    · simp only [ha, hb, hname hrole hab, h.node.caught_eq]
  · rcases h.node.child? .parameters with ⟨ha, hb⟩ | ⟨a, b, ha, hb, hab, -⟩
    · simp only [ha, hb]
    · simp only [ha, hb, hab.lambdaNames_eq]
  · rfl

theorem fieldUses_eq (h : CommentedVisit src src' v v') (fields : List String)
    (declared : String → Bool) : v'.fieldUses src' fields declared = v.fieldUses src fields declared := by
  unfold Visit.fieldUses
  rw [h.node.kind_eq, h.isValue_eq]
  split
  · rcases h.node.child? .object with ⟨ho, ho'⟩ | ⟨o, o', ho, ho', hoo, -⟩
    · simp only [ho, ho']
    · rcases h.node.child? .member with ⟨hm, hm'⟩ | ⟨m, m', hm, hm', hmm, hrole⟩
      · simp only [ho, ho', hm, hm']
      · have htext := hmm.text_eq (Node.isWritten_of_role hrole (.inr (.inr rfl)))
        simp only [ho, ho', hm, hm', hoo.kind_eq, htext]
  · rename_i hk
    rw [h.node.text_eq (Node.isWritten_of_identifier hk)]
  · rfl

end CommentedVisit

theorem Collector.closeTo_zero (ss : List Scope) : closeTo 0 ss = ss.drop (ss.length - 1) := by
  fun_induction closeTo 0 ss with
  | case1 s t rest hclosed ih => simp [ih]
  | case2 s t rest hopen => omega
  | case3 ss hshort =>
    rcases ss with _ | ⟨s, _ | ⟨t, rest⟩⟩
    · rfl
    · rfl
    · exact absurd rfl (hshort s t rest)

/-- The same facts up to lines, and the same scopes once a node at depth `d` or above is entered. -/
structure Alike (d : Nat) (c c' : Collector) : Prop where
  body : c'.body.unplaced = c.body.unplaced
  scopes : Collector.closeTo d c'.scopes = Collector.closeTo d c.scopes

namespace Alike

variable {d e : Nat} {c c' : Collector} {v v' : Visit}

theorem refl (c : Collector) : Alike d c c := ⟨rfl, rfl⟩

theorem mono (h : Alike e c c') (hle : d ≤ e) : Alike d c c' where
  body := h.body
  scopes := by rw [← Collector.closeTo_closeTo hle c'.scopes, h.scopes, Collector.closeTo_closeTo hle]

theorem receive (hbody : c'.body.unplaced = c.body.unplaced) (hscopes : c'.scopes = c.scopes)
    (hv : CommentedVisit src src' v v') (fields : List String) :
    Alike d (c.receive src fields v) (c'.receive src' fields v') where
  body := by
    obtain ⟨hdecisions, hcalls, hrefs, hnew, hcasts, htypes⟩ := Body.mk.inj hbody
    have hdeclared : c'.isDeclared = c.isDeclared := by
      funext x
      simp only [Collector.isDeclared, hscopes]
    simp only [Collector.receive, Body.unplaced, List.map_append, hcalls, hdecisions, hrefs, hnew, hcasts,
      htypes, hdeclared, hv.calls_eq, hv.created_eq, hv.castTypes_eq, hv.declarations_eq,
      hv.fieldUses_eq]
  scopes := by simp only [Collector.receive, hscopes, hv.declarations_eq]

theorem step (h : Alike v.depth c c') (hv : CommentedVisit src src' v v') (fields : List String) :
    Alike e (c.step src fields v) (c'.step src' fields v') := by
  have hentered : (c'.enter v').scopes = (c.enter v).scopes := by
    simp only [Collector.enter, hv.depth, hv.node.kind_eq, h.scopes]
  have hbody : (c'.enter v').body.unplaced = (c.enter v).body.unplaced := h.body
  rw [Collector.step_eq, Collector.step_eq]
  exact receive hbody hentered hv fields

theorem comment (h : Alike d c c') (hdepth : v'.depth = d) (hv : v'.node.IsComment)
    (fields : List String) : Alike d c (c'.step src' fields v') := by
  have hquiet : c'.step src' fields v' = { c' with scopes := Collector.closeTo d c'.scopes } := by
    unfold Collector.step Collector.visit Collector.enter
    rcases hv.kind_cases with hk | hk <;> simp [hk, hdepth, Kind.opensScope]
  rw [hquiet]
  exact ⟨h.body, by rw [Collector.closeTo_closeTo (Nat.le_refl d), h.scopes]⟩

end Alike

mutual

theorem Commented.foldl_visits (fields : List String) {n n' : Node} : Commented src src' n n' →
    ∀ ⦃d : Nat⦄ ⦃parent parent' : Option Node⦄ ⦃leads leads' : Bool⦄ ⦃c c' : Collector⦄,
      Option.Rel (Commented src src') parent parent' →
      (∀ p, parent = some p → p.kind = .methodReference → leads' = leads) → Alike d c c' →
      Alike d ((n.visits d parent leads).foldl (Collector.step src fields) c)
        ((n'.visits d parent' leads').foldl (Collector.step src' fields) c')
  | .mk htext hcs => by
    intro d parent parent' leads leads' c c' hparent hleads halike
    have hnode := Commented.mk htext hcs
    have hvisit : CommentedVisit src src' ⟨d, parent, leads, _⟩ ⟨d, parent', leads', _⟩ :=
      ⟨rfl, hnode, hparent, hleads⟩
    -- After a node that is in both trees the scopes are the same at every depth.
    have hbelow := CommentedAll.foldl_visitsAll fields hcs hnode rfl rfl (fun _ => rfl)
      (halike.step (e := d + 1) hvisit fields)
    exact hbelow.mono (Nat.le_succ d)

theorem CommentedAll.foldl_visitsAll (fields : List String) {k : Kind} {before cs cs' : List Node} :
    CommentedAll src src' k before cs cs' →
    ∀ ⦃d : Nat⦄ ⦃p p' : Node⦄ ⦃named named' : Bool⦄ ⦃c c' : Collector⦄,
      Commented src src' p p' → p.kind = k → named = before.any (·.kind.isNamed) →
      (k = .methodReference → named' = named) → Alike d c c' →
      Alike d ((Node.visitsAll d p named cs).foldl (Collector.step src fields) c)
        ((Node.visitsAll d p' named' cs').foldl (Collector.step src' fields) c')
  | .nil => by
    intro d p p' named named' c c' _ _ _ _ halike
    exact halike
  | .keep (n := n) hn _ hrest => by
    intro d p p' named named' c c' hp hk hnamed hsame halike
    -- Which child comes first is looked at in method references only.
    have hleads : ∀ q, some p = some q → q.kind = .methodReference →
        (n.kind.isNamed && !named') = (n.kind.isNamed && !named) := by
      intro q hq hmr
      cases hq
      rw [hsame (hk ▸ hmr)]
    have hbefore : (named || n.kind.isNamed) = (before ++ [n]).any (·.kind.isNamed) := by simp [hnamed]
    have hagree : k = .methodReference →
        (named' || n.kind.isNamed) = (named || n.kind.isNamed) := fun hmr => by rw [hsame hmr]
    have hhead := Commented.foldl_visits fields hn (.some hp) hleads halike
    have htail := CommentedAll.foldl_visitsAll fields hrest hp hk hbefore hagree hhead
    simpa only [Node.visitsAll, List.foldl_append, hn.kind_eq] using htail
  | .comment (c := c) hc hadmitted hrest => by
    intro d p p' named named' a a' hp hk hnamed hsame halike
    obtain ⟨kc, r, s, e, cs⟩ := c
    have hleaf : cs = [] := hc.leaf
    subst hleaf
    have hquiet : Alike d a (a'.step src' fields
        ⟨d, some p', kc.isNamed && !named', .mk kc r s e []⟩) := halike.comment rfl hc fields
    -- In a method reference the first named child is there already.
    refine CommentedAll.foldl_visitsAll fields hrest hp hk hnamed (fun hmr => ?_) hquiet
    subst hmr
    simp only [Kind.admitsComment] at hadmitted
    simp [hsame rfl, hnamed, hadmitted]

end

theorem Alike.walk {c c' : Collector} {n n' : Node} {parent parent' : Option Node} (h : Alike 0 c c')
    (hparent : Option.Rel (Commented src src') parent parent') (hn : Commented src src' n n')
    (fields : List String) :
    Alike 0 (c.walk src fields parent n) (c'.walk src' fields parent' n') := by
  have hscopes : c'.scopes.drop (c'.scopes.length - 1) = c.scopes.drop (c.scopes.length - 1) := by
    rw [← Collector.closeTo_zero, ← Collector.closeTo_zero, h.scopes]
  have hstart : Alike 0 { c with scopes := c.scopes.drop (c.scopes.length - 1) }
      { c' with scopes := c'.scopes.drop (c'.scopes.length - 1) } :=
    ⟨h.body, by rw [hscopes]⟩
  exact hn.foldl_visits fields hparent (fun _ _ _ => rfl) hstart

theorem Body.unplaced_ofNode {o o' : Option Node} (h : Option.Rel (Commented src src') o o')
    (fields : List String) (parameters : List Parameter) :
    (Body.ofNode src' fields parameters o').unplaced =
      (Body.ofNode src fields parameters o).unplaced := by
  rcases rel_cases h with ⟨rfl, rfl⟩ | ⟨n, n', rfl, rfl, hn⟩
  · rfl
  · have hwalk := (Alike.refl (parameters.foldl (fun c p => c.declare p.name) {})).walk .none hn fields
    obtain ⟨_, hrest⟩ := Body.mk.inj hwalk.body
    simp only [Body.ofNode, Body.unplaced, hn.decisions_eq, hrest]

theorem Alike.foldl_walk {ps ps' : List (Node × Node)} (fields : List String)
    (h : List.Forall₂ (fun a b => Commented src src' a.1 b.1 ∧ Commented src src' a.2 b.2) ps ps')
    {c c' : Collector} (halike : Alike 0 c c') :
    Alike 0 (ps.foldl (fun c q => c.walk src fields (some q.1) q.2) c)
      (ps'.foldl (fun c q => c.walk src' fields (some q.1) q.2) c') := by
  induction h generalizing c c' with
  | nil => exact halike
  | cons hq _ ih => exact ih (halike.walk (.some hq.1) hq.2 fields)

theorem Body.unplaced_ofNodes {ps ps' : List (Node × Node)} (fields : List String)
    (h : List.Forall₂ (fun a b => Commented src src' a.1 b.1 ∧ Commented src src' a.2 b.2) ps ps') :
    (Body.ofNodes src' fields ps').unplaced = (Body.ofNodes src fields ps).unplaced := by
  have hdecisions : ∀ d : Decisions, ps'.foldl (fun d q => d.add q.2.decisions) d =
      ps.foldl (fun d q => d.add q.2.decisions) d := by
    induction h with
    | nil => exact fun _ => rfl
    | cons hq _ ih => exact fun d => by rw [List.foldl_cons, List.foldl_cons, hq.2.decisions_eq, ih]
  have hwalks := Alike.foldl_walk fields h (Alike.refl {})
  obtain ⟨_, hrest⟩ := Body.mk.inj hwalks.body
  simp only [Body.ofNodes, Body.unplaced, hdecisions, hrest]

end JavaMetrics

import Mathlib.Data.List.Forall2
import JavaMetrics.Facts.Extract

/-!
Comments in syntax trees. A tree gains comments when comment nodes are put among the children of its
nodes. What is written as a type, a name or a path keeps its text, so that no comment stands inside one
of these. What is found by role or by category is found as before; only the place of a child can
change.
-/

set_option autoImplicit false

namespace JavaMetrics

/-- The second list is the first one, item by item related by `R`, with items of `P` put in. -/
inductive Interspersed {α : Type} (R : α → α → Prop) (P : α → Prop) : List α → List α → Prop
  | nil : Interspersed R P [] []
  | keep {a b : α} {xs ys : List α} (h : R a b) (rest : Interspersed R P xs ys) :
      Interspersed R P (a :: xs) (b :: ys)
  | extra {b : α} {xs ys : List α} (h : P b) (rest : Interspersed R P xs ys) :
      Interspersed R P xs (b :: ys)

namespace Interspersed

variable {α β : Type} {R : α → α → Prop} {P : α → Prop} {xs ys : List α}

theorem imp {R' : α → α → Prop} (hR : ∀ a b, R a b → R' a b) (h : Interspersed R P xs ys) :
    Interspersed R' P xs ys := by
  induction h with
  | nil => exact .nil
  | keep hr _ ih => exact .keep (hR _ _ hr) ih
  | extra hp _ ih => exact .extra hp ih

theorem append {xs' ys' : List α} (h : Interspersed R P xs ys) (h' : Interspersed R P xs' ys') :
    Interspersed R P (xs ++ xs') (ys ++ ys') := by
  induction h with
  | nil => exact h'
  | keep hr _ ih => exact .keep hr ih
  | extra hp _ ih => exact .extra hp ih

theorem filter {p : α → Bool} (hp : ∀ a b, R a b → p b = p a) (h : Interspersed R P xs ys) :
    Interspersed R P (xs.filter p) (ys.filter p) := by
  induction h with
  | nil => exact .nil
  | @keep a b xs ys hr _ ih =>
    rw [List.filter_cons, List.filter_cons, hp a b hr]
    split
    · exact .keep hr ih
    · exact ih
  | @extra b xs ys hb _ ih =>
    rw [List.filter_cons]
    split
    · exact .extra hb ih
    · exact ih

theorem flatMap {f : α → List α} (hf : ∀ a b, R a b → Interspersed R P (f a) (f b))
    (hextra : ∀ b, P b → Interspersed R P [] (f b)) (h : Interspersed R P xs ys) :
    Interspersed R P (xs.flatMap f) (ys.flatMap f) := by
  induction h with
  | nil => exact .nil
  | @keep a b xs ys hr _ ih => exact (hf a b hr).append ih
  | @extra b xs ys hb _ ih => exact (hextra b hb).append ih

section Dropped

variable {p : α → Bool} (hp : ∀ a b, R a b → p b = p a) (hextra : ∀ b, P b → p b = false)
include hp hextra

theorem forall₂_filter (h : Interspersed R P xs ys) :
    List.Forall₂ (fun a b => R a b ∧ p a = true) (xs.filter p) (ys.filter p) := by
  induction h with
  | nil => exact .nil
  | @keep a b xs ys hr _ ih =>
    rw [List.filter_cons, List.filter_cons, hp a b hr]
    split
    · rename_i ha
      exact .cons ⟨hr, ha⟩ ih
    · exact ih
  | @extra b xs ys hb _ ih =>
    rw [List.filter_cons, hextra b hb]
    exact ih

theorem find?_rel (h : Interspersed R P xs ys) :
    Option.Rel (fun a b => R a b ∧ p a = true) (xs.find? p) (ys.find? p) := by
  induction h with
  | nil => exact .none
  | @keep a b xs ys hr _ ih =>
    rw [List.find?_cons, List.find?_cons, hp a b hr]
    cases ha : p a with
    | true => exact .some ⟨hr, ha⟩
    | false => exact ih
  | @extra b xs ys hb _ ih =>
    rw [List.find?_cons, hextra b hb]
    exact ih

theorem any_eq (h : Interspersed R P xs ys) : ys.any p = xs.any p := by
  induction h with
  | nil => rfl
  | @keep a b xs ys hr _ ih => rw [List.any_cons, List.any_cons, hp a b hr, ih]
  | @extra b xs ys hb _ ih => rw [List.any_cons, hextra b hb, ih, Bool.false_or]

end Dropped

theorem flatMap_eq {f f' : α → List β} (hf : ∀ a b, R a b → f' b = f a)
    (hextra : ∀ b, P b → f' b = []) (h : Interspersed R P xs ys) :
    ys.flatMap f' = xs.flatMap f := by
  induction h with
  | nil => rfl
  | @keep a b xs ys hr _ ih => rw [List.flatMap_cons, List.flatMap_cons, hf a b hr, ih]
  | @extra b xs ys hb _ ih => rw [List.flatMap_cons, hextra b hb, ih, List.nil_append]

theorem forall₂_flatMap {S : β → β → Prop} {f : α → List β}
    (hf : ∀ a b, R a b → List.Forall₂ S (f a) (f b)) (hextra : ∀ b, P b → f b = [])
    (h : Interspersed R P xs ys) : List.Forall₂ S (xs.flatMap f) (ys.flatMap f) := by
  induction h with
  | nil => exact .nil
  | @keep a b xs ys hr _ ih =>
    rw [List.flatMap_cons, List.flatMap_cons]
    exact List.rel_append (hf a b hr) ih
  | @extra b xs ys hb _ ih => rwa [List.flatMap_cons, hextra b hb]

theorem head?_rel (hfirst : ∀ b ∈ ys.head?, ¬ P b) (h : Interspersed R P xs ys) :
    Option.Rel R xs.head? ys.head? := by
  cases h with
  | nil => exact .none
  | keep hr _ => exact .some hr
  | extra hp _ => exact absurd hp (hfirst _ rfl)

theorem map_eq {f f' : α → β} (hf : ∀ a b, R a b → f' b = f a) (hnone : ∀ b ∈ ys, ¬ P b)
    (h : Interspersed R P xs ys) : ys.map f' = xs.map f := by
  induction h with
  | nil => rfl
  | @keep a b xs ys hr _ ih =>
    rw [List.map_cons, List.map_cons, hf a b hr, ih fun c hc => hnone c (List.mem_cons_of_mem b hc)]
  | @extra b xs ys hb _ _ => exact absurd hb (hnone b List.mem_cons_self)

theorem filterMap_eq {f f' : α → Option β} (hf : ∀ a b, R a b → f' b = f a)
    (hextra : ∀ b, P b → f' b = none) (h : Interspersed R P xs ys) :
    ys.filterMap f' = xs.filterMap f := by
  induction h with
  | nil => rfl
  | @keep a b xs ys hr _ ih => rw [List.filterMap_cons, List.filterMap_cons, hf a b hr, ih]
  | @extra b xs ys hb _ ih => rw [List.filterMap_cons, hextra b hb, ih]

theorem foldl_eq {f f' : β → α → β} (hf : ∀ s a b, R a b → f' s b = f s a)
    (hextra : ∀ s b, P b → f' s b = s) (h : Interspersed R P xs ys) (s : β) :
    ys.foldl f' s = xs.foldl f s := by
  induction h generalizing s with
  | nil => rfl
  | @keep a b xs ys hr _ ih => rw [List.foldl_cons, List.foldl_cons, hf s a b hr, ih]
  | @extra b xs ys hb _ ih => rw [List.foldl_cons, hextra s b hb, ih]

end Interspersed

theorem map_eq_of_forall₂ {α β : Type} {R : α → α → Prop} {f f' : α → β} {xs ys : List α}
    (hf : ∀ a b, R a b → f' b = f a) (h : List.Forall₂ R xs ys) : ys.map f' = xs.map f := by
  induction h with
  | nil => rfl
  | @cons a b xs ys hr _ ih => rw [List.map_cons, List.map_cons, hf a b hr, ih]

theorem filterMap_eq_of_forall₂ {α β : Type} {R : α → α → Prop} {f f' : α → Option β}
    {xs ys : List α} (hf : ∀ a b, R a b → f' b = f a) (h : List.Forall₂ R xs ys) :
    ys.filterMap f' = xs.filterMap f := by
  have hmap := congrArg (List.filterMap id) (map_eq_of_forall₂ hf h)
  simpa only [List.filterMap_map, Function.id_comp] using hmap

theorem find?_of_forall₂ {α : Type} {R : α → α → Prop} {p p' : α → Bool} {xs ys : List α}
    (hp : ∀ a b, R a b → p' b = p a) (h : List.Forall₂ R xs ys) :
    Option.Rel R (xs.find? p) (ys.find? p') := by
  induction h with
  | nil => exact .none
  | @cons a b xs ys hr _ ih =>
    rw [List.find?_cons, List.find?_cons, hp a b hr]
    cases p a with
    | true => exact .some hr
    | false => exact ih

theorem head?_of_forall₂ {α : Type} {R : α → α → Prop} {xs ys : List α} (h : List.Forall₂ R xs ys) :
    Option.Rel R xs.head? ys.head? := by
  cases h with
  | nil => exact .none
  | cons hr _ => exact .some hr

theorem rel_cases {α : Type} {R : α → α → Prop} {o o' : Option α} (h : Option.Rel R o o') :
    (o = none ∧ o' = none) ∨ ∃ a b, o = some a ∧ o' = some b ∧ R a b := by
  cases h with
  | none => exact .inl ⟨rfl, rfl⟩
  | some h => exact .inr ⟨_, _, rfl, rfl, h⟩

theorem map_eq_of_rel {α β : Type} {R : α → α → Prop} {f f' : α → β} {o o' : Option α}
    (hf : ∀ a b, R a b → f' b = f a) (h : Option.Rel R o o') : o'.map f' = o.map f := by
  cases h with
  | none => rfl
  | @some a b hab => rw [Option.map_some, Option.map_some, hf a b hab]

theorem bind_eq_of_rel {α β : Type} {R : α → α → Prop} {f f' : α → Option β} {o o' : Option α}
    (hf : ∀ a b, R a b → f' b = f a) (h : Option.Rel R o o') : o'.bind f' = o.bind f := by
  cases h with
  | none => rfl
  | @some a b hab => exact hf a b hab

structure Node.IsComment (c : Node) : Prop where
  kind : c.kind.isComment = true
  role : c.role = none
  leaf : c.children = []

def Node.isWritten (n : Node) : Bool :=
  n.kind.isType || n.isNamePath ||
    n.role == some .name || n.role == some .type || n.role == some .member

namespace Kind

def listsTypes : Kind → Bool
  | superclass | typeList | catchType => true
  | _ => false

/-- Whether a comment can follow the given children. No node starts with a comment; it matters where a
child is read for its place: the first one of a switch label, the first named one of a method
reference and of a list of caught types. -/
def admitsComment (k : Kind) (before : List Node) : Bool :=
  match k with
  | switchLabel => !before.isEmpty
  | methodReference | catchType => before.any (·.kind.isNamed)
  | _ => true

end Kind

mutual

/-- The second tree is the first one with comments put in, each read from its own source. -/
inductive Commented (src src' : Text.Source) : Node → Node → Prop
  | mk {k : Kind} {r : Option Field} {s e s' e' : Nat} {cs cs' : List Node}
      (text : (Node.mk k r s e cs).isWritten = true → src'.text s' e' = src.text s e)
      (children : CommentedAll src src' k [] cs cs') :
      Commented src src' (.mk k r s e cs) (.mk k r s' e' cs')

inductive CommentedAll (src src' : Text.Source) :
    Kind → List Node → List Node → List Node → Prop
  | nil {k : Kind} {before : List Node} : CommentedAll src src' k before [] []
  | keep {k : Kind} {before ns ns' : List Node} {n n' : Node} (node : Commented src src' n n')
      (text : k.listsTypes = true → src'.textOf n' = src.textOf n)
      (rest : CommentedAll src src' k (before ++ [n]) ns ns') :
      CommentedAll src src' k before (n :: ns) (n' :: ns')
  | comment {k : Kind} {before ns ns' : List Node} {c : Node} (isComment : c.IsComment)
      (admitted : k.admitsComment before = true) (rest : CommentedAll src src' k before ns ns') :
      CommentedAll src src' k before ns (c :: ns')

end

variable {src src' : Text.Source}

theorem CommentedAll.interspersed_texts {k : Kind} {before cs cs' : List Node}
    (h : CommentedAll src src' k before cs cs') :
    Interspersed (fun a b => Commented src src' a b ∧
      (k.listsTypes = true → src'.textOf b = src.textOf a)) Node.IsComment cs cs' := by
  induction cs' generalizing cs before with
  | nil =>
    cases h
    exact .nil
  | cons c rest ih =>
    cases h with
    | keep node text tail => exact .keep ⟨node, text⟩ (ih tail)
    | comment hc _ tail => exact .extra hc (ih tail)

theorem CommentedAll.interspersed {k : Kind} {before cs cs' : List Node}
    (h : CommentedAll src src' k before cs cs') :
    Interspersed (Commented src src') Node.IsComment cs cs' :=
  h.interspersed_texts.imp fun _ _ hab => hab.1

theorem Node.IsComment.kind_cases {c : Node} (h : c.IsComment) :
    c.kind = .lineComment ∨ c.kind = .blockComment := by
  have hk := h.kind
  unfold Kind.isComment at hk
  split at hk
  · exact .inl ‹_›
  · exact .inr ‹_›
  · cases hk

theorem Node.IsComment.test_eq_false {p : Kind → Bool} (hl : p .lineComment = false)
    (hb : p .blockComment = false) {c : Node} (h : c.IsComment) : p c.kind = false := by
  rcases h.kind_cases with hk | hk <;> simp [hk, hl, hb]

theorem Node.IsComment.role_ne {c : Node} (h : c.IsComment) (f : Field) :
    (c.role == some f) = false := by
  simp [h.role]

namespace Commented

variable {n n' : Node}

theorem kind_eq (h : Commented src src' n n') : n'.kind = n.kind := by
  cases h
  rfl

theorem role_eq (h : Commented src src' n n') : n'.role = n.role := by
  cases h
  rfl

theorem text_eq (h : Commented src src' n n') (hw : n.isWritten = true) :
    src'.textOf n' = src.textOf n := by
  cases h with
  | mk text _ => exact text hw

theorem all (h : Commented src src' n n') :
    CommentedAll src src' n.kind [] n.children n'.children := by
  cases h with
  | mk _ children => exact children

theorem children (h : Commented src src' n n') :
    Interspersed (Commented src src') Node.IsComment n.children n'.children :=
  h.all.interspersed

theorem namedChildren (h : Commented src src' n n') :
    Interspersed (Commented src src') Node.IsComment n.namedChildren n'.namedChildren :=
  h.children.filter fun a b hab => by rw [hab.kind_eq]

end Commented

section Categories

variable {p : Kind → Bool} (hl : p .lineComment = false) (hb : p .blockComment = false)
  {cs cs' : List Node} (h : Interspersed (Commented src src') Node.IsComment cs cs')
include hl hb h

theorem Interspersed.filter_kind :
    List.Forall₂ (fun a b => Commented src src' a b ∧ p a.kind = true)
      (cs.filter (p ·.kind)) (cs'.filter (p ·.kind)) :=
  h.forall₂_filter (fun a b hab => by rw [hab.kind_eq]) (fun c hc => hc.test_eq_false hl hb)

theorem Interspersed.find?_kind :
    Option.Rel (fun a b => Commented src src' a b ∧ p a.kind = true)
      (cs.find? (p ·.kind)) (cs'.find? (p ·.kind)) :=
  h.find?_rel (fun a b hab => by rw [hab.kind_eq]) (fun c hc => hc.test_eq_false hl hb)

theorem Interspersed.any_kind : cs'.any (p ·.kind) = cs.any (p ·.kind) :=
  h.any_eq (fun a b hab => by rw [hab.kind_eq]) (fun c hc => hc.test_eq_false hl hb)

end Categories

namespace Commented

variable {n n' : Node}

theorem listedTypes (hk : n.kind.listsTypes = true) (h : Commented src src' n n') :
    Interspersed (fun a b => src'.textOf b = src.textOf a) Node.IsComment n.namedChildren
      n'.namedChildren :=
  (h.all.interspersed_texts.filter fun a b hab => by rw [hab.1.kind_eq]).imp
    fun _ _ hab => hab.2 hk

theorem child? (h : Commented src src' n n') (f : Field) :
    (n.child? f = none ∧ n'.child? f = none) ∨ ∃ a b, n.child? f = some a ∧ n'.child? f = some b ∧
      Commented src src' a b ∧ a.role = some f := by
  have hrel := h.children.find?_rel (p := (·.role == some f))
    (fun a b hab => by rw [hab.role_eq]) (fun b hb => hb.role_ne f)
  rcases rel_cases hrel with hnone | ⟨a, b, ha, hb, hab, hrole⟩
  · exact .inl hnone
  · exact .inr ⟨a, b, ha, hb, hab, by simpa using hrole⟩

theorem child?_rel (h : Commented src src' n n') (f : Field) :
    Option.Rel (Commented src src') (n.child? f) (n'.child? f) := by
  rcases h.child? f with ⟨ha, hb⟩ | ⟨a, b, ha, hb, hab, -⟩
  · rw [ha, hb]
    exact .none
  · rw [ha, hb]
    exact .some hab

theorem inRole (h : Commented src src' n n') (f : Field) :
    List.Forall₂ (fun a b => Commented src src' a b ∧ (a.role == some f) = true)
      (n.inRole f) (n'.inRole f) :=
  h.children.forall₂_filter (fun a b hab => by rw [hab.role_eq]) (fun b hb => hb.role_ne f)

theorem roleText_eq (h : Commented src src' n n') {f : Field}
    (hf : f = .name ∨ f = .type ∨ f = .member) : n'.roleText src' f = n.roleText src f := by
  rcases h.child? f with ⟨ha, hb⟩ | ⟨a, b, ha, hb, hab, hrole⟩
  · simp [Node.roleText, ha, hb]
  · have hw : a.isWritten = true := by rcases hf with rfl | rfl | rfl <;> simp [Node.isWritten, hrole]
    simp [Node.roleText, ha, hb, hab.text_eq hw]

end Commented

mutual

theorem Commented.isNamePath_eq {n n' : Node} : Commented src src' n n' → n'.isNamePath = n.isNamePath
  | .mk _ hcs => by
    have hpath := CommentedAll.objectIsPath_eq hcs
    have hmember := hcs.interspersed.find?_rel (p := (·.role == some Field.member))
      (fun a b hab => by rw [hab.role_eq]) (fun b hb => hb.role_ne .member)
    simp only [Node.isNamePath, hpath]
    rcases rel_cases hmember with ⟨ha, hb⟩ | ⟨a, b, ha, hb, hab, -⟩
    · simp only [ha, hb]
    · simp only [ha, hb, Option.any_some, hab.kind_eq]

theorem CommentedAll.objectIsPath_eq {k : Kind} {before cs cs' : List Node} :
    CommentedAll src src' k before cs cs' → Node.objectIsPath cs' = Node.objectIsPath cs
  | .nil => rfl
  | .keep hn _ hrest => by
    have hpath := Commented.isNamePath_eq hn
    have htail := CommentedAll.objectIsPath_eq hrest
    simp only [Node.objectIsPath, hn.role_eq, hpath, htail]
  | .comment hc _ hrest => by
    have htail := CommentedAll.objectIsPath_eq hrest
    simp [Node.objectIsPath, hc.role, htail]

end

mutual

theorem Commented.preorder {n n' : Node} : Commented src src' n n' →
    Interspersed (Commented src src') Node.IsComment n.preorder n'.preorder
  | .mk htext hcs => .keep (.mk htext hcs) (CommentedAll.preorderAll hcs)

theorem CommentedAll.preorderAll {k : Kind} {before cs cs' : List Node} :
    CommentedAll src src' k before cs cs' →
    Interspersed (Commented src src') Node.IsComment (Node.preorderAll cs) (Node.preorderAll cs')
  | .nil => .nil
  | .keep hn _ hrest => (Commented.preorder hn).append (CommentedAll.preorderAll hrest)
  | .comment (c := c) hc _ hrest => by
    have htail := CommentedAll.preorderAll hrest
    obtain ⟨k, r, s, e, cs⟩ := c
    have hleaf : cs = [] := hc.leaf
    subst hleaf
    exact .extra hc htail

end

theorem CommentedAll.head?_kind {before cs cs' : List Node}
    (h : CommentedAll src src' .switchLabel before cs cs') (hfirst : before = []) :
    cs'.head?.map Node.kind = cs.head?.map Node.kind := by
  cases h with
  | nil => rfl
  | keep hn _ _ => exact congrArg some hn.kind_eq
  | comment _ hadmitted _ => simp [hfirst, Kind.admitsComment] at hadmitted

theorem Commented.decision_eq {n n' : Node} (h : Commented src src' n n') :
    n'.decision = n.decision := by
  unfold Node.decision
  rw [h.kind_eq]
  split <;> try rfl
  -- Only a switch label looks at its first child, and that is no comment.
  rename_i hk
  have hall := h.all
  rw [hk] at hall
  have hhead := hall.head?_kind rfl
  have hany : ∀ o : Option Node, o.any (·.kind == .defaultKeyword) =
      (o.map Node.kind).any (· == .defaultKeyword) := by
    intro o
    cases o <;> rfl
  rw [hany, hany, hhead]

theorem Commented.decisions_eq {n n' : Node} (h : Commented src src' n n') :
    n'.decisions = n.decisions := by
  refine h.preorder.foldl_eq ?_ ?_ ({} : Decisions)
  · intro d a b hab
    rw [hab.decision_eq]
  · intro d b hb
    have hnone : b.decision = {} := by
      unfold Node.decision
      rcases hb.kind_cases with hk | hk <;> simp [hk]
    rw [hnone]
    rfl

end JavaMetrics

import JavaMetrics.Proofs.Dependencies
import JavaMetrics.Proofs.Resolution

/-!
The dependencies of a class are determined by the set of its written references. Under each name stands
the resolved reference if there is one, and otherwise the ambiguous one: a file has only one
ambiguous reference of a name, because the name in its own package gives back the name as written.
-/

set_option autoImplicit false

namespace JavaMetrics

namespace Resolver

theorem qualify_inj (r : Resolver) {m n : String} (h : r.qualify m = r.qualify n) : m = n := by
  unfold qualify at h
  split at h
  · exact (String.append_right_inj _).1 h
  · exact h

theorem eq_of_ambiguous {r : Resolver} {raw raw' : String} {t t' : TypeRef}
    (ht : r.resolve raw = some t) (ht' : r.resolve raw' = some t') (ha : t.isAmbiguous = true)
    (ha' : t'.isAmbiguous = true) (hp : t.primary = t'.primary) : t = t' := by
  cases t with
  | resolved n => cases ha
  | ambiguous s cs =>
    cases t' with
    | resolved n => cases ha'
    | ambiguous s' cs' =>
      obtain ⟨-, -, -, -, -, rfl⟩ := (resolve_eq_ambiguous_iff raw s cs).1 ht
      obtain ⟨-, -, -, -, -, rfl⟩ := (resolve_eq_ambiguous_iff raw' s' cs').1 ht'
      have hs : s = s' := r.qualify_inj hp
      rw [hs]

theorem primary_ne_member {r : Resolver} {raw : String} {t : TypeRef} (ht : r.resolve raw = some t)
    (rest : String) : t.primary ≠ r.selfName ++ "." ++ rest := by
  obtain ⟨-, -, -, -, hself⟩ := (resolve_eq_some_iff raw t).1 ht
  intro he
  have hfront : Text.startsWith t.primary (r.selfName ++ ".") = true := by
    rw [Text.startsWith, List.isPrefixOf_iff_prefix, he, String.toList_append (t := rest)]
    exact List.prefix_append _ _
  simp [isSelf, hfront] at hself

end Resolver

def HoldsResolved (targets : Dict TypeRef) (p : String) : Prop :=
  ∃ s, targets.get? p = some s ∧ s.isAmbiguous = false

theorem HoldsResolved.addTarget {targets : Dict TypeRef} {p : String} (h : HoldsResolved targets p)
    (t : TypeRef) : HoldsResolved (addTarget targets t) p := by
  obtain ⟨s, hs, hres⟩ := h
  rcases addTarget_cases targets t with ⟨he, -⟩ | ⟨he, hold⟩
  · rw [he]
    exact ⟨s, hs, hres⟩
  · have hne : p ≠ t.primary := by
      rintro rfl
      have hamb := (hold s hs).1
      rw [hres] at hamb
      cases hamb
    refine ⟨s, ?_, hres⟩
    rw [he, Dict.get?_insert, if_neg hne, hs]

theorem holdsResolved_addTarget (targets : Dict TypeRef) {t : TypeRef} (ht : t.isAmbiguous = false) :
    HoldsResolved (addTarget targets t) t.primary := by
  rcases addTarget_cases targets t with ⟨he, old, hold, hkind⟩ | ⟨he, -⟩
  · have hres : old.isAmbiguous = false := hkind.resolve_right (by simp [ht])
    rw [he]
    exact ⟨old, hold, hres⟩
  · refine ⟨t, ?_, ht⟩
    rw [he, Dict.get?_insert, if_pos rfl]

theorem holdsResolved_foldl (ts : List TypeRef) {targets : Dict TypeRef} {p : String}
    (h : HoldsResolved targets p ∨ ∃ t ∈ ts, t.isAmbiguous = false ∧ t.primary = p) :
    HoldsResolved (ts.foldl addTarget targets) p := by
  induction ts generalizing targets with
  | nil => simpa using h
  | cons t rest ih =>
    apply ih
    rcases h with h | ⟨s, hs, hres, rfl⟩
    · exact .inl (h.addTarget t)
    · rcases List.mem_cons.1 hs with rfl | hs
      · exact .inl (holdsResolved_addTarget targets hres)
      · exact .inr ⟨s, hs, hres, rfl⟩

theorem TypeRef.eq_resolved {t : TypeRef} (h : t.isAmbiguous = false) : t = .resolved t.primary := by
  cases t with
  | resolved n => rfl
  | ambiguous s cs => cases h

theorem get?_collectTargets_resolved {ts : List TypeRef} {p : String} (h : .resolved p ∈ ts) :
    (collectTargets ts).get? p = some (.resolved p) := by
  obtain ⟨s, hs, hres⟩ : HoldsResolved (collectTargets ts) p :=
    holdsResolved_foldl ts (.inr ⟨_, h, rfl, rfl⟩)
  have hp : s.primary = p := keyed_collectTargets ts p s hs
  rw [hs, TypeRef.eq_resolved hres, hp]

theorem mem_values_keyed {targets : Dict TypeRef} (h : Keyed targets) (t : TypeRef) :
    t ∈ targets.values ↔ targets.get? t.primary = some t := by
  rw [Dict.mem_values]
  constructor
  · rintro ⟨k, hk⟩
    rwa [h k t hk]
  · intro ht
    exact ⟨_, ht⟩

/-- What is kept of a list that has one ambiguous target for a name. -/
theorem mem_collected_iff {ts : List TypeRef}
    (hone : ∀ s ∈ ts, ∀ t ∈ ts, s.isAmbiguous = true → t.isAmbiguous = true →
      s.primary = t.primary → s = t) (t : TypeRef) :
    t ∈ (collectTargets ts).values ↔
      t ∈ ts ∧ (t.isAmbiguous = true → .resolved t.primary ∉ ts) := by
  have hkeyed := keyed_collectTargets ts
  constructor
  · intro ht
    refine ⟨mem_of_collected ht, fun hamb hres => ?_⟩
    have hget := (mem_values_keyed hkeyed t).1 ht
    rw [get?_collectTargets_resolved hres] at hget
    rw [← Option.some.inj hget] at hamb
    cases hamb
  · rintro ⟨ht, hno⟩
    rw [mem_values_keyed hkeyed]
    cases hamb : t.isAmbiguous with
    | false =>
      have heq := TypeRef.eq_resolved hamb
      rw [heq] at ht
      rw [get?_collectTargets_resolved ht, ← heq]
    | true =>
      obtain ⟨s, hs, hp⟩ := exists_collected ht
      have hsmem : s ∈ ts := mem_of_collected hs
      have hsamb : s.isAmbiguous = true := by
        by_contra hres
        have heq := TypeRef.eq_resolved (by simpa using hres)
        rw [heq, hp] at hsmem
        exact hno hamb hsmem
      have hst : s = t := hone s hsmem t ht hsamb hamb hp
      rw [← hst]
      exact (mem_values_keyed hkeyed s).1 hs

theorem pairwise_values_keyed {targets : Dict TypeRef} (h : Keyed targets) :
    targets.values.Pairwise fun s t => s.primary < t.primary := by
  have hkey : ∀ x ∈ targets.entries, x.2.primary = x.1 := by
    intro x hx
    exact h x.1 x.2 ((targets.get?_eq_some_iff x.1 x.2).2 hx)
  rw [Dict.values, List.pairwise_map]
  refine targets.ascending.imp_of_mem ?_
  intro a b ha hb hlt
  rw [hkey a ha, hkey b hb]
  exact hlt

namespace ClassFacts

/-- What a class refers to in writing. -/
inductive Refers (u : ClassFacts) : String → Prop
  | imported {i : Import} (h : i ∈ u.imports) (hs : i.isStatic = false) (hw : i.isWildcard = false) :
      Refers u i.path
  | superclass {raw : String} (h : u.superclass = some raw) : Refers u raw
  | interface {raw : String} (h : raw ∈ u.interfaces) : Refers u raw
  | field {f : FieldDecl} (h : f ∈ u.fields) : Refers u f.typeName
  | returned {m : Method} {raw : String} (h : m ∈ u.methods) (ht : m.returnType = some raw) :
      Refers u raw
  | methodParameter {m : Method} {p : Parameter} (h : m ∈ u.methods) (hp : p ∈ m.parameters) :
      Refers u p.typeName
  | constructorParameter {m : Method} {p : Parameter} (h : m ∈ u.constructors)
      (hp : p ∈ m.parameters) : Refers u p.typeName
  | created {b : Body} {raw : String} (h : b ∈ u.bodies) (ht : raw ∈ b.instantiations) :
      Refers u raw
  | cast {b : Body} {raw : String} (h : b ∈ u.bodies) (ht : raw ∈ b.casts) : Refers u raw
  | called {m : Method} {c : Call} {raw : String} (h : m ∈ u.callables) (hc : c ∈ m.body.calls)
      (ht : u.receiverType (some m) c.receiver = some raw) : Refers u raw
  | initialCall {c : Call} {raw : String} (hc : c ∈ u.initializers.calls)
      (ht : u.receiverType none c.receiver = some raw) : Refers u raw

variable {u : ClassFacts}

theorem mem_calledTypes {m : Option Method} {b : Body} {raw : String} :
    raw ∈ u.calledTypes m b ↔ ∃ c ∈ b.calls, u.receiverType m c.receiver = some raw :=
  List.mem_filterMap

theorem mem_references_of_refers {raw : String} (h : u.Refers raw) : raw ∈ u.references := by
  simp only [references, List.mem_append, List.mem_flatMap, mem_calledTypes]
  cases h with
  | imported h hs hw =>
    have hi := List.mem_map_of_mem (f := (·.path))
      (List.mem_filter.2 ⟨h, show Import.isSingle _ = true by simp [Import.isSingle, hs, hw]⟩)
    simp only [hi, true_or]
  | superclass h => simp [h]
  | interface h => simp only [h, true_or, or_true]
  | field h => simp only [List.mem_map_of_mem (f := (·.typeName)) h, true_or, or_true]
  | @returned m _ h ht =>
    have hr : ∃ m ∈ u.methods, raw ∈ m.returnType.toList ∨ raw ∈ m.parameters.map (·.typeName) :=
      ⟨m, h, .inl (by simp [ht])⟩
    simp only [hr, true_or, or_true]
  | @methodParameter m p h hp =>
    have hr : ∃ m ∈ u.methods,
        p.typeName ∈ m.returnType.toList ∨ p.typeName ∈ m.parameters.map (·.typeName) :=
      ⟨m, h, .inr (List.mem_map_of_mem hp)⟩
    simp only [hr, true_or, or_true]
  | @constructorParameter m p h hp =>
    have hr : ∃ m ∈ u.constructors, p.typeName ∈ m.parameters.map (·.typeName) :=
      ⟨m, h, List.mem_map_of_mem hp⟩
    simp only [hr, true_or, or_true]
  | @created b _ h ht =>
    have hr : ∃ b ∈ u.bodies, raw ∈ b.instantiations := ⟨b, h, ht⟩
    simp only [hr, true_or, or_true]
  | @cast b _ h ht =>
    have hr : ∃ b ∈ u.bodies, raw ∈ b.casts := ⟨b, h, ht⟩
    simp only [hr, true_or, or_true]
  | @called m c _ h hc ht =>
    have hr : ∃ m ∈ u.callables, ∃ c ∈ m.body.calls, u.receiverType (some m) c.receiver = some raw :=
      ⟨m, h, c, hc, ht⟩
    simp only [hr, true_or, or_true]
  | @initialCall c _ hc ht =>
    have hr : ∃ c ∈ u.initializers.calls, u.receiverType none c.receiver = some raw := ⟨c, hc, ht⟩
    simp only [hr, or_true]

theorem refers_of_mem_references {raw : String} (h : raw ∈ u.references) : u.Refers raw := by
  simp only [references, List.mem_append, List.mem_flatMap, mem_calledTypes, List.mem_map,
    List.mem_filter, Option.mem_toList, or_assoc] at h
  rcases h with ⟨i, ⟨hi, hsingle⟩, rfl⟩ | h | h | ⟨f, hf, rfl⟩ | ⟨m, hm, hsig⟩ | ⟨m, hm, p, hp, rfl⟩ |
    ⟨b, hb, ht⟩ | ⟨b, hb, ht⟩ | ⟨m, hm, c, hc, ht⟩ | ⟨c, hc, ht⟩
  · simp only [Import.isSingle, Bool.and_eq_true, Bool.not_eq_true'] at hsingle
    exact .imported hi hsingle.1 hsingle.2
  · exact .superclass h
  · exact .interface h
  · exact .field hf
  · rcases hsig with ht | ⟨p, hp, rfl⟩
    · exact .returned hm ht
    · exact .methodParameter hm hp
  · exact .constructorParameter hm hp
  · exact .created hb ht
  · exact .cast hb ht
  · exact .called hm hc ht
  · exact .initialCall hc ht

def RefersTo (u : ClassFacts) (t : TypeRef) : Prop := ∃ raw, u.Refers raw ∧ u.resolve raw = some t

theorem refersTo_iff (u : ClassFacts) (t : TypeRef) :
    u.RefersTo t ↔ t ∈ u.references.filterMap (Resolver.ofFacts u).resolve := by
  rw [List.mem_filterMap]
  constructor
  · rintro ⟨raw, hraw, ht⟩
    exact ⟨raw, mem_references_of_refers hraw, ht⟩
  · rintro ⟨raw, hraw, ht⟩
    exact ⟨raw, refers_of_mem_references hraw, ht⟩

theorem mem_dependencies (u : ClassFacts) (d : Dependency) :
    d ∈ u.dependencies ↔ d.source = u.qualifiedName ∧ u.RefersTo d.target ∧
      (d.target.isAmbiguous = true → ¬ u.RefersTo (.resolved d.target.primary)) := by
  have hone : ∀ s ∈ u.references.filterMap (Resolver.ofFacts u).resolve,
      ∀ t ∈ u.references.filterMap (Resolver.ofFacts u).resolve,
      s.isAmbiguous = true → t.isAmbiguous = true → s.primary = t.primary → s = t := by
    intro s hs t ht hsa hta hp
    obtain ⟨raw, -, hs⟩ := List.mem_filterMap.1 hs
    obtain ⟨raw', -, ht⟩ := List.mem_filterMap.1 ht
    exact Resolver.eq_of_ambiguous hs ht hsa hta hp
  obtain ⟨source, target⟩ := d
  have hvalues := mem_collected_iff hone target
  simp only [← refersTo_iff] at hvalues
  simp only [dependencies, List.mem_map, Dependency.mk.injEq]
  constructor
  · rintro ⟨t, ht, rfl, rfl⟩
    exact ⟨rfl, hvalues.1 ht⟩
  · rintro ⟨rfl, ht⟩
    exact ⟨target, hvalues.2 ht, rfl, rfl⟩

theorem pairwise_dependencies (u : ClassFacts) :
    u.dependencies.Pairwise fun d e => d.target.primary < e.target.primary := by
  rw [dependencies, List.pairwise_map]
  exact pairwise_values_keyed (keyed_collectTargets _)

theorem mem_targets (u : ClassFacts) (p : String) :
    p ∈ u.dependencies.map (·.target.primary) ↔ ∃ t, u.RefersTo t ∧ t.primary = p := by
  rw [List.mem_map]
  constructor
  · rintro ⟨d, hd, rfl⟩
    exact ⟨d.target, ((u.mem_dependencies d).1 hd).2.1, rfl⟩
  · rintro ⟨t, ⟨raw, hraw, ht⟩, rfl⟩
    exact exists_dependency (mem_references_of_refers hraw) ht

/-- The dependencies depend on nothing but what is referred to. -/
theorem dependencies_of_refersTo {u v : ClassFacts} (hname : v.qualifiedName = u.qualifiedName)
    (hto : ∀ t, v.RefersTo t ↔ u.RefersTo t) : v.dependencies = u.dependencies := by
  apply eq_of_ascending (·.target.primary) v.pairwise_dependencies u.pairwise_dependencies
  intro d
  simp only [mem_dependencies, hto, hname]

theorem dependencies_congr {u v : ClassFacts} (hr : Resolver.ofFacts v = Resolver.ofFacts u)
    (h : ∀ raw, v.Refers raw ↔ u.Refers raw) : v.dependencies = u.dependencies := by
  apply dependencies_of_refersTo (congrArg Resolver.selfName hr)
  intro t
  simp only [RefersTo, h, resolve, hr]

/-- The dependencies of a class stand in ascending order of their names, one for each name that a
written reference has; none leads to the class itself or into it. -/
theorem dependencies_exact (u : ClassFacts) :
    u.dependencies.Pairwise (fun d e => d.target.primary < e.target.primary) ∧
    (∀ p, p ∈ u.dependencies.map (·.target.primary) ↔ ∃ t, u.RefersTo t ∧ t.primary = p) ∧
    (∀ d ∈ u.dependencies, d.source = u.qualifiedName ∧ d.target.primary ≠ u.qualifiedName ∧
      (∀ rest, d.target.primary ≠ u.qualifiedName ++ "." ++ rest) ∧
      (u.RefersTo (.resolved d.target.primary) → d.target = .resolved d.target.primary) ∧
      (¬ u.RefersTo (.resolved d.target.primary) →
        d.target.isAmbiguous = true ∧ u.RefersTo d.target)) ∧
    (∀ raw raw' t t', u.resolve raw = some t → u.resolve raw' = some t' → t.isAmbiguous = true →
      t'.isAmbiguous = true → t.primary = t'.primary → t = t') ∧
    ∀ v : ClassFacts, Resolver.ofFacts v = Resolver.ofFacts u →
      (∀ raw, v.Refers raw ↔ u.Refers raw) → v.dependencies = u.dependencies := by
  refine ⟨u.pairwise_dependencies, u.mem_targets, ?_, ?_, fun v => dependencies_congr⟩
  · intro d hd
    obtain ⟨hsource, hto, hamb⟩ := (u.mem_dependencies d).1 hd
    have ⟨_, _, ht⟩ := hto
    refine ⟨hsource, Resolver.primary_ne_selfName ht, Resolver.primary_ne_member ht, ?_, ?_⟩
    · intro hres
      cases hkind : d.target.isAmbiguous with
      | false => exact TypeRef.eq_resolved hkind
      | true => exact absurd hres (hamb hkind)
    · intro hres
      refine ⟨?_, hto⟩
      by_contra hkind
      have heq : d.target = .resolved d.target.primary :=
        TypeRef.eq_resolved (by simpa using hkind)
      exact hres (by rwa [← heq])
  · intro raw raw' t t' ht ht' ha ha' hp
    exact Resolver.eq_of_ambiguous ht ht' ha ha' hp

namespace Sample

def shop : ClassFacts where
  path := "Shop.java"
  package := some "shop"
  name := "Shop"
  imports := [⟨"other", false, true, 1⟩]
  fields := [⟨"first", "Item", 2⟩, ⟨"second", "shop.Item", 3⟩, ⟨"cart", "Cart<Item>", 4⟩]

def shopAgain : ClassFacts := { shop with
  superclass := some "Cart<Item>"
  fields := [⟨"second", "shop.Item", 2⟩, ⟨"third", "shop.Item", 3⟩, ⟨"first", "Item", 4⟩] }

theorem resolve_item : shop.resolve "Item" =
    some (.ambiguous "Item" ["shop.Item", "other.Item"]) := by
  decide +kernel

theorem resolve_shop_item : shop.resolve "shop.Item" = some (.resolved "shop.Item") := by
  decide +kernel

theorem references_shopAgain (raw : String) : shopAgain.Refers raw ↔ shop.Refers raw := by
  have hshop : shop.references = ["Item", "shop.Item", "Cart<Item>"] := by decide
  have hagain : shopAgain.references = ["Cart<Item>", "shop.Item", "shop.Item", "Item"] := by decide
  have hmem : raw ∈ shopAgain.references ↔ raw ∈ shop.references := by
    simp only [hshop, hagain, List.mem_cons, List.not_mem_nil, or_false]
    tauto
  exact ⟨fun h => refers_of_mem_references (hmem.1 (mem_references_of_refers h)),
    fun h => refers_of_mem_references (hmem.2 (mem_references_of_refers h))⟩

end Sample

theorem dependencies_exact_shop :
    Sample.shop.resolve "Item" = some (.ambiguous "Item" ["shop.Item", "other.Item"]) ∧
    ⟨"shop.Shop", .resolved "shop.Item"⟩ ∈ Sample.shop.dependencies ∧
    Sample.shopAgain.dependencies = Sample.shop.dependencies := by
  obtain ⟨-, htargets, heach, -, hset⟩ := dependencies_exact Sample.shop
  have hto : Sample.shop.RefersTo (.resolved "shop.Item") :=
    ⟨"shop.Item", .field (f := ⟨"second", "shop.Item", 3⟩) (by decide), Sample.resolve_shop_item⟩
  obtain ⟨d, hd, hp⟩ := List.mem_map.1 ((htargets "shop.Item").2 ⟨_, hto, rfl⟩)
  obtain ⟨hsource, -, -, hkept, -⟩ := heach d hd
  have htarget : d.target = .resolved "shop.Item" := hp ▸ hkept (hp ▸ hto)
  refine ⟨Sample.resolve_item, ?_, hset _ rfl Sample.references_shopAgain⟩
  obtain ⟨source, target⟩ := d
  cases hsource
  cases htarget
  exact hd

end ClassFacts

end JavaMetrics

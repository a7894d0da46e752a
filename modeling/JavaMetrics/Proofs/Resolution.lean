import Mathlib.Data.List.Nodup
import JavaMetrics.TypeName.Resolve

set_option autoImplicit false

namespace JavaMetrics.Resolver

section OnDemand

variable (package : Option String)

theorem mem_add_onDemand (ps : List String) (q p : String) :
    p ∈ (if some q == package || ps.contains q then ps else ps ++ [q]) ↔
      p ∈ ps ∨ package ≠ some p ∧ q = p := by
  by_cases hold : q ∈ ps
  · rw [if_pos (by simp [hold])]
    refine ⟨.inl, ?_⟩
    rintro (h | ⟨-, rfl⟩)
    · exact h
    · exact hold
  · by_cases hown : package = some q
    · rw [if_pos (by simp [hown])]
      refine ⟨.inl, ?_⟩
      rintro (h | ⟨hp, rfl⟩)
      · exact h
      · exact absurd hown hp
    · rw [if_neg (by simp [hold, Ne.symm hown]), List.mem_append, List.mem_singleton]
      refine or_congr_right ⟨?_, fun h => h.2.symm⟩
      rintro rfl
      exact ⟨hown, rfl⟩

theorem nodup_add_onDemand {ps : List String} (h : ps.Nodup) (q : String) :
    (if some q == package || ps.contains q then ps else ps ++ [q]).Nodup := by
  split
  · exact h
  · rename_i hq
    have hnew : q ∉ ps := fun hm => hq (by simp [hm])
    rw [← List.concat_eq_append]
    exact h.concat hnew

theorem mem_foldl_onDemand (imports : List Import) (ps : List String) (p : String) :
    p ∈ imports.foldl (fun ps i =>
        if some i.path == package || ps.contains i.path then ps else ps ++ [i.path]) ps ↔
      p ∈ ps ∨ package ≠ some p ∧ ∃ i ∈ imports, i.path = p := by
  induction imports generalizing ps with
  | nil => simp
  | cons i rest ih =>
    rw [List.foldl_cons, ih, mem_add_onDemand, or_assoc, ← and_or_left, List.exists_mem_cons_iff]

theorem nodup_foldl_onDemand (imports : List Import) {ps : List String} (h : ps.Nodup) :
    (imports.foldl (fun ps i =>
      if some i.path == package || ps.contains i.path then ps else ps ++ [i.path]) ps).Nodup := by
  induction imports generalizing ps with
  | nil => exact h
  | cons i rest ih => exact ih (nodup_add_onDemand package h i.path)

end OnDemand

theorem mem_onDemand (u : ClassFacts) (p : String) :
    p ∈ (ofFacts u).onDemand ↔ (ofFacts u).package ≠ some p ∧
      ∃ i ∈ u.imports, i.isStatic = false ∧ i.isWildcard = true ∧ i.path = p := by
  simp only [ofFacts, mem_foldl_onDemand, List.not_mem_nil, false_or, List.mem_filter,
    Bool.not_eq_true', and_assoc]

structure Apart (r : Resolver) : Prop where
  nodup : r.onDemand.Nodup
  foreign : ∀ p ∈ r.onDemand, r.package ≠ some p

theorem apart_ofFacts (u : ClassFacts) : (ofFacts u).Apart where
  nodup := nodup_foldl_onDemand _ _ List.nodup_nil
  foreign := fun p hp => ((mem_onDemand u p).1 hp).1

variable (r : Resolver)

def candidatesOf (name : String) : List String :=
  r.qualify name :: r.onDemand.map (· ++ "." ++ name)

theorem qualify_append (name rest : String) : r.qualify (name ++ rest) = r.qualify name ++ rest := by
  unfold qualify
  split
  · rw [String.append_assoc, String.append_assoc, String.append_assoc]
  · rfl

theorem candidatesOf_append (name rest : String) :
    r.candidatesOf (name ++ rest) = (r.candidatesOf name).map (· ++ rest) := by
  simp only [candidatesOf, qualify_append, List.map_cons, List.map_map, List.cons.injEq, true_and]
  refine List.map_congr_left fun p _ => ?_
  exact String.append_assoc.symm

theorem ne_append_dot (p name : String) : name ≠ p ++ "." ++ name := by
  intro h
  have hl := congrArg String.length h
  rw [String.length_append, String.length_append] at hl
  have hdot : ".".length = 1 := rfl
  omega

theorem append_dot_inj {p q name : String} (h : p ++ "." ++ name = q ++ "." ++ name) : p = q :=
  (String.append_left_inj _).1 ((String.append_left_inj _).1 h)

variable {r}

theorem nodup_candidatesOf (h : r.Apart) (name : String) : (r.candidatesOf name).Nodup := by
  refine List.nodup_cons.2 ⟨?_, h.nodup.map fun p q => append_dot_inj⟩
  rw [List.mem_map]
  rintro ⟨p, hp, he⟩
  -- Without a package of its own the file has the shorter name; otherwise the packages are equal.
  cases hpackage : r.package with
  | none =>
    rw [qualify, hpackage] at he
    exact ne_append_dot p name he.symm
  | some own =>
    rw [qualify, hpackage] at he
    exact h.foreign p hp (by rw [hpackage, append_dot_inj he])

/-- The file itself says nothing about a simple name. -/
def leavesOpen (r : Resolver) (name : String) : Bool :=
  !r.typeParameters.contains name && name != r.className && !r.nested.contains name &&
    (r.explicit.get? name).isNone && !TypeName.isImplicit name

theorem leavesOpen_iff (name : String) :
    r.leavesOpen name = true ↔ name ∉ r.typeParameters ∧ name ≠ r.className ∧ name ∉ r.nested ∧
      r.explicit.get? name = none ∧ TypeName.isImplicit name = false := by
  simp only [leavesOpen, Bool.and_eq_true, Bool.not_eq_true', bne_iff_ne, ← Bool.not_eq_true,
    List.contains_iff_mem, Option.isNone_iff_eq_none, and_assoc]

theorem resolveSimple_of_open {name : String} (h : r.leavesOpen name = true)
    (hd : r.onDemand ≠ []) :
    r.resolveSimple name = some (.ambiguous name (r.candidatesOf name)) := by
  obtain ⟨hparam, hclass, hnested, hexplicit, himplicit⟩ := (leavesOpen_iff name).1 h
  simp [resolveSimple, candidatesOf, hparam, hclass, hnested, hexplicit, himplicit, hd]

theorem resolveSimple_eq_ambiguous {name s : String} {cs : List String}
    (h : r.resolveSimple name = some (.ambiguous s cs)) :
    r.leavesOpen name = true ∧ r.onDemand ≠ [] ∧ s = name ∧ cs = r.candidatesOf name := by
  unfold resolveSimple at h
  split at h
  · cases h
  rename_i hparam
  split at h
  · cases h
  rename_i hclass
  split at h
  · cases h
  rename_i hnested
  split at h
  · cases h
  rename_i hexplicit
  split at h
  · cases h
  rename_i himplicit
  split at h
  · cases h
  rename_i hd
  cases h
  refine ⟨(leavesOpen_iff name).2 ⟨?_, ?_, ?_, hexplicit, ?_⟩, by simpa using hd, rfl, rfl⟩
  · simpa using hparam
  · simpa using hclass
  · simpa using hnested
  · simpa using himplicit

theorem drop_length_takeWhile (p : Char → Bool) (cs : List Char) :
    cs.drop (cs.takeWhile p).length = cs.dropWhile p := by
  have h : (cs.takeWhile p ++ cs.dropWhile p).drop (cs.takeWhile p).length = cs.dropWhile p :=
    List.drop_left
  rwa [List.takeWhile_append_dropWhile] at h

theorem splitHead_cases (name : String) :
    splitHead name = (name, none) ∨
      ∃ head rest, splitHead name = (head, some rest) ∧ name = head ++ "." ++ rest := by
  unfold splitHead
  simp only [drop_length_takeWhile]
  split
  · rename_i c rest hrest
    have hdot : c = '.' := by
      have h := List.head?_dropWhile_not (· != '.') name.toList
      rw [hrest] at h
      simpa using h
    refine .inr ⟨_, _, rfl, String.ext ?_⟩
    have h := List.takeWhile_append_dropWhile (p := (· != '.')) (l := name.toList)
    rw [hrest, hdot] at h
    simpa using h.symm
  · exact .inl rfl

/-- A name whose head is open, written with a capital letter if more follows. -/
def leavesNameOpen (r : Resolver) (name : String) : Bool :=
  r.leavesOpen (splitHead name).1 &&
    ((splitHead name).2.isNone || TypeName.startsUpper (splitHead name).1)

theorem resolveName_of_open {name : String} (h : r.leavesNameOpen name = true)
    (hd : r.onDemand ≠ []) :
    r.resolveName name = some (.ambiguous name (r.candidatesOf name)) := by
  rw [leavesNameOpen, Bool.and_eq_true, Bool.or_eq_true] at h
  rcases splitHead_cases name with hs | ⟨head, rest, hs, rfl⟩
  · rw [hs] at h
    rw [resolveName, hs]
    exact resolveSimple_of_open h.1 hd
  · rw [hs] at h
    have hupper : TypeName.startsUpper head = true := by simpa using h.2
    rw [resolveName, hs]
    simp only [hupper, if_true, resolveSimple_of_open h.1 hd, Option.map_some, TypeRef.member]
    rw [String.append_assoc, candidatesOf_append]
    simp only [String.append_assoc]

theorem resolveName_eq_ambiguous {name s : String} {cs : List String}
    (h : r.resolveName name = some (.ambiguous s cs)) :
    r.leavesNameOpen name = true ∧ r.onDemand ≠ [] ∧ s = name ∧ cs = r.candidatesOf name := by
  rcases splitHead_cases name with hs | ⟨head, rest, hs, hname⟩
  · rw [resolveName, hs] at h
    obtain ⟨hopen, hd, hname, hcs⟩ := resolveSimple_eq_ambiguous h
    refine ⟨?_, hd, hname, hcs⟩
    simp [leavesNameOpen, hs, hopen]
  · rw [resolveName, hs] at h
    simp only at h
    split at h
    · rename_i hupper
      obtain ⟨t, ht, hm⟩ := Option.map_eq_some_iff.1 h
      cases t with
      | resolved n => cases hm
      | ambiguous s' cs' =>
        -- The head is ambiguous, and what follows it is appended to each of its candidates.
        obtain ⟨hopen, hd, rfl, rfl⟩ := resolveSimple_eq_ambiguous ht
        cases hm
        refine ⟨by simp [leavesNameOpen, hs, hopen, hupper], hd, hname.symm, ?_⟩
        rw [hname, String.append_assoc, candidatesOf_append]
        simp only [String.append_assoc]
    · split at h <;> cases h

theorem resolveName_eq_ambiguous_iff (name s : String) (cs : List String) :
    r.resolveName name = some (.ambiguous s cs) ↔
      r.leavesNameOpen name = true ∧ r.onDemand ≠ [] ∧ s = name ∧ cs = r.candidatesOf name := by
  refine ⟨resolveName_eq_ambiguous, ?_⟩
  rintro ⟨hopen, hd, rfl, rfl⟩
  exact resolveName_of_open hopen hd

theorem resolve_eq_some_iff (raw : String) (t : TypeRef) :
    r.resolve raw = some t ↔
      ∃ name, TypeName.normalize raw = some name ∧ TypeName.isPrimitive name = false ∧
        r.resolveName name = some t ∧ r.isSelf t.primary = false := by
  unfold resolve
  cases TypeName.normalize raw with
  | none => simp
  | some name => cases hp : TypeName.isPrimitive name <;> simp [hp, Option.filter_eq_some_iff]

/-- A reference is ambiguous if its name is open and, in the own package, is not the class itself. -/
theorem resolve_eq_ambiguous_iff (raw s : String) (cs : List String) :
    r.resolve raw = some (.ambiguous s cs) ↔
      TypeName.normalize raw = some s ∧ TypeName.isPrimitive s = false ∧
        r.leavesNameOpen s = true ∧ r.onDemand ≠ [] ∧ r.isSelf (r.qualify s) = false ∧
        cs = r.candidatesOf s := by
  simp only [resolve_eq_some_iff, resolveName_eq_ambiguous_iff]
  constructor
  · rintro ⟨name, hn, hp, ⟨hopen, hd, rfl, rfl⟩, hself⟩
    exact ⟨hn, hp, hopen, hd, hself, rfl⟩
  · rintro ⟨hn, hp, hopen, hd, hself, rfl⟩
    exact ⟨s, hn, hp, ⟨hopen, hd, rfl, rfl⟩, hself⟩

theorem nodup_candidates_of_resolve (h : r.Apart) {raw : String} {t : TypeRef}
    (ht : r.resolve raw = some t) : t.candidates.Nodup := by
  cases t with
  | resolved n => exact List.nodup_singleton n
  | ambiguous s cs =>
    obtain ⟨-, -, -, -, -, rfl⟩ := (resolve_eq_ambiguous_iff raw s cs).1 ht
    exact nodup_candidatesOf h s

theorem primary_ne_selfName {raw : String} {t : TypeRef} (ht : r.resolve raw = some t) :
    t.primary ≠ r.selfName := by
  obtain ⟨-, -, -, -, hself⟩ := (resolve_eq_some_iff raw t).1 ht
  rintro he
  simp [isSelf, he] at hself

theorem candidates_of_onDemand_nil (hd : r.onDemand = []) {raw : String} {t : TypeRef}
    (ht : r.resolve raw = some t) : t.candidates = [t.primary] := by
  cases t with
  | resolved n => rfl
  | ambiguous s cs =>
    obtain ⟨-, -, -, hne, -⟩ := (resolve_eq_ambiguous_iff raw s cs).1 ht
    exact absurd hd hne

end JavaMetrics.Resolver

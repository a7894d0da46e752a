import Mathlib.Data.List.TakeWhile
import JavaMetrics.Proofs.Dict
import JavaMetrics.Proofs.Resolution

/-!
Imported names and members of named types. A type that is imported by name is what its simple name refers to,
and a name behind a dot is a member of what the name before it refers to. Neither law holds for the boxed
types: their simple names are dropped before the imports are looked at, and the names of their
members are not.
-/

set_option autoImplicit false

namespace JavaMetrics

namespace TypeName

/-- What a part of a dotted name is made of: nothing that a written type sets apart. -/
def isWordChar (c : Char) : Bool :=
  !(c == '.' || c == '<' || c == '>' || c == '@' || c == '[' || c == ']' || Text.isBlank c)

def isWord (w : String) : Bool := !w.toList.isEmpty && w.toList.all isWordChar

structure IsDotted (cs : List Char) : Prop where
  chars : ∀ c ∈ cs, isWordChar c = true ∨ c = '.'
  head : ∃ c rest, cs = c :: rest ∧ isWordChar c = true
  last : ∃ front c, cs = front ++ [c] ∧ isWordChar c = true

theorem isDotted_of_isWord {w : String} (h : isWord w = true) : IsDotted w.toList := by
  simp only [isWord, Bool.and_eq_true, Bool.not_eq_true', List.isEmpty_eq_false_iff,
    List.all_eq_true] at h
  obtain ⟨hne, hall⟩ := h
  refine ⟨fun c hc => .inl (hall c hc), ?_, ?_⟩
  · obtain ⟨c, rest, hcs⟩ := List.exists_cons_of_ne_nil hne
    exact ⟨c, rest, hcs, hall c (by simp [hcs])⟩
  · refine ⟨w.toList.dropLast, w.toList.getLast hne, ?_, hall _ (List.getLast_mem hne)⟩
    exact (List.dropLast_append_getLast hne).symm

theorem IsDotted.append {cs ds : List Char} (hc : IsDotted cs) (hd : IsDotted ds) :
    IsDotted (cs ++ '.' :: ds) := by
  obtain ⟨c, rest, hcs, hhead⟩ := hc.head
  obtain ⟨front, d, hds, hlast⟩ := hd.last
  refine ⟨?_, ⟨c, rest ++ '.' :: ds, by simp [hcs], hhead⟩,
    ⟨cs ++ '.' :: front, d, by simp [hds], hlast⟩⟩
  intro e he
  rcases List.mem_append.1 he with he | he
  · exact hc.chars e he
  · rcases List.mem_cons.1 he with rfl | he
    · exact .inr rfl
    · exact hd.chars e he

theorem isDotted_intercalate {ws : List String} (hne : ws ≠ []) (h : ∀ w ∈ ws, isWord w = true) :
    IsDotted (".".intercalate ws).toList := by
  induction ws with
  | nil => exact absurd rfl hne
  | cons w ws ih =>
    have hw := isDotted_of_isWord (h w List.mem_cons_self)
    cases ws with
    | nil => simpa using hw
    | cons x ws =>
      have hrest := ih (List.cons_ne_nil x ws) fun y hy => h y (List.mem_cons_of_mem w hy)
      rw [String.intercalate_cons_cons, String.toList_append, String.toList_append]
      simpa using hw.append hrest

theorem bare_of_chars {cs : List Char} (h : ∀ c ∈ cs, isWordChar c = true ∨ c = '.') :
    bare 0 cs = cs := by
  induction cs with
  | nil => rw [bare]
  | cons c cs ih =>
    have hrest := ih fun d hd => h d (List.mem_cons_of_mem c hd)
    have hc := h c List.mem_cons_self
    have hdot : Text.isBlank '.' = false := by decide
    rw [bare, hrest]
    rcases hc with hc | rfl
    · simp_all [isWordChar]
    · simp [hdot]

theorem trimDots_of_isDotted {cs : List Char} (h : IsDotted cs) : trimDots cs = cs := by
  have hdot : isWordChar '.' = false := by decide
  have hword : ∀ c, isWordChar c = true → (c == '.') = false := by
    intro c hc
    rw [beq_eq_false_iff_ne]
    rintro rfl
    simp [hdot] at hc
  obtain ⟨front, d, hlast, hd⟩ := h.last
  obtain ⟨c, rest, hhead, hc⟩ := h.head
  have hback : (cs.reverse.dropWhile (· == '.')).reverse = cs := by
    rw [hlast, List.reverse_append, List.reverse_singleton, List.singleton_append,
      List.dropWhile_cons_of_neg (by simp [hword d hd])]
    simp
  rw [trimDots, hback, hhead, List.dropWhile_cons_of_neg (by simp [hword c hc])]

theorem normalize_of_isDotted {s : String} (h : IsDotted s.toList) : normalize s = some s := by
  obtain ⟨c, rest, hcs, -⟩ := h.head
  have hne : s.toList.isEmpty = false := by simp [hcs]
  rw [normalize, bare_of_chars h.chars, trimDots_of_isDotted h]
  simp only [hne, Bool.false_eq_true, if_false, String.ofList_toList]

theorem not_mem_dot {w : String} (h : isWord w = true) : '.' ∉ w.toList := by
  intro hmem
  simp only [isWord, Bool.and_eq_true, List.all_eq_true] at h
  exact absurd (h.2 '.' hmem) (by decide)

theorem withoutJavaLang_of_isWord {w : String} (h : isWord w = true) : withoutJavaLang w = w := by
  have hown : Text.startsWith w javaLang = false := by
    rw [← Bool.not_eq_true]
    intro hstarts
    have hfront := List.isPrefixOf_iff_prefix.1 hstarts
    exact not_mem_dot h (hfront.subset (by decide))
  simp [withoutJavaLang, hown]

theorem isPrimitive_of_isWord {w : String} (h : isWord w = true) :
    isPrimitive w = true ↔ w ∈ primitives := by
  simp [isPrimitive, withoutJavaLang_of_isWord h]

theorem isImplicit_of_isWord {w : String} (h : isWord w = true) :
    isImplicit w = true ↔ w ∈ implicits := by
  simp [isImplicit, withoutJavaLang_of_isWord h]

theorem isPrimitive_member {head : String} (hupper : startsUpper head = true) (rest : String) :
    isPrimitive (head ++ "." ++ rest) = false := by
  obtain ⟨c, hc, hc'⟩ := (Option.any_eq_true _ _).1 hupper
  obtain ⟨cs, hcs⟩ := List.head?_eq_some_iff.1 hc
  have hown : Text.startsWith (head ++ "." ++ rest) javaLang = false := by
    rw [← Bool.not_eq_true]
    intro hstarts
    obtain ⟨tail, htail⟩ := List.isPrefixOf_iff_prefix.1 hstarts
    have hj : 'j' = c := by simpa [javaLang, hcs] using congrArg List.head? htail
    rw [← hj] at hc'
    exact absurd hc' (by decide)
  have hnone : ∀ p ∈ primitives, '.' ∉ p.toList := by decide
  have hmember : head ++ "." ++ rest ∉ primitives := by
    intro hmem
    exact hnone _ hmem (by simp)
  simp [isPrimitive, withoutJavaLang, hown, hmember]

end TypeName

theorem TypeName.ne_dot {w : String} (h : isWord w = true) : ∀ c ∈ w.toList, (c != '.') = true := by
  intro c hc
  rw [bne_iff_ne]
  rintro rfl
  exact not_mem_dot h hc

theorem lastSegment_of_isWord {s : String} (h : TypeName.isWord s = true) : lastSegment s = s := by
  have hword := TypeName.ne_dot h
  have hall : s.toList.reverse.takeWhile (· != '.') = s.toList.reverse :=
    List.takeWhile_eq_self_iff.2 fun c hc => hword c (List.mem_reverse.1 hc)
  rw [lastSegment, Text.afterLast, hall, List.reverse_reverse, String.ofList_toList]

theorem lastSegment_append (a b : String) : lastSegment (a ++ "." ++ b) = lastSegment b := by
  have htext : (a ++ "." ++ b).toList.reverse = b.toList.reverse ++ '.' :: a.toList.reverse := by simp
  have hstop : (b.toList.reverse ++ '.' :: a.toList.reverse).takeWhile (· != '.') =
      b.toList.reverse.takeWhile (· != '.') := by
    rw [List.takeWhile_append]
    split
    · rename_i hall
      rw [(List.takeWhile_prefix _).eq_of_length hall]
      simp
    · rfl
  rw [lastSegment, lastSegment, Text.afterLast, Text.afterLast, htext, hstop]

theorem lastSegment_intercalate (front : List String) {s : String} (h : TypeName.isWord s = true) :
    lastSegment (".".intercalate (front ++ [s])) = s := by
  induction front with
  | nil => simpa using lastSegment_of_isWord h
  | cons w front ih =>
    cases front with
    | nil =>
      rw [List.cons_append, List.nil_append, String.intercalate_cons_cons, lastSegment_append]
      exact ih
    | cons x front =>
      rw [List.cons_append, List.cons_append, String.intercalate_cons_cons, lastSegment_append]
      exact ih

namespace TypeRef

theorem primary_member (t : TypeRef) (rest : String) :
    (t.member rest).primary = t.primary ++ "." ++ rest := by
  cases t with
  | resolved n => rfl
  | ambiguous s cs => cases cs <;> rfl

end TypeRef

namespace Resolver

variable (r : Resolver)

theorem splitHead_of_isWord {w : String} (h : TypeName.isWord w = true) :
    splitHead w = (w, none) := by
  rcases splitHead_cases w with hs | ⟨head, rest, -, rfl⟩
  · exact hs
  · exact absurd (by simp) (TypeName.not_mem_dot h)

theorem splitHead_member {head : String} (h : TypeName.isWord head = true) (rest : String) :
    splitHead (head ++ "." ++ rest) = (head, some rest) := by
  have htext : (head ++ "." ++ rest).toList = head.toList ++ '.' :: rest.toList := by simp
  rw [splitHead, htext, List.takeWhile_append_of_pos (TypeName.ne_dot h)]
  simp

theorem isSelf_member {name : String} (h : r.isSelf name = true) (rest : String) :
    r.isSelf (name ++ "." ++ rest) = true := by
  simp only [isSelf, Bool.or_eq_true, beq_iff_eq, Text.startsWith, List.isPrefixOf_iff_prefix] at h ⊢
  right
  rcases h with rfl | h
  · simp
  · refine h.trans ?_
    simp

variable {r}

theorem resolveSimple_of_explicit {name path : String} (hparam : name ∉ r.typeParameters)
    (hclass : name ≠ r.className) (hnested : name ∉ r.nested)
    (h : r.explicit.get? name = some path) : r.resolveSimple name = some (.resolved path) := by
  simp [resolveSimple, hparam, hclass, hnested, h]

theorem resolve_of_word {raw s : String} (hs : TypeName.isWord s = true)
    (hraw : TypeName.normalize raw = some s) :
    r.resolve raw = if s ∈ TypeName.primitives then none
      else (r.resolveSimple s).filter fun t => !r.isSelf t.primary := by
  simp only [resolve, hraw, TypeName.isPrimitive_of_isWord hs, resolveName, splitHead_of_isWord hs]

theorem resolve_of_member {head : String} {rest : List String} (hhead : TypeName.isWord head = true)
    (hupper : TypeName.startsUpper head = true) (hne : rest ≠ [])
    (hrest : ∀ w ∈ rest, TypeName.isWord w = true) :
    r.resolve (head ++ "." ++ ".".intercalate rest) =
      ((r.resolveSimple head).map (·.member (".".intercalate rest))).filter
        fun t => !r.isSelf t.primary := by
  have hdotted : TypeName.IsDotted (head ++ "." ++ ".".intercalate rest).toList := by
    simpa using (TypeName.isDotted_of_isWord hhead).append (TypeName.isDotted_intercalate hne hrest)
  simp only [resolve, TypeName.normalize_of_isDotted hdotted, TypeName.isPrimitive_member hupper,
    resolveName, splitHead_member hhead, hupper, if_true, Bool.false_eq_true, if_false]

theorem filter_member (t : Option TypeRef) (rest : String) :
    ((t.filter fun t => !r.isSelf t.primary).map (·.member rest)).filter
        (fun t => !r.isSelf t.primary) =
      (t.map (·.member rest)).filter fun t => !r.isSelf t.primary := by
  cases t with
  | none => rfl
  | some t =>
    by_cases hself : r.isSelf t.primary = true
    · have hmember := r.isSelf_member hself rest
      simp [Option.filter, hself, TypeRef.primary_member, hmember]
    · simp [Option.filter, hself]

theorem explicit_ofFacts (u : ClassFacts) : (ofFacts u).explicit =
    .ofList ((u.imports.filter (·.isSingle)).map fun i => (i.simpleName, i.path)) := by
  simp only [ofFacts, List.filter_filter]
  refine congrArg (fun js : List Import => Dict.ofList (js.map fun i => (i.simpleName, i.path))) ?_
  refine List.filter_congr fun j _ => ?_
  rw [Import.isSingle, Bool.and_comm]

theorem exists_import {u : ClassFacts} {name path : String}
    (h : (ofFacts u).explicit.get? name = some path) :
    ∃ i ∈ u.imports, i.isSingle = true ∧ i.simpleName = name ∧ i.path = path := by
  rw [explicit_ofFacts] at h
  obtain ⟨i, hi, he⟩ := List.mem_map.1 (Dict.mem_of_get?_ofList h)
  rw [List.mem_filter] at hi
  rw [Prod.mk.injEq] at he
  exact ⟨i, hi.1, hi.2, he⟩

theorem get?_explicit {u : ClassFacts} {before after : List Import} {i : Import}
    (himports : u.imports = before ++ i :: after) (hsingle : i.isSingle = true)
    (hlater : ∀ j ∈ after, j.isSingle = true → j.simpleName ≠ i.simpleName) :
    (ofFacts u).explicit.get? i.simpleName = some i.path := by
  rw [explicit_ofFacts, himports, List.filter_append, List.filter_cons_of_pos hsingle, List.map_append,
    List.map_cons]
  refine Dict.get?_ofList_last _ ?_ i.path
  rw [List.map_map, List.mem_map]
  rintro ⟨j, hj, hname⟩
  rw [List.mem_filter] at hj
  exact hlater j hj.1 hj.2 hname

end Resolver

namespace ClassFacts

theorem resolve_word (u : ClassFacts) {s : String} (hs : TypeName.isWord s = true) :
    u.resolve s = if s ∈ TypeName.primitives then none
      else ((Resolver.ofFacts u).resolveSimple s).filter
        fun t => !(Resolver.ofFacts u).isSelf t.primary :=
  Resolver.resolve_of_word hs (TypeName.normalize_of_isDotted (TypeName.isDotted_of_isWord hs))

/-- A type that is imported by name is what its simple name refers to, unless the name is that of a
primitive or boxed type: such a name refers to nothing, whatever is imported. -/
theorem resolve_imported {u : ClassFacts} {before after : List Import} {i : Import}
    (himports : u.imports = before ++ i :: after) (hsingle : i.isSingle = true)
    {front : List String} {s : String} (hpath : i.path = ".".intercalate (front ++ [s]))
    (hword : TypeName.isWord s = true)
    (hlater : ∀ j ∈ after, j.isSingle = true → j.simpleName ≠ s) (hparam : s ∉ u.typeParameters)
    (hclass : s ≠ u.name) (hnested : s ∉ u.nestedTypes)
    (hforeign : i.path ≠ u.qualifiedName ∧
      Text.startsWith i.path (u.qualifiedName ++ ".") = false)
    {raw : String} (hraw : TypeName.normalize raw = some s) :
    u.resolve raw = if s ∈ TypeName.primitives then none else some (.resolved i.path) := by
  have hsimple : i.simpleName = s := by
    rw [Import.simpleName, hpath, lastSegment_intercalate front hword]
  have hexplicit : (Resolver.ofFacts u).explicit.get? s = some i.path := by
    rw [← hsimple]
    exact Resolver.get?_explicit himports hsingle (by rwa [hsimple])
  have hself : (Resolver.ofFacts u).isSelf i.path = false := by
    rw [Resolver.isSelf, Bool.or_eq_false_iff, beq_eq_false_iff_ne]
    exact hforeign
  rw [ClassFacts.resolve, Resolver.resolve_of_word hword hraw,
    Resolver.resolveSimple_of_explicit hparam hclass hnested hexplicit]
  simp [Option.filter, TypeRef.primary, hself]

namespace Sample

def textImport : Import where
  path := "com.acme.text.String"
  isStatic := false
  isWildcard := false
  line := 3

def numberImport : Import := { textImport with path := "com.acme.Integer" }

def namesakes : ClassFacts where
  path := "Shop.java"
  package := some "com.acme.shop"
  name := "Shop"
  imports := [textImport, numberImport]

end Sample

theorem resolve_imported_array :
    TypeName.normalize "String[]" = some "String" ∧
    Sample.namesakes.resolve "String[]" = some (.resolved "com.acme.text.String") := by
  have himports : Sample.namesakes.imports = [] ++ Sample.textImport :: [Sample.numberImport] := rfl
  have hpath : Sample.textImport.path =
      ".".intercalate (["com", "acme", "text"] ++ ["String"]) := by decide
  have hraw : TypeName.normalize "String[]" = some "String" := by decide +kernel
  refine ⟨hraw, ?_⟩
  have hresolve := resolve_imported himports (by decide) hpath (by decide) (by decide) (by decide)
    (by decide) (by decide) (by decide) hraw
  rw [hresolve, if_neg (by decide)]
  rfl

theorem not_resolve_imported : ¬ ∀ (u : ClassFacts) (before after : List Import) (i : Import)
    (front : List String) (s raw : String), u.imports = before ++ i :: after →
      i.isSingle = true → i.path = ".".intercalate (front ++ [s]) →
      (∀ w ∈ front ++ [s], TypeName.isWord w = true) →
      (∀ j ∈ after, j.isSingle = true → j.simpleName ≠ s) → s ∉ u.typeParameters → s ≠ u.name →
      s ∉ u.nestedTypes → i.path ≠ u.qualifiedName →
      Text.startsWith i.path (u.qualifiedName ++ ".") = false →
      TypeName.normalize raw = some s → u.resolve raw = some (.resolved i.path) := by
  intro h
  have hword : TypeName.isWord "Integer" = true := by decide
  have hraw := TypeName.normalize_of_isDotted (TypeName.isDotted_of_isWord hword)
  have hfound := h Sample.namesakes [Sample.textImport] [] Sample.numberImport ["com", "acme"] "Integer"
    "Integer" rfl (by decide) (by decide) (by decide) (by decide) (by decide) (by decide) (by decide)
    (by decide) (by decide) hraw
  rw [resolve_word _ hword, if_pos (by decide)] at hfound
  cases hfound

/-- The member of a type is the member of what the type's name refers to, and is dropped with the class
itself. The name of a boxed type refers to nothing, but its members are named as those of any other
type. -/
theorem resolve_member (u : ClassFacts) {head : String} {rest : List String}
    (hhead : TypeName.isWord head = true) (hupper : TypeName.startsUpper head = true)
    (hne : rest ≠ []) (hrest : ∀ w ∈ rest, TypeName.isWord w = true) :
    let r := Resolver.ofFacts u
    let inner := ".".intercalate rest
    let outside : TypeRef → Bool := fun t => !r.isSelf t.primary
    (head ∉ TypeName.primitives →
      u.resolve (head ++ "." ++ inner) = ((u.resolve head).map (·.member inner)).filter outside) ∧
    (head ∈ TypeName.primitives → u.resolve head = none ∧
      u.resolve (head ++ "." ++ inner) =
        ((r.resolveSimple head).map (·.member inner)).filter outside) := by
  intro r inner outside
  have hwhole : u.resolve (head ++ "." ++ inner) =
      ((r.resolveSimple head).map (·.member inner)).filter outside :=
    Resolver.resolve_of_member hhead hupper hne hrest
  constructor
  · intro hplain
    have hresolve : u.resolve head = (r.resolveSimple head).filter outside := by
      rw [u.resolve_word hhead, if_neg hplain]
    rw [hwhole, hresolve, Resolver.filter_member]
  · intro hboxed
    refine ⟨?_, hwhole⟩
    rw [u.resolve_word hhead, if_pos hboxed]

theorem resolve_member_length :
    Sample.namesakes.resolve "String.Length" = some (.resolved "com.acme.text.String.Length") := by
  have hname : "String" ++ "." ++ ".".intercalate ["Length"] = "String.Length" := by decide
  have hresolve := (resolve_member Sample.namesakes (by decide) (by decide)
    (List.cons_ne_nil "Length" []) (by decide)).1 (show "String" ∉ TypeName.primitives by decide)
  have hhead : Sample.namesakes.resolve "String" = some (.resolved "com.acme.text.String") := by
    rw [resolve_word _ (by decide)]
    decide
  rw [← hname, hresolve, hhead]
  decide

/-- A boxed type refers to nothing, a member of it to a type of the own package. -/
theorem not_resolve_member : ¬ ∀ (u : ClassFacts) (head : String) (rest : List String),
    TypeName.isWord head = true → TypeName.startsUpper head = true → rest ≠ [] →
      (∀ w ∈ rest, TypeName.isWord w = true) →
      u.resolve (head ++ "." ++ ".".intercalate rest) =
        ((u.resolve head).map (·.member (".".intercalate rest))).filter
          fun t => !(Resolver.ofFacts u).isSelf t.primary := by
  intro h
  have hword : TypeName.isWord "Character" = true := by decide
  have hupper : TypeName.startsUpper "Character" = true := by decide
  have hrest : ∀ w ∈ ["UnicodeBlock"], TypeName.isWord w = true := by decide
  have hresolved := h Sample.namesakes "Character" ["UnicodeBlock"] hword hupper
    (List.cons_ne_nil _ _) hrest
  rw [resolve_word _ hword, if_pos (by decide), ClassFacts.resolve,
    Resolver.resolve_of_member hword hupper (List.cons_ne_nil _ _) hrest] at hresolved
  exact absurd hresolved (by decide)

end ClassFacts

end JavaMetrics

import JavaMetrics.Proofs.BareNames

/-!
Resolved names are settled: the name that a written type resolves to resolves to itself. Packages and
imported types have to be paths for that, with a first part that cannot be taken for a type.
Then a resolved name begins with such a part, or it is the name that was written; and no name of
`java.lang` that is dropped when it is written in full is ever an answer.
-/

set_option autoImplicit false

namespace JavaMetrics

namespace TypeName

/-- Words with dots between them; the first does not begin with an upper-case letter. -/
structure IsPath (p : String) : Prop where
  lower : startsUpper p = false
  words : ∃ ws, ws ≠ [] ∧ (∀ w ∈ ws, isWord w = true) ∧ p = ".".intercalate ws

def BeginsLow (name : String) : Prop :=
  ∃ w rest, isWord w = true ∧ startsUpper w = false ∧ name = w ++ "." ++ rest

theorem BeginsLow.dot {name : String} (h : BeginsLow name) : '.' ∈ name.toList := by
  obtain ⟨w, rest, -, -, rfl⟩ := h
  simp

theorem BeginsLow.append {name : String} (h : BeginsLow name) (rest : String) :
    BeginsLow (name ++ "." ++ rest) := by
  obtain ⟨w, more, hw, hlower, rfl⟩ := h
  refine ⟨w, more ++ "." ++ rest, hw, hlower, ?_⟩
  simp only [String.append_assoc]

theorem startsUpper_append {w : String} (h : isWord w = true) (rest : String) :
    startsUpper (w ++ rest) = startsUpper w := by
  obtain ⟨c, cs, hcs, -⟩ := (isDotted_of_isWord h).head
  simp [startsUpper, hcs]

theorem IsPath.isDotted {p : String} (h : IsPath p) : IsDotted p.toList := by
  obtain ⟨ws, hne, hwords, rfl⟩ := h.words
  exact isDotted_intercalate hne hwords

theorem IsPath.word_or_beginsLow {p : String} (h : IsPath p) : isWord p = true ∨ BeginsLow p := by
  obtain ⟨ws, hne, hwords, hp⟩ := h.words
  obtain ⟨w, ws, rfl⟩ := List.exists_cons_of_ne_nil hne
  have hw : isWord w = true := hwords w List.mem_cons_self
  cases ws with
  | nil =>
    left
    rw [hp]
    simpa using hw
  | cons v ws =>
    right
    rw [String.intercalate_cons_cons] at hp
    refine ⟨w, _, hw, ?_, hp⟩
    have hlower := h.lower
    rwa [hp, String.append_assoc, startsUpper_append hw] at hlower

theorem IsPath.beginsLow_append {p : String} (h : IsPath p) (rest : String) :
    BeginsLow (p ++ "." ++ rest) := by
  rcases h.word_or_beginsLow with hword | hlow
  · exact ⟨p, rest, hword, h.lower, rfl⟩
  · exact hlow.append rest

theorem prefix_of_append_dot {a b c d : List Char} (h : a ++ '.' :: b = c ++ '.' :: d)
    (hd : '.' ∉ d) : a <+: c := by
  rcases List.append_eq_append_iff.1 h with ⟨more, hc, -⟩ | ⟨more, ha, hmore⟩
  · exact ⟨more, hc.symm⟩
  · cases more with
    | nil =>
      rw [List.append_nil] at ha
      exact ha ▸ List.prefix_refl c
    | cons e more =>
      rw [List.cons_append, List.cons.injEq] at hmore
      exact absurd (by simp [hmore.2]) hd

section Listed

variable {table : List String}

theorem exists_of_listed (htable : ∀ n ∈ table, isWord n = true) {name : String}
    (hdot : '.' ∈ name.toList) (h : withoutJavaLang name ∈ table) :
    ∃ n ∈ table, name = "java.lang" ++ "." ++ n := by
  unfold withoutJavaLang at h
  split at h
  · rename_i hstarts
    obtain ⟨rest, hrest⟩ := List.isPrefixOf_iff_prefix.1 hstarts
    refine ⟨_, h, String.ext ?_⟩
    rw [String.toList_append, String.toList_ofList, ← hrest, List.drop_left]
    rfl
  · exact absurd hdot (not_mem_dot (htable name h))

theorem lastSegment_mem_of_listed (htable : ∀ n ∈ table, isWord n = true) {name : String}
    (hdot : '.' ∈ name.toList) (h : withoutJavaLang name ∈ table) : lastSegment name ∈ table := by
  obtain ⟨n, hn, rfl⟩ := exists_of_listed htable hdot h
  rwa [lastSegment_append, lastSegment_of_isWord (htable n hn)]

theorem not_listed_member (htable : ∀ n ∈ table, isWord n = true) {outer rest : String} {c : Char}
    (hc : c ∈ outer.toList) (hupper : Text.isUpper c = true) :
    withoutJavaLang (outer ++ "." ++ rest) ∉ table := by
  intro h
  obtain ⟨n, hn, he⟩ := exists_of_listed htable (by simp) h
  have htext : outer.toList ++ '.' :: rest.toList = "java.lang".toList ++ '.' :: n.toList := by
    simpa using congrArg String.toList he
  have hmem := (prefix_of_append_dot htext (not_mem_dot (htable n hn))).subset hc
  have hlower : "java.lang".toList.all (!Text.isUpper ·) = true := by decide
  have hc := List.all_eq_true.1 hlower c hmem
  rw [hupper] at hc
  cases hc

end Listed

theorem isWord_primitives : ∀ n ∈ primitives, isWord n = true := by decide

theorem isWord_implicits : ∀ n ∈ implicits, isWord n = true := by decide

theorem isPrimitive_eq_false_iff (name : String) :
    isPrimitive name = false ↔ withoutJavaLang name ∉ primitives := by
  simp [isPrimitive]

theorem isImplicit_iff (name : String) :
    isImplicit name = true ↔ withoutJavaLang name ∈ implicits := by
  simp [isImplicit]

theorem isWord_of_chars {w : String} (hne : w.toList ≠ [])
    (hchars : ∀ c ∈ w.toList, isWordChar c = true ∨ c = '.') (hdot : '.' ∉ w.toList) :
    isWord w = true := by
  simp only [isWord, Bool.and_eq_true, List.all_eq_true]
  refine ⟨by simpa using hne, ?_⟩
  intro c hc
  apply (hchars c hc).resolve_right
  rintro rfl
  exact hdot hc

theorem IsDotted.isWord_head {head rest : String} (h : IsDotted (head ++ "." ++ rest).toList)
    (hdot : '.' ∉ head.toList) : isWord head = true := by
  have htext : (head ++ "." ++ rest).toList = head.toList ++ '.' :: rest.toList := by simp
  rw [htext] at h
  apply isWord_of_chars _ _ hdot
  · intro hempty
    exact h.ends.2.1 (by rw [hempty]; rfl)
  · intro c hc
    exact h.chars c (List.mem_append_left _ hc)

theorem IsDotted.replace {outer other rest : List Char} (h : IsDotted (outer ++ '.' :: rest))
    (hother : IsDotted other) : IsDotted (other ++ '.' :: rest) := by
  obtain ⟨c, more, hcs, hc⟩ := hother.head
  obtain ⟨front, d, hds, hd⟩ := h.last
  refine ⟨?_, ⟨c, more ++ '.' :: rest, by rw [hcs]; rfl, hc⟩, ?_⟩
  · intro e he
    rcases List.mem_append.1 he with he | he
    · exact hother.chars e he
    · exact h.chars e (List.mem_append_right _ he)
  · -- The last character is that of the rest: a dot is no word.
    have hne : rest ≠ [] := by
      rintro rfl
      have hlast := List.append_inj_right' hds rfl
      simp only [List.cons.injEq, and_true] at hlast
      rw [← hlast] at hd
      exact absurd hd (by decide)
    obtain ⟨init, e, rfl⟩ : ∃ init e, rest = init ++ [e] :=
      ⟨_, _, (List.dropLast_append_getLast hne).symm⟩
    have hcut : (outer ++ '.' :: init) ++ [e] = front ++ [d] := by
      rw [← hds, List.append_assoc, List.cons_append]
    have he := List.append_inj_right' hcut rfl
    exact ⟨other ++ '.' :: init, d, by rw [← he, List.append_assoc, List.cons_append], hd⟩

end TypeName

theorem mem_of_mem_lastSegment {s : String} {c : Char} (h : c ∈ (lastSegment s).toList) :
    c ∈ s.toList := by
  rw [lastSegment, Text.afterLast, String.toList_ofList, List.mem_reverse] at h
  exact List.mem_reverse.1 ((List.takeWhile_sublist _).subset h)

namespace Resolver

variable {r : Resolver}

theorem not_mem_dot_of_splitHead {name head : String} {rest : Option String}
    (h : splitHead name = (head, rest)) : '.' ∉ head.toList := by
  have hfront : '.' ∉ name.toList.takeWhile (· != '.') := by
    intro hdot
    simpa using List.mem_takeWhile_imp hdot
  unfold splitHead at h
  simp only [drop_length_takeWhile] at h
  split at h
  · cases h
    rwa [String.toList_ofList]
  · rename_i hnone
    cases h
    rw [List.dropWhile_eq_nil_iff] at hnone
    intro hdot
    simpa using hnone '.' hdot

theorem resolveName_of_beginsLow {name : String} (h : TypeName.BeginsLow name)
    (hkept : TypeName.isImplicit name = true → name ∈ r.explicit.values) :
    r.resolveName name = some (.resolved name) := by
  obtain ⟨w, rest, hw, hlower, rfl⟩ := h
  rw [resolveName, splitHead_member hw]
  simp only [hlower, Bool.false_eq_true, if_false]
  rw [if_neg]
  intro hdropped
  simp only [Bool.and_eq_true, Bool.not_eq_true', List.contains_eq_mem,
    decide_eq_false_iff_not] at hdropped
  exact hdropped.2 (hkept hdropped.1.2)

theorem resolveSimple_eq_resolved {name f : String}
    (h : r.resolveSimple name = some (.resolved f)) :
    r.isSelf f = true ∨ r.explicit.get? name = some f ∨
      TypeName.isImplicit name = false ∧ f = r.qualify name := by
  unfold resolveSimple at h
  split at h
  · cases h
  split at h
  · cases h
    simp [isSelf]
  split at h
  · cases h
    simp [isSelf, Text.startsWith]
  split at h
  · rename_i path hexplicit
    cases h
    exact .inr (.inl hexplicit)
  split at h
  · cases h
  rename_i himplicit
  split at h
  · cases h
    exact .inr (.inr ⟨by simpa using himplicit, rfl⟩)
  · cases h

theorem resolveName_member_eq_resolved {name head rest f : String}
    (hs : splitHead name = (head, some rest)) (h : r.resolveName name = some (.resolved f)) :
    f = name ∨ TypeName.startsUpper head = true ∧
      ∃ outer, r.resolveSimple head = some (.resolved outer) ∧ f = outer ++ "." ++ rest := by
  rw [resolveName, hs] at h
  simp only at h
  split at h
  · rename_i hupper
    obtain ⟨t, ht, hm⟩ := Option.map_eq_some_iff.1 h
    cases t with
    | resolved outer =>
      cases hm
      exact .inr ⟨hupper, outer, ht, rfl⟩
    | ambiguous s cs => cases hm
  · split at h
    · cases h
    · cases h
      exact .inl rfl

/-- The own package and all imported types are paths, and imports are known by their last part. -/
structure Placed (r : Resolver) : Prop where
  package : ∀ p, r.package = some p → TypeName.IsPath p
  explicit : ∀ n p, r.explicit.get? n = some p → TypeName.IsPath p ∧ n = lastSegment p

theorem placed_ofFacts {u : ClassFacts} (hpackage : ∀ p, u.package = some p → TypeName.IsPath p)
    (himports : ∀ i ∈ u.imports, i.isSingle = true → TypeName.IsPath i.path) :
    (ofFacts u).Placed where
  package := by
    intro p hp
    exact hpackage p (Option.filter_eq_some_iff.1 hp).1
  explicit := by
    intro n p hp
    obtain ⟨i, hi, hsingle, rfl, rfl⟩ := exists_import hp
    exact ⟨himports i hi hsingle, rfl⟩

theorem resolve_of_beginsLow {f : String} (hdotted : TypeName.IsDotted f.toList)
    (hlow : TypeName.BeginsLow f) (hprimitive : TypeName.isPrimitive f = false)
    (hkept : TypeName.isImplicit f = true → f ∈ r.explicit.values) (hself : r.isSelf f = false) :
    r.resolve f = some (.resolved f) := by
  rw [resolve_eq_some_iff]
  exact ⟨f, TypeName.normalize_of_isDotted hdotted, hprimitive, resolveName_of_beginsLow hlow hkept,
    hself⟩

/-- What a simple name resolves to, if it is not the name itself: a path whose last part is the
name, imported unless the name can be looked for in the own package. -/
structure Target (r : Resolver) (name f : String) : Prop where
  dotted : TypeName.IsDotted f.toList
  low : TypeName.BeginsLow f
  last : lastSegment f = name
  kept : f ∈ r.explicit.values ∨ TypeName.isImplicit name = false

theorem target_of_resolveSimple (hr : r.Placed) {name f : String}
    (hword : TypeName.isWord name = true) (h : r.resolveSimple name = some (.resolved f))
    (hself : r.isSelf f = false) : f = name ∨ r.Target name f := by
  rcases resolveSimple_eq_resolved h with hown | hexplicit | ⟨himplicit, hhere⟩
  · rw [hself] at hown
    cases hown
  · obtain ⟨hpath, hlast⟩ := hr.explicit name f hexplicit
    rcases hpath.word_or_beginsLow with hf | hlow
    · exact .inl (by rw [hlast, lastSegment_of_isWord hf])
    · exact .inr ⟨hpath.isDotted, hlow, hlast.symm, .inl ((Dict.mem_values _ _).2 ⟨name, hexplicit⟩)⟩
  · cases hpackage : r.package with
    | none =>
      rw [qualify, hpackage] at hhere
      exact .inl hhere
    | some p =>
      have hpath := hr.package p hpackage
      rw [qualify, hpackage] at hhere
      subst hhere
      refine .inr ⟨?_, hpath.beginsLow_append name, ?_, .inr himplicit⟩
      · simpa using hpath.isDotted.append (TypeName.isDotted_of_isWord hword)
      · rw [lastSegment_append, lastSegment_of_isWord hword]

theorem Target.resolve {name f : String} (h : r.Target name f) (hword : TypeName.isWord name = true)
    (hprimitive : TypeName.isPrimitive name = false) (hself : r.isSelf f = false) :
    r.resolve f = some (.resolved f) := by
  apply resolve_of_beginsLow h.dotted h.low _ _ hself
  · rw [TypeName.isPrimitive_eq_false_iff]
    intro hlisted
    have hmem := TypeName.lastSegment_mem_of_listed TypeName.isWord_primitives h.low.dot hlisted
    rw [h.last, ← TypeName.isPrimitive_of_isWord hword, hprimitive] at hmem
    cases hmem
  · intro himplicit
    apply h.kept.resolve_right
    intro hopen
    have hmem := TypeName.lastSegment_mem_of_listed TypeName.isWord_implicits h.low.dot
      ((TypeName.isImplicit_iff f).1 himplicit)
    rw [h.last, ← TypeName.isImplicit_of_isWord hword, hopen] at hmem
    cases hmem

theorem Target.resolve_inside {head rest outer : String} (h : r.Target head outer)
    (hdotted : TypeName.IsDotted (head ++ "." ++ rest).toList)
    (hupper : TypeName.startsUpper head = true) (hself : r.isSelf (outer ++ "." ++ rest) = false) :
    r.resolve (outer ++ "." ++ rest) = some (.resolved (outer ++ "." ++ rest)) := by
  obtain ⟨c, hc, hcupper⟩ := (Option.any_eq_true _ _).1 hupper
  have hmem : c ∈ outer.toList := by
    apply mem_of_mem_lastSegment
    rw [h.last]
    exact List.mem_of_head? hc
  apply resolve_of_beginsLow _ _ _ _ hself
  · have hreplaced := TypeName.IsDotted.replace (by simpa using hdotted) h.dotted
    simpa using hreplaced
  · exact h.low.append rest
  · rw [TypeName.isPrimitive_eq_false_iff]
    exact TypeName.not_listed_member TypeName.isWord_primitives hmem hcupper
  · intro himplicit
    exact absurd ((TypeName.isImplicit_iff _).1 himplicit)
      (TypeName.not_listed_member TypeName.isWord_implicits hmem hcupper)

end Resolver

namespace ClassFacts

/-- In a class whose package and imports are paths, the name that a written type resolves to resolves to
itself. -/
theorem resolve_resolved (u : ClassFacts)
    (hpackage : ∀ p, u.package = some p → TypeName.IsPath p)
    (himports : ∀ i ∈ u.imports, i.isSingle = true → TypeName.IsPath i.path) {raw f : String}
    (h : u.resolve raw = some (.resolved f)) : u.resolve f = some (.resolved f) := by
  have hr := Resolver.placed_ofFacts hpackage himports
  obtain ⟨name, hname, hprimitive, hresolved, hself⟩ := (Resolver.resolve_eq_some_iff raw _).1 h
  have hdotted := TypeName.isDotted_of_normalize hname
  have hsame : f = name → u.resolve f = some (.resolved f) := by
    rintro rfl
    apply (Resolver.resolve_eq_some_iff f _).2
    exact ⟨f, TypeName.normalize_of_isDotted hdotted, hprimitive, hresolved, hself⟩
  rcases Resolver.splitHead_cases name with hs | ⟨head, rest, hs, hcut⟩
  · have hword := TypeName.isWord_of_chars hdotted.ends.1 hdotted.chars
      (Resolver.not_mem_dot_of_splitHead hs)
    rw [Resolver.resolveName, hs] at hresolved
    rcases Resolver.target_of_resolveSimple hr hword hresolved hself with he | htarget
    · exact hsame he
    · exact htarget.resolve hword hprimitive hself
  · rcases Resolver.resolveName_member_eq_resolved hs hresolved with
      he | ⟨hupper, outer, houter, rfl⟩
    · exact hsame he
    · rw [hcut] at hdotted
      have hword := hdotted.isWord_head (Resolver.not_mem_dot_of_splitHead hs)
      -- A type whose members are outside the class is outside itself.
      have hown : (Resolver.ofFacts u).isSelf outer = false := by
        rw [← Bool.not_eq_true]
        intro hown
        have hmember := Resolver.isSelf_member _ hown rest
        rw [TypeRef.primary, hmember] at hself
        cases hself
      rcases Resolver.target_of_resolveSimple hr hword houter hown with he | htarget
      · exact hsame (by rw [he, hcut])
      · exact htarget.resolve_inside hdotted hupper hself

namespace Sample

def insider : ClassFacts where
  path := "Insider.java"
  package := some "java.lang"
  name := "Insider"
  imports := [⟨"java.lang.String", false, false, 3⟩]

theorem isPath_javaLang : TypeName.IsPath "java.lang" :=
  ⟨by decide, ["java", "lang"], by decide, by decide, by decide⟩

theorem isPath_string : TypeName.IsPath "java.lang.String" :=
  ⟨by decide, ["java", "lang", "String"], by decide, by decide, by decide⟩

end Sample

theorem resolve_resolved_insider :
    Sample.insider.resolve "String[]" = some (.resolved "java.lang.String") ∧
    Sample.insider.resolve "java.lang.String" = some (.resolved "java.lang.String") := by
  have harray : Sample.insider.resolve "String[]" = some (.resolved "java.lang.String") := by
    decide +kernel
  refine ⟨harray, resolve_resolved Sample.insider ?_ ?_ harray⟩
  · intro p hp
    cases hp
    exact Sample.isPath_javaLang
  · intro i hi _
    cases List.mem_singleton.1 hi
    exact Sample.isPath_string

end ClassFacts

end JavaMetrics

import JavaMetrics.Proofs.QualifiedNames

set_option autoImplicit false

namespace JavaMetrics.TypeName

/-- Drops a group like `dropGroup`, with a count that is never cut off at zero: there is no result
where a parenthesis closes and none is open. -/
def dropGroup? (opened : Nat) : List Char → Option (List Char)
  | [] => some []
  | c :: cs =>
    if c = '(' then dropGroup? (opened + 1) cs
    else if c = ')' then
      if opened = 0 then none
      else if opened - 1 = 0 then some cs
      else dropGroup? (opened - 1) cs
    else dropGroup? opened cs

def dropAnnotationText? (cs : List Char) : Option (List Char) :=
  let rest := (cs.dropWhile isAnnotationChar).dropWhile Text.isBlank
  if rest.head? = some '(' then dropGroup? 0 rest else some rest

theorem dropGroup?_succ (n : Nat) (cs : List Char) :
    dropGroup? (n + 1) cs = some (dropGroup (n + 1) cs) := by
  induction cs generalizing n with
  | nil => rfl
  | cons c cs ih =>
    unfold dropGroup? dropGroup
    by_cases hopen : c = '('
    · rw [if_pos hopen, if_pos hopen]
      exact ih (n + 1)
    · rw [if_neg hopen, if_neg hopen]
      by_cases hclose : c = ')'
      · rw [if_pos hclose, if_pos hclose, if_neg (by omega)]
        cases n with
        | zero => rw [if_pos (by omega), if_pos (by omega)]
        | succ m =>
          rw [if_neg (by omega), if_neg (by omega)]
          exact ih m
      · rw [if_neg hclose, if_neg hclose]
        exact ih n

/-- The count starts at an opening parenthesis, so one is open wherever one closes. -/
theorem dropAnnotationText?_eq (cs : List Char) :
    dropAnnotationText? cs = some (dropAnnotationText cs) := by
  simp only [dropAnnotationText?, dropAnnotationText]
  split
  · rename_i hhead
    obtain ⟨rest, hrest⟩ := List.head?_eq_some_iff.1 hhead
    rw [hrest]
    exact dropGroup?_succ 0 rest
  · rfl

def bare? (depth : Nat) : List Char → Option (List Char)
  | [] => some []
  | c :: cs =>
    if c = '<' then bare? (depth + 1) cs
    else if c = '>' then bare? (depth - 1) cs
    else if 0 < depth then bare? depth cs
    else if c = '@' then
      match _h : dropAnnotationText? cs with
      | some rest => bare? 0 rest
      | none => none
    else if c = '[' || c = ']' || Text.isBlank c then bare? 0 cs
    else (bare? 0 cs).map (c :: ·)
termination_by cs => cs.length
decreasing_by
  all_goals simp only [List.length_cons]
  all_goals first
    | omega
    | rw [dropAnnotationText?_eq] at _h
      cases _h
      exact Nat.lt_succ_of_le (length_dropAnnotationText_le cs)

theorem bare?_annotation (cs : List Char) : bare? 0 ('@' :: cs) = bare? 0 (dropAnnotationText cs) := by
  rw [bare?, if_neg (by decide), if_neg (by decide), if_neg (by omega), if_pos rfl]
  split
  · rename_i rest hrest
    rw [dropAnnotationText?_eq] at hrest
    cases hrest
    rfl
  · rename_i hnone
    rw [dropAnnotationText?_eq] at hnone
    cases hnone

theorem bare?_eq (depth : Nat) (cs : List Char) : bare? depth cs = some (bare depth cs) := by
  fun_induction bare depth cs with
  | case1 => rw [bare?]
  | case2 depth cs ih =>
    rw [bare?, if_pos rfl]
    exact ih
  | case3 depth cs hopen ih =>
    rw [bare?, if_neg hopen, if_pos rfl]
    exact ih
  | case4 depth c cs hopen hclose hdepth ih =>
    rw [bare?, if_neg hopen, if_neg hclose, if_pos hdepth]
    exact ih
  | case5 depth cs hdepth _ _ ih =>
    have hzero : depth = 0 := by omega
    rw [hzero, bare?_annotation]
    exact ih
  | case6 depth c cs hopen hclose hdepth hat hskip ih =>
    rw [bare?, if_neg hopen, if_neg hclose, if_neg hdepth, if_neg hat, if_pos hskip]
    exact ih
  | case7 depth c cs hopen hclose hdepth hat hkeep ih =>
    rw [bare?, if_neg hopen, if_neg hclose, if_neg hdepth, if_neg hat, if_neg hkeep, ih]
    rfl

def normalize? (raw : String) : Option (Option String) :=
  (bare? 0 raw.toList).map fun cs =>
    let name := trimDots cs
    if name.isEmpty then none else some (String.ofList name)

theorem normalize?_eq (raw : String) : normalize? raw = some (normalize raw) := by
  rw [normalize?, bare?_eq]
  rfl

theorem mem_bare {depth : Nat} {cs : List Char} {c : Char} (h : c ∈ bare depth cs) :
    isWordChar c = true ∨ c = '.' := by
  fun_induction bare depth cs with
  | case1 => cases h
  | case2 _ _ ih | case3 _ _ _ ih | case4 _ _ _ _ _ _ ih | case5 _ _ _ _ _ ih
  | case6 _ _ _ _ _ _ _ _ ih => exact ih h
  | case7 depth d cs hopen hclose hdepth hat hkeep ih =>
    rcases List.mem_cons.1 h with rfl | h
    · by_cases hdot : c = '.'
      · exact .inr hdot
      · simp only [Bool.or_eq_true, decide_eq_true_eq, not_or] at hkeep
        left
        simp [isWordChar, hdot, hopen, hclose, hat, hkeep]
    · exact ih h

theorem trimDots_subset (cs : List Char) : trimDots cs ⊆ cs := by
  intro c hc
  have hback := (List.dropWhile_sublist _).subset hc
  exact List.mem_reverse.1 ((List.dropWhile_sublist _).subset (List.mem_reverse.1 hback))

theorem head_trimDots {cs rest : List Char} {c : Char} (h : trimDots cs = c :: rest) : c ≠ '.' := by
  have hhead := List.head?_dropWhile_not (· == '.') (cs.reverse.dropWhile (· == '.')).reverse
  rw [← trimDots, h] at hhead
  simpa using hhead

theorem last_trimDots {cs front : List Char} {c : Char} (h : trimDots cs = front ++ [c]) :
    c ≠ '.' := by
  -- The trimmed text ends where the text ends whose last dots are gone.
  obtain ⟨skipped, hskipped⟩ :=
    List.dropWhile_suffix (p := (· == '.')) (l := (cs.reverse.dropWhile (· == '.')).reverse)
  rw [← trimDots, h] at hskipped
  have hback := congrArg List.reverse hskipped
  rw [List.reverse_reverse, ← List.append_assoc, List.reverse_append, List.reverse_singleton,
    List.singleton_append] at hback
  have hlast := List.head?_dropWhile_not (· == '.') cs.reverse
  rw [← hback] at hlast
  simpa using hlast

theorem isDotted_trimDots {cs : List Char} (hchars : ∀ c ∈ cs, isWordChar c = true ∨ c = '.')
    (hne : trimDots cs ≠ []) : IsDotted (trimDots cs) := by
  have hmem : ∀ c ∈ trimDots cs, isWordChar c = true ∨ c = '.' := by
    intro c hc
    exact hchars c (trimDots_subset cs hc)
  refine ⟨hmem, ?_, ?_⟩
  · obtain ⟨c, rest, hcs⟩ := List.exists_cons_of_ne_nil hne
    have hc : c ∈ trimDots cs := by simp [hcs]
    exact ⟨c, rest, hcs, (hmem c hc).resolve_right (head_trimDots hcs)⟩
  · have hcs := (List.dropLast_append_getLast hne).symm
    exact ⟨_, _, hcs, (hmem _ (List.getLast_mem hne)).resolve_right (last_trimDots hcs)⟩

theorem isDotted_of_normalize {raw name : String} (h : normalize raw = some name) :
    IsDotted name.toList := by
  simp only [normalize] at h
  split at h
  · cases h
  · rename_i hne
    cases h
    rw [String.toList_ofList]
    apply isDotted_trimDots
    · intro c hc
      exact mem_bare hc
    · simpa using hne

theorem IsDotted.ends {cs : List Char} (h : IsDotted cs) :
    cs ≠ [] ∧ cs.head? ≠ some '.' ∧ cs.getLast? ≠ some '.' := by
  have hdot : isWordChar '.' = false := by decide
  obtain ⟨c, rest, hcs, hc⟩ := h.head
  obtain ⟨front, d, hds, hd⟩ := h.last
  refine ⟨by simp [hcs], ?_, ?_⟩
  · rw [hcs, List.head?_cons]
    rintro he
    cases he
    simp [hdot] at hc
  · rw [hds, List.getLast?_concat]
    rintro he
    cases he
    simp [hdot] at hd

/-- No text makes the count of parentheses go below zero, and a bare name that is found has no sign
of a written type in it, no dot at its ends, and is its own bare name. -/
theorem normalize_clean (raw : String) :
    normalize? raw = some (normalize raw) ∧
    ∀ name, normalize raw = some name →
      name ≠ "" ∧
      (∀ c ∈ name.toList, c ∉ ['<', '>', '@', '[', ']'] ∧ Text.isBlank c = false) ∧
      name.toList.head? ≠ some '.' ∧ name.toList.getLast? ≠ some '.' ∧
      normalize name = some name := by
  refine ⟨normalize?_eq raw, ?_⟩
  intro name hname
  have hdotted := isDotted_of_normalize hname
  obtain ⟨hne, hhead, hlast⟩ := hdotted.ends
  refine ⟨?_, ?_, hhead, hlast, normalize_of_isDotted hdotted⟩
  · rintro rfl
    exact hne rfl
  · intro c hc
    rcases hdotted.chars c hc with hword | rfl
    · have hsigns : c ≠ '.' ∧ c ≠ '<' ∧ c ≠ '>' ∧ c ≠ '@' ∧ c ≠ '[' ∧ c ≠ ']' ∧
          Text.isBlank c = false := by
        simpa [isWordChar, and_assoc] using hword
      simpa [and_assoc] using hsigns.2
    · decide

theorem normalize_clean_malformed :
    normalize "..a>)<b.<c>d>.@X Y[@Z((e)" = some "a).Y" ∧ normalize "a).Y" = some "a).Y" := by
  have hname : normalize "..a>)<b.<c>d>.@X Y[@Z((e)" = some "a).Y" := by decide +kernel
  obtain ⟨-, hclean⟩ := normalize_clean "..a>)<b.<c>d>.@X Y[@Z((e)"
  exact ⟨hname, (hclean _ hname).2.2.2.2⟩

example : dropGroup? 0 [')'] = none := rfl

end JavaMetrics.TypeName

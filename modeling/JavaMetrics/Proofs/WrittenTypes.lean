import Mathlib.Data.List.TakeWhile
import JavaMetrics.Proofs.QualifiedNames

set_option autoImplicit false

namespace JavaMetrics

theorem Text.isAlphanumeric_of_isBlank {c : Char} (h : isBlank c = true) :
    isAlphanumeric c = false := by
  have hcodes : ∀ n ∈ [9, 10, 11, 12, 13, 32, 0x85, 0xA0, 0x1680, 0x2000, 0x2001, 0x2002, 0x2003,
      0x2004, 0x2005, 0x2006, 0x2007, 0x2008, 0x2009, 0x200A, 0x2028, 0x2029, 0x202F, 0x205F, 0x3000],
      isAlphanumeric (Char.ofNat n) = false := by
    decide +kernel
  simp only [isBlank, Bool.or_eq_true, Bool.and_eq_true, decide_eq_true_eq, beq_iff_eq] at h
  rw [← Char.ofNat_toNat c]
  apply hcodes
  simp only [List.mem_cons, List.not_mem_nil, or_false]
  omega

namespace TypeName

def isIdentifierChar (c : Char) : Bool := Text.isAlphanumeric c || c == '_' || c == '$'

/-- Every `right` closes a `left` that is open, `depth` of them from before, and none stays open. -/
def isBalanced (left right : Char) (depth : Nat) : List Char → Bool
  | [] => depth == 0
  | c :: cs =>
    if c = left then isBalanced left right (depth + 1) cs
    else if c = right then 0 < depth && isBalanced left right (depth - 1) cs
    else isBalanced left right depth cs

structure Blanks where
  chars : List Char := []
  blank : chars.all Text.isBlank = true := by decide

structure Identifier where
  chars : List Char
  ne_nil : chars ≠ [] := by decide
  letters : chars.all isIdentifierChar = true := by decide

structure Nested (left right : Char) where
  chars : List Char
  balanced : isBalanced left right 0 chars = true := by decide

/-- An annotation is set off by its arguments or by a blank. -/
inductive AnnotationEnd where
  | blanks (gap : Blanks) (ne_nil : gap.chars ≠ [] := by decide)
  | arguments (before : Blanks) (inner : Nested '(' ')') (after : Blanks)

structure AnnotationUse where
  name : Identifier
  members : List Identifier := []
  ending : AnnotationEnd

structure Segment where
  before : Blanks := {}
  annotations : List AnnotationUse := []
  name : Identifier
  between : Blanks := {}
  arguments : Option (Nested '<' '>') := none
  after : Blanks := {}

structure Dimension where
  annotations : List AnnotationUse := []
  inner : Blanks := {}
  after : Blanks := {}

structure Variadic where
  annotations : List AnnotationUse := []
  after : Blanks := {}

structure WrittenType where
  first : Segment
  members : List Segment := []
  dimensions : List Dimension := []
  variadic : Option Variadic := none

def dotted (w : Identifier) (ws : List Identifier) : List Char :=
  w.chars ++ ws.flatMap fun v => '.' :: v.chars

def AnnotationEnd.text : AnnotationEnd → List Char
  | blanks gap _ => gap.chars
  | arguments before inner after => before.chars ++ '(' :: (inner.chars ++ ')' :: after.chars)

def AnnotationUse.text (a : AnnotationUse) : List Char := '@' :: (dotted a.name a.members ++ a.ending.text)

def annotationsText (as : List AnnotationUse) : List Char := as.flatMap AnnotationUse.text

def argumentsText : Option (Nested '<' '>') → List Char
  | some inner => '<' :: (inner.chars ++ ['>'])
  | none => []

def Segment.text (s : Segment) : List Char :=
  s.before.chars ++ annotationsText s.annotations ++ s.name.chars ++ s.between.chars ++
    argumentsText s.arguments ++ s.after.chars

def Dimension.text (d : Dimension) : List Char :=
  annotationsText d.annotations ++ '[' :: (d.inner.chars ++ ']' :: d.after.chars)

def Variadic.text (v : Variadic) : List Char :=
  annotationsText v.annotations ++ '.' :: '.' :: '.' :: v.after.chars

namespace WrittenType

def text (t : WrittenType) : String :=
  String.ofList (t.first.text ++ t.members.flatMap (fun s => '.' :: s.text) ++
    t.dimensions.flatMap Dimension.text ++ t.variadic.elim [] Variadic.text)

def bareName (t : WrittenType) : String :=
  ".".intercalate ((t.first :: t.members).map fun s => String.ofList s.name.chars)

end WrittenType

theorem Blanks.isBlank (b : Blanks) : ∀ c ∈ b.chars, Text.isBlank c = true :=
  List.all_eq_true.1 b.blank

theorem Identifier.isIdentifierChar (w : Identifier) :
    ∀ c ∈ w.chars, TypeName.isIdentifierChar c = true :=
  List.all_eq_true.1 w.letters

theorem isIdentifierChar_of_isBlank {c : Char} (h : Text.isBlank c = true) :
    isIdentifierChar c = false := by
  have hletter := Text.isAlphanumeric_of_isBlank h
  have hline : c ≠ '_' := ne_of_apply_ne Text.isBlank (by rw [h]; decide)
  have hsign : c ≠ '$' := ne_of_apply_ne Text.isBlank (by rw [h]; decide)
  simp [isIdentifierChar, hletter, hline, hsign]

theorem isAnnotationChar_eq (c : Char) : isAnnotationChar c = (isIdentifierChar c || c == '.') := rfl

theorem isAnnotationChar_of_isBlank {c : Char} (h : Text.isBlank c = true) :
    isAnnotationChar c = false := by
  have hdot : c ≠ '.' := ne_of_apply_ne Text.isBlank (by rw [h]; decide)
  simp [isAnnotationChar_eq, isIdentifierChar_of_isBlank h, hdot]

theorem isBlank_of_isIdentifierChar {c : Char} (h : isIdentifierChar c = true) :
    Text.isBlank c = false := by
  rw [← Bool.not_eq_true]
  intro hblank
  rw [isIdentifierChar_of_isBlank hblank] at h
  cases h

theorem isWordChar_of_isIdentifierChar {c : Char} (h : isIdentifierChar c = true) :
    isWordChar c = true := by
  have hsigns : ['.', '<', '>', '@', '[', ']'].all (!isIdentifierChar ·) = true := by decide
  have hne : ∀ d ∈ ['.', '<', '>', '@', '[', ']'], c ≠ d := by
    rintro d hd rfl
    have hsign := List.all_eq_true.1 hsigns c hd
    rw [h] at hsign
    cases hsign
  simp only [List.forall_mem_cons] at hne
  simp [isWordChar, hne, isBlank_of_isIdentifierChar h]

theorem Identifier.isWord (w : Identifier) : TypeName.isWord (String.ofList w.chars) = true := by
  simp only [TypeName.isWord, String.toList_ofList, Bool.and_eq_true, List.all_eq_true]
  refine ⟨by simp [w.ne_nil], ?_⟩
  intro c hc
  exact isWordChar_of_isIdentifierChar (w.isIdentifierChar c hc)

theorem isAnnotationChar_of_mem_dotted {w : Identifier} {ws : List Identifier} {c : Char}
    (h : c ∈ dotted w ws) : isAnnotationChar c = true := by
  simp only [dotted, List.mem_append, List.mem_flatMap, List.mem_cons] at h
  rw [isAnnotationChar_eq, Bool.or_eq_true, beq_iff_eq]
  rcases h with h | ⟨v, -, h | h⟩
  · exact .inl (w.isIdentifierChar c h)
  · exact .inr h
  · exact .inl (v.isIdentifierChar c h)

theorem bare_cons_word {c : Char} (h : isWordChar c = true) (rest : List Char) :
    bare 0 (c :: rest) = c :: bare 0 rest := by
  rw [bare]
  simp_all [isWordChar]

theorem bare_cons_dot (rest : List Char) : bare 0 ('.' :: rest) = '.' :: bare 0 rest := by
  have hdot : Text.isBlank '.' = false := by decide
  rw [bare]
  simp [hdot]

theorem bare_cons_blank {c : Char} (h : Text.isBlank c = true) (rest : List Char) :
    bare 0 (c :: rest) = bare 0 rest := by
  have hopen : c ≠ '<' := ne_of_apply_ne Text.isBlank (by rw [h]; decide)
  have hclose : c ≠ '>' := ne_of_apply_ne Text.isBlank (by rw [h]; decide)
  have hat : c ≠ '@' := ne_of_apply_ne Text.isBlank (by rw [h]; decide)
  rw [bare]
  simp [hopen, hclose, hat, h]

theorem bare_blanks (b : Blanks) (rest : List Char) : bare 0 (b.chars ++ rest) = bare 0 rest := by
  obtain ⟨cs, hcs⟩ := b
  induction cs with
  | nil => rfl
  | cons c cs ih =>
    rw [List.all_cons, Bool.and_eq_true] at hcs
    rw [List.cons_append, bare_cons_blank hcs.1]
    exact ih hcs.2

theorem bare_dropWhile_isBlank (cs : List Char) : bare 0 (cs.dropWhile Text.isBlank) = bare 0 cs := by
  induction cs with
  | nil => rfl
  | cons c cs ih =>
    by_cases hc : Text.isBlank c = true
    · rw [List.dropWhile_cons_of_pos hc, ih, bare_cons_blank hc]
    · rw [List.dropWhile_cons_of_neg hc]

theorem bare_word {cs : List Char} (h : ∀ c ∈ cs, isWordChar c = true) (rest : List Char) :
    bare 0 (cs ++ rest) = cs ++ bare 0 rest := by
  induction cs with
  | nil => rfl
  | cons c cs ih =>
    rw [List.cons_append, bare_cons_word (h c List.mem_cons_self),
      ih fun d hd => h d (List.mem_cons_of_mem c hd), List.cons_append]

/-- A reader that counts the open pairs and skips all else comes out of balanced text as deep as it
went in. -/
theorem read_balanced {α : Type} {left right : Char} (read : Nat → List Char → α)
    (hopen : ∀ n cs, read (n + 1) (left :: cs) = read (n + 2) cs)
    (hclose : ∀ n cs, read (n + 2) (right :: cs) = read (n + 1) cs)
    (hother : ∀ n c cs, c ≠ left → c ≠ right → read (n + 1) (c :: cs) = read (n + 1) cs)
    {n : Nat} {cs : List Char} (h : isBalanced left right n cs = true) (rest : List Char) :
    read (n + 1) (cs ++ rest) = read 1 rest := by
  induction cs generalizing n with
  | nil =>
    have hn : n = 0 := by simpa [isBalanced] using h
    rw [hn, List.nil_append]
  | cons c cs ih =>
    rw [isBalanced] at h
    rw [List.cons_append]
    split at h
    · rename_i hleft
      rw [hleft, hopen]
      exact ih h
    · rename_i hleft
      split at h
      · rename_i hright
        rw [Bool.and_eq_true, decide_eq_true_eq] at h
        obtain ⟨m, rfl⟩ := Nat.exists_eq_succ_of_ne_zero (Nat.ne_of_gt h.1)
        rw [hright, hclose]
        exact ih h.2
      · rename_i hright
        rw [hother n c _ hleft hright]
        exact ih h

theorem bare_nested (inner : Nested '<' '>') (rest : List Char) :
    bare 0 ('<' :: (inner.chars ++ '>' :: rest)) = bare 0 rest := by
  have hopen : ∀ n cs, bare n ('<' :: cs) = bare (n + 1) cs := by
    intro n cs
    rw [bare, if_pos rfl]
  have hclose : ∀ n cs, bare (n + 1) ('>' :: cs) = bare n cs := by
    intro n cs
    rw [bare, if_neg (by decide), if_pos rfl, Nat.add_sub_cancel]
  have hother : ∀ n c cs, c ≠ '<' → c ≠ '>' → bare (n + 1) (c :: cs) = bare (n + 1) cs := by
    intro n c cs hleft hright
    rw [bare, if_neg hleft, if_neg hright, if_pos (by omega)]
  rw [hopen, read_balanced bare (fun n => hopen (n + 1)) (fun n => hclose (n + 1)) hother
    inner.balanced, hclose]

theorem dropGroup_nested (inner : Nested '(' ')') (rest : List Char) :
    dropGroup 0 ('(' :: (inner.chars ++ ')' :: rest)) = rest := by
  have hopen : ∀ n cs, dropGroup n ('(' :: cs) = dropGroup (n + 1) cs := by
    intro n cs
    rw [dropGroup, if_pos rfl]
  have hclose : ∀ n cs, dropGroup (n + 2) (')' :: cs) = dropGroup (n + 1) cs := by
    intro n cs
    rw [dropGroup, if_neg (by decide), if_pos rfl, if_neg (by omega)]
    rfl
  have hother : ∀ n c cs, c ≠ '(' → c ≠ ')' → dropGroup (n + 1) (c :: cs) = dropGroup (n + 1) cs := by
    intro n c cs hleft hright
    rw [dropGroup, if_neg hleft, if_neg hright]
  rw [hopen, read_balanced dropGroup (fun n => hopen (n + 1)) hclose hother inner.balanced, dropGroup,
    if_neg (by decide), if_pos rfl, if_pos (by omega)]

def OpensNoGroup (rest : List Char) : Prop := (rest.dropWhile Text.isBlank).head? ≠ some '('

theorem opensNoGroup_cons {c : Char} (hblank : Text.isBlank c = false) (hc : c ≠ '(')
    (rest : List Char) : OpensNoGroup (c :: rest) := by
  rw [OpensNoGroup, List.dropWhile_cons_of_neg (by simp [hblank])]
  simpa using hc

theorem opensNoGroup_identifier (w : Identifier) (rest : List Char) :
    OpensNoGroup (w.chars ++ rest) := by
  obtain ⟨c, cs, hcs⟩ := List.exists_cons_of_ne_nil w.ne_nil
  have hc : isIdentifierChar c = true := w.isIdentifierChar c (by simp [hcs])
  rw [hcs, List.cons_append]
  apply opensNoGroup_cons (isBlank_of_isIdentifierChar hc)
  exact ne_of_apply_ne isIdentifierChar (by rw [hc]; decide)

theorem dropWhile_blanks (b : Blanks) (rest : List Char) :
    (b.chars ++ rest).dropWhile Text.isBlank = rest.dropWhile Text.isBlank :=
  List.dropWhile_append_of_pos b.isBlank

theorem dropWhile_name (w : Identifier) (ws : List Identifier) {c : Char}
    (hc : isAnnotationChar c = false) (rest : List Char) :
    (dotted w ws ++ c :: rest).dropWhile isAnnotationChar = c :: rest := by
  rw [List.dropWhile_append_of_pos fun d hd => isAnnotationChar_of_mem_dotted hd,
    List.dropWhile_cons_of_neg (by simp [hc])]

theorem dropWhile_ending (w : Identifier) (ws : List Identifier) (e : AnnotationEnd)
    (rest : List Char) :
    (dotted w ws ++ (e.text ++ rest)).dropWhile isAnnotationChar = e.text ++ rest := by
  obtain ⟨c, cs, hcs, hc⟩ : ∃ c cs, e.text = c :: cs ∧ isAnnotationChar c = false := by
    cases e with
    | blanks gap ne_nil =>
      obtain ⟨c, cs, hcs⟩ := List.exists_cons_of_ne_nil ne_nil
      exact ⟨c, cs, hcs, isAnnotationChar_of_isBlank (gap.isBlank c (by simp [hcs]))⟩
    | arguments before inner after =>
      cases hbefore : before.chars with
      | nil => exact ⟨'(', _, by rw [AnnotationEnd.text, hbefore]; rfl, by decide⟩
      | cons c cs =>
        refine ⟨c, _, by rw [AnnotationEnd.text, hbefore]; rfl, ?_⟩
        exact isAnnotationChar_of_isBlank (before.isBlank c (by simp [hbefore]))
  rw [hcs, List.cons_append, dropWhile_name w ws hc]

theorem bare_annotation (a : AnnotationUse) {rest : List Char} (hrest : OpensNoGroup rest) :
    bare 0 (a.text ++ rest) = bare 0 rest := by
  have hskip : bare 0 (a.text ++ rest) = bare 0 (dropAnnotationText (dotted a.name a.members ++
      (a.ending.text ++ rest))) := by
    rw [AnnotationUse.text, List.cons_append, bare, if_neg (by decide), if_neg (by decide),
      if_neg (by omega), if_pos rfl, List.append_assoc]
  rw [hskip, dropAnnotationText, dropWhile_ending]
  cases a.ending with
  | blanks gap ne_nil =>
    rw [AnnotationEnd.text, dropWhile_blanks, if_neg hrest, bare_dropWhile_isBlank]
  | arguments before inner after =>
    have htext : (AnnotationEnd.arguments before inner after).text ++ rest =
        before.chars ++ '(' :: (inner.chars ++ ')' :: (after.chars ++ rest)) := by
      simp [AnnotationEnd.text]
    have hgroup : ∀ cs, ('(' :: cs).dropWhile Text.isBlank = '(' :: cs := by
      intro cs
      exact List.dropWhile_cons_of_neg (by decide)
    rw [htext, dropWhile_blanks, hgroup, if_pos List.head?_cons, dropGroup_nested, bare_blanks]

theorem opensNoGroup_annotations (as : List AnnotationUse) {rest : List Char}
    (hrest : OpensNoGroup rest) : OpensNoGroup (annotationsText as ++ rest) := by
  cases as with
  | nil => exact hrest
  | cons a as => exact opensNoGroup_cons (by decide) (by decide) _

theorem bare_annotations (as : List AnnotationUse) {rest : List Char} (hrest : OpensNoGroup rest) :
    bare 0 (annotationsText as ++ rest) = bare 0 rest := by
  induction as with
  | nil => rfl
  | cons a as ih =>
    rw [annotationsText, List.flatMap_cons, List.append_assoc, ← annotationsText,
      bare_annotation a (opensNoGroup_annotations as hrest), ih]

theorem bare_segment (s : Segment) (rest : List Char) :
    bare 0 (s.text ++ rest) = s.name.chars ++ bare 0 rest := by
  have hword : ∀ c ∈ s.name.chars, isWordChar c = true := by
    intro c hc
    exact isWordChar_of_isIdentifierChar (s.name.isIdentifierChar c hc)
  have hbehind : bare 0 (argumentsText s.arguments ++ (s.after.chars ++ rest)) = bare 0 rest := by
    cases s.arguments with
    | none => rw [argumentsText, List.nil_append, bare_blanks]
    | some inner =>
      rw [argumentsText, List.cons_append, List.append_assoc, List.singleton_append, bare_nested,
        bare_blanks]
  simp only [Segment.text, List.append_assoc]
  rw [bare_blanks, bare_annotations _ (opensNoGroup_identifier _ _), bare_word hword, bare_blanks,
    hbehind]

theorem bare_members (ss : List Segment) (rest : List Char) :
    bare 0 (ss.flatMap (fun s => '.' :: s.text) ++ rest) =
      ss.flatMap (fun s => '.' :: s.name.chars) ++ bare 0 rest := by
  induction ss with
  | nil => rfl
  | cons s ss ih =>
    rw [List.flatMap_cons, List.flatMap_cons, List.append_assoc, List.append_assoc, List.cons_append,
      List.cons_append, bare_cons_dot, bare_segment, ih]

theorem bare_dimension (d : Dimension) (rest : List Char) : bare 0 (d.text ++ rest) = bare 0 rest := by
  have hbracket : ∀ c ∈ ['[', ']'], ∀ cs, bare 0 (c :: cs) = bare 0 cs := by
    intro c hc cs
    rw [bare]
    simp only [List.mem_cons, List.not_mem_nil, or_false] at hc
    rcases hc with rfl | rfl <;> simp
  have hopens : ∀ cs, OpensNoGroup ('[' :: cs) := opensNoGroup_cons (by decide) (by decide)
  rw [Dimension.text, List.append_assoc, List.cons_append, bare_annotations _ (hopens _),
    hbracket '[' (by decide), List.append_assoc, bare_blanks, List.cons_append,
    hbracket ']' (by decide), bare_blanks]

theorem bare_dimensions (ds : List Dimension) (rest : List Char) :
    bare 0 (ds.flatMap Dimension.text ++ rest) = bare 0 rest := by
  induction ds with
  | nil => rfl
  | cons d ds ih => rw [List.flatMap_cons, List.append_assoc, bare_dimension, ih]

theorem bare_variadic (v : Variadic) : bare 0 v.text = ['.', '.', '.'] := by
  have hopens : ∀ cs, OpensNoGroup ('.' :: cs) := opensNoGroup_cons (by decide) (by decide)
  have hafter := bare_blanks v.after []
  rw [List.append_nil, bare] at hafter
  rw [Variadic.text, bare_annotations _ (hopens _), bare_cons_dot, bare_cons_dot, bare_cons_dot, hafter]

theorem toList_intercalate (w : Identifier) (ws : List Identifier) :
    (".".intercalate ((w :: ws).map fun v => String.ofList v.chars)).toList = dotted w ws := by
  induction ws generalizing w with
  | nil => simp [dotted]
  | cons v ws ih =>
    have hrest := ih v
    rw [List.map_cons] at hrest
    rw [List.map_cons, List.map_cons, String.intercalate_cons_cons, String.toList_append,
      String.toList_append, hrest, String.toList_ofList]
    simp [dotted]

theorem trimDots_append {cs dots : List Char} (h : IsDotted cs) (hdots : ∀ c ∈ dots, c = '.') :
    trimDots (cs ++ dots) = cs := by
  have hback : ((cs ++ dots).reverse.dropWhile (· == '.')) = cs.reverse.dropWhile (· == '.') := by
    rw [List.reverse_append]
    apply List.dropWhile_append_of_pos
    intro c hc
    simp [hdots c (List.mem_reverse.1 hc)]
  rw [trimDots, hback, ← trimDots, trimDots_of_isDotted h]

namespace WrittenType

variable (t : WrittenType)

theorem bare_text : ∃ dots, (∀ c ∈ dots, c = '.') ∧
    bare 0 t.text.toList = dotted t.first.name (t.members.map Segment.name) ++ dots := by
  refine ⟨if t.variadic.isSome then ['.', '.', '.'] else [], ?_, ?_⟩
  · intro c hc
    split at hc
    · simpa using hc
    · cases hc
  · have hend : bare 0 (t.variadic.elim [] Variadic.text) =
        if t.variadic.isSome then ['.', '.', '.'] else [] := by
      cases t.variadic with
      | none => rw [Option.elim_none, bare]; rfl
      | some v => exact bare_variadic v
    rw [text, String.toList_ofList, List.append_assoc, List.append_assoc, bare_segment, bare_members,
      bare_dimensions, hend, dotted, List.flatMap_map, List.append_assoc]

/-- The bare name of a written type is made of its identifiers; nothing else that is written is in it. -/
theorem normalize_text : normalize t.text = some t.bareName := by
  have hname : t.bareName.toList = dotted t.first.name (t.members.map Segment.name) := by
    rw [← toList_intercalate, bareName, List.map_cons, List.map_cons, List.map_map]
    rfl
  have hdotted : IsDotted t.bareName.toList := by
    apply isDotted_intercalate
    · exact List.cons_ne_nil _ _
    · intro w hw
      obtain ⟨s, -, rfl⟩ := List.mem_map.1 hw
      exact s.name.isWord
  obtain ⟨dots, hdots, hbare⟩ := t.bare_text
  have hne : t.bareName.toList.isEmpty = false := by
    obtain ⟨c, rest, hcs, -⟩ := hdotted.head
    simp [hcs]
  rw [normalize, hbare, ← hname, trimDots_append hdotted hdots]
  simp only [hne, Bool.false_eq_true, if_false, String.ofList_toList]

example :
    let size : AnnotationUse :=
      { name := { chars := "Size".toList }
        ending := .arguments { chars := [' '] } { chars := "max = f(3)".toList } {} }
    let a : AnnotationUse := { name := { chars := ['A'] }, ending := .blanks { chars := [' '] } }
    let t : WrittenType :=
      { first := { annotations := [size], name := { chars := "java".toList }, after := { chars := [' '] } }
        members := [
          { name := { chars := "Map".toList }, arguments := some { chars := "K, @B List<V>".toList } },
          { annotations := [a], name := { chars := "Entry".toList } }]
        dimensions := [{ annotations := [a] }]
        variadic := some {} }
    t.text = "@Size (max = f(3))java .Map<K, @B List<V>>.@A Entry@A []..." ∧
      t.bareName = "java.Map.Entry" := by
  decide

end WrittenType

end TypeName

end JavaMetrics

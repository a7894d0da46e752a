import JavaMetrics.Dict
import JavaMetrics.Path

set_option autoImplicit false

namespace JavaMetrics

namespace Text

theorem pieces_ne_nil (sep : Char) (cs : List Char) : pieces sep cs ≠ [] := by
  cases cs with
  | nil => simp [pieces]
  | cons c cs =>
    rw [pieces]
    split
    · exact List.cons_ne_nil _ _
    · split <;> exact List.cons_ne_nil _ _

theorem pieces_append (sep : Char) (xs ys : List Char) :
    pieces sep (xs ++ sep :: ys) = pieces sep xs ++ pieces sep ys := by
  induction xs with
  | nil => simp [pieces]
  | cons c cs ih =>
    by_cases hc : c = sep
    · simp [pieces, hc, ih]
    · rw [List.cons_append, pieces, if_neg hc, ih, pieces, if_neg hc]
      obtain ⟨p, ps, hps⟩ := List.exists_cons_of_ne_nil (pieces_ne_nil sep cs)
      rw [hps]
      rfl

theorem pieces_of_not_mem {sep : Char} {cs : List Char} (h : sep ∉ cs) : pieces sep cs = [cs] := by
  induction cs with
  | nil => rfl
  | cons c cs ih =>
    rw [List.mem_cons, not_or] at h
    rw [pieces, if_neg (Ne.symm h.1), ih h.2]

theorem not_mem_of_mem_pieces {sep : Char} {cs p : List Char} (h : p ∈ pieces sep cs) : sep ∉ p := by
  induction cs generalizing p with
  | nil => simp_all [pieces]
  | cons c cs ih =>
    obtain ⟨q, qs, hqs⟩ := List.exists_cons_of_ne_nil (pieces_ne_nil sep cs)
    rw [pieces, hqs] at h
    rw [hqs] at ih
    split at h
    · rcases List.mem_cons.1 h with rfl | h
      · exact List.not_mem_nil
      · exact ih h
    · rename_i hc
      rcases List.mem_cons.1 h with rfl | h
      · have hq : sep ∉ q := ih List.mem_cons_self
        simp [Ne.symm hc, hq]
      · exact ih (List.mem_cons_of_mem q h)

theorem split_append (a b : String) : split '/' (a ++ "/" ++ b) = split '/' a ++ split '/' b := by
  have htext : (a ++ "/" ++ b).toList = a.toList ++ '/' :: b.toList := by simp
  rw [split, htext, pieces_append, List.map_append]
  rfl

theorem split_of_not_mem {s : String} (h : '/' ∉ s.toList) : split '/' s = [s] := by
  rw [split, pieces_of_not_mem h, List.map_singleton, String.ofList_toList]

theorem not_mem_of_mem_split {s p : String} (h : p ∈ split '/' s) : '/' ∉ p.toList := by
  obtain ⟨cs, hcs, rfl⟩ := List.mem_map.1 h
  rw [String.toList_ofList]
  exact not_mem_of_mem_pieces hcs

theorem split_ne_nil (s : String) : split '/' s ≠ [] := by
  rw [split, Ne, List.map_eq_nil_iff]
  exact pieces_ne_nil '/' s.toList

theorem split_intercalate {names : List String} (hne : names ≠ [])
    (h : ∀ n ∈ names, '/' ∉ n.toList) : split '/' ("/".intercalate names) = names := by
  induction names with
  | nil => exact absurd rfl hne
  | cons n rest ih =>
    have hn : split '/' n = [n] := split_of_not_mem (h n List.mem_cons_self)
    cases rest with
    | nil => simpa using hn
    | cons m rest =>
      have hrest := ih (List.cons_ne_nil m rest) fun x hx => h x (List.mem_cons_of_mem n hx)
      rw [String.intercalate_cons_cons, split_append, hn, hrest, List.singleton_append]

theorem exists_append_of_endsWith {s back : String} (h : endsWith s back = true) :
    ∃ a, s = a ++ back := by
  obtain ⟨rest, hrest⟩ := List.isPrefixOf_iff_prefix.1 h
  have htext : s.toList = rest.reverse ++ back.toList := by
    have hlist := congrArg List.reverse hrest
    simpa using hlist.symm
  refine ⟨String.ofList rest.reverse, String.toList_inj.1 ?_⟩
  simp [htext]

theorem split_of_startsWith {p : String} (h : startsWith p "/" = true) :
    ∃ rest, split '/' p = "" :: rest := by
  obtain ⟨rest, hrest⟩ := List.isPrefixOf_iff_prefix.1 h
  have htext : p.toList = '/' :: rest := hrest.symm
  refine ⟨(pieces '/' rest).map String.ofList, ?_⟩
  rw [split, htext, pieces, if_pos rfl]
  rfl

theorem startsWith_append {a b front : String} (h : front.toList.length ≤ a.toList.length) :
    startsWith (a ++ b) front = startsWith a front := by
  rw [Bool.eq_iff_iff, startsWith, startsWith, List.isPrefixOf_iff_prefix, List.isPrefixOf_iff_prefix,
    String.toList_append]
  refine ⟨fun hprefix => ?_, fun hprefix => hprefix.trans (List.prefix_append _ _)⟩
  exact List.prefix_of_prefix_length_le hprefix (List.prefix_append _ _) h

end Text

namespace Path

def isName (n : String) : Bool := n != "" && n != "." && n != ".." && !n.toList.contains '/'

theorem not_mem_slash {n : String} (h : isName n = true) : '/' ∉ n.toList := by
  simp_all [isName]

/-- Pieces that count as components anywhere in a path. -/
def counts (c : String) : Bool := c != "" && c != "."

theorem counts_of_isName {n : String} (h : isName n = true) : counts n = true := by
  simp_all [isName, counts]

def ofPieces : Bool → List String → List String
  | true, pieces => "/" :: pieces.filter counts
  | false, "." :: rest => "." :: rest.filter counts
  | false, pieces => pieces.filter counts

theorem ofPieces_cons_of_ne {c : String} (h : c ≠ ".") (rest : List String) :
    ofPieces false (c :: rest) = (c :: rest).filter counts := by
  unfold ofPieces
  split
  · rename_i heq
    cases heq
  · rename_i heq
    exact absurd (List.cons.inj heq).1 h
  · rfl

theorem components_eq (p : String) :
    components p = ofPieces (Text.startsWith p "/") (Text.split '/' p) := by
  unfold components
  cases Text.startsWith p "/" with
  | true => rfl
  | false =>
    obtain ⟨x, xs, hxs⟩ := List.exists_cons_of_ne_nil (Text.split_ne_nil p)
    rw [if_neg Bool.false_ne_true, hxs]
    by_cases hx : x = "."
    · rw [hx]
      rfl
    · rw [ofPieces_cons_of_ne hx]
      split
      · rename_i heq
        exact absurd (List.cons.inj heq).1 hx
      · rfl

theorem slash_not_mem_components {p : String} (h : Text.startsWith p "/" = false) :
    "/" ∉ components p := by
  have hpieces : "/" ∉ Text.split '/' p := fun hmem => Text.not_mem_of_mem_split hmem (by decide)
  rw [components_eq, h]
  unfold ofPieces
  split
  · rename_i heq
    cases heq
  · rename_i rest _ heq
    rw [heq, List.mem_cons, not_or] at hpieces
    exact List.not_mem_cons_of_ne_of_not_mem (by decide) fun hmem =>
      hpieces.2 (List.mem_filter.1 hmem).1
  · exact fun hmem => hpieces (List.mem_filter.1 hmem).1

theorem ofPieces_append (absolute : Bool) {front : List String} (hne : front ≠ [])
    (names : List String) :
    ofPieces absolute (front ++ names) = ofPieces absolute front ++ names.filter counts := by
  cases absolute with
  | true => simp [ofPieces]
  | false =>
    obtain ⟨x, xs, rfl⟩ := List.exists_cons_of_ne_nil hne
    by_cases hx : x = "."
    · simp [ofPieces, hx]
    · rw [List.cons_append, ofPieces_cons_of_ne hx, ofPieces_cons_of_ne hx, ← List.cons_append,
        List.filter_append]

theorem exists_join_eq (root : String) (names : List String) : ∃ rest, join root names = root ++ rest := by
  unfold join
  split
  · exact ⟨"", by simp⟩
  · split
    · exact ⟨_, rfl⟩
    · exact ⟨_, String.append_assoc⟩

section Below

variable {root : String} {names : List String} (hroot : components root ≠ [])
  (hnames : ∀ n ∈ names, isName n = true)

include hroot in
theorem root_ne_empty : root ≠ "" := by
  rintro rfl
  exact hroot (by decide)

include hroot in
theorem startsWith_join : Text.startsWith (join root names) "/" = Text.startsWith root "/" := by
  obtain ⟨rest, hrest⟩ := exists_join_eq root names
  have hlength : "/".toList.length ≤ root.toList.length := by
    change 1 ≤ root.toList.length
    rw [Nat.one_le_iff_ne_zero, Ne, List.length_eq_zero_iff]
    intro hnil
    exact root_ne_empty hroot (String.toList_inj.1 hnil)
  rw [hrest, Text.startsWith_append hlength]

include hnames in
theorem filter_counts : names.filter counts = names :=
  List.filter_eq_self.2 fun n hn => counts_of_isName (hnames n hn)

include hnames in
/-- The pieces of a path are those of its root and the names. A separator at the end of the root leaves an empty
piece, which is no component and which joining takes away. -/
theorem split_join : ∃ front, front ≠ [] ∧ Text.split '/' (join root names) = front ++ names ∧
    components root = ofPieces (Text.startsWith root "/") front := by
  have hroot := components_eq root
  by_cases hempty : names = []
  · exact ⟨Text.split '/' root, Text.split_ne_nil root, by simp [hempty, join], hroot⟩
  have hsplit := Text.split_intercalate hempty fun n hn => not_mem_slash (hnames n hn)
  have hsome : ¬ names.isEmpty = true := by simpa using hempty
  by_cases hend : Text.endsWith root "/" = true
  · obtain ⟨a, rfl⟩ := Text.exists_append_of_endsWith hend
    have hslash : Text.split '/' (a ++ "/") = Text.split '/' a ++ [""] := by
      have hempty : Text.split '/' "" = [""] := by decide
      simpa [hempty] using Text.split_append a ""
    refine ⟨Text.split '/' a, Text.split_ne_nil a, ?_, ?_⟩
    · rw [join, if_neg hsome, if_pos hend, Text.split_append, hsplit]
    · have hblank : [""].filter counts = [] := by decide
      rw [hroot, hslash, ofPieces_append _ (Text.split_ne_nil a), hblank, List.append_nil]
  · refine ⟨Text.split '/' root, Text.split_ne_nil root, ?_, hroot⟩
    rw [join, if_neg hsome, if_neg hend, Text.split_append, hsplit]

include hroot hnames in
theorem components_join : components (join root names) = components root ++ names := by
  obtain ⟨front, hfront, hjoin, hbase⟩ := @split_join root _ hnames
  rw [components_eq, startsWith_join hroot, hjoin, ofPieces_append _ hfront, filter_counts hnames, hbase]

include hnames in
theorem not_endsWith_join (hne : names ≠ []) : Text.endsWith (join root names) "/" = false ∧
    Text.endsWith (join root names) "/." = false := by
  obtain ⟨front, -, hjoin, -⟩ := @split_join root _ hnames
  have hlast (back : String) (hback : isName back = false) (a : String)
      (h : Text.split '/' (join root names) = Text.split '/' a ++ [back]) : False := by
    obtain ⟨init, last, rfl⟩ := (List.eq_nil_or_concat names).resolve_left hne
    rw [hjoin, List.concat_eq_append, ← List.append_assoc] at h
    have hends : [last] = [back] := (List.append_inj' h rfl).2
    have hname := hnames last (by simp)
    rw [List.singleton_inj.1 hends, hback] at hname
    cases hname
  constructor
  · rw [← Bool.not_eq_true]
    intro hend
    obtain ⟨a, ha⟩ := Text.exists_append_of_endsWith hend
    refine hlast "" (by decide) a ?_
    have hempty : Text.split '/' "" = [""] := by decide
    simpa [ha, hempty] using Text.split_append a ""
  · rw [← Bool.not_eq_true]
    intro hend
    obtain ⟨a, ha⟩ := Text.exists_append_of_endsWith hend
    refine hlast "." (by decide) a ?_
    have hdot : Text.split '/' "." = ["."] := by decide
    have htext : a ++ "/." = a ++ "/" ++ "." := by rw [String.append_assoc]; rfl
    rw [ha, htext, Text.split_append, hdot]

end Below

theorem dropWhile_cons (c : String) (rest : List String) :
    (c :: rest).dropWhile (fun c => c == "" || c == ".") =
      if counts c then c :: rest else rest.dropWhile fun c => c == "" || c == "." := by
  have hcounts : counts c = !(c == "" || c == ".") := by
    simp [counts, bne]
  rw [List.dropWhile_cons, hcounts]
  cases (c == "" || c == ".") <;> rfl

theorem dropPieces_skip {c : String} (h : ¬ counts c = true) (base rest : List String) :
    dropPieces base (c :: rest) = dropPieces base rest := by
  cases base with
  | nil => rw [dropPieces, dropPieces, dropWhile_cons, if_neg h]
  | cons b base => rw [dropPieces, dropPieces, dropWhile_cons, if_neg h]

theorem dropPieces_take {c : String} (h : counts c = true) (b : String) (base rest : List String) :
    dropPieces (b :: base) (c :: rest) = dropPieces base rest := by
  rw [dropPieces, dropWhile_cons, if_pos h]
  rfl

theorem dropPieces_filter (front rest : List String) :
    dropPieces (front.filter counts) (front ++ rest) = dropPieces [] rest := by
  induction front with
  | nil => rfl
  | cons c front ih =>
    by_cases hc : counts c = true
    · rw [List.filter_cons_of_pos hc, List.cons_append, dropPieces_take hc, ih]
    · rw [List.filter_cons_of_neg hc, List.cons_append, dropPieces_skip hc, ih]

theorem dropPieces_nil {names : List String} (h : ∀ n ∈ names, counts n = true) :
    dropPieces [] names = names := by
  cases names with
  | nil => rfl
  | cons n names =>
    rw [dropPieces, dropWhile_cons, if_pos (h n List.mem_cons_self)]

theorem trimEnd_names {names : List String} (h : ∀ n ∈ names, counts n = true) :
    trimEnd names = names := by
  have hreverse : dropPieces [] names.reverse = names.reverse :=
    dropPieces_nil fun n hn => h n (List.mem_reverse.1 hn)
  rw [dropPieces] at hreverse
  rw [trimEnd, hreverse, List.reverse_reverse]

/-- What stands behind a root is what was joined to it. -/
theorem relativeTo_join {root : String} {names : List String} (hroot : components root ≠ [])
    (hnames : ∀ n ∈ names, isName n = true) :
    relativeTo root (join root names) = "/".intercalate names := by
  have hcounts : ∀ n ∈ names, counts n = true := fun n hn => counts_of_isName (hnames n hn)
  have hbelow : (components root).isPrefixOf (components (join root names)) = true := by
    rw [components_join hroot hnames, List.isPrefixOf_iff_prefix]
    exact List.prefix_append _ _
  obtain ⟨front, hfront, hjoin, hbase⟩ := split_join hnames
  have hrest (pieces : List String) :
      trimEnd (dropPieces (pieces.filter counts) (pieces ++ names)) = names := by
    rw [dropPieces_filter, dropPieces_nil hcounts, trimEnd_names hcounts]
  have hsome : (components root).isEmpty = false := by simpa using hroot
  rw [relativeTo, hsome, hbelow, hjoin]
  obtain ⟨x, xs, rfl⟩ := List.exists_cons_of_ne_nil hfront
  cases hstart : Text.startsWith root "/" with
  | true =>
    -- The piece in front of the first separator is empty.
    obtain ⟨rest, hsplit⟩ := Text.split_of_startsWith ((startsWith_join hroot).trans hstart)
    have hx : x = "" := (List.cons.inj (hjoin.symm.trans hsplit)).1
    have hblank : counts "" = false := by decide
    rw [hbase, hstart, hx]
    simp [ofPieces, hblank, hrest]
  | false =>
    rw [hstart] at hbase
    by_cases hx : x = "."
    · rw [hbase, hx]
      simp [ofPieces, hrest]
    · rw [ofPieces_cons_of_ne hx] at hbase
      obtain ⟨b, bs, hbs⟩ := List.exists_cons_of_ne_nil (hbase ▸ hroot)
      have hb := (List.mem_filter.1 (hbs ▸ List.mem_cons_self : b ∈ (x :: xs).filter counts)).2
      have hdot : b ≠ "." := by
        rintro rfl
        exact absurd hb (by decide)
      have hslash : b ≠ "/" := by
        rintro rfl
        exact slash_not_mem_components hstart (hbase.trans hbs ▸ List.mem_cons_self)
      have hfinal : trimEnd (dropPieces (b :: bs) (x :: (xs ++ names))) = names := by
        rw [← hbs]
        exact hrest (x :: xs)
      rw [hbase, hbs]
      simp [hdot, hslash, hfinal]

theorem notAfter_iff (xs ys : List String) : notAfter xs ys = true ↔ xs = ys ∨ xs < ys := by
  induction xs generalizing ys with
  | nil => cases ys <;> simp [notAfter]
  | cons a xs ih =>
    cases ys with
    | nil => simp [notAfter]
    | cons b ys =>
      simp only [notAfter, Bool.or_eq_true, Bool.and_eq_true, decide_eq_true_eq, beq_iff_eq, ih,
        List.cons.injEq, List.cons_lt_cons_iff]
      grind

theorem notAfter_trans (xs ys zs : List String) (h : notAfter xs ys = true)
    (h' : notAfter ys zs = true) : notAfter xs zs = true := by
  rw [notAfter_iff] at h h' ⊢
  rcases h with rfl | h
  · exact h'
  · rcases h' with rfl | h'
    · exact .inr h
    · exact .inr (List.lex_trans String.lt_trans h h')

theorem notAfter_total (xs ys : List String) : (notAfter xs ys || notAfter ys xs) = true := by
  induction xs generalizing ys with
  | nil => rfl
  | cons a xs ih =>
    cases ys with
    | nil => rfl
    | cons b ys =>
      rcases text_lt_or_eq_or_gt a b with hab | rfl | hba
      · simp [notAfter, hab]
      · simpa [notAfter, String.lt_irrefl] using ih ys
      · simp [notAfter, hba]

end Path

end JavaMetrics

import Mathlib.Data.List.Nodup
import JavaMetrics.Proofs.ByteOrder
import JavaMetrics.Report.Batch

set_option autoImplicit false

namespace JavaMetrics.Batch

/-- A class with its place in the batch comes before another: by the bytes of its path, and with one
path by its place. -/
def Before (a b : ClassFacts × Nat) : Prop :=
  Text.bytes a.1.path < Text.bytes b.1.path ∨ a.1.path = b.1.path ∧ a.2 < b.2

instance (a b : ClassFacts × Nat) : Decidable (Before a b) := inferInstanceAs (Decidable (_ ∨ _))

theorem before_iff (a b : ClassFacts × Nat) :
    Before a b ↔ a.1.path < b.1.path ∨ a.1.path = b.1.path ∧ a.2 < b.2 := by
  rw [Before, Text.bytes_lt_iff]

theorem Before.asymm {a b : ClassFacts × Nat} (h : Before a b) : ¬ Before b a := by
  rw [before_iff] at *
  rintro (h' | ⟨he, hb⟩)
  · rcases h with h | ⟨he, -⟩
    · exact String.lt_irrefl _ (String.lt_trans h h')
    · exact String.lt_irrefl _ (he ▸ h')
  · rcases h with h | ⟨-, ha⟩
    · exact String.lt_irrefl _ (he ▸ h)
    · omega

theorem Before.trans {a b c : ClassFacts × Nat} (hab : Before a b) (hbc : Before b c) :
    Before a c := by
  rw [before_iff] at *
  rcases hab with hab | ⟨hp, hab⟩
  · rcases hbc with hbc | ⟨hp, -⟩
    · exact .inl (String.lt_trans hab hbc)
    · exact .inl (hp ▸ hab)
  · rcases hbc with hbc | ⟨hp', hbc⟩
    · exact .inl (hp ▸ hbc)
    · exact .inr ⟨hp.trans hp', Nat.lt_trans hab hbc⟩

theorem Before.ne {a b : ClassFacts × Nat} (h : Before a b) : a ≠ b := by
  rintro rfl
  exact h.asymm h

theorem before_or_before {a b : ClassFacts × Nat} (h : a.2 ≠ b.2) : Before a b ∨ Before b a := by
  simp only [before_iff]
  rcases text_lt_or_eq_or_gt a.1.path b.1.path with hp | hp | hp
  · exact .inl (.inl hp)
  · rcases Nat.lt_or_gt_of_ne h with hn | hn
    · exact .inl (.inr ⟨hp, hn⟩)
    · exact .inr (.inr ⟨hp.symm, hn⟩)
  · exact .inr (.inl hp)

def notAfter (a b : ClassFacts) : Bool := decide (a.path ≤ b.path)

theorem notAfter_trans (a b c : ClassFacts) (hab : notAfter a b = true) (hbc : notAfter b c = true) :
    notAfter a c = true := by
  simp only [notAfter, decide_eq_true_eq] at *
  exact String.le_trans hab hbc

theorem notAfter_total (a b : ClassFacts) : (notAfter a b || notAfter b a) = true := by
  simp only [notAfter, Bool.or_eq_true, decide_eq_true_eq]
  exact String.le_total _ _

theorem inPathOrder_perm (us : List ClassFacts) : (inPathOrder us).Perm us :=
  List.mergeSort_perm us notAfter

theorem pairwise_inPathOrder (us : List ClassFacts) :
    (inPathOrder us).Pairwise fun a b => a.path ≤ b.path := by
  have h := List.pairwise_mergeSort notAfter_trans notAfter_total us
  exact h.imp fun hab => by simpa [notAfter] using hab

theorem inPathOrder_of_pairwise {us : List ClassFacts}
    (h : us.Pairwise fun a b => a.path ≤ b.path) : inPathOrder us = us :=
  List.mergeSort_of_pairwise (h.imp fun hab => by simpa using hab)

theorem zipIdx_place_inj {us : List ClassFacts} {a b : ClassFacts × Nat} (ha : a ∈ us.zipIdx)
    (hb : b ∈ us.zipIdx) (h : a.2 = b.2) : a = b := by
  have ha' := List.mk_mem_zipIdx_iff_getElem?.1 (show (a.1, a.2) ∈ us.zipIdx from ha)
  have hb' := List.mk_mem_zipIdx_iff_getElem?.1 (show (b.1, b.2) ∈ us.zipIdx from hb)
  rw [h, hb'] at ha'
  exact Prod.ext (Option.some.inj ha').symm h

theorem inPathOrder_eq_of_perm {us vs : List ClassFacts} (h : us.Perm vs)
    (hd : (us.map (·.path)).Nodup) : inPathOrder us = inPathOrder vs := by
  have hp : (inPathOrder us).Perm (inPathOrder vs) :=
    (inPathOrder_perm us).trans (h.trans (inPathOrder_perm vs).symm)
  refine hp.eq_of_pairwise ?_ (pairwise_inPathOrder us) (pairwise_inPathOrder vs)
  intro a b ha hb hab hba
  have ha' : a ∈ us := (inPathOrder_perm us).mem_iff.1 ha
  have hb' : b ∈ us := h.mem_iff.2 ((inPathOrder_perm vs).mem_iff.1 hb)
  exact List.inj_on_of_nodup_map hd ha' hb' (String.le_antisymm hab hba)

theorem inPathOrder_cons (a : ClassFacts) (us : List ClassFacts) :
    inPathOrder us =
        (inPathOrder us).filter (fun b => !notAfter a b) ++ (inPathOrder us).filter (notAfter a) ∧
      inPathOrder (a :: us) =
        (inPathOrder us).filter (fun b => !notAfter a b) ++
          a :: (inPathOrder us).filter (notAfter a) := by
  obtain ⟨front, back, hcons, hrest, hfront⟩ := List.mergeSort_cons notAfter_trans notAfter_total a us
  have hsorted := List.pairwise_mergeSort notAfter_trans notAfter_total (a :: us)
  rw [hcons] at hsorted
  have hback : ∀ b ∈ back, notAfter a b = true :=
    (List.pairwise_cons.1 (List.pairwise_append.1 hsorted).2.1).1
  have hbefore : (front ++ back).filter (fun b => !notAfter a b) = front := by
    rw [List.filter_append, List.filter_eq_self.2 hfront,
      List.filter_eq_nil_iff.2 fun b hb => by simp [hback b hb], List.append_nil]
  have hafter : (front ++ back).filter (notAfter a) = back := by
    rw [List.filter_append, List.filter_eq_self.2 hback,
      List.filter_eq_nil_iff.2 fun b hb => by simpa using hfront b hb, List.nil_append]
  have hus : inPathOrder us = front ++ back := hrest
  rw [hus, hbefore, hafter]
  exact ⟨rfl, hcons⟩

theorem before_of_notAfter {a b : ClassFacts × Nat} (h : notAfter a.1 b.1 = true)
    (hplace : a.2 < b.2) : Before a b := by
  have hle : a.1.path ≤ b.1.path := by simpa [notAfter] using h
  rcases before_or_before (Nat.ne_of_lt hplace) with hab | hba
  · exact hab
  · exfalso
    rcases (before_iff b a).1 hba with hlt | ⟨-, hlt⟩
    · exact String.not_lt.2 hle hlt
    · omega

theorem before_of_not_notAfter {a b : ClassFacts × Nat} (h : notAfter b.1 a.1 = false) :
    Before a b := by
  rw [before_iff]
  exact .inl (by simpa [notAfter] using h)

/-- Path order is the order of the classes with their places, whatever places they have as long as
these ascend. -/
theorem exists_ordered {qs : List (ClassFacts × Nat)} (h : qs.Pairwise fun a b => a.2 < b.2) :
    ∃ ps : List (ClassFacts × Nat),
      ps.map (·.1) = inPathOrder (qs.map (·.1)) ∧ ps.Perm qs ∧ ps.Pairwise Before := by
  induction qs with
  | nil => exact ⟨[], by simp [inPathOrder], .refl _, .nil⟩
  | cons q rest ih =>
    obtain ⟨hq, hrest⟩ := List.pairwise_cons.1 h
    obtain ⟨ps, hmap, hperm, hps⟩ := ih hrest
    -- The class goes between those with a smaller path and the others, whose places are larger.
    let after : ClassFacts × Nat → Bool := fun p => notAfter q.1 p.1
    have hfront : ∀ a ∈ ps.filter (!after ·), Before a q := fun a ha =>
      before_of_not_notAfter (by simpa using (List.mem_filter.1 ha).2)
    have hback : ∀ b ∈ ps.filter after, Before q b := fun b hb =>
      before_of_notAfter (List.mem_filter.1 hb).2 (hq b (hperm.mem_iff.1 (List.mem_filter.1 hb).1))
    refine ⟨ps.filter (!after ·) ++ q :: ps.filter after, ?_, ?_, ?_⟩
    · rw [List.map_cons, (inPathOrder_cons q.1 _).2, ← hmap, List.filter_map, List.filter_map,
        List.map_append, List.map_cons]
      rfl
    · have hsplit : (ps.filter (!after ·) ++ ps.filter after).Perm ps :=
        List.perm_append_comm.trans (List.filter_append_perm after ps)
      exact List.perm_middle.trans ((hsplit.trans hperm).cons q)
    · refine List.pairwise_append.2 ⟨hps.filter _, List.pairwise_cons.2 ⟨hback, hps.filter _⟩, ?_⟩
      intro a ha b hb
      rcases List.mem_cons.1 hb with rfl | hb
      · exact hfront a ha
      · exact (hfront a ha).trans (hback b hb)

theorem pairwise_zipIdx (us : List ClassFacts) : us.zipIdx.Pairwise fun a b => a.2 < b.2 := by
  rw [← List.pairwise_map (f := Prod.snd) (R := (· < ·)), List.zipIdx_map_snd]
  exact List.pairwise_lt_range'

theorem exists_placed (us : List ClassFacts) :
    ∃ ps : List (ClassFacts × Nat),
      ps.map (·.1) = inPathOrder us ∧ ps.Perm us.zipIdx ∧ ps.Pairwise Before := by
  have h := exists_ordered (pairwise_zipIdx us)
  rwa [List.zipIdx_map_fst] at h

theorem filter_inPathOrder (p : ClassFacts → Bool) (us : List ClassFacts) :
    (inPathOrder us).filter p = inPathOrder (us.filter p) := by
  induction us with
  | nil => simp [inPathOrder]
  | cons a rest ih =>
    obtain ⟨hrest, hcons⟩ := inPathOrder_cons a rest
    rw [hcons, List.filter_append, List.filter_cons, List.filter_cons]
    split
    · rw [(inPathOrder_cons a (rest.filter p)).2, ← ih, List.filter_filter, List.filter_filter,
        List.filter_filter, List.filter_filter]
      simp only [Bool.and_comm]
    · rw [← List.filter_append, ← hrest, ih]

theorem choose_cons_some {chosen us : List ClassFacts} {u first : ClassFacts}
    (h : chosen.find? (·.qualifiedName == u.qualifiedName) = some first) :
    choose chosen (u :: us) =
      ((choose chosen us).1, duplicate u first :: (choose chosen us).2) := by
  rw [choose, h]

theorem choose_cons_none {chosen us : List ClassFacts} {u : ClassFacts}
    (h : chosen.find? (·.qualifiedName == u.qualifiedName) = none) :
    choose chosen (u :: us) = choose (chosen ++ [u]) us := by
  rw [choose, h]

theorem find?_append_cons {chosen : List ClassFacts} {u first : ClassFacts}
    (h : chosen.find? (·.qualifiedName == u.qualifiedName) = some first) (us : List ClassFacts)
    (name : String) :
    (chosen ++ u :: us).find? (·.qualifiedName == name) =
      (chosen ++ us).find? (·.qualifiedName == name) := by
  rw [List.find?_append, List.find?_append, List.find?_cons]
  split
  · rename_i hu
    rw [← beq_iff_eq.1 hu, h]
    rfl
  · rfl

theorem find?_choose (chosen us : List ClassFacts) (name : String) :
    (choose chosen us).1.find? (·.qualifiedName == name) =
      (chosen ++ us).find? (·.qualifiedName == name) := by
  induction us generalizing chosen with
  | nil => simp [choose]
  | cons u rest ih =>
    cases h : chosen.find? (·.qualifiedName == u.qualifiedName) with
    | some first => rw [choose_cons_some h, ih, find?_append_cons h]
    | none => rw [choose_cons_none h, ih, List.append_assoc, List.singleton_append]

theorem nodup_names_choose (chosen us : List ClassFacts)
    (h : (chosen.map (·.qualifiedName)).Nodup) :
    ((choose chosen us).1.map (·.qualifiedName)).Nodup := by
  induction us generalizing chosen with
  | nil => exact h
  | cons u rest ih =>
    cases hu : chosen.find? (·.qualifiedName == u.qualifiedName) with
    | some first =>
      rw [choose_cons_some hu]
      exact ih chosen h
    | none =>
      rw [choose_cons_none hu]
      apply ih (chosen ++ [u])
      have hnew : u.qualifiedName ∉ chosen.map (·.qualifiedName) := by
        intro hm
        obtain ⟨c, hc, he⟩ := List.mem_map.1 hm
        exact List.find?_eq_none.1 hu c hc (beq_iff_eq.2 he)
      rw [List.map_append, List.nodup_append]
      refine ⟨h, by simp, ?_⟩
      intro a ha b hb hab
      rw [List.map_singleton, List.mem_singleton] at hb
      exact hnew (hb ▸ hab ▸ ha)

theorem choose_of_nodup (chosen us : List ClassFacts)
    (h : ((chosen ++ us).map (·.qualifiedName)).Nodup) : choose chosen us = (chosen ++ us, []) := by
  induction us generalizing chosen with
  | nil => rw [choose, List.append_nil]
  | cons u rest ih =>
    have hnew : chosen.find? (·.qualifiedName == u.qualifiedName) = none := by
      rw [List.find?_eq_none]
      intro c hc he
      rw [List.map_append, List.nodup_append] at h
      exact h.2.2 _ (List.mem_map_of_mem hc) _ List.mem_cons_self (beq_iff_eq.1 he)
    have happend : chosen ++ [u] ++ rest = chosen ++ u :: rest := by simp
    rw [choose_cons_none hnew, ih (chosen ++ [u]) (happend ▸ h), happend]

theorem choose_paths_perm (chosen us : List ClassFacts) :
    ((choose chosen us).1.map (·.path) ++ (choose chosen us).2.map (·.path)).Perm
      ((chosen ++ us).map (·.path)) := by
  induction us generalizing chosen with
  | nil => simp [choose]
  | cons u rest ih =>
    cases h : chosen.find? (·.qualifiedName == u.qualifiedName) with
    | some first =>
      rw [choose_cons_some h]
      have hmid : ((chosen ++ u :: rest).map (·.path)).Perm
          (u.path :: (chosen ++ rest).map (·.path)) := by
        simp
      exact List.perm_middle.trans (((ih chosen).cons u.path).trans hmid.symm)
    | none =>
      rw [choose_cons_none h]
      simpa using ih (chosen ++ [u])

theorem choose_length (chosen us : List ClassFacts) :
    (choose chosen us).1.length + (choose chosen us).2.length = chosen.length + us.length := by
  have h := (choose_paths_perm chosen us).length_eq
  simpa using h

theorem mem_failures_choose {chosen us : List ClassFacts} {f : FileFailure}
    (hf : f ∈ (choose chosen us).2) :
    ∃ u ∈ us, ∃ first ∈ chosen ++ us,
      first.qualifiedName = u.qualifiedName ∧ f = duplicate u first := by
  induction us generalizing chosen with
  | nil => cases hf
  | cons u rest ih =>
    cases h : chosen.find? (·.qualifiedName == u.qualifiedName) with
    | some first =>
      rw [choose_cons_some h] at hf
      rcases List.mem_cons.1 hf with rfl | hf
      · refine ⟨u, List.mem_cons_self, first, ?_, beq_iff_eq.1 (List.find?_some h :), rfl⟩
        exact List.mem_append_left _ (List.mem_of_find?_eq_some h)
      · obtain ⟨v, hv, w, hw, hvw⟩ := ih hf
        refine ⟨v, List.mem_cons_of_mem _ hv, w, ?_, hvw⟩
        exact ((List.sublist_cons_self u rest).append_left chosen).subset hw
    | none =>
      rw [choose_cons_none h] at hf
      obtain ⟨v, hv, w, hw, hvw⟩ := ih hf
      exact ⟨v, List.mem_cons_of_mem _ hv, w, by simpa using hw, hvw⟩

theorem choose_eq_nil_iff (us : List ClassFacts) : (choose [] us).1 = [] ↔ us = [] := by
  constructor
  · intro h
    cases us with
    | nil => rfl
    | cons u rest =>
      have hf := find?_choose [] (u :: rest) u.qualifiedName
      rw [h] at hf
      simp at hf
  · rintro rfl
    rfl

/-- A class at its place is the first of its name in a batch. -/
def IsFirst (us : List ClassFacts) (a : ClassFacts × Nat) : Prop :=
  a ∈ us.zipIdx ∧
    ∀ b ∈ us.zipIdx, b.1.qualifiedName = a.1.qualifiedName → b = a ∨ Before a b

instance (us : List ClassFacts) (a : ClassFacts × Nat) : Decidable (IsFirst us a) :=
  inferInstanceAs (Decidable (_ ∧ _))

theorem IsFirst.eq_of_name {us : List ClassFacts} {a b : ClassFacts × Nat} (ha : IsFirst us a)
    (hb : IsFirst us b) (h : a.1.qualifiedName = b.1.qualifiedName) : a = b := by
  rcases ha.2 b hb.1 h.symm with rfl | hab
  · rfl
  · rcases hb.2 a ha.1 h with rfl | hba
    · rfl
    · exact absurd hba hab.asymm

def Preceded (chosen : List ClassFacts) (ps : List (ClassFacts × Nat)) (p : ClassFacts × Nat) :
    Prop :=
  (∃ c ∈ chosen, c.qualifiedName = p.1.qualifiedName) ∨
    ∃ q ∈ ps, q.1.qualifiedName = p.1.qualifiedName ∧ Before q p

theorem not_preceded_head {chosen : List ClassFacts} {p : ClassFacts × Nat}
    {ps : List (ClassFacts × Nat)} (hps : (p :: ps).Pairwise Before)
    (h : chosen.find? (·.qualifiedName == p.1.qualifiedName) = none) :
    ¬ Preceded chosen (p :: ps) p := by
  rintro (⟨c, hc, he⟩ | ⟨r, hr, -, hb⟩)
  · exact List.find?_eq_none.1 h c hc (beq_iff_eq.2 he)
  · rcases List.mem_cons.1 hr with rfl | hr
    · exact hb.ne rfl
    · exact hb.asymm ((List.pairwise_cons.1 hps).1 r hr)

theorem preceded_cons_of_some {chosen : List ClassFacts} {p q : ClassFacts × Nat}
    {ps : List (ClassFacts × Nat)} (hp : ∃ c ∈ chosen, c.qualifiedName = p.1.qualifiedName) :
    Preceded chosen (p :: ps) q ↔ Preceded chosen ps q := by
  constructor
  · rintro (hc | ⟨r, hr, hname, hb⟩)
    · exact .inl hc
    · rcases List.mem_cons.1 hr with rfl | hr
      · obtain ⟨c, hc, he⟩ := hp
        exact .inl ⟨c, hc, he.trans hname⟩
      · exact .inr ⟨r, hr, hname, hb⟩
  · rintro (hc | ⟨r, hr, hb⟩)
    · exact .inl hc
    · exact .inr ⟨r, List.mem_cons_of_mem _ hr, hb⟩

theorem preceded_cons_of_none {chosen : List ClassFacts} {p q : ClassFacts × Nat}
    {ps : List (ClassFacts × Nat)} (hpq : Before p q) :
    Preceded chosen (p :: ps) q ↔ Preceded (chosen ++ [p.1]) ps q := by
  constructor
  · rintro (⟨c, hc, he⟩ | ⟨r, hr, hname, hb⟩)
    · exact .inl ⟨c, List.mem_append_left _ hc, he⟩
    · rcases List.mem_cons.1 hr with rfl | hr
      · exact .inl ⟨r.1, List.mem_append_right _ List.mem_cons_self, hname⟩
      · exact .inr ⟨r, hr, hname, hb⟩
  · rintro (⟨c, hc, he⟩ | ⟨r, hr, hb⟩)
    · rcases List.mem_append.1 hc with hc | hc
      · exact .inl ⟨c, hc, he⟩
      · rw [List.mem_singleton.1 hc] at he
        exact .inr ⟨p, List.mem_cons_self, he, hpq⟩
    · exact .inr ⟨r, List.mem_cons_of_mem _ hr, hb⟩

/-- What a failure says of the class at a place: its name was taken by the class found first. -/
def Rejects (us : List ClassFacts) (p : ClassFacts × Nat) (f : FileFailure) : Prop :=
  ∃ first, us.find? (·.qualifiedName == p.1.qualifiedName) = some first ∧ f = duplicate p.1 first

/-- The classes that are not chosen are those with a name that was taken; each gives one failure,
in their order. -/
theorem exists_rejected (chosen : List ClassFacts) {ps : List (ClassFacts × Nat)}
    (hps : ps.Pairwise Before) :
    ∃ others : List (ClassFacts × Nat), others.Sublist ps ∧
      (∀ p ∈ ps, p ∈ others ↔ Preceded chosen ps p) ∧
      List.Forall₂ (Rejects (chosen ++ ps.map (·.1))) others
        (choose chosen (ps.map (·.1))).2 := by
  induction ps generalizing chosen with
  | nil => exact ⟨[], .refl _, by simp, .nil⟩
  | cons p rest ih =>
    obtain ⟨hp, hrest⟩ := List.pairwise_cons.1 hps
    cases h : chosen.find? (·.qualifiedName == p.1.qualifiedName) with
    | some first =>
      obtain ⟨others, hsub, hmem, hfail⟩ := ih chosen hrest
      have htaken : ∃ c ∈ chosen, c.qualifiedName = p.1.qualifiedName :=
        ⟨first, List.mem_of_find?_eq_some h, beq_iff_eq.1 (List.find?_some h :)⟩
      refine ⟨p :: others, hsub.cons_cons p, ?_, ?_⟩
      · intro q hq
        rcases List.mem_cons.1 hq with rfl | hqr
        · exact iff_of_true List.mem_cons_self (.inl htaken)
        · rw [preceded_cons_of_some htaken, ← hmem q hqr, List.mem_cons]
          exact or_iff_right (hp q hqr).ne.symm
      · rw [List.map_cons, choose_cons_some h]
        refine .cons ⟨first, by rw [List.find?_append, h]; rfl, rfl⟩ (hfail.imp fun q f hqf => ?_)
        obtain ⟨w, hw, hf⟩ := hqf
        exact ⟨w, by rw [find?_append_cons h, hw], hf⟩
    | none =>
      obtain ⟨others, hsub, hmem, hfail⟩ := ih (chosen ++ [p.1]) hrest
      refine ⟨others, hsub.cons p, ?_, ?_⟩
      · intro q hq
        rcases List.mem_cons.1 hq with rfl | hqr
        · exact iff_of_false (fun hm => (hp q (hsub.subset hm)).ne rfl) (not_preceded_head hps h)
        · rw [preceded_cons_of_none (hp q hqr), hmem q hqr]
      · rw [List.map_cons, choose_cons_none h]
        simpa using hfail

/-- Classes with a name that was taken may be left out. -/
theorem choose_filter (keep : ClassFacts × Nat → Bool) (chosen : List ClassFacts)
    {ps : List (ClassFacts × Nat)} (hps : ps.Pairwise Before)
    (h : ∀ p ∈ ps, keep p = false → Preceded chosen ps p) :
    (choose chosen ((ps.filter keep).map (·.1))).1 = (choose chosen (ps.map (·.1))).1 := by
  induction ps generalizing chosen with
  | nil => rfl
  | cons p rest ih =>
    obtain ⟨hp, hrest⟩ := List.pairwise_cons.1 hps
    cases hfind : chosen.find? (·.qualifiedName == p.1.qualifiedName) with
    | some first =>
      have htaken : ∃ c ∈ chosen, c.qualifiedName = p.1.qualifiedName :=
        ⟨first, List.mem_of_find?_eq_some hfind, beq_iff_eq.1 (List.find?_some hfind :)⟩
      have hih := ih chosen hrest fun q hq hkeep =>
        (preceded_cons_of_some htaken).1 (h q (List.mem_cons_of_mem p hq) hkeep)
      rw [List.map_cons, choose_cons_some hfind, List.filter_cons]
      split
      · rw [List.map_cons, choose_cons_some hfind, hih]
      · exact hih
    | none =>
      -- The class is the first of its name, so it is kept.
      have hkeep : keep p = true := by
        by_contra hdrop
        exact not_preceded_head hps hfind (h p List.mem_cons_self (by simpa using hdrop))
      rw [List.filter_cons_of_pos hkeep, List.map_cons, List.map_cons, choose_cons_none hfind,
        choose_cons_none hfind]
      exact ih _ hrest fun q hq hdrop =>
        (preceded_cons_of_none (hp q hq)).1 (h q (List.mem_cons_of_mem p hq) hdrop)

theorem preceded_iff_not_isFirst {us : List ClassFacts} {ps : List (ClassFacts × Nat)}
    (hperm : ps.Perm us.zipIdx) {p : ClassFacts × Nat} (hp : p ∈ ps) :
    Preceded [] ps p ↔ ¬ IsFirst us p := by
  constructor
  · rintro (⟨c, hc, -⟩ | ⟨q, hq, hname, hb⟩) ⟨-, hfirst⟩
    · cases hc
    · rcases hfirst q (hperm.mem_iff.1 hq) hname with rfl | hb'
      · exact hb.ne rfl
      · exact hb.asymm hb'
  · intro hnot
    by_contra hprec
    refine hnot ⟨hperm.mem_iff.1 hp, fun b hb hname => ?_⟩
    by_cases hplace : b.2 = p.2
    · exact .inl (zipIdx_place_inj hb (hperm.mem_iff.1 hp) hplace)
    · rcases before_or_before hplace with hbp | hpb
      · exact absurd (.inr ⟨b, hperm.mem_iff.2 hb, hname, hbp⟩) hprec
      · exact .inr hpb

theorem isFirst_of_find? {us : List ClassFacts} {name : String} {w : ClassFacts}
    (h : (inPathOrder us).find? (·.qualifiedName == name) = some w) :
    w.qualifiedName = name ∧ ∃ place, IsFirst us (w, place) := by
  obtain ⟨ps, hmap, hperm, hps⟩ := exists_placed us
  rw [← hmap, List.find?_map] at h
  obtain ⟨q, hq, rfl⟩ := Option.map_eq_some_iff.1 h
  obtain ⟨hname, front, back, rfl, hfront⟩ := List.find?_eq_some_iff_append.1 hq
  have hname' : q.1.qualifiedName = name := by simpa using hname
  refine ⟨hname', q.2, hperm.mem_iff.1 (by simp), fun b hb hbname => ?_⟩
  have hb' := hperm.mem_iff.2 hb
  rcases List.mem_append.1 hb' with hbf | hbq
  · have := hfront b hbf
    simp [hbname, hname'] at this
  · rcases List.mem_cons.1 hbq with rfl | hback
    · exact .inl rfl
    · exact .inr ((List.pairwise_cons.1 (List.pairwise_append.1 hps).2.1).1 b hback)

theorem exists_find?_of_mem {us : List ClassFacts} {u : ClassFacts} (h : u ∈ us) :
    ∃ w, us.find? (·.qualifiedName == u.qualifiedName) = some w ∧
      w.qualifiedName = u.qualifiedName := by
  have hsome : (us.find? (·.qualifiedName == u.qualifiedName)).isSome = true :=
    List.find?_isSome.2 ⟨u, h, beq_self_eq_true _⟩
  obtain ⟨w, hw⟩ := Option.isSome_iff_exists.1 hsome
  exact ⟨w, hw, beq_iff_eq.1 (List.find?_some hw :)⟩

theorem mem_choose_iff (us : List ClassFacts) (u : ClassFacts) :
    u ∈ (choose [] us).1 ↔ us.find? (·.qualifiedName == u.qualifiedName) = some u := by
  have hfind := find?_choose [] us u.qualifiedName
  rw [List.nil_append] at hfind
  rw [← hfind]
  refine ⟨fun hu => ?_, List.mem_of_find?_eq_some⟩
  obtain ⟨w, hw, hname⟩ := exists_find?_of_mem hu
  have hnodup := nodup_names_choose [] us List.nodup_nil
  rw [hw, List.inj_on_of_nodup_map hnodup (List.mem_of_find?_eq_some hw) hu hname]

/-- The chosen classes are the first of their names. -/
theorem mem_choose_iff_isFirst (us : List ClassFacts) (u : ClassFacts) :
    u ∈ (choose [] (inPathOrder us)).1 ↔ ∃ place, IsFirst us (u, place) := by
  rw [mem_choose_iff]
  refine ⟨fun h => (isFirst_of_find? h).2, ?_⟩
  rintro ⟨place, hu⟩
  have hmem : u ∈ inPathOrder us :=
    (inPathOrder_perm us).mem_iff.2 (List.fst_mem_of_mem_zipIdx hu.1)
  obtain ⟨w, hw, hname⟩ := exists_find?_of_mem hmem
  obtain ⟨-, place', hfirst⟩ := isFirst_of_find? hw
  obtain rfl : w = u := congrArg Prod.fst (hfirst.eq_of_name hu hname)
  exact hw

end JavaMetrics.Batch

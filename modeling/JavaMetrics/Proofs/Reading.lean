import JavaMetrics.Json.Members
import JavaMetrics.Proofs.Dict

set_option autoImplicit false

namespace JavaMetrics.Json

variable {α β : Type}

/-- The reader gives back a value from its written form. -/
def ReadsBack (enc : α → Json) (dec : Json → Option α) (a : α) : Prop := dec (enc a) = some a

theorem readsBack_text (s : String) : ReadsBack str toText? s := rfl

theorem readsBack_bool (b : Bool) : ReadsBack bool toBool? b := rfl

theorem readsBack_nat {n : Nat} (h : n < wordLimit) : ReadsBack nat toNat? n := if_pos h

theorem readsBack_float {f : Float} (h : f.isFinite = true) : ReadsBack ofFloat toFloat? f := by
  rw [ReadsBack, ofFloat, if_pos h, toFloat?]

theorem readsBack_choice {text : α → String} {ofText? : String → Option α}
    (h : ∀ a, ofText? (text a) = some a) (a : α) :
    ReadsBack (fun a => str (text a)) (toChoice? ofText?) a :=
  h a

section Parts

variable {enc : α → Json} {dec : Json → Option α}

theorem mapM_map {γ : Type} {f : α → γ} {g : γ → Option α} {xs : List α}
    (h : ∀ a ∈ xs, g (f a) = some a) : (xs.map f).mapM g = some xs := by
  induction xs with
  | nil => rfl
  | cons x rest ih =>
    have hrest := ih fun a ha => h a (List.mem_cons_of_mem x ha)
    rw [List.map_cons, List.mapM_cons, h x List.mem_cons_self, hrest]
    rfl

theorem readsBack_list {xs : List α} (h : ∀ a ∈ xs, ReadsBack enc dec a) :
    ReadsBack (ofList enc) (toList? dec) xs :=
  mapM_map h

theorem readsBack_texts (xs : List String) : ReadsBack strs (toList? toText?) xs :=
  readsBack_list fun s _ => readsBack_text s

theorem toOption?_of_ne_null {j : Json} (h : j ≠ null) : toOption? dec j = (dec j).map some := by
  cases j with
  | null => exact absurd rfl h
  | _ => rfl

theorem readsBack_option {o : Option α} (hnull : ∀ a, enc a ≠ null)
    (h : ∀ a ∈ o, ReadsBack enc dec a) : ReadsBack (ofOption enc) (toOption? dec) o := by
  cases o with
  | none => rfl
  | some a =>
    have ha : dec (enc a) = some a := h a rfl
    change toOption? dec (enc a) = some (some a)
    rw [toOption?_of_ne_null (hnull a), ha]
    rfl

theorem readsBack_dict {d : Dict α} (h : ∀ v ∈ d.values, ReadsBack enc dec v) :
    ReadsBack (ofDict enc) (toDict? dec) d := by
  have hentries : (d.entries.map fun e => (e.1, enc e.2)).mapM
      (fun f => (dec f.2).map (f.1, ·)) = some d.entries := by
    refine mapM_map fun e he => ?_
    have hvalue : dec (enc e.2) = some e.2 := h e.2 (List.mem_map_of_mem he)
    rw [hvalue]
    rfl
  change Option.map Dict.ofList _ = some d
  rw [hentries, Option.map_some, Dict.ofList_entries]

end Parts

namespace Members

/-- A reader takes a value from named members. -/
def Yields (fields : List (String × Json)) (r : Reader α) (a : α) : Prop :=
  r (.named fields) = some (a, .named fields)

variable {fields : List (String × Json)} {k : String} {j : Json} {dec : Json → Option α} {a : α}

theorem Yields.pure (a : α) : Yields fields (pure a) a := rfl

theorem Yields.bind {r : Reader α} {f : α → Reader β} {b : β} (h : Yields fields r a)
    (hf : Yields fields (f a) b) : Yields fields (r >>= f) b := by
  change Option.bind (r (.named fields)) (fun x => f x.1 x.2) = _
  rw [h]
  exact hf

theorem Yields.take (k : String) : Yields fields (take? k) (fields.lookup k) := rfl

theorem Yields.lift {o : Option α} (h : o = some a) : Yields fields (liftM o) a := by
  rw [h]
  rfl

theorem Yields.required (hk : fields.lookup k = some j) (hj : dec j = some a) :
    Yields fields (required k dec) a := by
  refine .bind (.take k) ?_
  rw [hk]
  exact .lift hj

/-- A member that is there is read whatever stands for its absence. -/
theorem Yields.present {default : α} (hk : fields.lookup k = some j) (hj : dec j = some a) :
    Yields fields (orElse k dec default) a := by
  refine .bind (.take k) ?_
  rw [hk]
  exact .lift hj

theorem Yields.absent {default : α} (hk : fields.lookup k = none) :
    Yields fields (orElse k dec default) default := by
  refine .bind (.take k) ?_
  rw [hk]
  exact .pure default

theorem Yields.optional {o : Option α} (hk : fields.lookup k = some j)
    (hj : toOption? dec j = some o) : Yields fields (optional k dec) o :=
  Yields.present hk hj

theorem Yields.value {enc : α → Json} {o : Option α} (hnull : ∀ a, enc a ≠ null)
    (hk : fields.lookup k = o.map enc) (h : ∀ a ∈ o, ReadsBack enc dec a) :
    Yields fields (orElse k (toOption? dec) none) o := by
  have ho := readsBack_option hnull h
  cases o with
  | none => exact .absent hk
  | some a => exact .present hk ho

theorem Yields.list {enc : α → Json} {xs : List α}
    (hk : fields.lookup k = if xs.isEmpty then none else some (ofList enc xs))
    (h : ∀ a ∈ xs, ReadsBack enc dec a) : Yields fields (orElse k (toList? dec) []) xs := by
  cases xs with
  | nil => exact .absent hk
  | cons x rest => exact .present hk (readsBack_list h)

end Members

theorem toRecord?_obj {fields : List (String × Json)} {r : Members.Reader α} {a : α}
    (h : Members.Yields fields r a) : toRecord? r (obj fields) = some a := by
  have hrun : StateT.run r (.named fields) = some (a, .named fields) := h
  change Members.run? r (.named fields) = some a
  rw [Members.run?, hrun]
  rfl

end JavaMetrics.Json

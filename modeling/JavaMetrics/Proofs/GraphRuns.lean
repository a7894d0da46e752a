import Mathlib.Algebra.BigOperators.Ring.Finset
import Mathlib.Data.List.Perm.Subperm
import JavaMetrics.Proofs.ClassGraph

set_option autoImplicit false

namespace JavaMetrics

theorem sum_length_filter {α : Type} (key : α → String) (names : Finset String) (xs : List α)
    (h : ∀ x ∈ xs, key x ∈ names) :
    ∑ n ∈ names, (xs.filter (key · == n)).length = xs.length := by
  induction xs with
  | nil => simp
  | cons x rest ih =>
    have hx : key x ∈ names := h x List.mem_cons_self
    have hrest := ih fun y hy => h y (List.mem_cons_of_mem x hy)
    have hcons : ∀ n, ((x :: rest).filter (key · == n)).length =
        (if key x = n then 1 else 0) + (rest.filter (key · == n)).length := by
      intro n
      by_cases hn : key x = n
      · rw [if_pos hn, List.filter_cons_of_pos (by simpa using hn), List.length_cons, Nat.add_comm]
      · rw [if_neg hn, List.filter_cons_of_neg (by simpa using hn), Nat.zero_add]
    simp only [hcons]
    rw [Finset.sum_add_distrib, hrest, Finset.sum_ite_eq, if_pos hx, List.length_cons, Nat.add_comm]

namespace ClassGraph

def request (g : ClassGraph) (e : String × String) : Bool × ClassGraph :=
  (g.admits e.1 e.2, g.add e.1 e.2)

def after (g : ClassGraph) : List (String × String) → ClassGraph
  | [] => g
  | e :: rest => (g.request e).2.after rest

/-- The requests of a sequence that are accepted, in their order. -/
def accepted (g : ClassGraph) : List (String × String) → List (String × String)
  | [] => []
  | e :: rest =>
    if (g.request e).1 then e :: (g.request e).2.accepted rest else (g.request e).2.accepted rest

theorem request_cases (g : ClassGraph) (e : String × String) :
    ((g.request e).1 = true ∧ e.1 ∈ g.classes ∧ e.2 ∈ g.classes ∧ e.1 ≠ e.2 ∧ e ∉ g.edges ∧
      (g.request e).2 = { g with edges := g.edges ++ [e] }) ∨
    ((g.request e).1 = false ∧ (g.request e).2 = g) := by
  cases h : g.admits e.1 e.2 with
  | true =>
    obtain ⟨ha, hb, hne, hnew⟩ := (g.admits_iff e.1 e.2).1 h
    refine .inl ⟨h, (g.contains_iff _).1 ha, (g.contains_iff _).1 hb, hne, hnew, ?_⟩
    rw [request, add, if_pos h]
  | false =>
    refine .inr ⟨h, ?_⟩
    rw [request, add, h, if_neg Bool.false_ne_true]

theorem classes_after (g : ClassGraph) (requests : List (String × String)) :
    (g.after requests).classes = g.classes := by
  induction requests generalizing g with
  | nil => rfl
  | cons e rest ih => exact (ih _).trans (g.add_classes e.1 e.2)

theorem edges_after (g : ClassGraph) (requests : List (String × String)) :
    (g.after requests).edges = g.edges ++ g.accepted requests := by
  induction requests generalizing g with
  | nil => simp [after, accepted]
  | cons e rest ih =>
    rw [after, accepted, ih]
    rcases g.request_cases e with ⟨hyes, -, -, -, -, hg⟩ | ⟨hno, hg⟩
    · rw [hyes, if_pos rfl, hg, List.append_assoc]
      rfl
    · rw [hno, if_neg Bool.false_ne_true, hg]

theorem Simple.after {g : ClassGraph} (h : g.Simple) (requests : List (String × String)) :
    (g.after requests).Simple := by
  induction requests generalizing g with
  | nil => exact h
  | cons e rest ih => exact ih (h.add e.1 e.2)

theorem neighbours_perm (g : ClassGraph) (near far : String × String → String) (n : String) :
    (g.neighbours near far n).Perm ((g.edges.filter (near · == n)).map far) :=
  List.mergeSort_perm _ _

theorem length_neighbours (g : ClassGraph) (near far : String × String → String) (n : String) :
    (g.neighbours near far n).length = (g.edges.filter (near · == n)).length := by
  rw [(g.neighbours_perm near far n).length_eq, List.length_map]

namespace Simple

variable {g : ClassGraph} (h : g.Simple)

include h

theorem sum_outDegree : ∑ n ∈ g.classes.toFinset, g.outDegree n = g.edgeCount := by
  simp only [outDegree, outgoing, length_neighbours]
  exact sum_length_filter (·.1) _ g.edges fun e he => List.mem_toFinset.2 (h.joins e he).1

theorem sum_inDegree : ∑ n ∈ g.classes.toFinset, g.inDegree n = g.edgeCount := by
  simp only [inDegree, incoming, length_neighbours]
  exact sum_length_filter (·.2) _ g.edges fun e he => List.mem_toFinset.2 (h.joins e he).2.1

theorem length_neighbours_le {a : String} (ha : a ∈ g.classes) {names : List String}
    (hn : names.Pairwise (· < ·)) (hother : ∀ b ∈ names, b ∈ g.classes ∧ b ≠ a) :
    names.length ≤ g.classCount - 1 := by
  have hsub : names ⊆ g.classes.erase a := fun b hb =>
    (h.nodup_classes.mem_erase_iff).2 (hother b hb).symm
  have hle := (List.subperm_of_subset (nodup_of_pairwise_lt hn) hsub).length_le
  rwa [List.length_erase_of_mem ha] at hle

theorem degrees_le {a : String} (ha : a ∈ g.classes) :
    g.inDegree a + g.outDegree a ≤ 2 * (g.classCount - 1) := by
  have hin : g.inDegree a ≤ g.classCount - 1 := by
    refine h.length_neighbours_le ha (h.pairwise_incoming a) fun b hb => ?_
    have hjoins := h.joins _ ((g.mem_incoming b a).1 hb)
    exact ⟨hjoins.1, hjoins.2.2⟩
  have hout : g.outDegree a ≤ g.classCount - 1 := by
    refine h.length_neighbours_le ha (h.pairwise_outgoing a) fun b hb => ?_
    have hjoins := h.joins _ ((g.mem_outgoing a b).1 hb)
    exact ⟨hjoins.2.1, hjoins.2.2.symm⟩
  omega

end Simple

theorem toFinset_classes_ofNames (names : List String) :
    (ofNames names).classes.toFinset = names.toFinset := by
  ext n
  rw [List.mem_toFinset, List.mem_toFinset, ← contains_iff, contains_ofNames]

/-- A graph over some names that shows the accepted requests and nothing else. -/
structure Records (names : List String) (accepted : List (String × String)) (g : ClassGraph) :
    Prop where
  vertices : g.classCount = names.toFinset.card
  edges : g.edgeCount = accepted.length
  answer : ∀ a b, (g.request (a, b)).1 = true ↔
    a ∈ names ∧ b ∈ names ∧ a ≠ b ∧ (a, b) ∉ accepted
  refusal : ∀ a b, (g.request (a, b)).1 = false → (g.request (a, b)).2 = g
  outgoing : ∀ a, (g.outgoing a).Pairwise (· < ·) ∧ (∀ b, b ∈ g.outgoing a ↔ (a, b) ∈ accepted) ∧
    (g.outgoing a).Perm ((accepted.filter (·.1 == a)).map (·.2))
  incoming : ∀ b, (g.incoming b).Pairwise (· < ·) ∧ (∀ a, a ∈ g.incoming b ↔ (a, b) ∈ accepted) ∧
    (g.incoming b).Perm ((accepted.filter (·.2 == b)).map (·.1))
  outDegrees : ∑ n ∈ names.toFinset, g.outDegree n = g.edgeCount
  inDegrees : ∑ n ∈ names.toFinset, g.inDegree n = g.edgeCount
  degrees : ∀ n ∈ names, g.inDegree n + g.outDegree n ≤ 2 * (g.classCount - 1)

theorem Simple.records {g : ClassGraph} (h : g.Simple) {names : List String}
    (hvertices : g.classes.toFinset = names.toFinset) : g.Records names g.edges := by
  have hmem : ∀ n, n ∈ g.classes ↔ n ∈ names := fun n => by
    rw [← List.mem_toFinset, hvertices, List.mem_toFinset]
  constructor
  case vertices => rw [classCount, ← hvertices, List.toFinset_card_of_nodup h.nodup_classes]
  case edges => rfl
  case answer =>
    intro a b
    change g.admits a b = true ↔ _
    rw [admits_iff, contains_iff, contains_iff, hmem, hmem]
  case refusal =>
    intro a b hno
    rcases g.request_cases (a, b) with ⟨hyes, -⟩ | ⟨-, hg⟩
    · rw [hyes] at hno
      cases hno
    · exact hg
  case outgoing => exact fun a => ⟨h.pairwise_outgoing a, g.mem_outgoing a, g.neighbours_perm _ _ a⟩
  case incoming => exact fun b => ⟨h.pairwise_incoming b, (g.mem_incoming · b), g.neighbours_perm _ _ b⟩
  case outDegrees =>
    rw [← hvertices]
    exact h.sum_outDegree
  case inDegrees =>
    rw [← hvertices]
    exact h.sum_inDegree
  case degrees => exact fun n hn => h.degrees_le ((hmem n).2 hn)

/-- Whatever is requested, the graph records the requests that it accepted. -/
theorem requests_keep_simple (names : List String) (requests : List (String × String)) :
    ((ofNames names).after requests).Records names ((ofNames names).accepted requests) := by
  have hvertices : ((ofNames names).after requests).classes.toFinset = names.toFinset := by
    rw [classes_after, toFinset_classes_ofNames]
  have hedges : ((ofNames names).after requests).edges = (ofNames names).accepted requests :=
    edges_after _ requests
  rw [← hedges]
  exact ((simple_ofNames names).after requests).records hvertices

namespace Sample

def requests : List (String × String) :=
  [("a", "b"), ("a", "b"), ("a", "a"), ("a", "z"), ("b", "a")]

end Sample

/-- Of five requests the first and the last are accepted: the others repeat one, join a class to
itself or name a class that is not there. -/
theorem requests_keep_simple_pair :
    (ofNames ["a", "b", "a"]).accepted Sample.requests = [("a", "b"), ("b", "a")] ∧
    ((ofNames ["a", "b", "a"]).after Sample.requests).edgeCount = 2 ∧
    (((ofNames ["a", "b", "a"]).after Sample.requests).request ("b", "a")).1 = false ∧
    ((ofNames ["a", "b", "a"]).after Sample.requests).inDegree "a" +
      ((ofNames ["a", "b", "a"]).after Sample.requests).outDegree "a" ≤ 2 := by
  have haccepted : (ofNames ["a", "b", "a"]).accepted Sample.requests = [("a", "b"), ("b", "a")] := by
    decide
  have hrecords := requests_keep_simple ["a", "b", "a"] Sample.requests
  have hdegrees := hrecords.degrees "a" (by decide)
  rw [hrecords.vertices] at hdegrees
  refine ⟨haccepted, hrecords.edges.trans (congrArg List.length haccepted), ?_, hdegrees⟩
  rw [← Bool.not_eq_true, hrecords.answer, haccepted]
  decide

end ClassGraph

end JavaMetrics

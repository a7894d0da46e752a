import JavaMetrics.Facts.Collect

set_option autoImplicit false

namespace JavaMetrics

structure Level where
  node : Node
  named : Bool
  rest : List Node

/-- A place in a tree: the levels from a node up to the root of the walk. What stands around that root
can be asked for but not reached. -/
structure Cursor where
  outside : Option Node
  level : Level
  above : List Level

namespace Cursor

def top (outside : Option Node) (root : Node) : Cursor := ⟨outside, ⟨root, true, []⟩, []⟩

def parent (c : Cursor) : Option Node :=
  match c.above with
  | [] => c.outside
  | l :: _ => some l.node

def leads (c : Cursor) : Bool := c.level.node.kind.isNamed && !c.level.named

def firstChild? (c : Cursor) : Option Cursor :=
  match c.level.node.children with
  | [] => none
  | n :: ns => some ⟨c.outside, ⟨n, false, ns⟩, c.level :: c.above⟩

def nextSibling? (c : Cursor) : Option Cursor :=
  match c.above, c.level.rest with
  | _ :: _, n :: ns => some { c with level := ⟨n, c.level.named || c.level.node.kind.isNamed, ns⟩ }
  | _, _ => none

def leave (c : Cursor) (depth : Nat) : Option (Cursor × Nat) :=
  match c.nextSibling? with
  | some d => some (d, depth)
  | none =>
    match c with
    | ⟨_, _, []⟩ => none
    | ⟨outside, _, l :: ls⟩ => leave ⟨outside, l, ls⟩ (depth - 1)
termination_by c.above.length

def next? (c : Cursor) (depth : Nat) : Option (Cursor × Nat) :=
  match c.firstChild? with
  | some d => some (d, depth + 1)
  | none => c.leave depth

def behind : Level → List Level → List Visit
  | _, [] => []
  | l, p :: ls =>
    Node.visitsAll (ls.length + 1) p.node (l.named || l.node.kind.isNamed) l.rest ++ behind p ls

def ahead (c : Cursor) : List Visit :=
  c.level.node.visits c.above.length c.parent c.leads ++ behind c.level c.above

theorem leave_of_sibling {c d : Cursor} (h : c.nextSibling? = some d) (depth : Nat) :
    c.leave depth = some (d, depth) := by
  rw [leave.eq_def, h]

theorem leave_up (outside : Option Node) {l : Level} (hl : l.rest = []) (p : Level) (ls : List Level)
    (depth : Nat) : leave ⟨outside, l, p :: ls⟩ depth = leave ⟨outside, p, ls⟩ (depth - 1) := by
  have hnone : nextSibling? ⟨outside, l, p :: ls⟩ = none := by simp [nextSibling?, hl]
  rw [leave, hnone]

theorem leave_top (outside : Option Node) (l : Level) (depth : Nat) :
    leave ⟨outside, l, []⟩ depth = none := by
  have hnone : nextSibling? ⟨outside, l, []⟩ = none := rfl
  rw [leave, hnone]

/-- Going up passes over nothing that is still to be visited. -/
theorem behind_of_leave (outside : Option Node) (l : Level) (above : List Level) (depth : Nat) :
    (∀ d k, leave ⟨outside, l, above⟩ depth = some (d, k) →
      behind l above = d.ahead ∧ (depth = above.length → k = d.above.length)) ∧
    (leave ⟨outside, l, above⟩ depth = none → behind l above = []) := by
  induction above generalizing l depth with
  | nil =>
    rw [leave_top]
    exact ⟨by simp, fun _ => rfl⟩
  | cons p ls ih =>
    cases hrest : l.rest with
    | nil =>
      obtain ⟨hsome, hnone⟩ := ih p (depth - 1)
      have hbehind : behind l (p :: ls) = behind p ls := by simp [behind, hrest, Node.visitsAll]
      rw [leave_up outside hrest, hbehind]
      refine ⟨?_, hnone⟩
      intro d k hd
      obtain ⟨hahead, hdepth⟩ := hsome d k hd
      refine ⟨hahead, fun heq => hdepth ?_⟩
      rw [heq, List.length_cons, Nat.add_sub_cancel]
    | cons n ns =>
      have hnext : nextSibling? ⟨outside, l, p :: ls⟩ =
          some ⟨outside, ⟨n, l.named || l.node.kind.isNamed, ns⟩, p :: ls⟩ := by
        simp [nextSibling?, hrest]
      rw [leave_of_sibling hnext]
      refine ⟨?_, by simp⟩
      intro d k hd
      obtain ⟨rfl, rfl⟩ : _ = d ∧ _ = k := by simpa using hd
      refine ⟨?_, id⟩
      simp [behind, hrest, ahead, Node.visitsAll, parent, leads]

def visit (c : Cursor) (depth : Nat) : Visit := ⟨depth, c.parent, c.leads, c.level.node⟩

theorem ahead_eq (c : Cursor) : c.ahead = c.visit c.above.length ::
    (Node.visitsAll (c.above.length + 1) c.level.node false c.level.node.children ++
      behind c.level c.above) := by
  obtain ⟨outside, ⟨⟨k, r, s, e, cs⟩, named, rest⟩, above⟩ := c
  rw [ahead, Node.visits]
  rfl

theorem ahead_of_next? {c d : Cursor} {depth k : Nat} (h : c.next? depth = some (d, k)) :
    c.ahead = c.visit c.above.length :: d.ahead ∧ (depth = c.above.length → k = d.above.length) := by
  obtain ⟨outside, l, above⟩ := c
  rw [ahead_eq]
  cases hcs : l.node.children with
  | nil =>
    have hleave : leave ⟨outside, l, above⟩ depth = some (d, k) := by
      simpa [next?, firstChild?, hcs] using h
    obtain ⟨hbehind, hdepth⟩ := (behind_of_leave outside l above depth).1 d k hleave
    refine ⟨?_, hdepth⟩
    rw [hbehind, Node.visitsAll, List.nil_append]
  | cons n ns =>
    obtain ⟨rfl, rfl⟩ : _ = d ∧ _ = k := by simpa [next?, firstChild?, hcs] using h
    refine ⟨?_, fun heq => by rw [heq, List.length_cons]⟩
    simp [ahead, behind, Node.visitsAll, parent, leads]

theorem ahead_of_last {c : Cursor} {depth : Nat} (h : c.next? depth = none) :
    c.ahead = [c.visit c.above.length] := by
  obtain ⟨outside, l, above⟩ := c
  rw [ahead_eq]
  cases hcs : l.node.children with
  | nil =>
    have hleave : leave ⟨outside, l, above⟩ depth = none := by
      simpa [next?, firstChild?, hcs] using h
    rw [(behind_of_leave outside l above depth).2 hleave, Node.visitsAll, List.nil_append]
  | cons n ns => simp [next?, firstChild?, hcs] at h

variable {σ : Type}

def run (f : σ → Visit → σ) (s : σ) (c : Cursor) (depth : Nat) : σ :=
  match _h : c.next? depth with
  | some (d, k) => run f (f s (c.visit depth)) d k
  | none => f s (c.visit depth)
termination_by c.ahead.length
decreasing_by
  have hahead := congrArg List.length (ahead_of_next? _h).1
  rw [List.length_cons] at hahead
  omega

theorem run_eq_foldl (f : σ → Visit → σ) (s : σ) (c : Cursor) (depth : Nat)
    (hdepth : depth = c.above.length) : c.run f s depth = c.ahead.foldl f s := by
  fun_induction run f s c depth with
  | case1 s c depth d k h ih =>
    obtain ⟨hahead, hk⟩ := ahead_of_next? h
    rw [ih (hk hdepth), hahead, List.foldl_cons, hdepth]
  | case2 s c depth h =>
    rw [ahead_of_last h, hdepth]
    rfl

/-- The loop makes the visits to the tree. -/
theorem run_top (f : σ → Visit → σ) (s : σ) (outside : Option Node) (root : Node) :
    (top outside root).run f s 0 = (root.visits 0 outside false).foldl f s := by
  have hahead : (top outside root).ahead = root.visits 0 outside false := by
    simp [ahead, top, behind, parent, leads]
  rw [run_eq_foldl f s (top outside root) 0 rfl, hahead]

end Cursor

end JavaMetrics

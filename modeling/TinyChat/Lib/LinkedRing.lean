import Mathlib.Data.List.Chain
import Mathlib.Data.List.Nodup
import Mathlib.Logic.Function.Basic

/-!
# Circular doubly linked lists

Nodes carry two link functions.  A ring is the closed path that starts at a
root node, visits a list of nodes once each, and returns to the root, such
that the backward links retrace the forward ones.
-/

namespace LinkedRing

variable {α : Type}

/-- The forward link of the first node and the backward link of the second
one meet. -/
def Linked (next prev : α → Option α) (first second : α) : Prop :=
  next first = some second ∧ prev second = some first

theorem Linked.second_eq {next prev : α → Option α} {first second other : α}
    (linked : Linked next prev first second)
    (link : next first = some other) : second = other :=
  Option.some.inj (linked.1.symm.trans link)

theorem Linked.first_eq {next prev : α → Option α} {first second other : α}
    (linked : Linked next prev first second)
    (link : prev second = some other) : first = other :=
  Option.some.inj (linked.2.symm.trans link)

/-- `root`, followed by `nodes`, followed by `root` again is a path, and no
node occurs twice on it. -/
structure IsRing (next prev : α → Option α) (root : α)
    (nodes : List α) : Prop where
  path : (root :: (nodes ++ [root])).IsChain (Linked next prev)
  nodup : (root :: nodes).Nodup

/-- The nodes met by following `count` forward links. -/
def walk (next : α → Option α) : Nat → Option α → List α
  | 0, _ => []
  | _ + 1, none => []
  | count + 1, some node => node :: walk next count (next node)

@[simp] theorem walk_zero (next : α → Option α) (node : Option α) :
    walk next 0 node = [] := rfl

@[simp] theorem walk_succ (next : α → Option α) (count : Nat) (node : α) :
    walk next (count + 1) (some node) =
      node :: walk next count (next node) := rfl

/-- A walk along a path meets the nodes of the path. -/
theorem walk_of_chain {next prev : α → Option α} {node : α}
    {nodes rest : List α}
    (path : (node :: (nodes ++ rest)).IsChain (Linked next prev)) :
    walk next nodes.length (next node) = nodes := by
  induction nodes generalizing node with
  | nil => rfl
  | cons second nodes induction =>
      rw [List.cons_append, List.isChain_cons_cons] at path
      rw [path.1.1, List.length_cons, walk_succ, induction path.2]

theorem walk_congr {next other : α → Option α} {node last : α}
    {nodes : List α} {prev : α → Option α}
    (path : (node :: (nodes ++ [last])).IsChain (Linked next prev))
    (same : ∀ visited ∈ nodes, other visited = next visited) :
    walk other nodes.length (next node) = nodes := by
  induction nodes generalizing node with
  | nil => rfl
  | cons second rest induction =>
      rw [List.cons_append, List.isChain_cons_cons] at path
      rw [path.1.1, List.length_cons, walk_succ,
        same second (by simp)]
      rw [induction path.2 (fun visited member =>
        same visited (List.mem_cons_of_mem _ member))]

namespace IsRing

variable {next prev next' prev' : α → Option α} {root : α} {nodes : List α}

theorem walk_eq (ring : IsRing next prev root nodes) :
    walk next nodes.length (next root) = nodes :=
  walk_of_chain ring.path

/-- A walk from a node of the ring meets the nodes after it. -/
theorem walk_middle {behind ahead later : List α} {node : α}
    (ring : IsRing next prev root (behind ++ node :: (ahead ++ later))) :
    walk next ahead.length (next node) = ahead := by
  have path : ((root :: behind) ++ node :: (ahead ++ (later ++ [root]))
      ).IsChain (Linked next prev) := by
    simpa only [List.cons_append, List.append_assoc] using ring.path
  rw [List.isChain_split] at path
  exact walk_of_chain path.2

theorem root_notMem (ring : IsRing next prev root nodes) : root ∉ nodes :=
  (List.nodup_cons.mp ring.nodup).1

theorem nodes_nodup (ring : IsRing next prev root nodes) : nodes.Nodup :=
  (List.nodup_cons.mp ring.nodup).2

/-- The ring without any node except the root. -/
theorem singleton {root : α} (forward : next root = some root)
    (backward : prev root = some root) : IsRing next prev root [] := by
  refine ⟨?_, by simp⟩
  simp [Linked, forward, backward]

theorem congr (ring : IsRing next prev root nodes)
    (sameNext : ∀ node ∈ root :: nodes, next' node = next node)
    (samePrev : ∀ node ∈ root :: nodes, prev' node = prev node) :
    IsRing next' prev' root nodes := by
  refine ⟨?_, ring.nodup⟩
  refine ring.path.imp_of_mem_imp ?_
  intro first second firstMember secondMember linked
  have onRing : ∀ node, node ∈ root :: (nodes ++ [root]) →
      node ∈ root :: nodes := by
    intro node member
    simpa [or_comm] using member
  exact ⟨(sameNext first (onRing first firstMember)).trans linked.1,
    (samePrev second (onRing second secondMember)).trans linked.2⟩

/-- Every node of the ring is linked forward to a node of the ring that is
linked back to it. -/
theorem next_inverse (ring : IsRing next prev root nodes) {node : α}
    (member : node ∈ root :: nodes) :
    ∃ after ∈ root :: nodes,
      next node = some after ∧ prev after = some node := by
  obtain ⟨before, rest, split⟩ := List.append_of_mem member
  have path := ring.path
  rw [← List.cons_append, split] at path
  cases rest with
  | nil =>
      simp only [List.append_assoc, List.cons_append, List.nil_append,
        List.isChain_append_cons_cons] at path
      exact ⟨root, by simp, path.2.1⟩
  | cons after rest =>
      simp only [List.append_assoc, List.cons_append,
        List.isChain_append_cons_cons] at path
      refine ⟨after, ?_, path.2.1⟩
      rw [split]
      simp

/-- Read backward, a ring is a ring of the exchanged links. -/
theorem reverse (ring : IsRing next prev root nodes) :
    IsRing prev next root nodes.reverse := by
  have path : ((root :: (nodes ++ [root])).reverse).IsChain
      (Linked prev next) := by
    rw [List.isChain_reverse]
    exact ring.path.imp (fun _ _ linked => ⟨linked.2, linked.1⟩)
  refine ⟨by simpa using path, ?_⟩
  have nodup := ring.nodup
  simpa using nodup

/-- Every node of the ring is linked back to a node of the ring that is
linked forward to it. -/
theorem prev_inverse (ring : IsRing next prev root nodes) {node : α}
    (member : node ∈ root :: nodes) :
    ∃ before ∈ root :: nodes,
      prev node = some before ∧ next before = some node := by
  have reversed : node ∈ root :: nodes.reverse := by simpa using member
  obtain ⟨before, beforeMember, links⟩ := ring.reverse.next_inverse reversed
  exact ⟨before, by simpa using beforeMember, links⟩

/-- Linking an unused node between the last node and the root extends the
ring at its end. -/
theorem insertLast (ring : IsRing next prev root nodes) {fresh last : α}
    (unused : fresh ∉ root :: nodes)
    (lastLink : prev root = some last)
    (nextLast : next' last = some fresh)
    (nextFresh : next' fresh = some root)
    (prevFresh : prev' fresh = some last)
    (prevRoot : prev' root = some fresh)
    (otherNext : ∀ node, node ≠ last → node ≠ fresh →
      next' node = next node)
    (otherPrev : ∀ node, node ≠ root → node ≠ fresh →
      prev' node = prev node) :
    IsRing next' prev' root (nodes ++ [fresh]) := by
  have rootMember : root ∈ root :: nodes := by simp
  obtain ⟨before, _, prevLink, nextBefore⟩ := ring.prev_inverse rootMember
  obtain rfl : before = last :=
    Option.some.inj (prevLink.symm.trans lastLink)
  have oldPath := ring.path
  rw [← List.cons_append] at oldPath
  obtain ⟨front, frontEq⟩ : ∃ front, root :: nodes = front ++ [before] := by
    obtain empty | ⟨front, final, split⟩ :=
      List.eq_nil_or_concat' (root :: nodes)
    · cases empty
    · refine ⟨front, ?_⟩
      rw [split, List.append_assoc, List.cons_append, List.nil_append,
        List.isChain_append_cons_cons] at oldPath
      rw [split, oldPath.2.1.first_eq lastLink]
  rw [frontEq, List.append_assoc, List.cons_append, List.nil_append,
    List.isChain_append_cons_cons] at oldPath
  have kept : (front ++ [before]).IsChain (Linked next' prev') := by
    refine oldPath.1.imp_of_mem_tail_imp ?_
    intro first second firstMember secondMember linked
    rw [← frontEq] at firstMember secondMember
    have secondListed : second ∈ nodes := secondMember
    have secondNeRoot : second ≠ root := by
      rintro rfl
      exact ring.root_notMem secondListed
    have firstNeLast : first ≠ before := by
      rintro rfl
      exact secondNeRoot (linked.second_eq nextBefore)
    have firstNeFresh : first ≠ fresh := by
      rintro rfl
      exact unused firstMember
    have secondNeFresh : second ≠ fresh := by
      rintro rfl
      exact unused (List.mem_cons_of_mem _ secondListed)
    exact ⟨(otherNext first firstNeLast firstNeFresh).trans linked.1,
      (otherPrev second secondNeRoot secondNeFresh).trans linked.2⟩
  refine ⟨?_, ?_⟩
  · rw [← List.cons_append, ← List.cons_append, frontEq]
    simp only [List.append_assoc, List.cons_append, List.nil_append,
      List.isChain_append_cons_cons, List.isChain_cons_cons,
      List.isChain_singleton, and_true]
    exact ⟨kept, ⟨nextLast, prevFresh⟩, nextFresh, prevRoot⟩
  · rw [← List.cons_append]
    exact List.nodup_append'.mpr
      ⟨ring.nodup, by simp, by simpa [List.disjoint_singleton] using unused⟩

/-- Linking the neighbours of a node to each other takes that node out of
the ring. -/
theorem remove {front rest : List α} {target before after : α}
    (ring : IsRing next prev root (front ++ target :: rest))
    (prevTarget : prev target = some before)
    (nextTarget : next target = some after)
    (nextBefore : next' before = some after)
    (prevAfter : prev' after = some before)
    (otherNext : ∀ node, node ≠ before → next' node = next node)
    (otherPrev : ∀ node, node ≠ after → prev' node = prev node) :
    IsRing next' prev' root (front ++ rest) := by
  have member : target ∈ root :: (front ++ target :: rest) := by simp
  obtain ⟨before', _, prevLink, beforeNext⟩ := ring.prev_inverse member
  obtain rfl : before' = before :=
    Option.some.inj (prevLink.symm.trans prevTarget)
  obtain ⟨after', _, nextLink, afterPrev⟩ := ring.next_inverse member
  obtain rfl : after' = after :=
    Option.some.inj (nextLink.symm.trans nextTarget)
  have transfer : ∀ first second, first ≠ target → second ≠ target →
      Linked next prev first second → Linked next' prev' first second := by
    intro first second firstNe secondNe linked
    have firstNeBefore : first ≠ before' := by
      rintro rfl
      exact secondNe (linked.second_eq beforeNext)
    have secondNeAfter : second ≠ after' := by
      rintro rfl
      exact firstNe (linked.first_eq afterPrev)
    exact ⟨(otherNext first firstNeBefore).trans linked.1,
      (otherPrev second secondNeAfter).trans linked.2⟩
  have nodup : (root :: front ++ target :: rest).Nodup := ring.nodup
  have outside : target ∉ root :: front ∧ target ∉ rest := by
    rw [List.nodup_middle, List.nodup_cons] at nodup
    simpa [not_or, and_assoc] using nodup.1
  have targetNeRoot : target ≠ root := by
    rintro rfl
    exact outside.1 (by simp)
  have oldPath : ((root :: front) ++ target :: (rest ++ [root])).IsChain
      (Linked next prev) := by
    simpa using ring.path
  rw [List.isChain_split] at oldPath
  obtain ⟨leftPath, rightPath⟩ := oldPath
  obtain empty | ⟨left, last, leftEq⟩ := List.eq_nil_or_concat' (root :: front)
  · cases empty
  obtain ⟨first, right, rightEq⟩ : ∃ first right,
      rest ++ [root] = first :: right :=
    List.exists_cons_of_ne_nil (by simp)
  rw [leftEq, List.append_assoc, List.cons_append, List.nil_append,
    List.isChain_append_cons_cons] at leftPath
  rw [rightEq, List.isChain_cons_cons] at rightPath
  obtain rfl : last = before' := leftPath.2.1.first_eq prevTarget
  obtain rfl : first = after' := rightPath.1.second_eq nextTarget
  have leftKept : (left ++ [last]).IsChain (Linked next' prev') := by
    refine leftPath.1.imp_of_mem_imp ?_
    intro one two oneMember twoMember linked
    rw [← leftEq] at oneMember twoMember
    refine transfer one two ?_ ?_ linked
    · rintro rfl
      exact outside.1 oneMember
    · rintro rfl
      exact outside.1 twoMember
  have rightKept : (first :: right).IsChain (Linked next' prev') := by
    refine rightPath.2.imp_of_mem_imp ?_
    intro one two oneMember twoMember linked
    have avoids : ∀ node ∈ rest ++ [root], node ≠ target := by
      intro node nodeMember
      rintro rfl
      rcases List.mem_append.mp nodeMember with inRest | isRoot
      · exact outside.2 inRest
      · exact targetNeRoot (List.mem_singleton.mp isRoot)
    rw [← rightEq] at oneMember twoMember
    exact transfer one two (avoids one oneMember) (avoids two twoMember)
      linked
  refine ⟨?_, ?_⟩
  · have joined : (left ++ last :: first :: right).IsChain
        (Linked next' prev') :=
      List.isChain_append_cons_cons.mpr
        ⟨leftKept, ⟨nextBefore, prevAfter⟩, rightKept⟩
    have shape : root :: ((front ++ rest) ++ [root]) =
        left ++ last :: first :: right := by
      calc
        root :: ((front ++ rest) ++ [root]) =
            (root :: front) ++ (rest ++ [root]) := by simp
        _ = left ++ last :: first :: right := by
          rw [leftEq, rightEq]
          simp
    rw [shape]
    exact joined
  · rw [List.nodup_middle, List.nodup_cons] at nodup
    exact nodup.2

end IsRing

end LinkedRing

import Mathlib.Data.List.Chain
import Mathlib.Data.List.Perm.Subperm
import RobotBus.Proofs.Routing.Bridged

/-!
# Forests

Bridges make a forest if there is no way in a circle that crosses each bridge at most once. A tour
is a route that never turns round on a bridge. In a forest a tour crosses each bridge at most once
(`Tour.isTrail`): a bridge that is crossed again closes a circle. So between two nodes there is one
tour at most (`Tour.unique`), for two of them could be put together to a circle where they part. A
forest stays one when a leaf is added (`IsForest.cons`).
-/

namespace RobotBus

variable {bridges : List Bridge} {first mid last : NodeId} {walk walk' : List Bridge}

/-- No bridge is crossed twice, whichever way. -/
def IsTrail (walk : List Bridge) : Prop :=
  walk.Pairwise fun bridge later => later ≠ bridge ∧ later ≠ bridge.reverse

/-- No bridge is crossed backwards right after it was crossed. -/
def GoesOn (walk : List Bridge) : Prop :=
  walk.IsChain fun bridge next => next ≠ bridge.reverse

def IsForest (bridges : List Bridge) : Prop :=
  ∀ node walk, Route bridges node walk node → IsTrail walk → walk = []

structure Tour (bridges : List Bridge) (first : NodeId) (walk : List Bridge) (last : NodeId) : Prop
    extends Route bridges first walk last where
  goesOn : GoesOn walk

/-- There is a way over bridges from one node to the other. -/
def Connected (bridges : List Bridge) (first last : NodeId) : Prop :=
  ∃ walk, Route bridges first walk last

/-! ## Routes -/

theorem Route.append (h : Route bridges first walk mid) (h' : Route bridges mid walk' last) :
    Route bridges first (walk ++ walk') last where
  isWalk := h.isWalk.append h'.isWalk
  crosses := List.forall_mem_append.2 ⟨h.crosses, h'.crosses⟩

theorem Route.of_append (h : Route bridges first (walk ++ walk') last) :
    ∃ mid, Route bridges first walk mid ∧ Route bridges mid walk' last := by
  obtain ⟨mid, hFront, hRest⟩ := h.isWalk.of_append
  obtain ⟨hCrosses, hCrosses'⟩ := List.forall_mem_append.1 h.crosses
  exact ⟨mid, ⟨hFront, hCrosses⟩, ⟨hRest, hCrosses'⟩⟩

theorem Route.back (h : Route bridges first walk last) :
    Route bridges last (Bridge.back walk) first where
  isWalk := h.isWalk.back
  crosses bridge hBridge := (h.crosses bridge.reverse (Bridge.mem_back.1 hBridge)).reverse

theorem Route.of_cons {bridge : Bridge} (h : Route bridges first (bridge :: walk) last) :
    bridge.near.node = first ∧ Crosses bridges bridge ∧
      Route bridges bridge.far.node walk last := by
  obtain ⟨hBridge, hLater⟩ := List.forall_mem_cons.1 h.crosses
  obtain ⟨hFirst, hWalk⟩ := h.isWalk.of_cons
  exact ⟨hFirst, hBridge, hWalk, hLater⟩

theorem Route.eq_of_nil (h : Route bridges first [] last) : first = last := by
  cases h.isWalk with
  | nil => rfl

/-! ## Turning round -/

theorem GoesOn.back (h : GoesOn walk) : GoesOn (Bridge.back walk) := by
  rw [GoesOn, Bridge.back, List.isChain_reverse, List.isChain_map]
  apply List.IsChain.imp _ h
  intro bridge next hNext hBack
  exact hNext hBack.symm

/-- Every route can be shortened to a tour. -/
theorem Route.exists_tour (h : Route bridges first walk last) :
    ∃ tour, Tour bridges first tour last := by
  induction walk generalizing first with
  | nil => exact ⟨[], h, List.isChain_nil⟩
  | cons bridge walk ih =>
    obtain ⟨hFirst, hBridge, hRest⟩ := h.of_cons
    obtain ⟨tour, hTour⟩ := ih hRest
    by_cases hTurn : tour.head? = some bridge.reverse
    · obtain ⟨later, rfl⟩ := List.head?_eq_some_iff.1 hTurn
      obtain ⟨_, _, hLater⟩ := hTour.toRoute.of_cons
      rw [Bridge.far_reverse, hFirst] at hLater
      exact ⟨later, hLater, hTour.goesOn.tail⟩
    · refine ⟨bridge :: tour, .cons hBridge hFirst hTour.toRoute, ?_⟩
      apply List.IsChain.cons hTour.goesOn
      rintro next hNext rfl
      exact hTurn hNext

/-- The link over which a tour has come to its end. -/
def entrance (tour : List Bridge) : Option LinkId :=
  tour.getLast?.map (·.far.link)

/-- A tour may go on over every link but the one that it has come over. -/
theorem Tour.concat {bridge : Bridge} (h : Tour bridges first walk last)
    (hBridge : Crosses bridges bridge) (hNear : bridge.near.node = last)
    (hEntrance : entrance walk ≠ some bridge.near.link) :
    Tour bridges first (walk ++ [bridge]) bridge.far.node where
  toRoute := h.toRoute.append (.cons hBridge hNear (.nil bridges _))
  goesOn := by
    refine List.IsChain.append h.goesOn (List.isChain_singleton bridge) ?_
    intro before hBefore next hNext
    rw [List.head?_cons, Option.mem_some_iff] at hNext
    obtain rfl := hNext
    rintro rfl
    apply hEntrance
    rw [entrance, Option.mem_def.1 hBefore]
    rfl

/-- In a forest, a bridge does not come again after a trail. -/
theorem Route.ne_of_mem (hForest : IsForest bridges) {bridge later : Bridge}
    (h : Route bridges first (bridge :: walk) last) (hTrail : IsTrail walk)
    (hOn : GoesOn (bridge :: walk)) (hLater : later ∈ walk) :
    later ≠ bridge ∧ later ≠ bridge.reverse := by
  obtain ⟨between, after, rfl⟩ := List.append_of_mem hLater
  obtain ⟨hFirst, hBridge, hRest⟩ := h.of_cons
  obtain ⟨mid, hBetween, hAfter⟩ := hRest.of_append
  obtain ⟨hMid, _, _⟩ := hAfter.of_cons
  obtain ⟨hTrailBetween, _, hApart⟩ := List.pairwise_append.1 hTrail
  have hOther : ∀ other ∈ between, later ≠ other ∧ later ≠ other.reverse := fun other hMem =>
    hApart other hMem later List.mem_cons_self
  constructor
  · -- the bridge itself closes a circle with what lies between
    rintro rfl
    have hCircle : Route bridges first (later :: between) first :=
      .cons hBridge hFirst (hFirst ▸ hMid ▸ hBetween)
    have hTrailCircle : IsTrail (later :: between) := by
      refine List.pairwise_cons.2 ⟨fun other hMem => ?_, hTrailBetween⟩
      obtain ⟨hNe, hNeReverse⟩ := hOther other hMem
      exact ⟨hNe.symm, fun hReverse => hNeReverse (congrArg Bridge.reverse hReverse).symm⟩
    cases hForest first _ hCircle hTrailCircle
  · -- crossed backwards, it leaves a circle at its far end, which can only be empty
    rintro rfl
    have hCircle : Route bridges bridge.far.node between bridge.far.node := by
      rw [Bridge.near_reverse] at hMid
      rw [← hMid] at hBetween
      exact hBetween
    obtain rfl := hForest _ between hCircle hTrailBetween
    exact (List.isChain_cons_cons.1 hOn).1 rfl

/-- In a forest, what never turns round crosses each bridge at most once. -/
theorem Tour.isTrail (hForest : IsForest bridges) (h : Tour bridges first walk last) :
    IsTrail walk := by
  obtain ⟨hRoute, hOn⟩ := h
  induction walk generalizing first with
  | nil => exact List.Pairwise.nil
  | cons bridge walk ih =>
    obtain ⟨_, _, hRest⟩ := hRoute.of_cons
    have hTrail := ih hRest hOn.tail
    exact List.pairwise_cons.2
      ⟨fun later hLater => hRoute.ne_of_mem hForest hTrail hOn hLater, hTrail⟩

/-- A tour in a circle is empty. -/
theorem Tour.eq_nil (hForest : IsForest bridges) (h : Tour bridges first walk first) : walk = [] :=
  hForest first walk h.toRoute (h.isTrail hForest)

/-- In a forest, one tour at most leads from a node to another one. -/
theorem Tour.unique (hForest : IsForest bridges) (h : Tour bridges first walk last)
    (h' : Tour bridges first walk' last) : walk = walk' := by
  induction walk generalizing first walk' with
  | nil =>
    obtain rfl := h.toRoute.eq_of_nil
    exact (h'.eq_nil hForest).symm
  | cons bridge walk ih =>
    obtain ⟨hFirst, hBridge, hRest⟩ := h.toRoute.of_cons
    cases walk' with
    | nil =>
      obtain rfl := h'.toRoute.eq_of_nil
      exact h.eq_nil hForest
    | cons bridge' walk' =>
      obtain ⟨hFirst', hBridge', hRest'⟩ := h'.toRoute.of_cons
      by_cases hSame : bridge = bridge'
      · subst hSame
        rw [ih ⟨hRest, h.goesOn.tail⟩ ⟨hRest', h'.goesOn.tail⟩]
      · -- back over the first tour and there again over the second one
        have hOn : GoesOn (Bridge.back (bridge :: walk) ++ bridge' :: walk') := by
          refine List.IsChain.append h.goesOn.back h'.goesOn ?_
          intro before hBefore next hNext hTurn
          rw [Bridge.back_cons, List.getLast?_concat, Option.mem_some_iff] at hBefore
          rw [List.head?_cons, Option.mem_some_iff] at hNext
          rw [← hBefore, ← hNext, Bridge.reverse_reverse] at hTurn
          exact hSame hTurn.symm
        have hNil := Tour.eq_nil hForest ⟨h.toRoute.back.append h'.toRoute, hOn⟩
        cases (List.append_eq_nil_iff.1 hNil).2

/-! ## Leaves -/

theorem IsTrail.back (h : IsTrail walk) : IsTrail (Bridge.back walk) := by
  rw [IsTrail, Bridge.back, List.pairwise_reverse, List.pairwise_map]
  apply List.Pairwise.imp _ h
  intro bridge later hApart
  exact ⟨fun hSame => hApart.1 (congrArg Bridge.reverse hSame).symm,
    fun hSame => hApart.2 hSame.symm⟩

theorem isForest_nil : IsForest [] := by
  intro node walk hRoute _
  exact List.eq_nil_iff_forall_not_mem.2 fun bridge hBridge => (hRoute.crosses bridge hBridge).elim
    List.not_mem_nil List.not_mem_nil

theorem crosses_cons {bridge other : Bridge} :
    Crosses (bridge :: bridges) other ↔
      other = bridge ∨ other = bridge.reverse ∨ Crosses bridges other := by
  have hReverse : other.reverse = bridge ↔ other = bridge.reverse :=
    ⟨fun hSame => congrArg Bridge.reverse hSame, fun hSame => congrArg Bridge.reverse hSame⟩
  rw [Crosses, Crosses, List.mem_cons, List.mem_cons, hReverse, or_assoc,
    or_left_comm (b := other = bridge.reverse)]

section Leaf

variable {bridge : Bridge} (hLoop : bridge.near.node ≠ bridge.far.node)
  (hLeaf : ∀ other ∈ crossings bridges, other.near.node ≠ bridge.near.node)
include hLoop hLeaf

/-- The only way out of a leaf is its bridge. -/
theorem Route.eq_nil_of_leaf (h : Route (bridge :: bridges) bridge.near.node walk last)
    (hNot : bridge ∉ walk) : walk = [] := by
  cases walk with
  | nil => rfl
  | cons first walk =>
    obtain ⟨hNear, hFirst, _⟩ := h.of_cons
    rcases crosses_cons.1 hFirst with rfl | rfl | hOther
    · exact absurd List.mem_cons_self hNot
    · exact absurd hNear.symm hLoop
    · exact absurd hNear (hLeaf first (mem_crossings.2 hOther))

theorem Route.reverse_notMem_of_leaf (h : Route (bridge :: bridges) first walk first)
    (hTrail : IsTrail walk) : bridge.reverse ∉ walk := by
  intro hMem
  obtain ⟨front, after, rfl⟩ := List.append_of_mem hMem
  obtain ⟨_, hLater, hApart⟩ := List.pairwise_append.1 hTrail
  -- over the bridge the way comes to the leaf, and cannot go on from there
  have hNotAfter : bridge ∉ after := fun hAfter =>
    ((List.pairwise_cons.1 hLater).1 bridge hAfter).2 rfl
  obtain ⟨_, hFront, hRest⟩ := h.of_append
  obtain ⟨rfl, _, hAfter⟩ := hRest.of_cons
  obtain rfl := hAfter.eq_nil_of_leaf hLoop hLeaf hNotAfter
  obtain rfl := hAfter.eq_of_nil
  have hNotFront : bridge ∉ front ++ [bridge.reverse] := by
    rw [List.mem_append, List.mem_singleton]
    rintro (hIn | hSame)
    · exact (hApart bridge hIn bridge.reverse List.mem_cons_self).2 rfl
    · exact hLoop (congrArg (·.near.node) hSame)
  exact List.append_ne_nil_of_right_ne_nil front (List.cons_ne_nil _ _)
    (h.eq_nil_of_leaf hLoop hLeaf hNotFront)

/-- A forest stays one if a leaf is added. -/
theorem IsForest.cons (h : IsForest bridges) : IsForest (bridge :: bridges) := by
  intro node walk hRoute hTrail
  have hNot := hRoute.reverse_notMem_of_leaf hLoop hLeaf hTrail
  have hNotBack := hRoute.back.reverse_notMem_of_leaf hLoop hLeaf hTrail.back
  rw [Bridge.mem_back, Bridge.reverse_reverse] at hNotBack
  refine h node walk ⟨hRoute.isWalk, fun other hOther => ?_⟩ hTrail
  rcases crosses_cons.1 (hRoute.crosses other hOther) with rfl | rfl | hCrosses
  · exact absurd hOther hNotBack
  · exact absurd hOther hNot
  · exact hCrosses

end Leaf

/-- A tour in a forest does not go on for ever. -/
theorem Tour.length_le (hForest : IsForest bridges) (h : Tour bridges first walk last) :
    walk.length ≤ (crossings bridges).length := by
  have hApart : walk.Nodup := (h.isTrail hForest).imp fun hNe => hNe.1.symm
  have hSubset : walk ⊆ crossings bridges := fun bridge hBridge =>
    mem_crossings.2 (h.crosses bridge hBridge)
  exact (List.subperm_of_subset hApart hSubset).length_le

end RobotBus

import RobotBus.Proofs.Routing.Laboratory

/-!
# Targets and sources

A message that is sent along the names of the near ends of a walk arrives at its last node with the
rest of its target, and with a source that leads along the far ends back to where it came from. What
is sent there arrives at the first node, with the first target as its source. `Passage` tells what
happens on the way, `Joined.reaches_far` is one bridge of it.
-/

namespace RobotBus.Network

variable {σ : Type} {behaviour : Behaviour σ} {net : Network σ} {first last : NodeId}
  {walk : List Bridge}

/-- A call leads to one call at the end of a walk, through one call at each node before. All that is
left to do besides is to settle the bridges that were used. -/
def Leads (behaviour : Behaviour σ) (net : Network σ) (walk : List Bridge) (first : NodeId)
    (message : Message) (last : NodeId) (message' : Message) : Prop :=
  ∀ deny tasks, ∃ log net' deny' settling,
    Reaches behaviour net (.perform (.transmit first message deny) :: tasks) log net'
      (.perform (.transmit last message' deny') :: (settling ++ tasks)) ∧
    Passage behaviour net walk log net' settling

/-- Through one bridge after the other, a target gets shorter at its front and a source longer. -/
theorem leads_along (hWalk : Walk first walk last)
    (hJoined : ∀ bridge ∈ walk, Joined behaviour net bridge) (rest source : Option String)
    (payload : Bytes) :
    Leads behaviour net walk first ⟨Path.along (walk.map (·.near.name)) rest, source, payload⟩
      last ⟨rest, Path.along (walk.reverse.map (·.far.name)) source, payload⟩ := by
  induction hWalk generalizing net source with
  | nil node =>
    intro deny tasks
    exact ⟨[], net, deny, [], .refl _ _, ⟨rfl, rfl, rfl, rfl, nofun⟩⟩
  | @cons bridge walk last _ ih =>
    intro deny tasks
    obtain ⟨log, mid, deny', settling, hHop, hPassage⟩ :=
      (hJoined bridge List.mem_cons_self).reaches_far (Path.along (walk.map (·.near.name)) rest)
        source payload deny tasks
    have hMid : ∀ later ∈ walk, Joined behaviour mid later := fun later hLater =>
      (hJoined later (List.mem_cons_of_mem bridge hLater)).of_nodes hPassage.nodes
    obtain ⟨log', net', deny'', settling', hRest, hPassage'⟩ :=
      ih hMid (some (Path.through bridge.far.name source)) deny' (settling ++ tasks)
    refine ⟨log ++ log', net', deny'', settling' ++ settling, ?_, hPassage.trans hPassage'⟩
    rw [List.reverse_cons, List.map_append, Path.along_append, List.append_assoc]
    exact hHop.trans hRest

/-- The way back leads along the far ends. -/
theorem leads_back (hWalk : Walk first walk last)
    (hJoined : ∀ bridge ∈ walk, Joined behaviour net bridge) (rest source : Option String)
    (payload : Bytes) :
    Leads behaviour net (Bridge.back walk) last
      ⟨Path.along (walk.reverse.map (·.far.name)) source, rest, payload⟩
      first ⟨source, Path.along (walk.map (·.near.name)) rest, payload⟩ := by
  have hBack : ∀ bridge ∈ Bridge.back walk, Joined behaviour net bridge := fun bridge hBridge =>
    (hJoined bridge.reverse (Bridge.mem_back.1 hBridge)).reverse
  have hLeads := leads_along hWalk.back hBack source rest payload
  have hNames : (Bridge.back walk).reverse.map (·.far.name) = walk.map (·.near.name) := by
    rw [← Bridge.names_back, Bridge.back_back]
  rw [Bridge.names_back, hNames] at hLeads
  exact hLeads

/-- **A source is the target of the way back.** Along any walk of bridges, what is sent along the
near names arrives at the last node, with the names of the far ends in front of its source; and what
is sent to this source from the last node arrives at the first one, with the first target as its
source. -/
theorem source_leads_back (hWalk : Walk first walk last)
    (hJoined : ∀ bridge ∈ walk, Joined behaviour net bridge) (rest source : Option String)
    (payload reply : Bytes) :
    let target := Path.along (walk.map (·.near.name)) rest
    let returning := Path.along (walk.reverse.map (·.far.name)) source
    Leads behaviour net walk first ⟨target, source, payload⟩ last ⟨rest, returning, payload⟩ ∧
      Leads behaviour net (Bridge.back walk) last ⟨returning, rest, reply⟩
        first ⟨source, target, reply⟩ :=
  ⟨leads_along hWalk hJoined rest source payload, leads_back hWalk hJoined rest source reply⟩

open Simulation in
/-- Along a row, with a rest for everyone and an empty source. -/
theorem source_leads_back_in_row :
    Walk 0 rowBridges 2 ∧ (∀ bridge ∈ rowBridges, Joined (forgetful rowLab) row bridge) ∧
      Leads (forgetful rowLab) row rowBridges 0 ⟨some "a/c/*", some "", [1]⟩
        2 ⟨some "*", some "d/b/", [1]⟩ ∧
      Leads (forgetful rowLab) row (Bridge.back rowBridges) 2 ⟨some "d/b/", some "*", [2]⟩
        0 ⟨some "", some "a/c/*", [2]⟩ :=
  ⟨route_row.isWalk, bridged_row.joined_of_route route_row,
    source_leads_back route_row.isWalk (bridged_row.joined_of_route route_row) (some "*") (some "")
      [1] [2]⟩

end RobotBus.Network

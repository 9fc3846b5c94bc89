import OpenLighting.DATracker
import OpenLighting.OrderedMerge
import OpenLighting.SetCover
import OpenLighting.SlpServer
import OpenLighting.WhileLoop

namespace OpenLighting.Slp

open OrderedMerge SetCover WhileLoop List InternalDirectoryAgent ScopeSet

namespace ScopeSet

def empty (set : ScopeSet) : Bool := decide (set.scopes = ∅)

def size (set : ScopeSet) : Nat := set.scopes.card

theorem empty_iff {set : ScopeSet} : set.empty = true ↔ set.scopes = ∅ := decide_eq_true_iff

def intersectionCount (set other : ScopeSet) : Nat :=
  commonCount set.ascending other.ascending

theorem intersectionCount_eq (set other : ScopeSet) :
    set.intersectionCount other = (set.scopes ∩ other.scopes).card :=
  commonCount_sort set.scopes other.scopes

/-- `DifferenceUpdate`: the set as it is left, and the elements that are returned. -/
def differenceUpdate (set other : ScopeSet) : ScopeSet × ScopeSet :=
  let walk := takeCommon set.ascending other.ascending
  ({ scopes := walk.1.toFinset
     canonical := by
      intro scope member
      have left := (toFinset_takeCommon_fst set.scopes other.scopes).subset member
      exact set.canonical scope (Finset.mem_sdiff.mp left).1 },
    ofSet walk.2.toFinset)

@[simp] theorem differenceUpdate_fst (set other : ScopeSet) :
    (set.differenceUpdate other).1.scopes = set.scopes \ other.scopes :=
  toFinset_takeCommon_fst set.scopes other.scopes

/-- What is returned was canonical before. -/
@[simp] theorem differenceUpdate_snd (set other : ScopeSet) :
    (set.differenceUpdate other).2.scopes = set.scopes ∩ other.scopes := by
  have fixed : ∀ scope ∈ set.scopes ∩ other.scopes, slpGetCanonicalString scope = scope :=
    fun scope member => set.canonical scope (Finset.mem_inter.mp member).1
  have both := toFinset_takeCommon_snd set.scopes other.scopes
  change (((takeCommon (set.scopes.sort (· ≤ ·)) (other.scopes.sort (· ≤ ·))).2.toFinset.sort
    (· ≤ ·)).map slpGetCanonicalString).toFinset = _
  rw [both, map_congr_left (g := id)]
  · rw [map_id, Finset.sort_toFinset]
  · intro scope member
    exact fixed scope ((Finset.mem_sort _).mp member)

end ScopeSet

/-- What a search for services uses of an agent. -/
def InternalDirectoryAgent.toAgent (agent : InternalDirectoryAgent) :
    DirectoryAgent (List UInt8) (List UInt8) :=
  ⟨agent.url, agent.scopes.scopes, agent.bootTime⟩

variable (tracker : DATracker)

namespace DATracker

/-- The agents from `m_agents.begin()` to its end. -/
def inOrder : List InternalDirectoryAgent :=
  (tracker.agents.keys.insertionSort (· ≤ ·)).filterMap tracker.lookupDA

/-- How the loop over the agents ends. -/
inductive Scan where
  | all (agent : InternalDirectoryAgent)
  | largest (found : Option InternalDirectoryAgent)

def Scan.agent : Scan → Option InternalDirectoryAgent
  | .all agent => some agent
  | .largest found => found

/-- The loop over the agents in `GetMinimalCoveringList`, with `largest_iter` and
`max_intersection_count`. -/
def scan (scopesToCover : ScopeSet) :
    List InternalDirectoryAgent → Option InternalDirectoryAgent → Nat → Scan
  | [], largest, _ => .largest largest
  | agent :: rest, largest, maxIntersectionCount =>
    let intersectionCount := agent.scopes.intersectionCount scopesToCover
    if intersectionCount = scopesToCover.size then .all agent
    else if maxIntersectionCount < intersectionCount then
      scan scopesToCover rest (some agent) intersectionCount
    else scan scopesToCover rest largest maxIntersectionCount

/-- A round of `while (!scopes_to_cover.empty())`. -/
def coveringRound (agents : List InternalDirectoryAgent) :
    ScopeSet × List InternalDirectoryAgent →
      Round (ScopeSet × List InternalDirectoryAgent) (List InternalDirectoryAgent)
  | (scopesToCover, output) =>
    if scopesToCover.empty then .leave output
    else
      match scan scopesToCover agents none 0 with
      | .all agent => .leave (output ++ [agent])
      | .largest none => .leave output
      | .largest (some agent) =>
        .again ((scopesToCover.differenceUpdate agent.scopes).1, output ++ [agent])

/-- `GetMinimalCoveringList` comes to its end with this output. -/
def GetMinimalCoveringList (scopes : ScopeSet) (output : List InternalDirectoryAgent) : Prop :=
  Returns (coveringRound tracker.inOrder) (scopes, []) output

end DATracker

/-- What `FindServiceInScopes` has done: the agents it asks, with the scopes, and those for
which it warns of a bug. -/
structure Search where
  remaining : ScopeSet
  requests : List (InternalDirectoryAgent × ScopeSet)
  bugs : List InternalDirectoryAgent

/-- The loop of `FindServiceInScopes` over the output of the tracker. -/
def askDAs : List InternalDirectoryAgent → Search → Search
  | [], search => search
  | agent :: rest, search =>
    let update := search.remaining.differenceUpdate agent.scopes
    if update.2.empty then
      askDAs rest { search with remaining := update.1, bugs := search.bugs ++ [agent] }
    else
      askDAs rest
        { search with remaining := update.1, requests := search.requests ++ [(agent, update.2)] }

/-- The requests to the agents, and what is asked with a multicast. -/
def findServiceInScopes (das : List InternalDirectoryAgent) (scopes : ScopeSet) :
    Search × Option ScopeSet :=
  let search := askDAs das ⟨scopes, [], []⟩
  (search, if search.remaining.empty then none else some search.remaining)

variable {count : Nat} (rounds : Nat)

section Greedy
variable {Scope Url : Type} [DecidableEq Scope] {agents : List (DirectoryAgent Scope Url)}
  {scopes : Finset Scope}

theorem largest_some {agent : DirectoryAgent Scope Url}
    (found : largest scopes agents = some (agent, count)) :
    agent ∈ agents ∧ count = (agent.scopes ∩ scopes).card ∧ 0 < count := by
  induction agents generalizing agent count with
  | nil => cases found
  | cons first rest ih =>
    rw [largest] at found
    cases later : largest scopes rest with
    | none =>
      simp only [later, Option.ite_none_right_eq_some, Option.some.injEq, Prod.mk.injEq] at found
      have ⟨positive, same, counted⟩ := found
      exact ⟨by simp [same], by rw [← same, counted], by omega⟩
    | some best =>
      have ⟨inside, counted, positive⟩ := ih later
      simp only [later] at found
      split at found
      · have ⟨same, equal⟩ := Prod.mk.injEq .. ▸ Option.some.inj found
        rw [← same, ← equal]
        exact ⟨mem_cons_of_mem _ inside, counted, positive⟩
      · have ⟨same, equal⟩ := Prod.mk.injEq .. ▸ Option.some.inj found
        rw [← same, ← equal]
        exact ⟨mem_cons_self, rfl, by omega⟩

theorem largest_empty : largest ∅ agents = none := by
  cases found : largest ∅ agents with
  | none => rfl
  | some best =>
    have ⟨_, counted, positive⟩ := largest_some found
    rw [Finset.inter_empty, Finset.card_empty] at counted
    omega

/-- With the largest agent there is less to cover. -/
theorem card_sdiff_largest {agent : DirectoryAgent Scope Url}
    (found : largest scopes agents = some (agent, count)) :
    (scopes \ agent.scopes).card < scopes.card := by
  have ⟨_, counted, positive⟩ := largest_some found
  have parts := Finset.card_sdiff_add_card_inter scopes agent.scopes
  rw [Finset.inter_comm] at counted
  omega

/-- More rounds than scopes make no difference. -/
theorem coveringLoop_rounds (enough : scopes.card ≤ rounds) :
    coveringLoop agents rounds scopes = coveringLoop agents scopes.card scopes := by
  induction rounds using Nat.strongRecOn generalizing scopes with
  | ind rounds ih =>
    match rounds, counted : scopes.card with
    | 0, 0 => rfl
    | 0, size + 1 => omega
    | rounds + 1, 0 =>
      rw [Finset.card_eq_zero.mp counted, coveringLoop, coveringLoop, largest_empty]
    | rounds + 1, size + 1 =>
      rw [coveringLoop, coveringLoop]
      cases found : largest scopes agents with
      | none => rfl
      | some best =>
        have less := card_sdiff_largest found
        dsimp only
        rw [ih rounds (by omega) (by omega)]
        by_cases same : size = rounds
        · rw [same, ih rounds (by omega) (by omega)]
        · rw [ih size (by omega) (by omega)]

end Greedy

namespace DATracker

variable {scopes : ScopeSet} {agents : List InternalDirectoryAgent}

theorem card_toAgent (agent : InternalDirectoryAgent) :
    (agent.toAgent.scopes ∩ scopes.scopes).card = agent.scopes.intersectionCount scopes :=
  (agent.scopes.intersectionCount_eq scopes).symm

variable {agent : InternalDirectoryAgent}

variable {largest : Option InternalDirectoryAgent}

/-- What the loop over the agents finds is one of them. -/
theorem scan_mem (found : (scan scopes agents largest count).agent = some agent) :
    agent ∈ agents ∨ largest = some agent := by
  induction agents generalizing largest count with
  | nil => exact .inr found
  | cons first rest ih =>
    rw [scan] at found
    split at found
    · exact .inl (Option.some.inj found ▸ mem_cons_self)
    · split at found
      · cases ih found with
        | inl later => exact .inl (mem_cons_of_mem _ later)
        | inr same => exact .inl (Option.some.inj same ▸ mem_cons_self)
      · exact (ih found).imp_left (mem_cons_of_mem _)

/-- An agent that is taken at once covers everything. -/
theorem scan_all (found : scan scopes agents largest count = .all agent) :
    scopes.scopes \ agent.scopes.scopes = ∅ := by
  induction agents generalizing largest count with
  | nil => cases found
  | cons first rest ih =>
    rw [scan] at found
    split at found
    · rename_i full
      cases found
      rw [intersectionCount_eq, size, Finset.inter_comm] at full
      have parts := Finset.card_sdiff_add_card_inter scopes.scopes agent.scopes.scopes
      exact Finset.card_eq_zero.mp (by omega)
    · split at found
      · exact ih found
      · exact ih found

/-- The loop over the agents finds the first with the largest count above the one it starts
with. An agent with all the scopes is the first of them, as no count is larger. -/
theorem scan_agent (largest : Option InternalDirectoryAgent) (count : Nat)
    (below : count < scopes.size) :
    (scan scopes agents largest count).agent.map InternalDirectoryAgent.toAgent =
      match Slp.largest scopes.scopes (agents.map InternalDirectoryAgent.toAgent) with
      | none => largest.map InternalDirectoryAgent.toAgent
      | some (other, more) =>
        if count < more then some other else largest.map InternalDirectoryAgent.toAgent := by
  induction agents generalizing largest count with
  | nil => rfl
  | cons first rest ih =>
    have bound : first.scopes.intersectionCount scopes ≤ scopes.size := by
      rw [← card_toAgent]
      exact Finset.card_le_card Finset.inter_subset_right
    rw [scan, map_cons, Slp.largest, card_toAgent]
    by_cases full : first.scopes.intersectionCount scopes = scopes.size
    · rw [if_pos full]
      cases later : Slp.largest scopes.scopes (rest.map toAgent) with
      | none =>
        rw [if_pos (by omega)]
        dsimp only
        rw [if_pos (by omega)]
        rfl
      | some best =>
        have most : best.2 ≤ scopes.size := by
          rw [(largest_some later).2.1]
          exact Finset.card_le_card Finset.inter_subset_right
        dsimp only
        rw [if_neg (by omega)]
        dsimp only
        rw [if_pos (by omega)]
        rfl
    · rw [if_neg full]
      by_cases larger : count < first.scopes.intersectionCount scopes
      · rw [if_pos larger, ih _ _ (by omega)]
        cases later : Slp.largest scopes.scopes (rest.map toAgent) with
        | none => simp [show 0 < first.scopes.intersectionCount scopes by omega, larger]
        | some best =>
          by_cases more : first.scopes.intersectionCount scopes < best.2
          · simp [more, show count < best.2 by omega]
          · simp [more, larger]
      · rw [if_neg larger, ih _ _ below]
        cases later : Slp.largest scopes.scopes (rest.map toAgent) with
        | none =>
          by_cases positive : 0 < first.scopes.intersectionCount scopes
          · simp [positive, larger]
          · simp [positive]
        | some best =>
          by_cases more : first.scopes.intersectionCount scopes < best.2
          · simp [more]
          · simp [more, larger, show ¬ count < best.2 by omega]

/-- The loop over the agents finds the agent of the search. -/
theorem scan_some (filled : 0 < scopes.size)
    (found : (scan scopes agents none 0).agent = some agent) :
    ∃ count, Slp.largest scopes.scopes (agents.map InternalDirectoryAgent.toAgent) =
      some (agent.toAgent, count) := by
  have same := @scan_agent scopes agents none 0 filled
  cases best : Slp.largest scopes.scopes (agents.map toAgent) with
  | none =>
    rw [found, best] at same
    cases same
  | some best' =>
    have positive := (largest_some best).2.2
    simp only [found, best, positive, if_true, Option.map_some, Option.some.injEq] at same
    exact ⟨best'.2, by rw [same]⟩

theorem scan_none (filled : 0 < scopes.size) (found : (scan scopes agents none 0).agent = none) :
    Slp.largest scopes.scopes (agents.map InternalDirectoryAgent.toAgent) = none := by
  have same := @scan_agent scopes agents none 0 filled
  cases best : Slp.largest scopes.scopes (agents.map toAgent) with
  | none => rfl
  | some best' =>
    have positive := (largest_some best).2.2
    simp only [found, best, positive, if_true, Option.map_none, reduceCtorEq] at same

/-- The list of the search, for a set of scopes. -/
def coveringAgents (agents : List InternalDirectoryAgent) (scopes : ScopeSet) :
    List (DirectoryAgent (List UInt8) (List UInt8)) :=
  coveringLoop (agents.map InternalDirectoryAgent.toAgent) scopes.size scopes.scopes

theorem coveringAgents_empty (blank : scopes.scopes = ∅) : coveringAgents agents scopes = [] := by
  rw [coveringAgents, size, blank, Finset.card_empty, coveringLoop]

theorem coveringAgents_none (filled : 0 < scopes.size)
    (found : (scan scopes agents none 0).agent = none) : coveringAgents agents scopes = [] := by
  have ⟨rounds, counted⟩ := Nat.exists_eq_succ_of_ne_zero (Nat.ne_of_gt filled)
  rw [coveringAgents, counted, coveringLoop, scan_none filled found]

theorem coveringAgents_some (filled : 0 < scopes.size)
    (found : (scan scopes agents none 0).agent = some agent) :
    (scopes.differenceUpdate agent.scopes).1.size < scopes.size ∧
      coveringAgents agents scopes =
        agent.toAgent :: coveringAgents agents (scopes.differenceUpdate agent.scopes).1 := by
  have ⟨count, best⟩ := scan_some filled found
  have less := card_sdiff_largest best
  have ⟨rounds, counted⟩ := Nat.exists_eq_succ_of_ne_zero (Nat.ne_of_gt filled)
  have left : (scopes.differenceUpdate agent.scopes).1.scopes =
      scopes.scopes \ agent.toAgent.scopes := scopes.differenceUpdate_fst agent.scopes
  refine ⟨by rw [size, left]; exact less, ?_⟩
  rw [coveringAgents, counted, coveringLoop, best]
  dsimp only
  rw [coveringLoop_rounds rounds (by rw [size] at counted; omega), coveringAgents,
    size, left]

/-- What the rounds keep: the output is the start of the list of the search, and the scopes that
are left give the rest of it. -/
structure Covering (agents : List InternalDirectoryAgent) (scopes left : ScopeSet)
    (output : List InternalDirectoryAgent) : Prop where
  known : ∀ agent ∈ output, agent ∈ agents
  whole : output.map InternalDirectoryAgent.toAgent ++ coveringAgents agents left =
    coveringAgents agents scopes

section Rounds
variable {left : ScopeSet} {output : List InternalDirectoryAgent}

theorem Covering.extend (covering : Covering agents scopes left output) (filled : 0 < left.size)
    {agent : InternalDirectoryAgent} (found : (scan left agents none 0).agent = some agent) :
    Covering agents scopes (left.differenceUpdate agent.scopes).1 (output ++ [agent]) := by
  constructor
  · intro other member
    cases mem_append.mp member with
    | inl earlier => exact covering.known other earlier
    | inr last =>
      have inside := (scan_mem found).resolve_right (by simp)
      exact mem_singleton.mp last ▸ inside
  · have whole := covering.whole
    rw [(coveringAgents_some filled found).2] at whole
    rw [map_append, append_assoc]
    exact whole

theorem Covering.done (covering : Covering agents scopes left output)
    (none : coveringAgents agents left = []) :
    output.map InternalDirectoryAgent.toAgent = coveringAgents agents scopes := by
  rw [← covering.whole, none, append_nil]

theorem filled_of_not_empty (filled : ¬ left.empty = true) : 0 < left.size := by
  rw [empty_iff] at filled
  exact Finset.card_pos.mpr (Finset.nonempty_iff_ne_empty.mpr filled)

theorem Covering.again (covering : Covering agents scopes left output)
    {next : ScopeSet × List InternalDirectoryAgent}
    (goes : coveringRound agents (left, output) = .again next) :
    Covering agents scopes next.1 next.2 ∧ next.1.size < left.size := by
  rw [coveringRound] at goes
  split at goes
  · cases goes
  · rename_i filled
    have filled := filled_of_not_empty filled
    cases ended : scan left agents none 0 with
    | all agent => simp only [ended, reduceCtorEq] at goes
    | largest best =>
      cases best with
      | none => simp only [ended, reduceCtorEq] at goes
      | some agent =>
        simp only [ended, Round.again.injEq] at goes
        have found : (scan left agents none 0).agent = some agent := by rw [ended, Scan.agent]
        rw [← goes]
        exact ⟨covering.extend filled found, (coveringAgents_some filled found).1⟩

/-- A round that leaves has completed the list. -/
theorem Covering.leave (covering : Covering agents scopes left output)
    {result : List InternalDirectoryAgent}
    (goes : coveringRound agents (left, output) = .leave result) :
    (∀ agent ∈ result, agent ∈ agents) ∧
      result.map InternalDirectoryAgent.toAgent = coveringAgents agents scopes := by
  rw [coveringRound] at goes
  split at goes
  · rename_i blank
    cases goes
    exact ⟨covering.known, covering.done (coveringAgents_empty (empty_iff.mp blank))⟩
  · rename_i filled
    have filled := filled_of_not_empty filled
    cases ended : scan left agents none 0 with
    | all agent =>
      simp only [ended, Round.leave.injEq] at goes
      have found : (scan left agents none 0).agent = some agent := by rw [ended, Scan.agent]
      have extended := covering.extend filled found
      have blank := (left.differenceUpdate_fst agent.scopes).trans (scan_all ended)
      rw [← goes]
      exact ⟨extended.known, extended.done (coveringAgents_empty blank)⟩
    | largest best =>
      cases best with
      | none =>
        simp only [ended, Round.leave.injEq] at goes
        have found : (scan left agents none 0).agent = none := by rw [ended, Scan.agent]
        rw [← goes]
        exact ⟨covering.known, covering.done (coveringAgents_none filled found)⟩
      | some agent => simp only [ended, reduceCtorEq] at goes

end Rounds

/-- The list that the rounds make is the one of the search: each takes the largest agent, and
one that is taken at once leaves nothing. -/
theorem coveringRound_returns (agents : List InternalDirectoryAgent) (scopes : ScopeSet) :
    ∃ output, Returns (coveringRound agents) (scopes, []) output ∧
      (∀ agent ∈ output, agent ∈ agents) ∧
      output.map InternalDirectoryAgent.toAgent = coveringAgents agents scopes := by
  have start : Covering agents scopes scopes [] :=
    ⟨fun _ nowhere => absurd nowhere not_mem_nil, rfl⟩
  exact @exists_returns _ _ _ (fun state => Covering agents scopes state.1 state.2) _
    (fun state => state.1.size) (fun _ _ covering goes => covering.again goes)
    (fun _ _ covering goes => covering.leave goes) (scopes, []) start

end DATracker

section Caller
variable {scopes : ScopeSet} {das : List InternalDirectoryAgent}

section Server
variable {Entry : Type} (options : Options (List UInt8)) (parent : Nat)

/-- `SendSrvRqstToDA` for a request of the search. -/
def sendRequest (state : Server (List UInt8) (List UInt8) Entry)
    (request : InternalDirectoryAgent × ScopeSet) : Server (List UInt8) (List UInt8) Entry :=
  state.startOperation options request.2.scopes parent (.unicast request.1.url false)

/-- The server starts an operation for every request of the search. -/
theorem askAgents_askDAs (start : Server (List UInt8) (List UInt8) Entry) (search : Search) :
    Server.askAgents options parent (das.map InternalDirectoryAgent.toAgent)
        (search.requests.foldl (sendRequest options parent) start) search.remaining.scopes =
      ((askDAs das search).requests.foldl (sendRequest options parent) start,
        (askDAs das search).remaining.scopes) := by
  induction das generalizing search with
  | nil => rfl
  | cons agent rest ih =>
    have taken := search.remaining.differenceUpdate_snd agent.scopes
    have left := search.remaining.differenceUpdate_fst agent.scopes
    rw [map_cons, Server.askAgents, askDAs]
    change (if search.remaining.scopes ∩ agent.scopes.scopes = ∅ then _ else _) = _
    by_cases none : search.remaining.scopes ∩ agent.scopes.scopes = ∅
    · have nothing : search.remaining.scopes \ agent.scopes.scopes = search.remaining.scopes := by
        have parts := Finset.sdiff_union_inter search.remaining.scopes agent.scopes.scopes
        rw [none, Finset.union_empty] at parts
        exact parts
      rw [if_pos none, if_pos (empty_iff.mpr (taken.trans none)), ← ih, left, nothing]
    · have asked : ¬ (search.remaining.differenceUpdate agent.scopes).2.empty = true := by
        rw [empty_iff, taken]
        exact none
      rw [if_neg none, if_neg asked, ← ih, foldl_append, left, foldl_cons,
        foldl_nil, sendRequest, taken]
      rfl

/-- The search of the server is the one over the output of the tracker. -/
theorem findServiceInScopes_refines {tracker : DATracker}
    (state : Server (List UInt8) (List UInt8) Entry)
    (same : state.agents = tracker.inOrder.map InternalDirectoryAgent.toAgent)
    (listed : tracker.GetMinimalCoveringList scopes das) :
    state.findServiceInScopes options parent scopes.scopes =
      let asked := (findServiceInScopes das scopes).1.requests.foldl (sendRequest options parent)
        state
      match (findServiceInScopes das scopes).2 with
      | none => asked
      | some remaining =>
        asked.startOperation options remaining.scopes parent (.multicast ∅ false) := by
  have ⟨output, returns, _, covering⟩ := DATracker.coveringRound_returns tracker.inOrder scopes
  rw [returns.unique listed] at covering
  have list : state.getMinimalCoveringList scopes.scopes =
      das.map toAgent := by
    rw [covering, Server.getMinimalCoveringList, same, DATracker.coveringAgents, size]
  have asked := @askAgents_askDAs das _ options parent state ⟨scopes, [], []⟩
  rw [foldl_nil] at asked
  rw [Server.findServiceInScopes, list, asked, findServiceInScopes]
  dsimp only
  by_cases none : (askDAs das ⟨scopes, [], []⟩).remaining.scopes = ∅
  · rw [if_pos none, if_pos (empty_iff.mpr none)]
  · rw [if_neg none, if_neg (mt empty_iff.mp none)]

end Server

end Caller

end OpenLighting.Slp

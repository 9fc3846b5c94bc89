import OpenLighting.DiscoveryAgentBus

namespace OpenLighting.DiscoveryAgent

def UIDRange.within (range : UIDRange) (uids : UIDSet) : UIDSet :=
  between range.lower range.upper uids

/-- Something has been counted in the range, or can still be found there. -/
def UIDRange.Promising (remaining : UIDSet) (range : UIDRange) : Prop :=
  range.uidsDiscovered ≠ 0 ∨ (range.within remaining).Nonempty

/-- Every attempt after the first was preceded by a full turn of the counter. -/
def UIDRange.Paid (found : UIDSet) (counted : Nat) (range : UIDRange) : Prop :=
  (range.attempt - 1) * unsignedInt + range.uidsDiscovered + counted ≤
    (range.within found).card

/-- The next attempt, if one will be counted, is paid for as well. -/
def UIDRange.Due (found : UIDSet) (hope : Prop) (range : UIDRange) : Prop :=
  range.uidsDiscovered ≠ 0 ∨ hope ∨ range.attempt * unsignedInt ≤ (range.within found).card

/-- The stack below ranges that have counted `counted` UIDs between them, and
of which one is promising exactly if `hope`. -/
def Charged (remaining found : UIDSet) : Nat → Prop → List UIDRange → Prop
  | _, _, [] => True
  | counted, hope, range :: rest =>
    (range.attempt ≠ 0 → range.Paid found counted ∧ range.Due found hope) ∧
    Charged remaining found (counted + range.uidsDiscovered)
      (hope ∨ range.Promising remaining) rest

/-- A full turn of the counter pays for one more attempt. -/
theorem attempt_le_of_turn {attempt modulus counted available : Nat} (visited : attempt ≠ 0)
    (paid : (attempt - 1) * modulus + counted ≤ available) (turn : modulus ≤ counted) :
    attempt * modulus ≤ available := by
  obtain ⟨earlier, rfl⟩ := Nat.exists_eq_succ_of_ne_zero visited
  rw [Nat.succ_sub_one] at paid
  rw [Nat.succ_mul]
  omega

variable {found found' remaining responders : UIDSet} {counted' gain count : Nat} {range : UIDRange}
  {hope hope' : Prop} {stack : List UIDRange} {uid : UID}

theorem UIDRange.Paid.mono {counted : Nat} (paid : range.Paid found counted)
    (more : (range.within found).card + gain ≤ (range.within found').card)
    (less : counted' ≤ counted + gain) : range.Paid found' counted' := by
  unfold UIDRange.Paid at paid ⊢
  omega

theorem UIDRange.Paid.reset {counted : Nat} (paid : range.Paid found counted) (none : counted' = 0) :
    { range with uidsDiscovered := 0 }.Paid found counted' := by
  have same : { range with uidsDiscovered := 0 }.within found = range.within found := rfl
  unfold UIDRange.Paid at paid ⊢
  simp only [none, same]
  generalize (range.attempt - 1) * unsignedInt = spent at paid ⊢
  omega

theorem UIDRange.Paid.turn {counted : Nat} (visited : range.attempt ≠ 0)
    (paid : range.Paid found counted)
    (more : (range.within found).card + gain ≤ (range.within found').card)
    (turn : unsignedInt ≤ range.uidsDiscovered + counted + gain) :
    range.attempt * unsignedInt ≤ (range.within found').card := by
  unfold UIDRange.Paid at paid
  refine attempt_le_of_turn visited ?_ turn
  generalize (range.attempt - 1) * unsignedInt = spent at paid ⊢
  omega

theorem UIDRange.Due.mono {counted : Nat} (visited : range.attempt ≠ 0)
    (paid : range.Paid found counted) (due : range.Due found hope)
    (more : (range.within found).card + gain ≤ (range.within found').card)
    (hopeful : hope → hope' ∨ unsignedInt ≤ counted + gain) : range.Due found' hope' := by
  rcases due with counting | hoping | prepaid
  · exact Or.inl counting
  · rcases hopeful hoping with hoping | turn
    · exact Or.inr (Or.inl hoping)
    · exact Or.inr (Or.inr (paid.turn visited more (by omega)))
  · have grown : (range.within found).card ≤ (range.within found').card := by omega
    exact Or.inr (Or.inr (Nat.le_trans prepaid grown))

theorem addDiscovered_le (count : Nat) (range : UIDRange) :
    (range.addDiscovered count).uidsDiscovered ≤ range.uidsDiscovered + count :=
  Nat.mod_le _ _

theorem addDiscovered_turn {count : Nat} {range : UIDRange}
    (some : range.uidsDiscovered + count ≠ 0) :
    (range.addDiscovered count).uidsDiscovered ≠ 0 ∨
      unsignedInt ≤ range.uidsDiscovered + count := by
  rcases Nat.lt_or_ge (range.uidsDiscovered + count) unsignedInt with small | turn
  · left
    simp only [UIDRange.addDiscovered, Nat.mod_eq_of_lt small]
    exact some
  · exact Or.inr turn

theorem UIDRange.Paid.addDiscovered {counted : Nat} (paid : range.Paid found counted)
    (more : (range.within found).card + gain ≤ (range.within found').card)
    (less : counted' + count ≤ counted + gain) :
    (range.addDiscovered count).Paid found' counted' := by
  have under := addDiscovered_le count range
  have same : ((range.addDiscovered count).within found').card = (range.within found').card := rfl
  have attempt : (range.addDiscovered count).attempt = range.attempt := rfl
  unfold UIDRange.Paid at paid ⊢
  rw [same, attempt]
  omega

theorem UIDRange.Due.addDiscovered {counted : Nat} (visited : range.attempt ≠ 0)
    (paid : range.Paid found counted)
    (more : (range.within found).card + gain ≤ (range.within found').card)
    (less : count ≤ counted + gain)
    (reason : range.uidsDiscovered + count ≠ 0 ∨ range.Due found hope) :
    (range.addDiscovered count).Due found' hope := by
  by_cases some : range.uidsDiscovered + count ≠ 0
  · rcases addDiscovered_turn some with counting | turn
    · exact Or.inl counting
    · have covered : unsignedInt ≤ range.uidsDiscovered + counted + gain := by omega
      have prepaid := paid.turn visited more covered
      exact Or.inr (Or.inr prepaid)
  · rcases reason with counting | due
    · omega
    · rcases due with counting | hoping | prepaid
      · omega
      · exact Or.inr (Or.inl hoping)
      · have grown : (range.within found).card ≤ (range.within found').card := by omega
        exact Or.inr (Or.inr (Nat.le_trans prepaid grown))

/-- The ranges below see `gain` more UIDs; what they hoped for has come or is still ahead. -/
theorem Charged.mono {remaining' : UIDSet} {counted : Nat}
    (charged : Charged remaining found counted hope stack)
    (gains : ∀ range ∈ stack, range.attempt ≠ 0 →
      (range.within found).card + gain ≤ (range.within found').card)
    (less : counted' ≤ counted + gain)
    (hopeful : (hope ∨ remaining' ≠ remaining) → hope' ∨ unsignedInt ≤ counted + gain) :
    Charged remaining' found' counted' hope' stack := by
  induction stack generalizing counted counted' hope hope' with
  | nil => trivial
  | cons range rest ih =>
    obtain ⟨top, below⟩ := charged
    refine ⟨?_, ih below (fun outer member => gains outer (List.mem_cons_of_mem range member))
      (by omega) ?_⟩
    · intro visited
      obtain ⟨paid, due⟩ := top visited
      have more := gains range List.mem_cons_self visited
      exact ⟨paid.mono more less, due.mono visited paid more fun hoping => hopeful (Or.inl hoping)⟩
    · intro reason
      by_cases changed : remaining' = remaining
      · subst changed
        rcases reason with (hoping | promising) | changed
        · exact (hopeful (Or.inl hoping)).imp Or.inl (by omega)
        · exact Or.inl (Or.inr promising)
        · exact absurd rfl changed
      · exact (hopeful (Or.inr changed)).imp Or.inl (by omega)

/-- A freed range hands its count to the closest visited range. -/
theorem Charged.collect {counted position : Nat} (stacked : Stacked stack)
    (visited : visitedBelow stack = some position)
    (charged : Charged remaining found (counted + count) hope stack)
    (hopeful : hope → hope' ∨ count ≠ 0) :
    Charged remaining found counted hope'
      (modifyRange position (UIDRange.addDiscovered count) stack) := by
  induction stack generalizing counted hope hope' with
  | nil => cases visited
  | cons range rest ih =>
    obtain ⟨top, below⟩ := charged
    obtain ⟨sound, stacked⟩ := stacked
    unfold modifyRange
    by_cases unvisited : range.attempt = 0
    · simp only [visitedBelow, unvisited, ↓reduceIte] at visited
      rw [if_neg (Nat.ne_of_gt (visitedBelow_lt visited))]
      refine ⟨fun impossible => absurd unvisited impossible,
        @ih (hope ∨ range.Promising remaining) _ _ stacked visited ?_ ?_⟩
      · rwa [Nat.add_right_comm] at below
      · rintro (hoping | promising)
        · exact (hopeful hoping).imp_left Or.inl
        · exact Or.inl (Or.inr promising)
    · simp only [visitedBelow, unvisited, ↓reduceIte, Option.some.injEq] at visited
      rw [if_pos visited]
      obtain ⟨paid, due⟩ := top unvisited
      have level : (range.within found).card + 0 ≤ (range.within found).card := Nat.le_refl _
      refine ⟨fun _ => ⟨paid.addDiscovered level Nat.le.refl,
        UIDRange.Due.addDiscovered unvisited paid level (by omega) ?_⟩, ?_⟩
      · rcases due with counting | hoping | prepaid
        · exact Or.inl (by omega)
        · rcases hopeful hoping with hoping | some
          · exact Or.inr (Or.inr (Or.inl hoping))
          · exact Or.inl (by omega)
        · exact Or.inr (Or.inr (Or.inr prepaid))
      · have under := addDiscovered_le count range
        have turn := @addDiscovered_turn count range
        refine below.mono (fun _ _ _ => Nat.le_of_eq (Nat.add_zero _)) (by omega) ?_
        rintro ((hoping | counting | room) | changed)
        · rcases hopeful hoping with hoping | some
          · exact Or.inl (Or.inl hoping)
          · exact (turn (by omega)).imp (fun counting => Or.inr (Or.inl counting)) (by omega)
        · exact (turn (by omega)).imp (fun counting => Or.inr (Or.inl counting)) (by omega)
        · exact Or.inl (Or.inr (Or.inr room))
        · exact absurd rfl changed

/-- The stack while a request for its top range is outstanding. The top owes nothing yet. -/
def Probing (remaining found : UIDSet) : List UIDRange → Prop
  | [] => False
  | range :: rest =>
    range.Paid found 0 ∧
    Charged remaining found range.uidsDiscovered (range.Promising remaining) rest

theorem Charged.rest {rest : List UIDRange}
    (charged : Charged remaining found 0 False (range :: rest)) :
    Charged remaining found range.uidsDiscovered (range.Promising remaining) rest := by
  have below := charged.2
  rwa [Nat.zero_add, false_or] at below

theorem Charged.of_rest {rest : List UIDRange}
    (top : range.attempt ≠ 0 → range.Paid found 0 ∧ range.Due found False)
    (below : Charged remaining found range.uidsDiscovered (range.Promising remaining) rest) :
    Charged remaining found 0 False (range :: rest) := by
  refine ⟨top, ?_⟩
  rwa [Nat.zero_add, false_or]

theorem visit_within (range : UIDRange) (uids : UIDSet) :
    range.visit.within uids = range.within uids := by
  simp only [UIDRange.within, visit_lower, visit_upper]

theorem Charged.visit {rest : List UIDRange} (sound : range.Sound rest)
    (charged : Charged remaining found 0 False (range :: rest)) :
    Probing remaining found (range.visit :: rest) := by
  have below := charged.rest
  refine ⟨?_, ?_⟩
  · unfold UIDRange.Paid
    rw [visit_within, visit_uidsDiscovered, visit_attempt sound]
    split
    · rename_i none
      rw [none, Nat.add_sub_cancel, Nat.add_zero]
      by_cases unvisited : range.attempt = 0
      · rw [unvisited, Nat.zero_mul]
        omega
      · rcases (charged.1 unvisited).2 with counting | hoping | prepaid
        · omega
        · cases hoping
        · exact prepaid
    · rename_i counting
      exact (charged.1 fun unvisited => counting (sound.fresh unvisited)).1
  · unfold UIDRange.Promising
    rw [visit_within, visit_uidsDiscovered]
    exact below

/-- The attempt limit is reached only after the counter has wrapped on every attempt. -/
theorem Charged.limit {rest : List UIDRange} (sound : range.Sound rest)
    (charged : Charged remaining found 0 False (range :: rest))
    (exhausted : range.visit.attempt = maxEmptyBranchAttempts) :
    (maxEmptyBranchAttempts - 1) * unsignedInt ≤ (range.within found).card := by
  have bound := sound.attempts
  rw [visit_attempt sound] at exhausted
  split at exhausted
  · rename_i none
    have attempt : range.attempt = maxEmptyBranchAttempts - 1 := by
      omega
    have visited : range.attempt ≠ 0 := by
      rw [attempt]
      decide
    rcases (charged.1 visited).2 with counting | hoping | prepaid
    · omega
    · cases hoping
    · rwa [attempt] at prepaid
  · omega

theorem Probing.silent {rest : List UIDRange} {parent : Nat} (stacked : Stacked (range :: rest))
    (child : range.parent = some parent) (probing : Probing remaining found (range :: rest))
    (empty : range.within remaining = ∅) :
    Charged remaining found 0 False
      (modifyRange parent (UIDRange.addDiscovered range.uidsDiscovered) rest) := by
  have below := probing.2
  rw [← Nat.zero_add range.uidsDiscovered] at below
  refine Charged.collect stacked.2 (by rw [← child, stacked.1.parent]) below ?_
  rintro (counting | room)
  · exact Or.inr counting
  · rw [empty] at room
    exact absurd room Finset.not_nonempty_empty

theorem new_promising {lower upper : UID} (unfound : uid ∈ remaining) (atLeast : lower ≤ uid)
    (atMost : uid ≤ upper) (parent : Option Nat) :
    (UIDRange.new lower upper parent).Promising remaining :=
  Or.inr ⟨uid, mem_between.mpr ⟨unfound, atLeast, atMost⟩⟩

/-- What can be found in a range can be found in one of its halves. -/
theorem split_promising (parent : Option Nat) (ordered : range.lower ≤ range.upper)
    (wide : range.lower ≠ range.upper) (room : (range.within remaining).Nonempty) :
    (UIDRange.new (UID.ofNat ((range.lower.toNat + range.upper.toNat) / 2 + 1)) range.upper
      parent).Promising remaining ∨
    (UIDRange.new range.lower (UID.ofNat ((range.lower.toNat + range.upper.toNat) / 2))
      parent).Promising remaining := by
  obtain ⟨above, inside, low, high⟩ := split_bounds ordered wide
  obtain ⟨uid, member⟩ := room
  obtain ⟨unfound, atLeast, atMost⟩ := mem_between.mp member
  rcases Nat.lt_or_ge ((range.lower.toNat + range.upper.toNat) / 2) uid.toNat with right | left
  · have upper : UID.ofNat ((range.lower.toNat + range.upper.toNat) / 2 + 1) ≤ uid := by
      rw [UID.le_iff, high]
      omega
    exact Or.inl (new_promising unfound upper atMost parent)
  · have lower : uid ≤ UID.ofNat ((range.lower.toNat + range.upper.toNat) / 2) := by
      rw [UID.le_iff, low]
      exact left
    exact Or.inr (new_promising unfound atLeast lower parent)

theorem Probing.split {rest : List UIDRange} (sound : range.Sound rest)
    (probing : Probing remaining found (range :: rest)) (wide : range.lower ≠ range.upper)
    (room : (range.within remaining).Nonempty) :
    Charged remaining found 0 False (splitRange range rest) := by
  obtain ⟨paid, below⟩ := probing
  have promising := split_promising (some rest.length) sound.ordered wide room
  refine ⟨fun unvisited => absurd rfl unvisited, fun unvisited => absurd rfl unvisited,
    fun _ => ⟨?_, ?_⟩, ?_⟩
  · exact paid.reset rfl
  · exact Or.inr (Or.inl (promising.imp_left Or.inr))
  · refine below.mono (fun _ _ _ => Nat.le_of_eq (Nat.add_zero _)) (Nat.zero_le _) ?_
    intro _
    exact Or.inl (Or.inl (promising.imp_left Or.inr))

theorem insert_within (unfound : uid ∉ found) (lower : range.lower ≤ uid)
    (upper : uid ≤ range.upper) :
    (range.within found).card + 1 ≤ (range.within (insert uid found)).card := by
  have inserted : range.within (insert uid found) = insert uid (range.within found) :=
    (Finset.filter_insert _ uid found).trans (if_pos ⟨lower, upper⟩)
  have absent : uid ∉ range.within found := fun member => unfound (mem_between.mp member).1
  rw [inserted, Finset.card_insert_of_notMem absent]

theorem Probing.muted {rest : List UIDRange} (stacked : Stacked (range :: rest))
    (visited : range.attempt ≠ 0) (probing : Probing remaining found (range :: rest))
    (unfound : uid ∉ found) (inside : uid ∈ range.within remaining) :
    Charged (remaining.erase uid) (insert uid found) 0 False (range.addDiscovered 1 :: rest) := by
  obtain ⟨paid, below⟩ := probing
  obtain ⟨_, lower, upper⟩ := mem_between.mp inside
  have more := insert_within unfound lower upper
  have counting : range.uidsDiscovered + 1 ≠ 0 := Nat.succ_ne_zero _
  refine Charged.of_rest (fun _ => ⟨paid.addDiscovered more Nat.le.refl,
    UIDRange.Due.addDiscovered visited paid more Nat.le.refl (Or.inl counting)⟩) ?_
  refine below.mono (fun outer member outerVisited => ?_) (addDiscovered_le 1 range) ?_
  · have nested := stacked.1.nested outer member outerVisited
    exact insert_within unfound (nested.1.trans lower) (upper.trans nested.2)
  · intro _
    exact (addDiscovered_turn counting).imp_left Or.inl

/-- Four turns of the 32-bit counter: what the attempt limit can be spent on. -/
def countLimit : Nat := (maxEmptyBranchAttempts - 1) * unsignedInt

/-- How many UIDs the counters let a run find: fewer than the limit, or exactly
as many if they do not all lie in one half of the UID space. -/
def WithinCounters (uids : UIDSet) : Prop :=
  uids.card < countLimit ∨
  (uids.card = countLimit ∧ (∃ uid ∈ uids, uid.toNat < 2 ^ 47) ∧ ∃ uid ∈ uids, 2 ^ 47 ≤ uid.toNat)

def UIDRange.Halved (range : UIDRange) : Prop :=
  range.upper.toNat < 2 ^ 47 ∨ 2 ^ 47 ≤ range.lower.toNat

/-- A range that nothing has gone wrong in. -/
structure UIDRange.Untroubled (range : UIDRange) (rest : List UIDRange) : Prop where
  failures : range.failures = 0
  clean : range.branchCorrupt = false
  root : rest = [] → range.lower = ⟨0, 0⟩ ∧ range.upper = UID.allDevices
  half : rest ≠ [] → range.Halved

def Untroubled : List UIDRange → Prop
  | [] => True
  | range :: rest => range.Untroubled rest ∧ Untroubled rest

theorem modifyRange_eq_nil {position : Nat} {update : UIDRange → UIDRange} :
    modifyRange position update stack = [] ↔ stack = [] := by
  rw [← List.length_eq_zero_iff, modifyRange_length, List.length_eq_zero_iff]

theorem Untroubled.collect (untroubled : Untroubled stack) (position count : Nat) :
    Untroubled (modifyRange position (UIDRange.addDiscovered count) stack) := by
  induction stack with
  | nil => trivial
  | cons range rest ih =>
    obtain ⟨top, below⟩ := untroubled
    unfold modifyRange
    split
    · exact ⟨{ top with }, below⟩
    · refine ⟨⟨top.failures, top.clean, ?_, ?_⟩, ih below⟩
      · exact fun empty => top.root (modifyRange_eq_nil.mp empty)
      · exact fun nonempty => top.half fun empty => nonempty (modifyRange_eq_nil.mpr empty)

theorem UIDRange.Untroubled.visit {rest : List UIDRange} (untroubled : range.Untroubled rest) :
    range.visit.Untroubled rest := by
  refine ⟨?_, ?_, ?_, ?_⟩
  · rw [visit_failures, untroubled.failures]
  · rw [visit_branchCorrupt, untroubled.clean]
  · rw [visit_lower, visit_upper]
    exact untroubled.root
  · unfold UIDRange.Halved
    rw [visit_lower, visit_upper]
    exact untroubled.half

/-- With nothing gone wrong, only the attempt limit can stop a range. -/
theorem UIDRange.Untroubled.limit {rest : List UIDRange} (untroubled : range.Untroubled rest)
    (limit : range.visit.LimitReached) :
    range.visit.attempt = maxEmptyBranchAttempts := by
  rcases limit with failed | exhausted | corrupt
  · rw [visit_failures, untroubled.failures] at failed
    cases failed
  · exact exhausted
  · rw [visit_branchCorrupt, untroubled.clean] at corrupt
    cases corrupt

/-- The midpoint of the root separates the halves, and every other split stays inside one. -/
theorem split_halved {rest : List UIDRange} {mid : Nat} (untroubled : range.Untroubled rest)
    (middle : mid = (range.lower.toNat + range.upper.toNat) / 2) (inside : mid < range.upper.toNat) :
    (mid < 2 ^ 47 ∨ 2 ^ 47 ≤ range.lower.toNat) ∧
      (range.upper.toNat < 2 ^ 47 ∨ 2 ^ 47 ≤ mid + 1) := by
  by_cases empty : rest = []
  · obtain ⟨lower, upper⟩ := untroubled.root empty
    rw [lower, upper, UID.zero_toNat, UID.allDevices_toNat] at middle
    omega
  · rcases untroubled.half empty with low | high
    · omega
    · omega

theorem new_untroubled {lower upper : UID} {rest : List UIDRange} (parent : Option Nat)
    (nonempty : rest ≠ []) (half : upper.toNat < 2 ^ 47 ∨ 2 ^ 47 ≤ lower.toNat) :
    (UIDRange.new lower upper parent).Untroubled rest :=
  ⟨rfl, rfl, fun empty => absurd empty nonempty, fun _ => half⟩

theorem Untroubled.split {rest : List UIDRange} (untroubled : Untroubled (range :: rest))
    (ordered : range.lower ≤ range.upper) (wide : range.lower ≠ range.upper) :
    Untroubled (splitRange range rest) := by
  obtain ⟨top, below⟩ := untroubled
  obtain ⟨_, inside, low, high⟩ := split_bounds ordered wide
  obtain ⟨left, right⟩ := split_halved top rfl inside
  rw [← low] at left
  rw [← high] at right
  exact ⟨new_untroubled _ (List.cons_ne_nil _ _) right, new_untroubled _ (List.cons_ne_nil _ _) left,
    { top with }, below⟩

/-- What a fault-free bus guarantees between steps. -/
structure Searching (responders base : UIDSet) (agent : Agent) (history : List Exchange) :
    Prop where
  base : base ⊆ agent.uids
  uids : agent.uids ⊆ responders
  badUids : agent.badUids = ∅
  intact : agent.treeCorrupt = false
  listening : unmuted responders history = responders \ agent.uids
  untroubled : Untroubled agent.uidRanges
  exhausted : agent.uidRanges = [] → agent.uids = responders

/-- The counting invariant at each point of the search. -/
def Accounting (responders base : UIDSet) (agent : Agent) : Next → Prop
  | .sendDiscovery =>
    Charged (responders \ agent.uids) (agent.uids \ base) 0 False agent.uidRanges
  | .request (.branch _ _) =>
    Probing (responders \ agent.uids) (agent.uids \ base) agent.uidRanges
  | .request (.muteDevice uid .branchMute) =>
    Probing (responders \ agent.uids) (agent.uids \ base) agent.uidRanges ∧
      ∀ range rest, agent.uidRanges = range :: rest → uid ∈ range.within (responders \ agent.uids)
  | .complete _ _ _ => True
  | _ => False

section
variable {responders base : UIDSet} {agent after : Agent} {history : List Exchange}

variable {range : UIDRange} {target : Target}

/-- A range abandoned at the attempt limit holds every UID there was to find. -/
theorem Searching.limit {rest : List UIDRange} (searching : Searching responders base agent history)
    (countable : WithinCounters (responders \ base)) (sound : range.Sound rest)
    (untroubled : range.Untroubled rest)
    (charged : Charged (responders \ agent.uids) (agent.uids \ base) 0 False (range :: rest))
    (limit : range.visit.LimitReached) :
    rest = [] ∧ agent.uids = responders := by
  have many := charged.limit sound (untroubled.limit limit)
  have inside := between_subset range.lower range.upper (agent.uids \ base)
  have found : agent.uids \ base ⊆ responders \ base :=
    Finset.sdiff_subset_sdiff searching.uids subset_rfl
  have atMost := Finset.card_le_card (inside.trans found)
  have full : (responders \ base).card = countLimit ∧
      (∃ uid ∈ responders \ base, uid.toNat < 2 ^ 47) ∧
      ∃ uid ∈ responders \ base, 2 ^ 47 ≤ uid.toNat := by
    rcases countable with few | full
    · exact absurd (Nat.le_trans many atMost) (Nat.not_le.mpr few)
    · exact full
  obtain ⟨card, ⟨low, lowMember, below⟩, high, highMember, above⟩ := full
  have all : range.within (agent.uids \ base) = responders \ base :=
    Finset.eq_of_subset_of_card_le (inside.trans found) (card.trans_le many)
  refine ⟨?_, ?_⟩
  · by_contra nonempty
    rw [← all] at lowMember highMember
    obtain ⟨_, atLeast, _⟩ := mem_between.mp lowMember
    obtain ⟨_, _, atMost⟩ := mem_between.mp highMember
    rw [UID.le_iff] at atLeast atMost
    rcases untroubled.half nonempty with low | high
    · omega
    · omega
  · apply searching.uids.antisymm
    intro uid member
    by_cases remembered : uid ∈ base
    · exact searching.base remembered
    · have sought := Finset.mem_sdiff.mpr ⟨member, remembered⟩
      rw [← all] at sought
      exact (Finset.mem_sdiff.mp (inside sought)).1

/-- `SendDiscovery` keeps the account: it abandons at most a root with nothing left to find. -/
theorem Transition.send_searching {reply : Reply} {following : Next}
    (transition : Transition agent reply .sendDiscovery after following)
    (live : Live agent .sendDiscovery) (countable : WithinCounters (responders \ base))
    (searching : Searching responders base agent history)
    (accounting : Accounting responders base agent .sendDiscovery) :
    Searching responders base after history ∧ Accounting responders base after following := by
  have stacked := live.2
  have untroubled := searching.untroubled
  have charged : Charged (responders \ agent.uids) (agent.uids \ base) 0 False agent.uidRanges :=
    accounting
  cases transition with
  | complete callback registered empty => exact ⟨searching, trivial⟩
  | abandonRoot range stack limit =>
    rw [stack] at stacked untroubled charged
    obtain ⟨_, everything⟩ :=
      searching.limit countable stacked.1 untroubled.1 charged limit
    refine ⟨{ searching with
      intact := ?_, untroubled := trivial, exhausted := fun _ => everything }, trivial⟩
    simp only [searching.intact, untroubled.1.clean, Bool.or_self]
  | abandon range rest parent stack child limit =>
    rw [stack] at stacked untroubled charged
    obtain ⟨rfl, _⟩ := searching.limit countable stacked.1 untroubled.1 charged limit
    have orphan : range.parent = none := stacked.1.parent
    rw [child] at orphan
    cases orphan
  | visit range rest stack below =>
    rw [stack] at stacked untroubled charged
    refine ⟨{ searching with untroubled := ⟨untroubled.1.visit, untroubled.2⟩, exhausted := ?_ },
      charged.visit stacked.1⟩
    intro empty
    cases empty

section
variable (ideal : Ideal responders target) (searching : Searching responders base agent history)
include ideal searching

/-- A silent branch leaves nobody in it listening. -/
theorem Searching.within_of_silent
    (silent : (target history (.branch range.lower range.upper)).data = []) :
    range.within (responders \ agent.uids) = ∅ := by
  have empty := ideal.of_silent silent
  rwa [searching.listening] at empty

theorem Searching.within_of_collision
    (answered : (target history (.branch range.lower range.upper)).data ≠ [])
    (collision : locatedUid (target history (.branch range.lower range.upper)).data = none) :
    2 ≤ (range.within (responders \ agent.uids)).card := by
  have many := ideal.of_collision answered collision
  rwa [searching.listening] at many

theorem Searching.within_of_located {uid : UID}
    (located : locatedUid (target history (.branch range.lower range.upper)).data = some uid) :
    uid ∈ range.within (responders \ agent.uids) := by
  have member := ideal.of_located located
  rwa [searching.listening] at member

end

/-- Two different UIDs do not fit in a range of one. -/
theorem within_card_le_one (single : range.lower = range.upper) (uids : UIDSet) :
    (range.within uids).card ≤ 1 := by
  rw [Finset.card_le_one]
  intro left leftMember right rightMember
  obtain ⟨_, leftLower, leftUpper⟩ := mem_between.mp leftMember
  obtain ⟨_, rightLower, rightUpper⟩ := mem_between.mp rightMember
  rw [← single] at leftUpper rightUpper
  rw [le_antisymm leftUpper leftLower, le_antisymm rightUpper rightLower]

theorem Accounting.not_preliminary {request : Request}
    (accounting : Accounting responders base agent (.request request)) :
    ¬ request.Preliminary := by
  intro preliminary
  cases request with
  | unMuteAll => cases accounting
  | muteDevice uid callback =>
    cases callback with
    | incrementalMute => cases accounting
    | branchMute => cases preliminary
  | branch lower upper => cases preliminary

/-- A responder that is being muted always acknowledges. -/
theorem Accounting.mute_status {uid : UID}
    (accounting : Accounting responders base agent (.request (.muteDevice uid .branchMute)))
    (ideal : Ideal responders target) (live : Live agent (.request (.muteDevice uid .branchMute)))
    (earlier : List Exchange) :
    uid ∈ responders ∧ (target earlier (.muteDevice uid .branchMute)).status = true := by
  obtain ⟨_, _, _, _, _, _, range, rest, stack, _⟩ := live
  have member := accounting.2 range rest stack
  have present := (Finset.mem_sdiff.mp (mem_between.mp member).1).1
  rw [ideal.mute]
  exact ⟨present, decide_eq_true present⟩

/-- The answers of a fault-free bus keep the account. -/
theorem Transition.answer_searching {request : Request} {following : Next}
    (transition : Transition agent (target history request) (.request request) after following)
    (ideal : Ideal responders target) (live : Live agent (.request request))
    (searching : Searching responders base agent history)
    (accounting : Accounting responders base agent (.request request)) :
    Searching responders base after ((request, target history request) :: history) ∧
      Accounting responders base after following := by
  have untroubled := searching.untroubled
  cases transition with
  | muteNext request uid queue preliminary waiting | muteDone request preliminary drained =>
    exact absurd preliminary accounting.not_preliminary
  | silentRoot range stack silent =>
    rw [stack] at untroubled
    have nobody := searching.within_of_silent ideal silent
    obtain ⟨lower, upper⟩ := untroubled.1.root rfl
    rw [UIDRange.within, lower, upper, between_all, Finset.sdiff_eq_empty_iff_subset] at nobody
    refine ⟨{ searching with
      intact := ?_
      untroubled := trivial
      exhausted := fun _ => searching.uids.antisymm nobody }, trivial⟩
    simp only [searching.intact, untroubled.1.clean, Bool.or_self]
  | silent range rest parent stack child silent =>
    have stacked := live.2.1
    have probing : Probing (responders \ agent.uids) (agent.uids \ base) agent.uidRanges :=
      accounting
    have nobody := searching.within_of_silent ideal silent
    rw [stack] at untroubled stacked probing
    refine ⟨{ searching with untroubled := untroubled.2.collect _ _, exhausted := ?_ },
      probing.silent stacked child nobody⟩
    intro empty
    rw [modifyRange_eq_nil] at empty
    subst empty
    have orphan : range.parent = none := stacked.1.parent
    rw [child] at orphan
    cases orphan
  | endOfTree range rest stack answered collision single =>
    have many := searching.within_of_collision ideal answered collision
    have few := within_card_le_one single (responders \ agent.uids)
    omega
  | split range rest stack answered collision wide =>
    have many := searching.within_of_collision ideal answered collision
    have room : (range.within (responders \ agent.uids)).Nonempty :=
      Finset.card_pos.mp (by omega)
    have stacked := live.2.1
    have probing : Probing (responders \ agent.uids) (agent.uids \ base) agent.uidRanges :=
      accounting
    rw [stack] at untroubled stacked probing
    refine ⟨{ searching with
      untroubled := untroubled.split stacked.1.ordered wide
      exhausted := ?_ },
      probing.split stacked.1 wide room⟩
    intro empty
    cases empty
  | repeated range rest uid stack located known =>
    have member := searching.within_of_located ideal located
    have unfound := (Finset.mem_sdiff.mp (mem_between.mp member).1).2
    rcases known with known | bad
    · exact absurd known unfound
    · rw [searching.badUids] at bad
      cases bad
  | located range rest uid stack located unknown untried =>
    have member := searching.within_of_located ideal located
    refine ⟨{ searching with }, accounting, ?_⟩
    intro top below same
    rw [stack] at same
    cases same
    exact member
  | muted range rest stack success =>
    have present := (accounting.mute_status ideal live history).1
    obtain ⟨probing, inside⟩ := accounting
    obtain ⟨_, stacked, _, unknown, _, _, top, below, same, visited⟩ := live
    rw [stack] at same
    cases same
    have member := inside range rest stack
    rw [stack] at untroubled stacked probing
    have unfound : agent.mutingUid ∉ agent.uids \ base :=
      fun found => unknown (Finset.mem_sdiff.mp found).1
    have found : insert agent.mutingUid agent.uids \ base =
        insert agent.mutingUid (agent.uids \ base) :=
      Finset.insert_sdiff_of_notMem _ fun remembered => unknown (searching.base remembered)
    have remaining : responders \ insert agent.mutingUid agent.uids =
        (responders \ agent.uids).erase agent.mutingUid :=
      Finset.sdiff_insert _ _ _
    refine ⟨⟨searching.base.trans (Finset.subset_insert _ _),
      Finset.insert_subset present searching.uids, searching.badUids, searching.intact, ?_,
      ⟨⟨untroubled.1.failures, untroubled.1.clean, untroubled.1.root, untroubled.1.half⟩,
        untroubled.2⟩, ?_⟩, ?_⟩
    · rw [unmuted, searching.listening, remaining]
    · intro empty
      cases empty
    · have charged := probing.muted stacked visited.visited unfound member
      rw [← found, ← remaining] at charged
      exact charged
  | retry failed again | gaveUp failed spent =>
    rw [(accounting.mute_status ideal live history).2] at failed
    cases failed

end

/-- A session whose counters account for everything it has found. -/
structure Session.Counted (responders base : UIDSet) (session : Session) : Prop where
  live : Live session.agent session.next
  searching : Searching responders base session.agent session.history
  accounting : Accounting responders base session.agent session.next

theorem Session.step_counted {base : UIDSet} {target : Target} (ideal : Ideal responders target)
    (countable : WithinCounters (responders \ base)) (session : Session)
    (counted : session.Counted responders base) :
    (session.step target).Counted responders base := by
  by_cases completed : session.Completed
  · rwa [session.step_of_completed target completed]
  have transition := session.step_transition target counted.live completed
  obtain ⟨live, searching, accounting⟩ := counted
  have following := session.step_live target live
  cases next : session.next with
  | request request =>
    have reply : session.reply target = target session.history request := by
      simp only [Session.reply, next]
    have history : (session.step target).history =
        (request, target session.history request) :: session.history := by
      simp only [Session.step, next]
    rw [next] at live accounting
    rw [next, reply] at transition
    obtain ⟨searching, accounting⟩ := transition.answer_searching ideal live searching accounting
    exact ⟨following, history ▸ searching, accounting⟩
  | sendDiscovery =>
    have history : (session.step target).history = session.history := by
      simp only [Session.step, next, Session.after]
    rw [next] at live accounting transition
    obtain ⟨searching, accounting⟩ :=
      transition.send_searching live countable searching accounting
    exact ⟨following, history ▸ searching, accounting⟩
  | complete callback status uids => exact absurd ⟨callback, status, uids, next⟩ completed
  | fail callback | finished | fault reason => rw [next] at live; cases live

theorem Session.Prepared.counted {base : UIDSet} {session : Session}
    (prepared : session.Prepared responders base) (live : Live session.agent session.next)
    (remembered : base ⊆ responders) : session.Counted responders base := by
  refine ⟨live, ⟨?_, ?_, prepared.badUids, prepared.intact, ?_, ?_, ?_⟩, ?_⟩
  · rw [prepared.uids]
  · rw [prepared.uids]
    exact remembered
  · rw [prepared.listening, prepared.uids]
  · rw [prepared.stack]
    exact ⟨⟨rfl, rfl, fun _ => ⟨rfl, rfl⟩, fun nonempty => absurd rfl nonempty⟩, trivial⟩
  · intro empty
    rw [prepared.stack] at empty
    cases empty
  · rw [prepared.next]
    unfold Accounting
    rw [prepared.stack]
    exact ⟨fun visited => absurd rfl visited, trivial⟩

theorem known_subset (agent : Agent) (incremental : Bool) (responders : UIDSet) :
    known agent incremental responders ⊆ responders := by
  cases incremental with
  | false => exact Finset.empty_subset _
  | true => exact Finset.inter_subset_right

/-- Against a fault-free bus, a run that the counters do not fail reports exactly
the responders, and reports success. -/
theorem Session.discovers {target : Target} (ideal : Ideal responders target) {agent : Agent}
    (idle : agent.Idle) (incremental : Bool) (callback : Nat)
    (countable : WithinCounters (sought agent incremental responders)) :
    ∃ count, ((Session.step target)^[count] (Session.start agent incremental callback)).next =
      .complete callback true responders := by
  obtain ⟨preliminary, prepared⟩ :=
    Session.reaches_prepared ideal idle incremental callback
  obtain ⟨search, completed⟩ := Session.reaches_completion target idle incremental callback
  refine ⟨search + preliminary, ?_⟩
  have owned := TransitionSystem.iterate_invariant (Session.step_owned target callback)
    (Session.start_owned idle incremental callback)
  have counted : ((Session.step target)^[search + preliminary]
      (Session.start agent incremental callback)).Counted responders
        (known agent incremental responders) := by
    rw [Function.iterate_add_apply]
    exact TransitionSystem.iterate_invariant (Session.step_counted ideal countable)
      (prepared.counted (owned preliminary).live (known_subset agent incremental responders)) search
  have stopped : ((Session.step target)^[search + preliminary]
      (Session.start agent incremental callback)).Completed := by
    rw [Nat.add_comm, Function.iterate_add_apply]
    rwa [Session.iterate_of_completed target completed]
  obtain ⟨next, _⟩ := (owned (search + preliminary)).completed stopped
  have live := counted.live
  rw [next] at live
  rw [next, counted.searching.intact, counted.searching.exhausted live.2.1]
  rfl

end OpenLighting.DiscoveryAgent

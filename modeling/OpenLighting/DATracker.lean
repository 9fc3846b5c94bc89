import OpenLighting.FiniteMap
import OpenLighting.IPV4Address
import OpenLighting.SlpScopeSet
import OpenLighting.TransitionSystem

namespace OpenLighting.Slp

open OpenLighting.Network TransitionSystem FiniteMap

/-- The fields of a `DAAdvertPacket` that the tracker reads. -/
structure DAAdvert where
  errorCode : UInt16
  bootTimestamp : UInt32
  url : List UInt8
  scopeList : List UInt8

structure InternalDirectoryAgent where
  bootTime : UInt32
  scopes : ScopeSet
  url : List UInt8
  address : IPV4Address
  minRefreshInterval : UInt32
  deriving DecidableEq

/-- The tracker, with the agents that it has passed to its callbacks. -/
structure DATracker where
  agents : AList (fun _ : List UInt8 => InternalDirectoryAgent)
  ran : List InternalDirectoryAgent

/-- `service:directory-agent://`. -/
def daServicePrefix : List UInt8 :=
  [115, 101, 114, 118, 105, 99, 101, 58, 100, 105, 114, 101, 99, 116, 111, 114, 121, 45, 97, 103,
    101, 110, 116, 58, 47, 47]

def addressFromURL (url : List UInt8) : Option IPV4Address :=
  if daServicePrefix.isPrefixOf url then IPV4Address.fromString (url.drop daServicePrefix.length)
  else none

variable (tracker : DATracker) (advert : DAAdvert)

namespace DATracker

def initial : DATracker := ⟨∅, []⟩

def runCallbacks (agent : InternalDirectoryAgent) : DATracker :=
  { tracker with ran := tracker.ran ++ [agent] }

variable (url : List UInt8)

def store (agent : InternalDirectoryAgent) : DATracker :=
  { tracker with agents := tracker.agents.insert url agent }

def newDAAdvert : DATracker :=
  if advert.errorCode ≠ 0 then tracker
  else if advert.bootTimestamp = 0 then
    { tracker with agents := tracker.agents.erase advert.url }
  else
    match tracker.agents.lookup advert.url with
    | none =>
      match addressFromURL advert.url with
      | none => tracker
      | some address =>
        let agent : InternalDirectoryAgent :=
          ⟨advert.bootTimestamp, .parse advert.scopeList, advert.url, address, 0⟩
        (tracker.store advert.url agent).runCallbacks agent
    | some agent =>
      if advert.bootTimestamp < agent.bootTime then tracker
      else if agent.bootTime < advert.bootTimestamp then
        let agent := { agent with bootTime := advert.bootTimestamp }
        (tracker.store advert.url agent).runCallbacks agent
      else if agent.scopes ≠ .parse advert.scopeList then
        let agent := { agent with scopes := .parse advert.scopeList }
        (tracker.store advert.url agent).runCallbacks agent
      else tracker

def lookupDA : Option InternalDirectoryAgent :=
  tracker.agents.lookup url

def markAsBad : DATracker :=
  { tracker with agents := tracker.agents.erase url }

/-- `GetDAsForScopes`, in the order of the URLs. -/
def getDAsForScopes (scopes : ScopeSet) : List InternalDirectoryAgent :=
  ((tracker.agents.keys.insertionSort (· ≤ ·)).filterMap tracker.lookupDA).filter
    (fun agent => decide ((agent.scopes.intersection scopes).scopes ≠ ∅))

/-- An advert that the tracker should follow. -/
structure Accepted (tracker : DATracker) (advert : DAAdvert) : Prop where
  noError : advert.errorCode = 0
  up : advert.bootTimestamp ≠ 0
  parsable : (addressFromURL advert.url).isSome = true
  current : ∀ agent, tracker.agents.lookup advert.url = some agent →
    agent.bootTime ≤ advert.bootTimestamp

/-- The agent of an advert is unknown, has rebooted or has other scopes. -/
def News : Prop :=
  match tracker.agents.lookup advert.url with
  | none => True
  | some agent =>
    agent.bootTime < advert.bootTimestamp ∨ agent.scopes ≠ .parse advert.scopeList

/-- What an accepted advert should lead to. -/
structure Followed (tracker : DATracker) (advert : DAAdvert) (after : DATracker) : Prop where
  entry : ∃ agent, after.agents.lookup advert.url = some agent ∧
    agent.bootTime = advert.bootTimestamp ∧ agent.scopes = .parse advert.scopeList
  others : ∀ url, url ≠ advert.url → after.agents.lookup url = tracker.agents.lookup url
  callbacks : News tracker advert → ∃ agent, after.agents.lookup advert.url = some agent ∧
    after.ran = tracker.ran ++ [agent]
  quiet : ¬ News tracker advert → after.ran = tracker.ran

/-- A known agent does not come up again with other scopes. -/
def SteadyReboot : Prop :=
  Accepted tracker advert → ∀ agent, tracker.agents.lookup advert.url = some agent →
    agent.bootTime < advert.bootTimestamp → agent.scopes = .parse advert.scopeList

section Step
variable {tracker : DATracker} {advert : DAAdvert}

variable {agent : InternalDirectoryAgent}

/-- Storing an agent and passing it on is what an advert with news asks for. -/
theorem followed_store (news : News tracker advert) (boot : agent.bootTime = advert.bootTimestamp)
    (scopes : agent.scopes = .parse advert.scopeList) :
    Followed tracker advert ((tracker.store advert.url agent).runCallbacks agent) := by
  have found : (tracker.agents.insert advert.url agent).lookup advert.url = some agent :=
    AList.lookup_insert _
  constructor
  · exact ⟨agent, found, boot, scopes⟩
  · intro url different
    exact AList.lookup_insert_ne different
  · intro _
    exact ⟨agent, found, rfl⟩
  · intro none
    exact absurd news none

theorem newDAAdvert_unknown (accepted : Accepted tracker advert)
    (unknown : tracker.agents.lookup advert.url = none) :
    Followed tracker advert (tracker.newDAAdvert advert) := by
  obtain ⟨address, parsed⟩ := Option.isSome_iff_exists.mp accepted.parsable
  have news : News tracker advert := by
    rw [News, unknown]
    trivial
  rw [newDAAdvert, if_neg (not_not_intro accepted.noError), if_neg accepted.up]
  simp only [unknown, parsed]
  exact followed_store news rfl rfl

theorem newDAAdvert_rebooted (accepted : Accepted tracker advert)
    (known : tracker.agents.lookup advert.url = some agent)
    (rebooted : agent.bootTime < advert.bootTimestamp) :
    tracker.newDAAdvert advert =
      (tracker.store advert.url { agent with bootTime := advert.bootTimestamp }).runCallbacks
        { agent with bootTime := advert.bootTimestamp } := by
  rw [newDAAdvert, if_neg (not_not_intro accepted.noError), if_neg accepted.up]
  simp only [known]
  rw [if_neg (UInt32.not_lt.mpr (accepted.current agent known)), if_pos rebooted]

theorem newDAAdvert_sameBoot (accepted : Accepted tracker advert)
    (known : tracker.agents.lookup advert.url = some agent)
    (same : ¬ agent.bootTime < advert.bootTimestamp) :
    Followed tracker advert (tracker.newDAAdvert advert) := by
  have current := accepted.current agent known
  have boot : agent.bootTime = advert.bootTimestamp :=
    UInt32.le_antisymm current (UInt32.not_lt.mp same)
  rw [newDAAdvert, if_neg (not_not_intro accepted.noError), if_neg accepted.up]
  simp only [known]
  rw [if_neg (UInt32.not_lt.mpr current), if_neg same]
  split
  · rename_i changed
    have news : News tracker advert := by
      rw [News, known]
      exact .inr changed
    exact followed_store news boot rfl
  · rename_i unchanged
    have scopes : agent.scopes = .parse advert.scopeList := not_not.mp unchanged
    have noNews : ¬ News tracker advert := by
      rw [News, known]
      simp [same, scopes]
    constructor
    · exact ⟨agent, known, boot, scopes⟩
    · exact fun _ _ => rfl
    · exact fun news => absurd news noNews
    · exact fun _ => rfl

/-- One accepted advert is followed unless it tells of a reboot and of other scopes. -/
theorem followed_iff :
    (Accepted tracker advert → Followed tracker advert (tracker.newDAAdvert advert)) ↔
      SteadyReboot tracker advert := by
  constructor
  · intro follows accepted agent known rebooted
    obtain ⟨after, found, _, scopes⟩ := (follows accepted).entry
    rw [newDAAdvert_rebooted accepted known rebooted] at found
    have stored := (AList.lookup_insert tracker.agents).symm.trans found
    rw [← Option.some.inj stored] at scopes
    exact scopes
  · intro steady accepted
    cases known : tracker.agents.lookup advert.url with
    | none => exact newDAAdvert_unknown accepted known
    | some agent =>
      by_cases rebooted : agent.bootTime < advert.bootTimestamp
      · have news : News tracker advert := by
          rw [News, known]
          exact .inl rebooted
        rw [newDAAdvert_rebooted accepted known rebooted]
        exact followed_store news rfl (steady accepted agent known rebooted)
      · exact newDAAdvert_sameBoot accepted known rebooted

end Step

/-- In a run every accepted advert is followed exactly if no known agent comes up again with
other scopes. -/
theorem adverts_followed_iff (adverts : List DAAdvert) :
    (∀ past advert future, adverts = past ++ advert :: future →
      Accepted (run newDAAdvert initial past) advert →
        Followed (run newDAAdvert initial past) advert
          (run newDAAdvert initial (past ++ [advert]))) ↔
      Permitted newDAAdvert SteadyReboot initial adverts := by
  rw [← @steps_iff_permitted _ _ newDAAdvert SteadyReboot
    (fun tracker advert =>
      Accepted tracker advert → Followed tracker advert (tracker.newDAAdvert advert))
    (fun _ => True) (fun _ _ _ _ => trivial) (fun _ _ _ => followed_iff) initial adverts trivial]
  simp only [run_append]
  rfl

/-- `service:directory-agent://10.0.0.1`. -/
def someUrl : List UInt8 := daServicePrefix ++ [49, 48, 46, 48, 46, 48, 46, 49]

/-- An agent of scope `a` comes up again with scope `b`: the tracker keeps scope `a`. -/
theorem rebooted_scopes_kept :
    ¬ ∀ past advert future,
      [DAAdvert.mk 0 1 someUrl [97], DAAdvert.mk 0 2 someUrl [98]] = past ++ advert :: future →
        Accepted (run newDAAdvert initial past) advert →
          Followed (run newDAAdvert initial past) advert
            (run newDAAdvert initial (past ++ [advert])) := by
  intro each
  have steady := followed_iff.mp (each [⟨0, 1, someUrl, [97]⟩] ⟨0, 2, someUrl, [98]⟩ [] rfl)
  have known : (run newDAAdvert initial [⟨0, 1, someUrl, [97]⟩]).agents.lookup someUrl =
      some ⟨1, .parse [97], someUrl, ⟨10, 0, 0, 1⟩, 0⟩ := by decide +kernel
  have accepted : Accepted (run newDAAdvert initial [⟨0, 1, someUrl, [97]⟩])
      ⟨0, 2, someUrl, [98]⟩ := by
    refine ⟨rfl, by decide, by decide +kernel, ?_⟩
    intro agent found
    rw [← Option.some.inj (known.symm.trans found)]
    decide
  have same := steady accepted _ known (by decide)
  exact absurd same (by decide +kernel)

end DATracker

end OpenLighting.Slp

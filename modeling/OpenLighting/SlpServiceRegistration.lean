import OpenLighting.SlpPacketParser
import OpenLighting.SlpStoreLifetimes

namespace OpenLighting.Slp

open TransitionSystem FiniteMap SLPStore SLPStore.Moment

def SLPPacket.fresh (packet : SLPPacket) : Bool := decide (packet.flags &&& slpFresh ≠ 0)

/-- The part of a server that keeps the services of others. -/
structure DirectoryServer where
  enableDa : Bool
  configuredScopes : ScopeSet
  store : SLPStore

variable (server : DirectoryServer)

namespace DirectoryServer

/-- `HandleServiceRegistration`: the server afterwards and the error code of the answer. -/
def handleServiceRegistration (now : Int)
    (packet : ServiceRegistrationPacket) : DirectoryServer × Option SlpErrorCode :=
  let scopes := ScopeSet.parse packet.scopeList
  if server.enableDa = false then (server, none)
  else if packet.url.lifetime = 0 then (server, some .invalidRegistration)
  else if server.configuredScopes.isSuperSet scopes = false then (server, some .scopeNotSupported)
  else
    let (store, code) :=
      server.store.insert now ⟨packet.url, packet.serviceType, scopes, false⟩ packet.header.fresh
    ({ server with store := store }, some code)

/-- `HandleServiceDeRegister`. The type is the one that the URL starts with. -/
def handleServiceDeRegister (packet : ServiceDeRegistrationPacket) :
    DirectoryServer × Option SlpErrorCode :=
  if server.enableDa = false then (server, none)
  else
    let (store, code) := server.store.remove
      ⟨⟨packet.url.url, 0⟩, slpServiceFromURL packet.url.url, .parse packet.scopeList, false⟩
    ({ server with store := store }, some code)

end DirectoryServer

variable (store : SLPStore)

namespace SLPStore

/-- The call removes an entry. -/
def Op.removes (serviceType url : List UInt8) : Op → Prop
  | .remove service => service.serviceType = serviceType ∧ service.url.url = url
  | _ => False

/-- The call inserts or updates an entry. -/
def Op.inserts (serviceType url : List UInt8) : Op → Prop
  | .insert _ service _ => service.serviceType = serviceType ∧ service.url.url = url
  | _ => False

section Single
variable {store : SLPStore} {service : ServiceEntry} {now : Int}

theorem remove_of_none (missing : store.find service.serviceType service.url.url = none) :
    store.remove service = (store, .slpOk) := by
  unfold find held at missing
  unfold remove
  cases found : store.lists.lookup service.serviceType with
  | none => rfl
  | some list =>
    rw [found, Option.bind_some, Option.map_eq_none_iff] at missing
    simp only [missing]

/-- After a `Remove` that succeeds the entry is not there. -/
theorem find_remove_self (distinct : store.AllDistinct)
    (removed : (store.remove service).2 = .slpOk) :
    (store.remove service).1.find service.serviceType service.url.url = none := by
  cases present : store.find service.serviceType service.url.url with
  | none => rw [remove_of_none present, present]
  | some entry =>
    obtain ⟨list, found, inside⟩ := Option.bind_eq_some_iff.mp present
    obtain ⟨stored, whole, _⟩ := Option.map_eq_some_iff.mp inside
    have erased := @findService_eraseP list.services service.url.url service.url.url
      (distinct _ list found)
    rw [if_pos rfl] at erased
    unfold remove at removed ⊢
    simp only [found, whole] at removed ⊢
    split at removed
    · rename_i same
      rw [if_pos same]
      split
      · rw [find, lookup_erase_eq, if_pos rfl]
        rfl
      · rw [find, lookup_insert_eq, if_pos rfl, Option.bind_some, held, erased]
        rfl
    · cases removed

/-- An update keeps the scopes of an entry and does not take from its lifetime. -/
theorem find_insert_self (distinct : store.AllDistinct) {entry : Int × ServiceEntry}
    (present : (store.find service.serviceType service.url.url).bind (aged now) = some entry)
    (fresh : Bool) :
    (store.insert now service fresh).1.find service.serviceType service.url.url =
      some (entry.1,
        if entry.2.scopes = service.scopes ∧ entry.2.url.lifetime < service.url.lifetime then
          { entry.2 with url := { entry.2.url with lifetime := service.url.lifetime } }
        else entry.2) := by
  rw [← held_listFor distinct] at present
  obtain ⟨stored, found, rfl⟩ := Option.map_eq_some_iff.mp present
  rw [find, lookup_insert, if_pos rfl, Option.bind_some, held]
  unfold insertOrUpdateEntry
  simp only [found]
  by_cases other : stored.scopes = service.scopes
  · rw [if_neg (not_not_intro other)]
    by_cases longer : stored.url.lifetime < service.url.lifetime
    · rw [if_pos longer, findService_setLifetime_self found, if_pos ⟨other, longer⟩]
      rfl
    · rw [if_neg longer, found, if_neg (fun both => longer both.2)]
      rfl
  · rw [if_pos other, found, if_neg (fun both => other both.1)]
    rfl

theorem keeps_mono {less more : UInt16} (le : less ≤ more) : keeps less ≤ keeps more := by
  have bound := UInt16.le_iff_toNat_le.mp le
  have high := keeps_bounds more
  unfold keeps at *
  split
  · omega
  · split
    · rename_i zero
      rw [zero] at bound
      change less.toNat ≤ 0 at bound
      omega
    · omega

end Single

/-- An entry for the URL is found in all these scopes until a time. -/
def Lasts (serviceType url : List UInt8) (scopes : ScopeSet) (limit : Int) : Prop :=
  ∃ entry, store.find serviceType url = some entry ∧ scopes.scopes ⊆ entry.2.scopes.scopes ∧
    limit ≤ deadline entry

section Lasting
variable {moment : Moment} {op : Op} {ops : List Op} {serviceType url rawServiceType : List UInt8}
  {scopes : ScopeSet} {limit : Int}

theorem Lasts.older {entry after : Int × ServiceEntry} {now : Int} {store : SLPStore}
    (found : store.find serviceType url = some after) (older : Older now entry after)
    (covers : scopes.scopes ⊆ entry.2.scopes.scopes) (reaches : limit ≤ deadline entry) :
    Lasts store serviceType url scopes limit := by
  have more := dropped_nonneg entry.1 now
  have later := older.later
  refine ⟨after, found, ?_, by omega⟩
  rw [older.scopes]
  exact covers

theorem lasts_step (timely : moment.Timely) (lasts : Lasts moment.store serviceType url scopes limit)
    (ordered : InOrder moment op) (stays : ¬ op.removes serviceType url)
    (early : (moment.step op).now < limit) :
    Lasts (moment.step op).store serviceType url scopes limit := by
  obtain ⟨entry, found, covers, reaches⟩ := lasts
  have past := timely.find found
  by_cases concerned : op.concerns serviceType url
  · cases op with
    | insert now service fresh =>
      obtain ⟨rfl, rfl⟩ := concerned
      have later : moment.now ≤ now := ordered now rfl
      change now < limit at early
      obtain ⟨after, remains, older⟩ := aged_live (le_trans past later) (show now < _ by omega)
      have present : (moment.store.find service.serviceType service.url.url).bind (aged now) =
          some after := by rw [found, Option.bind_some, remains]
      have inserted := find_insert_self timely.distinct present fresh
      have more := dropped_nonneg entry.1 now
      have deadlines := older.later
      refine ⟨_, inserted, ?_, ?_⟩
      · split
        · rw [older.scopes]
          exact covers
        · rw [older.scopes]
          exact covers
      · have grown : deadline after ≤ deadline (after.1,
            if after.2.scopes = service.scopes ∧ after.2.url.lifetime < service.url.lifetime then
              { after.2 with url := { after.2.url with lifetime := service.url.lifetime } }
            else after.2) := by
          unfold deadline second
          split
          · rename_i longer
            have kept := keeps_mono (UInt16.le_of_lt longer.2)
            dsimp only
            omega
          · exact le_refl _
        omega
    | remove service => exact absurd concerned stays
    | lookup now scopes rawServiceType limit | clean now => exact concerned.elim
  · have stepped := find_step timely.distinct concerned
    cases ages : op.ages serviceType with
    | none =>
      rw [ages] at stepped
      exact ⟨entry, stepped.trans found, covers, reaches⟩
    | some now =>
      have time : (moment.step op).now = now := by
        rw [Moment.step, Op.now_of_ages ages]
        rfl
      have later := ordered now (Op.now_of_ages ages)
      obtain ⟨after, remains, older⟩ := aged_live (le_trans past later) (show now < _ by omega)
      rw [ages, found] at stepped
      exact Lasts.older (stepped.trans remains) older covers reaches

theorem now_le_run (ordered : Permitted Moment.step InOrder moment ops) :
    moment.now ≤ (run Moment.step moment ops).now := by
  induction ops generalizing moment with
  | nil => exact le_refl _
  | cons op ops ih => exact le_trans ordered.1.le (ih ordered.2)

theorem timely_run (timely : moment.Timely) (ordered : Permitted Moment.step InOrder moment ops) :
    (run Moment.step moment ops).Timely :=
  run_invariant (fun _ _ timely => timely.step) timely ordered

theorem lasts_run (timely : moment.Timely) (lasts : Lasts moment.store serviceType url scopes limit)
    (ordered : Permitted Moment.step InOrder moment ops)
    (stays : ∀ op ∈ ops, ¬ op.removes serviceType url)
    (early : (run Moment.step moment ops).now < limit) :
    Lasts (run Moment.step moment ops).store serviceType url scopes limit := by
  induction ops generalizing moment with
  | nil => exact lasts
  | cons op ops ih =>
    have before := lt_of_le_of_lt (now_le_run ordered.2) early
    have next := lasts_step timely lasts ordered.1 (stays op List.mem_cons_self) before
    exact ih (timely.step ordered.1) next ordered.2
      (fun other member => stays other (List.mem_cons_of_mem op member)) early

/-- The URL is found in the scopes until the limit, whatever is called in between. -/
def FoundUntil (moment : Moment) (rawServiceType url : List UInt8) (scopes : ScopeSet)
    (limit : Int) : Prop :=
  ∀ ops, Permitted Moment.step InOrder moment ops →
    (∀ op ∈ ops, ¬ op.removes (slpGetCanonicalString rawServiceType) url) →
    ∀ now other, (run Moment.step moment ops).now ≤ now → now < limit →
      scopes.intersects other = true →
      Returned (run Moment.step moment ops).store now other rawServiceType url

theorem intersects_of_subset {one two other : ScopeSet} (subset : one.scopes ⊆ two.scopes)
    (meets : one.intersects other = true) : two.intersects other = true := by
  unfold ScopeSet.intersects at meets ⊢
  rw [decide_eq_true_eq] at meets ⊢
  exact fun disjoint => meets (Finset.disjoint_of_subset_left subset disjoint)

def ScopeSet.single {scopes : ScopeSet} {scope : List UInt8} (member : scope ∈ scopes.scopes) :
    ScopeSet where
  scopes := {scope}
  canonical := by
    intro other same
    rw [Finset.mem_singleton.mp same]
    exact scopes.canonical scope member

theorem foundUntil_iff (timely : moment.Timely) (some : scopes.scopes.Nonempty)
    (future : moment.now < limit) :
    FoundUntil moment rawServiceType url scopes limit ↔
      Lasts moment.store (slpGetCanonicalString rawServiceType) url scopes limit := by
  constructor
  · intro found
    have each {scope : List UInt8} (member : scope ∈ scopes.scopes) :
        Returned moment.store (limit - 1) (ScopeSet.single member) rawServiceType url := by
      refine found [] trivial (fun _ absurdity => by cases absurdity) (limit - 1) _
        (show moment.now ≤ limit - 1 by omega) (by omega) ?_
      simp [ScopeSet.intersects, ScopeSet.single, member]
    obtain ⟨scope, member⟩ := some
    cases present : moment.store.find (slpGetCanonicalString rawServiceType) url with
    | none => exact absurd (each member) (not_returned_of_find timely.distinct present)
    | some entry =>
      have past : entry.1 ≤ limit - 1 := by
        have before := timely.find present
        omega
      have live := ((returned_of_find timely.distinct present past).mp (each member)).1
      refine ⟨entry, present, ?_, by omega⟩
      intro other inside
      have meets := ((returned_of_find timely.distinct present past).mp (each inside)).2
      simpa [ScopeSet.intersects, ScopeSet.single] using meets
  · intro lasts ops ordered stays now other later early meets
    have reached := lasts_run timely lasts ordered stays (by omega)
    obtain ⟨entry, found, covers, reaches⟩ := reached
    have past := (timely_run timely ordered).find found
    rw [returned_of_find (timely_run timely ordered).distinct found (by omega)]
    exact ⟨by omega, intersects_of_subset covers meets⟩

/-- The moments that calls in order lead to. -/
def Moment.Reachable (moment : Moment) : Prop :=
  ∃ start ops, Permitted Moment.step InOrder (initial start) ops ∧
    run Moment.step (initial start) ops = moment

theorem Moment.Reachable.timely (reachable : moment.Reachable) : moment.Timely := by
  obtain ⟨start, ops, ordered, rfl⟩ := reachable
  exact timely_run (timely_initial start) ordered

end Lasting

section Registering
variable {moment : Moment} {service : ServiceEntry} {now : Int}

/-- The end of the lifetime of a service that is registered at a time. -/
def lifetimeEnd (now : Int) (service : ServiceEntry) : Int :=
  now + service.url.lifetime.toNat * second

/-- There is no list of the type, or the time since its last ageing is not lost. -/
def AgedNow (now : Int) (serviceType : List UInt8) : Prop :=
  ∀ list, store.lists.lookup serviceType = some list →
    list.lastCleaned = now ∨ list.elapsedSeconds now ≠ 0

/-- An entry for the URL has more of its lifetime left. -/
def KeptLonger (now : Int) (service : ServiceEntry) : Prop :=
  ∃ entry, (store.find service.serviceType service.url.url).bind (aged now) = some entry ∧
    service.url.lifetime < entry.2.url.lifetime

/-- What makes a service last that is registered. Under a type that is not canonical the entry
itself is of no use. -/
def Lasting (now : Int) (service : ServiceEntry) : Prop :=
  if slpGetCanonicalString service.serviceType = service.serviceType then
    AgedNow store now service.serviceType ∨ KeptLonger store now service
  else
    Lasts store (slpGetCanonicalString service.serviceType) service.url.url service.scopes
      (lifetimeEnd now service)

theorem agedNow_iff {store : SLPStore} {serviceType : List UInt8} :
    AgedNow store now serviceType ↔ (store.listFor now serviceType).lastCleaned = now := by
  unfold AgedNow listFor
  cases found : store.lists.lookup serviceType with
  | none => simp
  | some list =>
    unfold ServiceList.maybeCleanURLList
    by_cases recent : list.elapsedSeconds now = 0
    · simp [recent]
    · simp [recent]

theorem lifetime_pos {lifetime : UInt16} (nonzero : lifetime ≠ 0) : 1 ≤ lifetime.toNat := by
  have positive : lifetime.toNat ≠ 0 := fun zero => nonzero (UInt16.toNat_inj.mp zero)
  omega

/-- A registration that is accepted meets an entry with the same scopes or none. -/
theorem scopes_of_insert_ok {store : SLPStore} {entry : Int × ServiceEntry} {fresh : Bool}
    (distinct : store.AllDistinct)
    (present : (store.find service.serviceType service.url.url).bind (aged now) = some entry)
    (accepted : (store.insert now service fresh).2 = .slpOk) :
    entry.2.scopes = service.scopes := by
  rw [← held_listFor distinct] at present
  obtain ⟨stored, found, rfl⟩ := Option.map_eq_some_iff.mp present
  by_contra different
  change (insertOrUpdateEntry (store.listFor now service.serviceType).services service fresh).2 =
    .slpOk at accepted
  simp only [insertOrUpdateEntry, found] at accepted
  rw [if_pos different] at accepted
  cases accepted

section
variable (timely : moment.Timely) (later : moment.now ≤ now) (nonzero : service.url.lifetime ≠ 0)
  (accepted : (moment.store.insert now service true).2 = .slpOk)
include timely later nonzero accepted

/-- Where the list was aged a while ago, only a longer lifetime makes up for it. -/
theorem lasts_insert_canonical :
    Lasts (moment.store.insert now service true).1 service.serviceType service.url.url
        service.scopes (lifetimeEnd now service) ↔
      AgedNow moment.store now service.serviceType ∨ KeptLonger moment.store now service := by
  have window := timely.listFor later service.serviceType
  have positive := lifetime_pos nonzero
  have kept : keeps service.url.lifetime = service.url.lifetime.toNat := by
    rw [keeps, if_neg nonzero]
  rw [agedNow_iff]
  unfold Lasts lifetimeEnd KeptLonger
  cases present : (moment.store.find service.serviceType service.url.url).bind (aged now) with
  | none =>
    rw [find_insert_new timely present]
    simp only [Option.some.injEq, exists_eq_left', deadline, kept]
    constructor
    · intro lasts
      exact .inl (by omega)
    · intro either
      rcases either with same | absurdity
      · exact ⟨Finset.Subset.refl _, by omega⟩
      · obtain ⟨entry, none, _⟩ := absurdity
        cases none
  | some entry =>
    have same := scopes_of_insert_ok timely.distinct present accepted
    have start : entry.1 = (moment.store.listFor now service.serviceType).lastCleaned := by
      rw [← held_listFor timely.distinct] at present
      obtain ⟨stored, _, rfl⟩ := Option.map_eq_some_iff.mp present
      rfl
    rw [find_insert_self timely.distinct present true]
    simp only [Option.some.injEq, exists_eq_left']
    by_cases longer : entry.2.url.lifetime < service.url.lifetime
    · rw [if_pos ⟨same, longer⟩]
      have not : ¬ service.url.lifetime < entry.2.url.lifetime := by
        rw [UInt16.lt_iff_toNat_lt] at longer ⊢
        omega
      simp only [deadline, kept, same, start, not, or_false]
      constructor
      · intro lasts
        omega
      · intro aged
        exact ⟨Finset.Subset.refl _, by omega⟩
    · rw [if_neg (fun both => longer both.2)]
      rw [UInt16.lt_iff_toNat_lt] at longer
      have lived : keeps entry.2.url.lifetime = entry.2.url.lifetime.toNat := by
        rw [keeps, if_neg]
        intro zero
        rw [zero] at longer
        exact longer (lt_of_lt_of_le Nat.zero_lt_one positive)
      simp only [deadline, lived, same, start, UInt16.lt_iff_toNat_lt]
      unfold second at *
      constructor
      · intro lasts
        omega
      · intro either
        exact ⟨Finset.Subset.refl _, by omega⟩

theorem lasts_insert_iff :
    Lasts (moment.store.insert now service true).1 (slpGetCanonicalString service.serviceType)
        service.url.url service.scopes (lifetimeEnd now service) ↔
      Lasting moment.store now service := by
  unfold Lasting
  by_cases canonical : slpGetCanonicalString service.serviceType = service.serviceType
  · rw [if_pos canonical, canonical]
    exact lasts_insert_canonical timely later nonzero accepted
  · rw [if_neg canonical]
    have apart : ¬ (service.serviceType = slpGetCanonicalString service.serviceType ∧
        service.url.url = service.url.url) := fun both => canonical both.1.symm
    have elsewhere := @find_insert _ _ _ now timely.distinct service true apart
    rw [if_neg (fun same => canonical same.symm)] at elsewhere
    unfold Lasts
    rw [elsewhere]

end

end Registering

section Removing
variable {moment : Moment} {op : Op} {ops : List Op} {serviceType url : List UInt8}

/-- What is not there comes back only by an insertion. -/
theorem missing_step (timely : moment.Timely) (missing : moment.store.find serviceType url = none)
    (out : ¬ op.inserts serviceType url) :
    (moment.step op).store.find serviceType url = none := by
  by_cases concerned : op.concerns serviceType url
  · cases op with
    | insert now service fresh => exact absurd concerned out
    | remove service =>
      obtain ⟨rfl, rfl⟩ := concerned
      show (moment.store.remove service).1.find _ _ = none
      rw [remove_of_none missing, missing]
    | lookup now scopes rawServiceType limit | clean now => exact concerned.elim
  · have stepped := find_step timely.distinct concerned
    cases ages : op.ages serviceType with
    | none =>
      rw [ages] at stepped
      exact stepped.trans missing
    | some now =>
      rw [ages, missing] at stepped
      exact stepped

theorem missing_run (timely : moment.Timely) (missing : moment.store.find serviceType url = none)
    (ordered : Permitted Moment.step InOrder moment ops)
    (out : ∀ op ∈ ops, ¬ op.inserts serviceType url) :
    (run Moment.step moment ops).store.find serviceType url = none := by
  induction ops generalizing moment with
  | nil => exact missing
  | cons op ops ih =>
    have next := missing_step timely missing (out op List.mem_cons_self)
    exact ih (timely.step ordered.1) next ordered.2
      (fun other member => out other (List.mem_cons_of_mem op member))

theorem exists_expired (serviceType url : List UInt8) (now : Int) : ∃ time, now ≤ time ∧
      ∀ later, time ≤ later → (store.find serviceType url).bind (aged later) = none := by
  cases found : store.find serviceType url with
  | none => exact ⟨now, le_refl now, fun _ _ => rfl⟩
  | some entry =>
    by_cases early : deadline entry ≤ now
    · exact ⟨now, le_refl now, fun later after => aged_expired (le_trans early after)⟩
    · exact ⟨deadline entry, by omega, fun later after => aged_expired after⟩

/-- No lookup of the type returns the URL until it is inserted again. -/
def Hidden (moment : Moment) (rawServiceType url : List UInt8) : Prop :=
  ∀ ops, Permitted Moment.step InOrder moment ops →
    (∀ op ∈ ops, ¬ op.inserts (slpGetCanonicalString rawServiceType) url) →
    ∀ now scopes, (run Moment.step moment ops).now ≤ now →
      ¬ Returned (run Moment.step moment ops).store now scopes rawServiceType url

theorem hidden_of_missing {rawServiceType : List UInt8} (timely : moment.Timely)
    (missing : moment.store.find (slpGetCanonicalString rawServiceType) url = none) :
    Hidden moment rawServiceType url := by
  intro ops ordered out now scopes _
  exact not_returned_of_find (timely_run timely ordered).distinct
    (missing_run timely missing ordered out)

/-- Once the entries of two types have expired, the URL can be inserted under one of them. -/
theorem exists_inserted (timely : moment.Timely) {rawServiceType other : List UInt8}
    (different : slpGetCanonicalString rawServiceType ≠ other) (url : List UInt8) :
    ∃ ops, Permitted Moment.step InOrder moment ops ∧
      (run Moment.step moment ops).store.find other url = none ∧
      ¬ Hidden (run Moment.step moment ops) rawServiceType url := by
  obtain ⟨time, afterNow, expired⟩ :=
    exists_expired moment.store (slpGetCanonicalString rawServiceType) url moment.now
  obtain ⟨later, afterTime, gone⟩ := exists_expired moment.store other url time
  let service : ServiceEntry :=
    ⟨⟨url, 2⟩, slpGetCanonicalString rawServiceType, .ofStrings [[120]], false⟩
  let cleaned : Moment := moment.step (.clean later)
  have cleaning : InOrder moment (.clean later) := by
    intro now same
    rw [← Option.some.inj same]
    omega
  have inserting : InOrder cleaned (.insert later service true) := by
    intro now same
    rw [← Option.some.inj same]
    exact le_refl later
  have clean : cleaned.Timely := timely.step cleaning
  have absent : cleaned.store.find service.serviceType url = none :=
    (find_clean timely.distinct).trans (expired later afterTime)
  have nothing : cleaned.store.find other url = none :=
    (find_clean timely.distinct).trans (gone later (le_refl later))
  refine ⟨[.clean later, .insert later service true], ⟨cleaning, inserting, trivial⟩, ?_, ?_⟩
  · have apart : ¬ (service.serviceType = other ∧ service.url.url = url) :=
      fun both => different both.1
    have elsewhere := @find_insert _ _ _ later clean.distinct service true apart
    rw [if_neg different] at elsewhere
    exact elsewhere.trans nothing
  · have stored := @Moment.find_insert_new cleaned later clean service (by
      rw [show service.url.url = url from rfl, absent, Option.bind_none])
    have window := clean.listFor (le_refl later) service.serviceType
    have live : later < deadline
        ((cleaned.store.listFor later service.serviceType).lastCleaned, service) := by
      have two : keeps service.url.lifetime = 2 := rfl
      unfold deadline
      rw [two]
      omega
    intro hidden
    apply hidden [] trivial (fun _ absurdity => by cases absurdity) later service.scopes
      (le_refl later)
    exact (returned_of_find (clean.step inserting).distinct stored window.1).mpr
      ⟨live, show (ScopeSet.ofStrings [[120]]).intersects (.ofStrings [[120]]) = true by decide⟩

end Removing

end SLPStore

namespace DirectoryServer

/-- The server when its store has been called. -/
def after (now : Int) (ops : List Op) : DirectoryServer :=
  { server with store := (run Moment.step ⟨server.store, now⟩ ops).store }

/-- A de-registration that is accepted, whatever was called before it, hides the URL. -/
def Removed (now : Int) (rawServiceType url : List UInt8) (scopes : ScopeSet) : Prop :=
  ∀ ops, Permitted Moment.step InOrder ⟨server.store, now⟩ ops →
    ∀ packet : ServiceDeRegistrationPacket, packet.url.url = url →
      ScopeSet.parse packet.scopeList = scopes →
      ((server.after now ops).handleServiceDeRegister packet).2 = some .slpOk →
      Hidden ⟨((server.after now ops).handleServiceDeRegister packet).1.store,
        (run Moment.step ⟨server.store, now⟩ ops).now⟩ rawServiceType url

section Answers
variable {server : DirectoryServer} {now : Int} {rawServiceType url : List UInt8}
  {scopes : ScopeSet}

/-- What it takes for a registration to be accepted, and what it does then. -/
theorem handleServiceRegistration_ok {packet : ServiceRegistrationPacket}
    (answered : (server.handleServiceRegistration now packet).2 = some .slpOk) :
    server.enableDa = true ∧ packet.url.lifetime ≠ 0 ∧
      (server.store.insert now ⟨packet.url, packet.serviceType, .parse packet.scopeList, false⟩
        packet.header.fresh).2 = .slpOk ∧
      (server.handleServiceRegistration now packet).1 =
        { server with
          store := (server.store.insert now ⟨packet.url, packet.serviceType,
            .parse packet.scopeList, false⟩ packet.header.fresh).1 } := by
  unfold handleServiceRegistration at answered ⊢
  dsimp only at answered ⊢
  split at answered
  · cases answered
  · rename_i enabled
    rw [if_neg enabled]
    split at answered
    · cases answered
    · rename_i nonzero
      rw [if_neg nonzero]
      split at answered
      · cases answered
      · rename_i supported
        rw [if_neg supported]
        exact ⟨by simpa using enabled, nonzero, Option.some.inj answered, rfl⟩

theorem handleServiceDeRegister_of_enabled (enabled : server.enableDa = true)
    (packet : ServiceDeRegistrationPacket) :
    server.handleServiceDeRegister packet =
      ({ server with
          store := (server.store.remove ⟨⟨packet.url.url, 0⟩, slpServiceFromURL packet.url.url,
            .parse packet.scopeList, false⟩).1 },
        some (server.store.remove ⟨⟨packet.url.url, 0⟩, slpServiceFromURL packet.url.url,
          .parse packet.scopeList, false⟩).2) := by
  rw [handleServiceDeRegister, if_neg (by simp [enabled])]

/-- The entry is what a de-registration removes if it is under the type that the URL starts
with. -/
theorem removed_iff (enabled : server.enableDa = true)
    (timely : Moment.Timely ⟨server.store, now⟩) {scopeList : List UInt8} :
    server.Removed now rawServiceType url (.parse scopeList) ↔
      slpGetCanonicalString rawServiceType = slpServiceFromURL url := by
  constructor
  · intro removed
    by_contra different
    obtain ⟨ops, ordered, missing, shown⟩ :=
      exists_inserted timely different url
    have answer := @handleServiceDeRegister_of_enabled (server.after now ops) enabled
      ⟨⟨0, 0, []⟩, ⟨url, 0⟩, scopeList, []⟩
    have nothing := @remove_of_none (server.after now ops).store
      ⟨⟨url, 0⟩, slpServiceFromURL url, .parse scopeList, false⟩ missing
    rw [nothing] at answer
    have hidden := removed ops ordered ⟨⟨0, 0, []⟩, ⟨url, 0⟩, scopeList, []⟩ rfl rfl
      (by rw [answer])
    rw [answer] at hidden
    exact shown hidden
  · intro same ops ordered packet named equal accepted
    have reached := timely_run timely ordered
    have answer := @handleServiceDeRegister_of_enabled (server.after now ops) enabled packet
    rw [answer] at accepted ⊢
    apply hidden_of_missing
    · exact @Moment.Timely.step (run Moment.step ⟨server.store, now⟩ ops) (.remove _) reached
        (fun _ none => by cases none)
    · rw [same, ← named]
      exact find_remove_self reached.distinct (Option.some.inj accepted)

theorem foundUntil_of_empty {moment : Moment} {limit : Int} (empty : scopes.scopes = ∅) :
    FoundUntil moment rawServiceType url scopes limit := by
  intro ops _ _ time other _ _ meets
  unfold ScopeSet.intersects at meets
  rw [empty, decide_eq_true_eq] at meets
  exact absurd (Finset.disjoint_empty_left _) meets

end Answers

/-- A service that a directory agent accepts can be found until its lifetime has passed and can be
removed exactly if the entry lasts, or has no scopes to be found in, and the type it is looked up
under is the one that its URL starts with. -/
theorem registered_service_served_iff {server : DirectoryServer} {moment : Moment} {now : Int}
    {packet : ServiceRegistrationPacket} (reachable : moment.Reachable)
    (stored : server.store = moment.store) (later : moment.now ≤ now)
    (fresh : packet.header.fresh = true)
    (answered : (server.handleServiceRegistration now packet).2 = some .slpOk) :
    (FoundUntil ⟨(server.handleServiceRegistration now packet).1.store, now⟩ packet.serviceType
        packet.url.url (.parse packet.scopeList)
        (now + packet.url.lifetime.toNat * second) ∧
      (server.handleServiceRegistration now packet).1.Removed now packet.serviceType
        packet.url.url (.parse packet.scopeList)) ↔
      ((ScopeSet.parse packet.scopeList).scopes = ∅ ∨
        Lasting server.store now
          ⟨packet.url, packet.serviceType, .parse packet.scopeList, false⟩) ∧
      slpGetCanonicalString packet.serviceType = slpServiceFromURL packet.url.url := by
  obtain ⟨enabled, nonzero, accepted, registered⟩ := handleServiceRegistration_ok answered
  rw [registered]
  rw [fresh] at accepted ⊢
  have timely := reachable.timely
  have after : Moment.Timely ⟨(server.store.insert now
      ⟨packet.url, packet.serviceType, .parse packet.scopeList, false⟩ true).1, now⟩ := by
    rw [stored]
    apply @Moment.Timely.step moment (.insert now _ true) timely
    intro time same
    rw [← Option.some.inj same]
    exact later
  have removal := @removed_iff { server with
    store := (server.store.insert now
      ⟨packet.url, packet.serviceType, .parse packet.scopeList, false⟩ true).1 } now
    packet.serviceType packet.url.url enabled after packet.scopeList
  rw [removal]
  apply and_congr_left
  intro _
  by_cases empty : (ScopeSet.parse packet.scopeList).scopes = ∅
  · exact ⟨fun _ => .inl empty, fun _ => foundUntil_of_empty empty⟩
  · have positive := lifetime_pos nonzero
    have future : now < now + packet.url.lifetime.toNat * second := by
      unfold second
      omega
    rw [foundUntil_iff after (Finset.nonempty_iff_ne_empty.mpr empty) future]
    rw [stored] at accepted ⊢
    have lasting := lasts_insert_iff timely later nonzero accepted
    simp only [empty, false_or]
    exact lasting

/-- `a://b` as an `a` in the scope `x`. -/
def serviceOfURL : ServiceRegistrationPacket :=
  ⟨⟨0, slpFresh, []⟩, ⟨[97, 58, 47, 47, 98], 3⟩, [97], [120], []⟩

def freshServer : DirectoryServer := ⟨true, .parse [120], .empty⟩

theorem service_of_url_served :
    FoundUntil ⟨(freshServer.handleServiceRegistration 0 serviceOfURL).1.store, 0⟩ [97]
        [97, 58, 47, 47, 98] (.parse [120]) (0 + (3 : UInt16).toNat * second) ∧
      (freshServer.handleServiceRegistration 0 serviceOfURL).1.Removed 0 [97]
        [97, 58, 47, 47, 98] (.parse [120]) := by
  apply (@registered_service_served_iff freshServer (initial 0) 0 serviceOfURL
    ⟨0, [], trivial, rfl⟩ rfl (le_refl 0) (by decide) (by decide +kernel)).mpr
  refine ⟨.inr ?_, by decide⟩
  left
  intro list found
  cases found

/-- Registered as an `A` the service is not found by a lookup of `A`. Registered as a `b` it is
still found after it has been de-registered. -/
theorem other_types_not_served :
    (freshServer.handleServiceRegistration 0 { serviceOfURL with serviceType := [65] }).2 =
        some .slpOk ∧
      ¬ Returned (freshServer.handleServiceRegistration 0
        { serviceOfURL with serviceType := [65] }).1.store 0 (.parse [120]) [65]
        [97, 58, 47, 47, 98] ∧
      (freshServer.handleServiceRegistration 0 { serviceOfURL with serviceType := [98] }).2 =
        some .slpOk ∧
      ((freshServer.handleServiceRegistration 0
        { serviceOfURL with serviceType := [98] }).1.handleServiceDeRegister
        ⟨⟨0, 0, []⟩, ⟨[97, 58, 47, 47, 98], 0⟩, [120], []⟩).2 = some .slpOk ∧
      Returned ((freshServer.handleServiceRegistration 0
        { serviceOfURL with serviceType := [98] }).1.handleServiceDeRegister
        ⟨⟨0, 0, []⟩, ⟨[97, 58, 47, 47, 98], 0⟩, [120], []⟩).1.store 0 (.parse [120]) [98]
        [97, 58, 47, 47, 98] := by
  unfold Returned
  decide +kernel

end DirectoryServer

end OpenLighting.Slp

import OpenLighting.SlpStore

namespace OpenLighting.Slp.SLPStore

open TransitionSystem FiniteMap

section Ageing
variable {now : Int} {entry after : Int × ServiceEntry}

/-- The seconds for which an entry is kept. Also without a lifetime it stays until the next
ageing. -/
def keeps (lifetime : UInt16) : Int := if lifetime = 0 then 1 else lifetime.toNat

/-- The time from which an entry is not found any more. -/
def deadline (entry : Int × ServiceEntry) : Int :=
  entry.1 + keeps entry.2.url.lifetime * second

/-- The part of a second that an ageing leaves out. -/
def dropped (lastCleaned now : Int) : Int :=
  if (now - lastCleaned) / second = 0 then 0 else (now - lastCleaned) % second

theorem dropped_nonneg (lastCleaned now : Int) : 0 ≤ dropped lastCleaned now := by
  unfold dropped second
  split
  · omega
  · omega

theorem keeps_bounds (lifetime : UInt16) :
    (lifetime.toNat : Int) ≤ keeps lifetime ∧ 1 ≤ keeps lifetime ∧
      keeps lifetime ≤ lifetime.toNat + 1 := by
  unfold keeps
  split
  · rename_i zero
    rw [zero]
    decide
  · rename_i nonzero
    have positive : lifetime.toNat ≠ 0 := fun zero => nonzero (UInt16.toNat_inj.mp zero)
    omega

/-- An entry that has been aged. -/
structure Older (now : Int) (entry after : Int × ServiceEntry) : Prop where
  url : after.2.url.url = entry.2.url.url
  scopes : after.2.scopes = entry.2.scopes
  start : after.1 ≤ now
  later : deadline after = deadline entry + dropped entry.1 now

theorem aged_expired (expired : deadline entry ≤ now) : aged now entry = none := by
  have bounds := keeps_bounds entry.2.url.lifetime
  unfold deadline second at expired
  have many : 1 ≤ (now - entry.1) / 1000000 ∧
      (entry.2.url.lifetime.toNat : Int) ≤ (now - entry.1) / 1000000 := by omega
  unfold aged second ServiceList.age
  rw [if_neg (by omega), if_pos many.2]
  rfl

theorem toNat_ageLifetime {url : URLEntry} {elapsed : Int} (positive : 0 ≤ elapsed)
    (less : elapsed < url.lifetime.toNat) :
    ((url.ageLifetime (UInt16.ofInt elapsed)).lifetime.toNat : Int) =
      url.lifetime.toNat - elapsed := by
  have bound := url.lifetime.toNat_lt
  have seconds : ((UInt16.ofInt elapsed).toNat : Int) = elapsed := by
    rw [UInt16.ofInt, UInt16.toNat_ofNat']
    omega
  have below : UInt16.ofInt elapsed ≤ url.lifetime := by
    rw [UInt16.le_iff_toNat_le]
    omega
  have notAll : ¬ url.lifetime ≤ UInt16.ofInt elapsed := by
    rw [UInt16.le_iff_toNat_le]
    omega
  rw [URLEntry.ageLifetime, if_neg notAll]
  rw [UInt16.toNat_sub_of_le _ _ below]
  omega

theorem aged_live (past : entry.1 ≤ now) (live : now < deadline entry) :
    ∃ after, aged now entry = some after ∧ Older now entry after := by
  by_cases recent : (now - entry.1) / second = 0
  · refine ⟨entry, if_pos recent, rfl, rfl, past, ?_⟩
    rw [dropped, if_pos recent]
    omega
  · have apart := recent
    unfold second at recent
    unfold deadline keeps second at live
    have less : (now - entry.1) / 1000000 < entry.2.url.lifetime.toNat := by
      split at live
      · omega
      · omega
    have nonzero : entry.2.url.lifetime ≠ 0 := by
      intro zero
      rw [zero] at less
      exact absurd less (by simp; omega)
    have left := toNat_ageLifetime (show 0 ≤ (now - entry.1) / 1000000 by omega) less
    refine ⟨(now, { entry.2 with
      url := entry.2.url.ageLifetime (UInt16.ofInt ((now - entry.1) / second)) }), ?_, ?_, rfl,
      le_refl now, ?_⟩
    · rw [aged, if_neg apart, ServiceList.age, if_neg (by unfold second; omega)]
      rfl
    · unfold URLEntry.ageLifetime
      split
      · rfl
      · rfl
    · unfold deadline dropped
      rw [if_neg apart]
      unfold second
      have kept : keeps (entry.2.url.ageLifetime
          (UInt16.ofInt ((now - entry.1) / 1000000))).lifetime =
          entry.2.url.lifetime.toNat - (now - entry.1) / 1000000 := by
        rw [keeps, if_neg, left]
        intro zero
        rw [zero] at left
        exact absurd left (by simp; omega)
      have before : keeps entry.2.url.lifetime = entry.2.url.lifetime.toNat := by
        rw [keeps, if_neg nonzero]
      rw [kept, before]
      omega

end Ageing

section Returned
variable {store : SLPStore} {services : List ServiceEntry} {now : Int} {scopes : ScopeSet}
  {rawServiceType url : List UInt8}

/-- A `Lookup` without limit returns the URL. -/
def Returned (store : SLPStore) (now : Int) (scopes : ScopeSet)
    (rawServiceType url : List UInt8) : Prop :=
  ∃ entry ∈ (store.lookup now scopes rawServiceType 0).2, entry.url = url

theorem lookupLoop_unlimited (scopes : ScopeSet) (number : Nat) (services : List ServiceEntry) :
    lookupLoop scopes 0 number services =
      (services.filter (fun entry => entry.scopes.intersects scopes)).map ServiceEntry.url := by
  induction services generalizing number with
  | nil => rfl
  | cons entry services ih =>
    unfold lookupLoop
    split
    · rename_i apart
      rw [List.filter_cons_of_neg (by rw [apart]; decide), ih]
    · rename_i meets
      rw [if_neg (by simp), List.filter_cons_of_pos (by simpa using meets), List.map_cons, ih]

theorem findService_of_mem {entry : ServiceEntry} (distinct : Distinct services)
    (member : entry ∈ services) : findService services entry.url.url = some entry := by
  induction services with
  | nil => cases member
  | cons first services ih =>
    have parts := List.nodup_cons.mp distinct
    rw [findService_cons]
    rcases List.mem_cons.mp member with same | inside
    · rw [same, if_pos rfl]
    · rw [if_neg, ih parts.2 inside]
      intro same
      exact parts.1 (List.mem_map.mpr ⟨entry, inside, same.symm⟩)

/-- A URL is returned if ageing keeps its entry and the scopes meet. -/
theorem returned_iff (distinct : store.AllDistinct) :
    Returned store now scopes rawServiceType url ↔
      ∃ entry, (store.find (slpGetCanonicalString rawServiceType) url).bind (aged now) =
        some entry ∧ entry.2.scopes.intersects scopes = true := by
  unfold Returned lookup find
  dsimp only
  cases found : store.lists.lookup (slpGetCanonicalString rawServiceType) with
  | none => simp
  | some list =>
    have clean := distinct_maybeClean (distinct _ list found) now
    rw [Option.bind_some, ← held_maybeClean (distinct _ list found)]
    simp only [lookupLoop_unlimited, held]
    constructor
    · intro returned
      obtain ⟨entry, member, same⟩ := returned
      obtain ⟨service, inside, rfl⟩ := List.mem_map.mp member
      have parts := List.mem_filter.mp inside
      have whole := findService_of_mem clean parts.1
      rw [same] at whole
      exact ⟨_, by rw [whole]; rfl, parts.2⟩
    · intro kept
      obtain ⟨entry, held, meets⟩ := kept
      obtain ⟨service, whole, rfl⟩ := Option.map_eq_some_iff.mp held
      have facts := findService_some whole
      exact ⟨service.url, List.mem_map_of_mem (List.mem_filter.mpr ⟨facts.1, meets⟩), facts.2⟩

/-- The same for an entry with its deadline. -/
theorem returned_of_find {entry : Int × ServiceEntry} (distinct : store.AllDistinct)
    (found : store.find (slpGetCanonicalString rawServiceType) url = some entry)
    (past : entry.1 ≤ now) :
    Returned store now scopes rawServiceType url ↔
      now < deadline entry ∧ entry.2.scopes.intersects scopes = true := by
  rw [returned_iff distinct, found, Option.bind_some]
  by_cases live : now < deadline entry
  · obtain ⟨after, kept, older⟩ := aged_live past live
    rw [kept]
    simp [live, older.scopes]
  · rw [aged_expired (Int.not_lt.mp live)]
    simp [live]

theorem not_returned_of_find (distinct : store.AllDistinct)
    (missing : store.find (slpGetCanonicalString rawServiceType) url = none) :
    ¬ Returned store now scopes rawServiceType url := by
  rw [returned_iff distinct, missing]
  simp

end Returned

/-- The time of a call that has one. -/
def Op.now : Op → Option Int
  | .insert now _ _ => some now
  | .remove _ => none
  | .lookup now _ _ _ => some now
  | .clean now => some now

theorem Op.now_of_ages {op : Op} {serviceType : List UInt8} {now : Int}
    (ages : op.ages serviceType = some now) : op.now = some now := by
  cases op with
  | insert time service fresh | lookup time scopes rawServiceType limit =>
    rw [Op.ages] at ages
    split at ages
    · exact ages
    · cases ages
  | remove service => cases ages
  | clean time => exact ages

/-- A store and the time of the last call. -/
structure Moment where
  store : SLPStore
  now : Int

namespace Moment

def initial (start : Int) : Moment := ⟨.empty, start⟩

def step (moment : Moment) (op : Op) : Moment :=
  ⟨moment.store.step op, op.now.getD moment.now⟩

/-- The times of the calls do not go back. -/
def InOrder (moment : Moment) (op : Op) : Prop := ∀ now ∈ op.now, moment.now ≤ now

/-- No list was cleaned after the last call. -/
structure Timely (moment : Moment) : Prop where
  distinct : moment.store.AllDistinct
  past : ∀ serviceType list, moment.store.lists.lookup serviceType = some list →
    list.lastCleaned ≤ moment.now

section Order
variable {moment : Moment} {op : Op} {now : Int}

theorem timely_initial (start : Int) : (initial start).Timely := by
  refine ⟨allDistinct_empty, ?_⟩
  intro serviceType list found
  cases found

theorem InOrder.le (ordered : InOrder moment op) : moment.now ≤ (moment.step op).now := by
  unfold step
  cases time : op.now with
  | none => exact le_refl _
  | some now => exact ordered now time

theorem lastCleaned_maybeClean {list : ServiceList} (past : list.lastCleaned ≤ now) :
    (list.maybeCleanURLList now).lastCleaned ≤ now ∧
      now < (list.maybeCleanURLList now).lastCleaned + second := by
  unfold ServiceList.maybeCleanURLList ServiceList.elapsedSeconds
  dsimp only
  split
  · rename_i recent
    unfold second at recent ⊢
    omega
  · unfold second
    dsimp only
    omega

/-- A list that something is inserted into was cleaned less than a second ago. -/
theorem Timely.listFor (timely : moment.Timely) (later : moment.now ≤ now)
    (serviceType : List UInt8) :
    (moment.store.listFor now serviceType).lastCleaned ≤ now ∧
      now < (moment.store.listFor now serviceType).lastCleaned + second := by
  unfold SLPStore.listFor
  cases found : moment.store.lists.lookup serviceType with
  | none =>
    unfold second
    dsimp only
    omega
  | some list =>
    exact lastCleaned_maybeClean (le_trans (timely.past serviceType list found) later)

theorem Timely.step (timely : moment.Timely) (ordered : InOrder moment op) :
    (moment.step op).Timely := by
  refine ⟨timely.distinct.step op, ?_⟩
  intro serviceType list found
  have earlier : ∀ before, moment.store.lists.lookup serviceType = some before →
      before.lastCleaned ≤ (moment.step op).now :=
    fun before member => le_trans (timely.past serviceType before member) ordered.le
  cases op with
  | insert now service fresh =>
    change ((moment.store.insert now service fresh).1.lists.lookup serviceType) = some list at found
    rw [lookup_insert] at found
    split at found
    · rw [← Option.some.inj found]
      exact (timely.listFor (ordered now rfl) service.serviceType).1
    · exact earlier list found
  | remove service =>
    obtain ⟨before, member, same⟩ := lookup_remove found
    rw [same]
    exact earlier before member
  | lookup now scopes rawServiceType limit =>
    change (moment.store.lookup now scopes rawServiceType limit).1.lists.lookup serviceType =
      some list at found
    rw [lookup_lookup] at found
    split at found
    · obtain ⟨before, member, rfl⟩ := Option.map_eq_some_iff.mp found
      exact (lastCleaned_maybeClean (earlier before member)).1
    · exact earlier list found
  | clean now =>
    change (moment.store.clean now).lists.lookup serviceType = some list at found
    rw [lookup_clean, Option.bind_eq_some_iff] at found
    obtain ⟨before, member, cleaning⟩ := found
    unfold cleaned at cleaning
    split at cleaning
    · cases cleaning
    · rw [← Option.some.inj cleaning]
      exact (lastCleaned_maybeClean (earlier before member)).1

theorem Timely.find (timely : moment.Timely) {serviceType url : List UInt8}
    {entry : Int × ServiceEntry} (found : moment.store.find serviceType url = some entry) :
    entry.1 ≤ moment.now := by
  obtain ⟨list, member, held⟩ := Option.bind_eq_some_iff.mp found
  obtain ⟨service, _, rfl⟩ := Option.map_eq_some_iff.mp held
  exact timely.past serviceType list member

theorem find_insert_new (timely : moment.Timely) {service : ServiceEntry}
    (absent : (moment.store.find service.serviceType service.url.url).bind (aged now) = none) :
    (moment.store.insert now service true).1.find service.serviceType service.url.url =
      some ((moment.store.listFor now service.serviceType).lastCleaned, service) := by
  rw [← held_listFor timely.distinct, held, Option.map_eq_none_iff] at absent
  rw [SLPStore.find, lookup_insert, if_pos rfl, Option.bind_some, held]
  have inserted : (insertOrUpdateEntry (moment.store.listFor now service.serviceType).services
      service true).1 = (moment.store.listFor now service.serviceType).services ++ [service] := by
    simp [insertOrUpdateEntry, absent]
  rw [inserted, findService_append_self absent]
  rfl

end Order

/-- Some lookup can find the service. -/
def Findable (service : ServiceEntry) : Prop :=
  slpGetCanonicalString service.serviceType = service.serviceType ∧
    service.scopes.scopes.Nonempty

/-- The lifetime of a service that was inserted at a time is honoured by the lookups that may
come next. -/
def Honoured (inserted : Int) (service : ServiceEntry) (moment : Moment) : Prop :=
  ∀ now scopes rawServiceType, moment.now ≤ now →
    slpGetCanonicalString rawServiceType = service.serviceType →
    service.scopes.intersects scopes = true →
    (now ≤ inserted + (service.url.lifetime.toNat - 1) * second →
      Returned moment.store now scopes rawServiceType service.url.url) ∧
    (inserted + (service.url.lifetime.toNat + 1) * second ≤ now →
      ¬ Returned moment.store now scopes rawServiceType service.url.url)

/-- An ageing that keeps the service does not, with the part of a second that it drops, put off
the deadline by more than a second. -/
def Prompt (inserted : Int) (service : ServiceEntry) (moment : Moment) (op : Op) : Prop :=
  Findable service → ∀ entry now,
    moment.store.find service.serviceType service.url.url = some entry →
    op.ages service.serviceType = some now → now < deadline entry →
    deadline entry + dropped entry.1 now ≤
      inserted + (service.url.lifetime.toNat + 1) * second

/-- What holds of a service that was inserted: it is there with a deadline within bounds, or
gone and not missed. -/
structure Kept (inserted : Int) (service : ServiceEntry) (moment : Moment) : Prop where
  timely : moment.Timely
  gone : moment.store.find service.serviceType service.url.url = none →
    inserted + (service.url.lifetime.toNat - 1) * second < moment.now
  scopes : ∀ entry, moment.store.find service.serviceType service.url.url = some entry →
    entry.2.scopes = service.scopes
  lower : ∀ entry, moment.store.find service.serviceType service.url.url = some entry →
    inserted + (service.url.lifetime.toNat - 1) * second < deadline entry
  upper : Findable service → ∀ entry,
    moment.store.find service.serviceType service.url.url = some entry →
    deadline entry ≤ inserted + (service.url.lifetime.toNat + 1) * second

section Lifetimes
variable {moment : Moment} {op : Op} {inserted : Int} {service : ServiceEntry}

theorem findable_of_lookup {scopes : ScopeSet} {rawServiceType : List UInt8}
    (same : slpGetCanonicalString rawServiceType = service.serviceType)
    (meets : service.scopes.intersects scopes = true) : Findable service := by
  constructor
  · rw [← same]
    exact canonical_canonical rawServiceType
  · rw [Finset.nonempty_iff_ne_empty]
    intro empty
    simp [ScopeSet.intersects, empty] at meets

theorem Kept.honoured (kept : Kept inserted service moment) : Honoured inserted service moment := by
  intro now scopes rawServiceType later same meets
  have findable := findable_of_lookup same meets
  cases found : moment.store.find service.serviceType service.url.url with
  | none =>
    have missing := @not_returned_of_find moment.store now scopes rawServiceType service.url.url
      kept.timely.distinct (same ▸ found)
    have gone := kept.gone found
    exact ⟨fun early => by omega, fun _ => missing⟩
  | some entry =>
    have lower := kept.lower entry found
    have upper := kept.upper findable entry found
    have returned := @returned_of_find moment.store now scopes rawServiceType service.url.url entry
      kept.timely.distinct (same ▸ found) (le_trans (kept.timely.find found) later)
    rw [returned, kept.scopes entry found]
    exact ⟨fun early => ⟨by omega, meets⟩, fun late both => by omega⟩

/-- Where the call does not age the list, nothing changes but the time. -/
theorem Kept.unaged (kept : Kept inserted service moment) (ordered : InOrder moment op)
    (same : (moment.step op).store.find service.serviceType service.url.url =
      moment.store.find service.serviceType service.url.url) :
    Kept inserted service (moment.step op) := by
  refine ⟨kept.timely.step ordered, ?_, ?_, ?_, ?_⟩
  · intro gone
    exact lt_of_lt_of_le (kept.gone (same ▸ gone)) ordered.le
  · intro entry found
    exact kept.scopes entry (same ▸ found)
  · intro entry found
    exact kept.lower entry (same ▸ found)
  · intro findable entry found
    exact kept.upper findable entry (same ▸ found)

/-- What a call that ages the list does to the entry. -/
theorem find_aged (timely : moment.Timely)
    (apart : ¬ op.concerns service.serviceType service.url.url) {now : Int}
    (ages : op.ages service.serviceType = some now) :
    (moment.step op).store.find service.serviceType service.url.url =
      (moment.store.find service.serviceType service.url.url).bind (aged now) := by
  have stepped := find_step timely.distinct apart
  rwa [ages] at stepped

theorem now_step {now : Int} (ages : op.ages service.serviceType = some now) :
    (moment.step op).now = now := by
  rw [Moment.step, Op.now_of_ages ages]
  rfl

section

variable (kept : Kept inserted service moment) (ordered : InOrder moment op)
  (apart : ¬ op.concerns service.serviceType service.url.url)
include kept ordered apart

/-- A live entry stays, and its deadline is put off by what is dropped. -/
theorem find_live {now : Int} (ages : op.ages service.serviceType = some now)
    {entry : Int × ServiceEntry}
    (found : moment.store.find service.serviceType service.url.url = some entry)
    (live : now < deadline entry) :
    ∃ after, (moment.step op).store.find service.serviceType service.url.url = some after ∧
      Older now entry after := by
  have past : entry.1 ≤ now :=
    le_trans (kept.timely.find found) (ordered now (Op.now_of_ages ages))
  obtain ⟨after, remains, older⟩ := aged_live past live
  refine ⟨after, ?_, older⟩
  rw [find_aged kept.timely apart ages, found, Option.bind_some, remains]

theorem Kept.step (prompt : Prompt inserted service moment op) :
    Kept inserted service (moment.step op) := by
  have stepped := find_step kept.timely.distinct apart
  cases ages : op.ages service.serviceType with
  | none =>
    rw [ages] at stepped
    exact kept.unaged ordered stepped
  | some now =>
    cases found : moment.store.find service.serviceType service.url.url with
    | none =>
      rw [ages, found] at stepped
      exact kept.unaged ordered (stepped.trans found.symm)
    | some entry =>
      have lower := kept.lower entry found
      by_cases live : now < deadline entry
      · obtain ⟨after, remains, older⟩ := find_live kept ordered apart ages found live
        have more := dropped_nonneg entry.1 now
        have later := older.later
        refine ⟨kept.timely.step ordered, ?_, ?_, ?_, ?_⟩
        · intro gone
          rw [remains] at gone
          cases gone
        · intro other same
          rw [← Option.some.inj (remains.symm.trans same), older.scopes, kept.scopes entry found]
        · intro other same
          rw [← Option.some.inj (remains.symm.trans same)]
          omega
        · intro findable other same
          have bound := prompt findable entry now found ages live
          rw [← Option.some.inj (remains.symm.trans same)]
          omega
      · have removed : (moment.step op).store.find service.serviceType service.url.url =
            none := by
          rw [find_aged kept.timely apart ages, found, Option.bind_some,
            aged_expired (Int.not_lt.mp live)]
        refine ⟨kept.timely.step ordered, ?_, ?_, ?_, ?_⟩
        · intro _
          rw [now_step ages]
          omega
        · intro other same
          rw [removed] at same
          cases same
        · intro other same
          rw [removed] at same
          cases same
        · intro _ other same
          rw [removed] at same
          cases same

/-- After an ageing that puts off the deadline too far a lookup comes that still finds the
service. -/
theorem Kept.spoiled (late : ¬ Prompt inserted service moment op) :
    ¬ Honoured inserted service (moment.step op) := by
  intro honoured
  apply late
  intro findable entry now found ages live
  by_contra overdue
  obtain ⟨after, remains, older⟩ := find_live kept ordered apart ages found live
  have same : slpGetCanonicalString service.serviceType = service.serviceType := findable.1
  have meets : service.scopes.intersects service.scopes = true := by
    simp [ScopeSet.intersects, Finset.nonempty_iff_ne_empty.mp findable.2]
  have more := dropped_nonneg entry.1 now
  have later := older.later
  have ended := @now_step moment op service now ages
  have lookup : ∃ time, now ≤ time ∧
      inserted + (service.url.lifetime.toNat + 1) * second ≤ time ∧ time < deadline after := by
    by_cases early : now ≤ inserted + (service.url.lifetime.toNat + 1) * second
    · exact ⟨inserted + (service.url.lifetime.toNat + 1) * second, by omega, by omega, by omega⟩
    · exact ⟨now, by omega, by omega, by omega⟩
  obtain ⟨time, afterNow, due, before⟩ := lookup
  have none := (honoured time service.scopes service.serviceType (by omega) same meets).2 due
  rw [returned_of_find (kept.timely.step ordered).distinct (same.symm ▸ remains)
    (le_trans older.start afterNow)] at none
  exact none ⟨before, by rw [older.scopes, kept.scopes entry found]; exact meets⟩

end

theorem kept_insert {now : Int} (timely : moment.Timely) (later : moment.now ≤ now)
    (absent : (moment.store.find service.serviceType service.url.url).bind (aged now) = none) :
    Kept now service (moment.step (.insert now service true)) := by
  have found := find_insert_new timely absent
  have bounds := keeps_bounds service.url.lifetime
  have cleaned := timely.listFor later service.serviceType
  have here (entry) : (moment.step (.insert now service true)).store.find service.serviceType
      service.url.url = some entry →
      ((moment.store.listFor now service.serviceType).lastCleaned, service) = entry :=
    fun same => Option.some.inj (found.symm.trans same)
  have expires : deadline ((moment.store.listFor now service.serviceType).lastCleaned, service) =
      (moment.store.listFor now service.serviceType).lastCleaned +
        keeps service.url.lifetime * second := rfl
  unfold second at cleaned expires
  refine ⟨timely.step (fun time same => ?_), ?_, ?_, ?_, ?_⟩
  · rw [← Option.some.inj same]
    exact later
  · intro gone
    cases found.symm.trans gone
  · intro entry same
    rw [← here entry same]
  · intro entry same
    rw [← here entry same, expires]
    unfold second
    omega
  · intro _ entry same
    rw [← here entry same, expires]
    unfold second
    omega

end Lifetimes

/-- The lifetime of a service is honoured after every call exactly if each ageing of its list
is prompt: a service that is inserted anew and not changed afterwards is found up to a second
before its lifetime is over, and not found from a second after that. -/
theorem lifetimes_honoured_iff {start inserted : Int} {past later : List Op}
    {service : ServiceEntry}
    (ordered : Permitted step InOrder (initial start)
      (past ++ .insert inserted service true :: later))
    (absent : ((run step (initial start) past).store.find service.serviceType
      service.url.url).bind (aged inserted) = none)
    (alone : ∀ op ∈ later, ¬ op.concerns service.serviceType service.url.url) :
    (∀ count, Honoured inserted service
      (run step (initial start) (past ++ .insert inserted service true :: later.take count))) ↔
      Permitted step (Prompt inserted service)
        (run step (initial start) (past ++ [.insert inserted service true])) later := by
  obtain ⟨before, first, after⟩ := permitted_append_iff.mp ordered
  have timely : (run step (initial start) past).Timely :=
    run_invariant (fun _ _ timely => timely.step) (timely_initial start) before
  have kept := kept_insert timely (first inserted rfl) absent
  have whole := @always_iff_permitted_within _ _ step
    (fun moment op => InOrder moment op ∧ ¬ op.concerns service.serviceType service.url.url)
    (Prompt inserted service) (Kept inserted service) (Honoured inserted service)
    (fun _ => Kept.honoured) (fun _ _ kept side => kept.step side.1 side.2)
    (fun _ _ kept side => kept.spoiled side.1 side.2) _ later kept (after.and_forall alone)
  simp only [run_append, run_cons, run_nil]
  exact whole

/-- `a://b` with a lifetime of three seconds. -/
def threeSeconds : ServiceEntry := ⟨⟨[97, 58, 47, 47, 98], 3⟩, [97], .parse [99], true⟩

theorem clean_after_second_prompt :
    Prompt 0 threeSeconds (run step (initial 0) [.insert 0 threeSeconds true]) (.clean 1000000) := by
  intro _ entry now found ages _
  have here : (run step (initial 0) [.insert 0 threeSeconds true]).store.find
      threeSeconds.serviceType threeSeconds.url.url = some (0, threeSeconds) := by decide +kernel
  rw [← Option.some.inj (here.symm.trans found), ← Option.some.inj ages]
  decide +kernel

/-- Cleaned after a second, the service is found and gone in time. -/
theorem three_seconds_honoured :
    Honoured 0 threeSeconds
      (run step (initial 0) [.insert 0 threeSeconds true, .clean 1000000]) := by
  refine (@lifetimes_honoured_iff 0 0 [] [.clean 1000000] threeSeconds ?_ ?_ ?_).mpr
    ⟨clean_after_second_prompt, trivial⟩ 1
  · refine ⟨fun now same => ?_, fun now same => ?_, trivial⟩
    · rw [← Option.some.inj same]
      decide
    · rw [← Option.some.inj same]
      decide
  · decide +kernel
  · intro op member
    rw [List.mem_singleton.mp member]
    exact not_false

/-- Looked up every 1.9 seconds, the service is still found 4.7 seconds after it was inserted. -/
theorem three_seconds_outlived :
    ¬ Honoured 0 threeSeconds
      (run step (initial 0) [.insert 0 threeSeconds true,
        .lookup 1900000 threeSeconds.scopes [97] 0, .lookup 3800000 threeSeconds.scopes [97] 0]) := by
  intro honoured
  have gone := (honoured 4700000 threeSeconds.scopes [97] (by decide +kernel) (by decide +kernel)
    (by decide +kernel)).2 (by decide +kernel)
  apply gone
  refine ⟨⟨[97, 58, 47, 47, 98], 1⟩, ?_, rfl⟩
  decide +kernel

end Moment

end OpenLighting.Slp.SLPStore

import OpenLighting.FiniteMap
import OpenLighting.SlpPacketBuilder
import OpenLighting.TransitionSystem

namespace OpenLighting.Slp

open TransitionSystem FiniteMap List

inductive SlpErrorCode where
  | slpOk
  | languageNotSupported
  | parseError
  | invalidRegistration
  | scopeNotSupported
  | authenticationUnknown
  | authenticationAbsent
  | authenticationFailed
  | verNotSupported
  | internalError
  | daBusyNow
  | optionNotUnderstood
  | invalidUpdate
  | msgNotSupported
  | refreshRejected
  deriving DecidableEq

/-- The microseconds of a second. A `TimeStamp` is its microseconds. -/
def second : Int := 1000000

/-- The services of a type, with the time when they were last aged. -/
structure ServiceList where
  lastCleaned : Int
  services : List ServiceEntry
  deriving DecidableEq

structure SLPStore where
  lists : AList (fun _ : List UInt8 => ServiceList)

def URLEntry.ageLifetime (entry : URLEntry) (seconds : UInt16) : URLEntry :=
  if entry.lifetime ≤ seconds then { entry with lifetime := 0 }
  else { entry with lifetime := entry.lifetime - seconds }

namespace ServiceList

/-- `(now - last_cleaned).Seconds()`, which rounds down. -/
def elapsedSeconds (list : ServiceList) (now : Int) : Int := (now - list.lastCleaned) / second

/-- One pass of the loop of `MaybeCleanURLList`: the entry is deleted or aged. -/
def age (elapsed : Int) (entry : ServiceEntry) : Option ServiceEntry :=
  if (entry.url.lifetime.toNat : Int) ≤ elapsed then none
  else some { entry with url := entry.url.ageLifetime (UInt16.ofInt elapsed) }

def maybeCleanURLList (list : ServiceList) (now : Int) : ServiceList :=
  let elapsed := list.elapsedSeconds now
  if elapsed = 0 then list else ⟨now, list.services.filterMap (age elapsed)⟩

end ServiceList

def findService (services : List ServiceEntry) (url : List UInt8) : Option ServiceEntry :=
  services.find? (fun entry => entry.url.url = url)

/-- `set_lifetime` of the entry that `FindService` returns. -/
def setLifetime (url : List UInt8) (lifetime : UInt16) : List ServiceEntry → List ServiceEntry
  | [] => []
  | entry :: rest =>
    if entry.url.url = url then
      { entry with url := { entry.url with lifetime := lifetime } } :: rest
    else entry :: setLifetime url lifetime rest

def insertOrUpdateEntry (services : List ServiceEntry) (service : ServiceEntry) (fresh : Bool) :
    List ServiceEntry × SlpErrorCode :=
  match findService services service.url.url with
  | none => if fresh then (services ++ [service], .slpOk) else (services, .invalidUpdate)
  | some entry =>
    if entry.scopes ≠ service.scopes then (services, .scopeNotSupported)
    else if entry.url.lifetime < service.url.lifetime then
      (setLifetime service.url.url service.url.lifetime services, .slpOk)
    else (services, .slpOk)

/-- The loop of `Lookup`. The number of the entry counts those in other scopes too. -/
def lookupLoop (scopes : ScopeSet) (limit : Nat) : Nat → List ServiceEntry → List URLEntry
  | _, [] => []
  | number, entry :: rest =>
    if entry.scopes.intersects scopes = false then lookupLoop scopes limit (number + 1) rest
    else if limit ≠ 0 ∧ limit ≤ number then []
    else entry.url :: lookupLoop scopes limit (number + 1) rest

namespace SLPStore

def empty : SLPStore := ⟨∅⟩

def serviceTypeCount (store : SLPStore) : Nat := store.lists.keys.length

/-- The list of a type as `Insert` finds or populates it. -/
def listFor (store : SLPStore) (now : Int) (serviceType : List UInt8) : ServiceList :=
  match store.lists.lookup serviceType with
  | none => ⟨now, []⟩
  | some list => list.maybeCleanURLList now

/-- `Insert`. A list that has to be populated stays, whatever the result is. -/
def insert (store : SLPStore) (now : Int) (service : ServiceEntry) (fresh : Bool) :
    SLPStore × SlpErrorCode :=
  let list := store.listFor now service.serviceType
  let (services, code) := insertOrUpdateEntry list.services service fresh
  (⟨store.lists.insert service.serviceType { list with services := services }⟩, code)

def remove (store : SLPStore) (service : ServiceEntry) : SLPStore × SlpErrorCode :=
  match store.lists.lookup service.serviceType with
  | none => (store, .slpOk)
  | some list =>
    match findService list.services service.url.url with
    | none => (store, .slpOk)
    | some entry =>
      if entry.scopes = service.scopes then
        let services := list.services.eraseP (fun entry => entry.url.url = service.url.url)
        if services = [] then (⟨store.lists.erase service.serviceType⟩, .slpOk)
        else
          (⟨store.lists.insert service.serviceType { list with services := services }⟩, .slpOk)
      else (store, .scopeNotSupported)

/-- `Lookup`: the store afterwards and what is appended to the output. -/
def lookup (store : SLPStore) (now : Int) (scopes : ScopeSet) (rawServiceType : List UInt8)
    (limit : Nat) : SLPStore × List URLEntry :=
  let serviceType := slpGetCanonicalString rawServiceType
  match store.lists.lookup serviceType with
  | none => (store, [])
  | some list =>
    let list := list.maybeCleanURLList now
    (⟨store.lists.insert serviceType list⟩, lookupLoop scopes limit 0 list.services)

/-- One pass of the loop of `Clean`. -/
def cleanType (now : Int) (lists : AList (fun _ : List UInt8 => ServiceList))
    (serviceType : List UInt8) : AList (fun _ : List UInt8 => ServiceList) :=
  match lists.lookup serviceType with
  | none => lists
  | some list =>
    let list := list.maybeCleanURLList now
    if list.services = [] then lists.erase serviceType else lists.insert serviceType list

def clean (store : SLPStore) (now : Int) : SLPStore :=
  ⟨store.lists.keys.foldl (cleanType now) store.lists⟩

inductive ReturnCode where
  | ok
  | notFound
  | scopeMismatch
  deriving DecidableEq

def checkIfScopesMatch (store : SLPStore) (now : Int) (service : ServiceEntry) : ReturnCode :=
  match store.lists.lookup service.serviceType with
  | none => .notFound
  | some list =>
    match findService list.services service.url.url with
    | none => .notFound
    | some entry =>
      if (entry.url.lifetime.toNat : Int) ≤ list.elapsedSeconds now then .notFound
      else if entry.scopes = service.scopes then .ok
      else .scopeMismatch

/-- What `GetLocalServices` takes from a list. -/
def localServices (now : Int) (scopes : ScopeSet) (list : ServiceList) : List ServiceEntry :=
  let elapsed := list.elapsedSeconds now
  list.services.filterMap (fun entry =>
    if entry.isLocal = false ∨ (entry.url.lifetime.toNat : Int) ≤ elapsed then none
    else if entry.scopes.intersects scopes then
      some { entry with url := entry.url.ageLifetime (UInt16.ofInt elapsed) }
    else none)

/-- `GetLocalServices`, in the order of the types. -/
def getLocalServices (store : SLPStore) (now : Int) (scopes : ScopeSet) : List ServiceEntry :=
  (store.lists.keys.insertionSort (· ≤ ·)).flatMap (fun serviceType =>
    match store.lists.lookup serviceType with
    | none => []
    | some list => localServices now scopes list)

/-- A call of the store. -/
inductive Op where
  | insert (now : Int) (service : ServiceEntry) (fresh : Bool)
  | remove (service : ServiceEntry)
  | lookup (now : Int) (scopes : ScopeSet) (serviceType : List UInt8) (limit : Nat)
  | clean (now : Int)

def step (store : SLPStore) : Op → SLPStore
  | .insert now service fresh => (store.insert now service fresh).1
  | .remove service => (store.remove service).1
  | .lookup now scopes serviceType limit => (store.lookup now scopes serviceType limit).1
  | .clean now => store.clean now

end SLPStore

section Services
variable {services : List ServiceEntry} {entry service : ServiceEntry} {url other : List UInt8}

/-- There is at most one entry for a URL. -/
def Distinct (services : List ServiceEntry) : Prop :=
  (services.map (fun entry => entry.url.url)).Nodup

theorem findService_some (found : findService services url = some entry) :
    entry ∈ services ∧ entry.url.url = url :=
  ⟨mem_of_find?_eq_some found, by simpa using List.find?_some found⟩

theorem findService_eq_none_iff :
    findService services url = none ↔ url ∉ services.map (fun entry => entry.url.url) := by
  simp [findService]

theorem findService_cons (entry : ServiceEntry) (services : List ServiceEntry)
    (url : List UInt8) :
    findService (entry :: services) url =
      if entry.url.url = url then some entry else findService services url := by
  by_cases same : entry.url.url = url
  · simp [findService, same]
  · simp [findService, same]

theorem url_age {elapsed : Int} {aged : ServiceEntry}
    (kept : ServiceList.age elapsed entry = some aged) : aged.url.url = entry.url.url := by
  unfold ServiceList.age at kept
  split at kept
  · cases kept
  · rw [← Option.some.inj kept]
    unfold URLEntry.ageLifetime
    split
    · rfl
    · rfl

theorem Distinct.age (distinct : Distinct services) (elapsed : Int) :
    Distinct (services.filterMap (ServiceList.age elapsed)) := by
  induction services with
  | nil => exact distinct
  | cons entry services ih =>
    have parts := nodup_cons.mp distinct
    have rest := ih parts.2
    cases kept : ServiceList.age elapsed entry with
    | none => rwa [filterMap_cons_none kept]
    | some aged =>
      rw [filterMap_cons_some kept]
      refine nodup_cons.mpr ⟨?_, rest⟩
      intro member
      obtain ⟨later, found, same⟩ := mem_map.mp member
      obtain ⟨original, inside, old⟩ := mem_filterMap.mp found
      have link : entry.url.url = original.url.url := by
        rw [← url_age kept, ← url_age old]
        exact same.symm
      exact parts.1 (mem_map.mpr ⟨original, inside, link.symm⟩)

theorem findService_age (distinct : Distinct services) (elapsed : Int) :
    findService (services.filterMap (ServiceList.age elapsed)) url =
      (findService services url).bind (ServiceList.age elapsed) := by
  induction services with
  | nil => rfl
  | cons entry services ih =>
    have parts := nodup_cons.mp distinct
    have rest := ih parts.2
    rw [findService_cons]
    cases kept : ServiceList.age elapsed entry with
    | none =>
      rw [filterMap_cons_none kept, rest]
      split
      · rename_i same
        rw [findService_eq_none_iff.mpr (same ▸ parts.1), Option.bind_some, kept]
        rfl
      · rfl
    | some aged =>
      rw [filterMap_cons_some kept, findService_cons, url_age kept]
      split
      · rw [Option.bind_some, kept]
      · exact rest

theorem urls_setLifetime (url : List UInt8) (lifetime : UInt16) (services : List ServiceEntry) :
    (setLifetime url lifetime services).map (fun entry => entry.url.url) =
      services.map (fun entry => entry.url.url) := by
  induction services with
  | nil => rfl
  | cons entry services ih =>
    unfold setLifetime
    split
    · rfl
    · rw [map_cons, map_cons, ih]

theorem findService_setLifetime (different : other ≠ url) (lifetime : UInt16) :
    findService (setLifetime url lifetime services) other = findService services other := by
  induction services with
  | nil => rfl
  | cons entry services ih =>
    unfold setLifetime
    split
    · rename_i same
      rw [findService_cons, findService_cons, if_neg, if_neg]
      · exact fun here => different (here.symm.trans same)
      · exact fun here => different (here.symm.trans same)
    · rw [findService_cons, findService_cons, ih]

theorem findService_setLifetime_self (found : findService services url = some entry)
    (lifetime : UInt16) :
    findService (setLifetime url lifetime services) url =
      some { entry with url := { entry.url with lifetime := lifetime } } := by
  induction services with
  | nil => cases found
  | cons first services ih =>
    rw [findService_cons] at found
    unfold setLifetime
    split at found
    · rename_i same
      rw [if_pos same, findService_cons, if_pos same, Option.some.inj found]
    · rename_i different
      rw [if_neg different, findService_cons, if_neg different, ih found]

theorem findService_append_self (absent : findService services service.url.url = none) :
    findService (services ++ [service]) service.url.url = some service := by
  unfold findService at absent ⊢
  rw [List.find?_append, absent]
  simp

theorem findService_append (different : other ≠ service.url.url) :
    findService (services ++ [service]) other = findService services other := by
  unfold findService
  simp [different.symm]

/-- The entries of other URLs are left alone by an update. -/
theorem findService_insertOrUpdate (different : other ≠ service.url.url) (fresh : Bool) :
    findService (insertOrUpdateEntry services service fresh).1 other =
      findService services other := by
  unfold insertOrUpdateEntry
  split
  · split
    · exact findService_append different
    · rfl
  · split
    · rfl
    · split
      · exact findService_setLifetime different _
      · rfl

theorem Distinct.insertOrUpdate (distinct : Distinct services) (service : ServiceEntry)
    (fresh : Bool) : Distinct (insertOrUpdateEntry services service fresh).1 := by
  unfold insertOrUpdateEntry
  split
  · rename_i absent
    split
    · unfold Distinct
      rw [map_append, map_singleton]
      exact List.Nodup.append distinct (nodup_singleton _)
        (disjoint_singleton.mpr (findService_eq_none_iff.mp absent))
    · exact distinct
  · split
    · exact distinct
    · split
      · unfold Distinct
        rw [urls_setLifetime]
        exact distinct
      · exact distinct

theorem findService_eraseP (distinct : Distinct services) :
    findService (services.eraseP (fun entry => entry.url.url = url)) other =
      if other = url then none else findService services other := by
  induction services with
  | nil =>
    split
    · rfl
    · rfl
  | cons entry services ih =>
    have parts := nodup_cons.mp distinct
    by_cases same : entry.url.url = url
    · rw [eraseP_cons_of_pos (by simpa using same), findService_cons, same]
      split
      · rename_i here
        rw [findService_eq_none_iff, here, ← same]
        exact parts.1
      · rename_i apart
        rw [if_neg (fun here => apart here.symm)]
    · rw [eraseP_cons_of_neg (by simpa using same), findService_cons, findService_cons,
        ih parts.2]
      by_cases here : other = url
      · rw [if_pos here, if_neg (fun this => same (this.trans here)), if_pos here]
      · rw [if_neg here, if_neg here]

theorem Distinct.eraseP (distinct : Distinct services) (url : List UInt8) :
    Distinct (services.eraseP (fun entry => entry.url.url = url)) :=
  List.Nodup.sublist (List.Sublist.map _ eraseP_sublist) distinct

end Services

namespace SLPStore

section Lists
variable {store : SLPStore} {serviceType other : List UInt8} {now : Int} {service : ServiceEntry}

def cleaned (now : Int) (list : ServiceList) : Option ServiceList :=
  if (list.maybeCleanURLList now).services = [] then none else some (list.maybeCleanURLList now)

theorem lookup_cleanType (lists : AList (fun _ : List UInt8 => ServiceList)) :
    (cleanType now lists serviceType).lookup other =
      if other = serviceType then (lists.lookup serviceType).bind (cleaned now)
      else lists.lookup other := by
  unfold cleanType
  cases found : lists.lookup serviceType with
  | none =>
    dsimp only [Option.bind_none]
    split
    · rename_i same
      rw [same, found]
    · rfl
  | some list =>
    rw [Option.bind_some, cleaned]
    dsimp only
    split
    · exact lookup_erase_eq lists serviceType other
    · exact lookup_insert_eq lists serviceType other _

theorem lookup_foldl_cleanType (types : List (List UInt8)) (nodup : types.Nodup)
    (lists : AList (fun _ : List UInt8 => ServiceList)) :
    (types.foldl (cleanType now) lists).lookup other =
      if other ∈ types then (lists.lookup other).bind (cleaned now) else lists.lookup other := by
  induction types generalizing lists with
  | nil => simp
  | cons first types ih =>
    have parts := nodup_cons.mp nodup
    rw [foldl_cons, ih parts.2, lookup_cleanType]
    by_cases same : other = first
    · rw [same]
      simp [parts.1]
    · simp [same]

theorem lookup_clean (store : SLPStore) (now : Int) :
    (store.clean now).lists.lookup other = (store.lists.lookup other).bind (cleaned now) := by
  have fold := @lookup_foldl_cleanType other now store.lists.keys store.lists.keys_nodup store.lists
  rw [clean, fold]
  split
  · rfl
  · rename_i absent
    have missing : store.lists.lookup other = none := AList.lookup_eq_none.mpr absent
    rw [missing]
    rfl

theorem lookup_insert (store : SLPStore) (now : Int) (service : ServiceEntry) (fresh : Bool) :
    (store.insert now service fresh).1.lists.lookup other =
      if other = service.serviceType then
        some { store.listFor now service.serviceType with
          services := (insertOrUpdateEntry (store.listFor now service.serviceType).services
            service fresh).1 }
      else store.lists.lookup other :=
  lookup_insert_eq store.lists service.serviceType other _

theorem lookup_lookup (store : SLPStore) (now : Int) (scopes : ScopeSet)
    (rawServiceType : List UInt8) (limit : Nat) :
    (store.lookup now scopes rawServiceType limit).1.lists.lookup other =
      if other = slpGetCanonicalString rawServiceType then
        (store.lists.lookup other).map (fun list => list.maybeCleanURLList now)
      else store.lists.lookup other := by
  unfold lookup
  dsimp only
  split
  · rename_i missing
    split
    · rename_i here
      rw [here, missing]
      rfl
    · rfl
  · rename_i list found
    rw [lookup_insert_eq]
    split
    · rename_i here
      rw [here, found]
      rfl
    · rfl

theorem lookup_remove {list : ServiceList}
    (found : (store.remove service).1.lists.lookup other = some list) :
    ∃ before, store.lists.lookup other = some before ∧ list.lastCleaned = before.lastCleaned := by
  unfold remove at found
  split at found
  · exact ⟨list, found, rfl⟩
  · rename_i before member
    split at found
    · exact ⟨list, found, rfl⟩
    · split at found
      · dsimp only at found
        split at found
        · rw [lookup_erase_eq] at found
          split at found
          · cases found
          · exact ⟨list, found, rfl⟩
        · rw [lookup_insert_eq] at found
          split at found
          · rename_i here
            rw [← Option.some.inj found]
            exact ⟨before, here ▸ member, rfl⟩
          · exact ⟨list, found, rfl⟩
      · exact ⟨list, found, rfl⟩

end Lists

section Entries
variable {store : SLPStore} {list : ServiceList} {serviceType url : List UInt8} {now : Int}

/-- The entry for a URL, with the time when its list was last aged. -/
def held (list : ServiceList) (url : List UInt8) : Option (Int × ServiceEntry) :=
  (findService list.services url).map (fun entry => (list.lastCleaned, entry))

def find (store : SLPStore) (serviceType url : List UInt8) : Option (Int × ServiceEntry) :=
  (store.lists.lookup serviceType).bind (fun list => held list url)

/-- What ageing its list makes of an entry. -/
def aged (now : Int) (entry : Int × ServiceEntry) : Option (Int × ServiceEntry) :=
  let elapsed := (now - entry.1) / second
  if elapsed = 0 then some entry
  else (ServiceList.age elapsed entry.2).map (fun entry => (now, entry))

/-- Every list of the store has at most one entry for a URL. -/
def AllDistinct (store : SLPStore) : Prop :=
  ∀ serviceType list, store.lists.lookup serviceType = some list → Distinct list.services

theorem held_maybeClean (distinct : Distinct list.services) :
    held (list.maybeCleanURLList now) url = (held list url).bind (aged now) := by
  unfold held ServiceList.maybeCleanURLList ServiceList.elapsedSeconds
  cases found : findService list.services url with
  | none =>
    dsimp only
    split
    · rw [found]
      rfl
    · rw [findService_age distinct, found]
      rfl
  | some entry =>
    dsimp only [Option.map_some, Option.bind_some, aged]
    split
    · rw [found]
      rfl
    · rw [findService_age distinct, found]
      rfl

theorem distinct_maybeClean (distinct : Distinct list.services) (now : Int) :
    Distinct (list.maybeCleanURLList now).services := by
  unfold ServiceList.maybeCleanURLList
  dsimp only
  split
  · exact distinct
  · exact distinct.age _

theorem distinct_listFor (distinct : store.AllDistinct) (now : Int) (serviceType : List UInt8) :
    Distinct (store.listFor now serviceType).services := by
  unfold listFor
  cases found : store.lists.lookup serviceType with
  | none => exact nodup_nil
  | some list => exact distinct_maybeClean (distinct serviceType list found) now

theorem held_listFor (distinct : store.AllDistinct) :
    held (store.listFor now serviceType) url = (store.find serviceType url).bind (aged now) := by
  unfold listFor find
  cases found : store.lists.lookup serviceType with
  | none => rfl
  | some list => exact held_maybeClean (distinct serviceType list found)

theorem held_eq_none_of_nil (empty : list.services = []) : held list url = none := by
  rw [held, empty]
  rfl

theorem held_congr {services : List ServiceEntry}
    (same : findService services url = findService list.services url) :
    held { list with services := services } url = held list url := by
  unfold held
  rw [same]

/-- The time at which a call ages the list of a type. -/
def Op.ages (serviceType : List UInt8) : Op → Option Int
  | .insert now service _ => if service.serviceType = serviceType then some now else none
  | .remove _ => none
  | .lookup now _ rawServiceType _ =>
    if slpGetCanonicalString rawServiceType = serviceType then some now else none
  | .clean now => some now

/-- The call inserts, updates or removes an entry. -/
def Op.concerns (serviceType url : List UInt8) : Op → Prop
  | .insert _ service _ => service.serviceType = serviceType ∧ service.url.url = url
  | .remove service => service.serviceType = serviceType ∧ service.url.url = url
  | _ => False

section

variable (distinct : store.AllDistinct)
include distinct

theorem find_insert {service : ServiceEntry} {fresh : Bool}
    (apart : ¬ (service.serviceType = serviceType ∧ service.url.url = url)) :
    (store.insert now service fresh).1.find serviceType url =
      if service.serviceType = serviceType then (store.find serviceType url).bind (aged now)
      else store.find serviceType url := by
  rw [find, lookup_insert]
  by_cases same : service.serviceType = serviceType
  · have different : url ≠ service.url.url := fun here => apart ⟨same, here.symm⟩
    rw [if_pos same.symm, if_pos same, Option.bind_some,
      held_congr (findService_insertOrUpdate different fresh), same, held_listFor distinct]
  · rw [if_neg (fun here => same here.symm), if_neg same, find]

theorem find_remove {service : ServiceEntry}
    (apart : ¬ (service.serviceType = serviceType ∧ service.url.url = url)) :
    (store.remove service).1.find serviceType url = store.find serviceType url := by
  unfold remove
  split
  · rfl
  · rename_i list found
    split
    · rfl
    · split
      · by_cases same : serviceType = service.serviceType
        · have different : url ≠ service.url.url := fun here => apart ⟨same.symm, here.symm⟩
          have erased := @findService_eraseP list.services service.url.url url
            (distinct _ list found)
          rw [if_neg different] at erased
          have before : store.find serviceType url = held list url := by
            rw [find, same, found, Option.bind_some]
          dsimp only
          split
          · rename_i empty
            rw [empty] at erased
            rw [before, find, lookup_erase_eq, if_pos same, held, ← erased]
            rfl
          · rw [before, find, lookup_insert_eq, if_pos same, Option.bind_some,
              held_congr erased]
        · dsimp only
          split
          · rw [find, lookup_erase_eq, if_neg same, find]
          · rw [find, lookup_insert_eq, if_neg same, find]
      · rfl

theorem find_lookup {scopes : ScopeSet} {rawServiceType : List UInt8} {limit : Nat} :
    (store.lookup now scopes rawServiceType limit).1.find serviceType url =
      if slpGetCanonicalString rawServiceType = serviceType then
        (store.find serviceType url).bind (aged now)
      else store.find serviceType url := by
  unfold lookup
  dsimp only
  split
  · rename_i missing
    split
    · rename_i same
      rw [find, ← same, missing]
      rfl
    · rfl
  · rename_i list found
    rw [find, lookup_insert_eq]
    by_cases same : slpGetCanonicalString rawServiceType = serviceType
    · rw [if_pos same.symm, if_pos same, Option.bind_some,
        held_maybeClean (distinct _ list found), find, ← same, found, Option.bind_some]
    · rw [if_neg (fun here => same here.symm), if_neg same, find]

theorem find_clean :
    (store.clean now).find serviceType url = (store.find serviceType url).bind (aged now) := by
  rw [find, find, lookup_clean]
  cases found : store.lists.lookup serviceType with
  | none => rfl
  | some list =>
    have cleaning := @held_maybeClean list url now (distinct _ list found)
    rw [Option.bind_some, Option.bind_some, ← cleaning, cleaned]
    split
    · rename_i empty
      rw [held_eq_none_of_nil empty]
      rfl
    · rfl

/-- A call that does not concern an entry ages it or leaves it alone. -/
theorem find_step {op : Op} (apart : ¬ op.concerns serviceType url) :
    (store.step op).find serviceType url =
      match op.ages serviceType with
      | none => store.find serviceType url
      | some now => (store.find serviceType url).bind (aged now) := by
  cases op with
  | insert now service fresh =>
    rw [step, find_insert distinct apart, Op.ages]
    split
    · rfl
    · rfl
  | remove service => exact find_remove distinct apart
  | lookup now scopes rawServiceType limit =>
    rw [step, find_lookup distinct, Op.ages]
    split
    · rfl
    · rfl
  | clean now => exact find_clean distinct

end

theorem allDistinct_empty : empty.AllDistinct := by
  intro serviceType list found
  cases found

section
variable (distinct : store.AllDistinct)
include distinct

theorem AllDistinct.put (here : Distinct list.services) :
    AllDistinct ⟨store.lists.insert serviceType list⟩ := by
  intro other found member
  rw [lookup_insert_eq] at member
  split at member
  · rw [← Option.some.inj member]
    exact here
  · exact distinct other found member

theorem AllDistinct.drop :
    AllDistinct ⟨store.lists.erase serviceType⟩ := by
  intro other found member
  rw [lookup_erase_eq] at member
  split at member
  · cases member
  · exact distinct other found member

theorem AllDistinct.insert (now : Int) (service : ServiceEntry) (fresh : Bool) :
    (store.insert now service fresh).1.AllDistinct := by
  apply AllDistinct.put distinct
  exact (distinct_listFor distinct now service.serviceType).insertOrUpdate service fresh

theorem AllDistinct.remove (service : ServiceEntry) :
    (store.remove service).1.AllDistinct := by
  unfold SLPStore.remove
  split
  · exact distinct
  · rename_i list found
    split
    · exact distinct
    · split
      · dsimp only
        split
        · exact distinct.drop
        · exact distinct.put ((distinct _ list found).eraseP _)
      · exact distinct

theorem AllDistinct.lookup (now : Int) (scopes : ScopeSet) (rawServiceType : List UInt8)
    (limit : Nat) :
    (store.lookup now scopes rawServiceType limit).1.AllDistinct := by
  unfold SLPStore.lookup
  dsimp only
  split
  · exact distinct
  · rename_i list found
    exact distinct.put (distinct_maybeClean (distinct _ list found) now)

theorem AllDistinct.clean (now : Int) :
    (store.clean now).AllDistinct := by
  intro serviceType list member
  rw [lookup_clean, Option.bind_eq_some_iff] at member
  obtain ⟨before, found, cleaning⟩ := member
  unfold cleaned at cleaning
  split at cleaning
  · cases cleaning
  · rw [← Option.some.inj cleaning]
    exact distinct_maybeClean (distinct serviceType before found) now

end

theorem AllDistinct.step (distinct : store.AllDistinct) (op : Op) : (store.step op).AllDistinct := by
  cases op with
  | insert now service fresh => exact distinct.insert now service fresh
  | remove service => exact distinct.remove service
  | lookup now scopes serviceType limit => exact distinct.lookup now scopes serviceType limit
  | clean now => exact distinct.clean now

end Entries

end SLPStore

end OpenLighting.Slp

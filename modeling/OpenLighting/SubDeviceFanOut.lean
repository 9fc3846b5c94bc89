import OpenLighting.SubDeviceDispatcher

/- Every call is completed once, after the sub devices it was sent to. -/
namespace OpenLighting.SubDeviceDispatcher

open OpenLighting.Rdm TransitionSystem List
open OpenLighting.QueueingController (Reply eraseIdx_split)

def Event.answer? (ticket : Nat) : Event → Option (UInt16 × Reply)
  | .answered other number reply => if other = ticket then some (number, reply) else none
  | _ => none

def Event.run? (ticket : Nat) : Event → Option Reply
  | .ran other reply => if other = ticket then some reply else none
  | _ => none

section Events
variable (ticket other : Nat)

@[simp] theorem answer?_submitted (request : Command) :
    (Event.submitted other request).answer? ticket = none := rfl

@[simp] theorem answer?_answered (number : UInt16) (reply : Reply) :
    (Event.answered other number reply).answer? ticket =
      if other = ticket then some (number, reply) else none := rfl

@[simp] theorem answer?_ran (reply : Reply) : (Event.ran other reply).answer? ticket = none := rfl

@[simp] theorem run?_submitted (request : Command) :
    (Event.submitted other request).run? ticket = none := rfl

@[simp] theorem run?_answered (number : UInt16) (reply : Reply) :
    (Event.answered other number reply).run? ticket = none := rfl

@[simp] theorem run?_ran (reply : Reply) :
    (Event.ran other reply).run? ticket = if other = ticket then some reply else none := rfl

end Events

/-- Everything about one call: the sub devices that have its request, those the loop has not come
to, those that have answered, and what its callback was run with. -/
structure Account where
  waiting : List Delivery
  unsent : List UInt16
  answers : List (UInt16 × Reply)
  runs : List Reply
  tracker : Option FanOutTracker

def World.account (world : World) (ticket : Nat) : Account where
  waiting := world.outstanding.filter (fun delivery => delivery.ticket = ticket)
  unsent := (world.frames.filter (fun frame => frame.ticket = ticket)).flatMap FanOut.rest
  answers := world.log.filterMap (Event.answer? ticket)
  runs := world.log.filterMap (Event.run? ticket)
  tracker := world.trackers ticket

/-- Where a request goes. -/
inductive Route where
  | all
  | device (number : UInt16)
  | refused
  deriving DecidableEq

def route (map : SubDeviceMap) (request : Command) : Route :=
  if request.subDevice = allRdmSubdevices then
    if request.commandClass = .getCommand then .refused else .all
  else if request.subDevice ∈ map.numbers then .device request.subDevice
  else .refused

/-- What is to be seen of a call at any time: its callback has been run once, with the right
reply, or some sub device has still to complete the request. -/
structure Served (map : SubDeviceMap) (request : Command) (account : Account) : Prop where
  refused : route map request = .refused →
    account.runs = [nackReply request nrSubDeviceOutOfRange]
  device : ∀ number, route map request = .device number →
    (account.runs = [] ∧ account.waiting.map Delivery.number = [number]) ∨
      ∃ reply, account.answers = [(number, reply)] ∧ account.runs = [reply]
  all : route map request = .all →
    (account.runs = [] ∧ account.waiting.map Delivery.number ++ account.unsent ≠ []) ∨
      ∃ first rest, account.answers = first :: rest ∧
        (account.answers.map Prod.fst).Perm map.numbers ∧
        account.runs = [⟨first.2.status, first.2.response, []⟩]

/-- The request goes to one sub device at least, or to none by design. -/
def Answerable (map : SubDeviceMap) : Input → Prop
  | .sendRDMRequest request => route map request = .all → map.numbers ≠ []
  | .proceed | .complete _ _ => True

instance (map : SubDeviceMap) (input : Input) : Decidable (Answerable map input) :=
  match input with
  | .sendRDMRequest request => inferInstanceAs (Decidable (route map request = .all → _))
  | .proceed | .complete _ _ => instDecidableTrue

theorem length_of_ascending (numbers : List UInt16) (below : UInt16)
    (sorted : numbers.Pairwise (fun first second => first < second))
    (above : ∀ number ∈ numbers, below < number) :
    numbers.length + below.toNat ≤ 65535 := by
  induction numbers generalizing below with
  | nil =>
    have bound := below.toNat_lt
    rw [length_nil]
    omega
  | cons number rest ih =>
    obtain ⟨least, sortedRest⟩ := pairwise_cons.mp sorted
    have shorter := ih number sortedRest least
    have order := UInt16.lt_iff_toNat_lt.mp (above number mem_cons_self)
    rw [length_cons]
    omega

/-- The number of sub devices fits in the counter of a tracker. -/
theorem numbers_length (map : SubDeviceMap) : map.numbers.length ≤ 65535 := by
  apply length_of_ascending map.numbers 0
  · exact pairwise_map.mpr map.sorted
  · intro number member
    obtain ⟨entry, found, rfl⟩ := mem_map.mp member
    have positive := map.noRoot entry found
    exact Nat.pos_of_ne_zero (fun zero => positive (UInt16.toNat_inj.mp zero))

theorem ofNat_eq_iff {first second : Nat} (small : first ≤ 65535) (small' : second ≤ 65535) :
    UInt16.ofNat first = UInt16.ofNat second ↔ first = second := by
  rw [← UInt16.toNat_inj, UInt16.toNat_ofNat', UInt16.toNat_ofNat']
  omega

/-- The call has gone to all sub devices. -/
structure FannedOut (numbers : List UInt16) (ticket : Nat) (account : Account) : Prop where
  members : (account.waiting.map Delivery.number ++ account.unsent ++
    account.answers.map Prod.fst).Perm numbers
  bound : ∀ delivery ∈ account.waiting, delivery.fanOut = true
  tracked : account.answers.length < numbers.length → account.runs = [] ∧
    account.tracker = some ⟨UInt16.ofNat numbers.length, UInt16.ofNat account.answers.length,
      some ticket, account.answers.head?.map (fun answer => (answer.2.status, answer.2.response))⟩
  finished : account.answers.length = numbers.length →
    account.runs = account.answers.head?.toList.map
      (fun answer => ⟨answer.2.status, answer.2.response, []⟩)

/-- How the account of a call stands between two steps. -/
structure Kept (map : SubDeviceMap) (ticket : Nat) (request : Command) (account : Account) :
    Prop where
  refused : route map request = .refused → account.waiting = [] ∧ account.unsent = [] ∧
    account.runs = [nackReply request nrSubDeviceOutOfRange]
  device : ∀ number, route map request = .device number → account.unsent = [] ∧
    ((account.waiting = [⟨ticket, number, false⟩] ∧ account.answers = [] ∧ account.runs = []) ∨
      (account.waiting = [] ∧ ∃ reply, account.answers = [(number, reply)] ∧
        account.runs = [reply]))
  all : route map request = .all → map.numbers ≠ [] ∧ FannedOut map.numbers ticket account

section Served
variable {map : SubDeviceMap} {ticket : Nat} {request : Command} {account : Account}
  {numbers : List UInt16}

theorem FannedOut.length_eq (out : FannedOut numbers ticket account) :
    account.waiting.length + account.unsent.length + account.answers.length = numbers.length := by
  have lengths := out.members.length_eq
  rw [length_append, length_append, length_map, length_map] at lengths
  exact lengths

theorem FannedOut.served (out : FannedOut numbers ticket account) (some : numbers ≠ []) :
    (account.runs = [] ∧ account.waiting.map Delivery.number ++ account.unsent ≠ []) ∨
      ∃ first rest, account.answers = first :: rest ∧
        (account.answers.map Prod.fst).Perm numbers ∧
        account.runs = [⟨first.2.status, first.2.response, []⟩] := by
  have lengths := out.length_eq
  by_cases open_ : account.answers.length < numbers.length
  · refine .inl ⟨(out.tracked open_).1, ?_⟩
    rw [← length_pos_iff, length_append, length_map]
    omega
  · have all : account.answers.length = numbers.length := by omega
    have waiting : account.waiting = [] := eq_nil_of_length_eq_zero (by omega)
    have unsent : account.unsent = [] := eq_nil_of_length_eq_zero (by omega)
    have runs := out.finished all
    have members := out.members
    rw [waiting, unsent] at members
    cases answers : account.answers with
    | nil =>
      rw [answers] at all
      exact absurd (eq_nil_of_length_eq_zero all.symm) some
    | cons first rest =>
      rw [answers] at runs members
      exact .inr ⟨first, rest, rfl, members, runs⟩

theorem Kept.served (kept : Kept map ticket request account) : Served map request account := by
  constructor
  · intro way
    exact (kept.refused way).2.2
  · intro number way
    rcases (kept.device number way).2 with ⟨waiting, -, runs⟩ | ⟨-, reply, answers, runs⟩
    · left
      rw [waiting]
      exact ⟨runs, rfl⟩
    · exact .inr ⟨reply, answers, runs⟩
  · intro way
    obtain ⟨some, out⟩ := kept.all way
    exact out.served some

theorem Kept.of_refused (way : route map request = .refused)
    (stands : account.waiting = [] ∧ account.unsent = [] ∧
      account.runs = [nackReply request nrSubDeviceOutOfRange]) :
    Kept map ticket request account :=
  ⟨fun _ => stands, fun _ other => (nomatch way.symm.trans other),
    fun other => (nomatch way.symm.trans other)⟩

theorem Kept.of_device {number : UInt16} (way : route map request = .device number)
    (stands : account.unsent = [] ∧
      ((account.waiting = [⟨ticket, number, false⟩] ∧ account.answers = [] ∧ account.runs = []) ∨
        (account.waiting = [] ∧ ∃ reply, account.answers = [(number, reply)] ∧
          account.runs = [reply]))) : Kept map ticket request account := by
  refine ⟨fun other => (nomatch way.symm.trans other), ?_,
    fun other => (nomatch way.symm.trans other)⟩
  intro other same
  rw [way] at same
  cases same
  exact stands

theorem Kept.of_all (way : route map request = .all) (some : map.numbers ≠ [])
    (out : FannedOut map.numbers ticket account) : Kept map ticket request account :=
  ⟨fun other => (nomatch way.symm.trans other), fun _ other => (nomatch way.symm.trans other),
    fun _ => ⟨some, out⟩⟩

/-- The loop hands the request to one more sub device. -/
theorem FannedOut.sent (out : FannedOut numbers ticket account) {number : UInt16}
    {rest : List UInt16} (next : account.unsent = number :: rest) :
    FannedOut numbers ticket { account with
      waiting := account.waiting ++ [⟨ticket, number, true⟩]
      unsent := rest } := by
  refine ⟨?_, ?_, out.tracked, out.finished⟩
  · have members := out.members
    rw [next] at members
    simpa using members
  · intro delivery member
    rcases mem_append.mp member with before | last
    · exact out.bound delivery before
    · rw [mem_singleton.mp last]

/-- One more sub device has answered. -/
theorem FannedOut.answer (out : FannedOut numbers ticket account) {delivery : Delivery}
    {others : List Delivery} (waits : account.waiting.Perm (delivery :: others)) {reply : Reply}
    {runs : List Reply} {tracker : Option FanOutTracker}
    (open_ : account.answers.length + 1 < numbers.length → runs = [] ∧
      tracker = some ⟨UInt16.ofNat numbers.length, UInt16.ofNat (account.answers.length + 1),
        some ticket, (account.answers ++ [(delivery.number, reply)]).head?.map
          (fun answer => (answer.2.status, answer.2.response))⟩)
    (closed : account.answers.length + 1 = numbers.length →
      runs = (account.answers ++ [(delivery.number, reply)]).head?.toList.map
        (fun answer => ⟨answer.2.status, answer.2.response, []⟩)) :
    FannedOut numbers ticket
      ⟨others, account.unsent, account.answers ++ [(delivery.number, reply)], runs, tracker⟩ := by
  have length : (account.answers ++ [(delivery.number, reply)]).length =
      account.answers.length + 1 := length_append
  refine ⟨?_, ?_, ?_, ?_⟩
  · have last : (others.map Delivery.number ++ account.unsent ++ account.answers.map Prod.fst ++
        [delivery.number]).Perm (delivery.number :: (others.map Delivery.number ++ account.unsent ++
          account.answers.map Prod.fst)) := perm_append_singleton _ _
    have moved := (waits.map Delivery.number).symm
    rw [map_append, map_cons, map_nil, ← append_assoc]
    exact (last.trans ((moved.append_right _).append_right _)).trans out.members
  · intro other member
    exact out.bound other (waits.symm.subset (mem_cons_of_mem delivery member))
  · intro less
    rw [length] at less ⊢
    exact open_ less
  · intro all
    rw [length] at all
    exact closed all

/-- Only a call to all sub devices waits for an answer to its tracker. -/
theorem Kept.fannedOut (kept : Kept map ticket request account) {delivery : Delivery}
    (member : delivery ∈ account.waiting) (fanned : delivery.fanOut = true) :
    route map request = .all ∧ map.numbers ≠ [] ∧ FannedOut map.numbers ticket account := by
  cases way : route map request with
  | refused =>
    rw [(kept.refused way).1] at member
    cases member
  | device number =>
    rcases (kept.device number way).2 with ⟨waiting, -⟩ | ⟨waiting, -⟩
    · rw [waiting] at member
      rw [mem_singleton.mp member] at fanned
      cases fanned
    · rw [waiting] at member
      cases member
  | all => exact ⟨rfl, kept.all way⟩

/-- `SetResponse` for the first answer, and the counter. -/
def FanOutTracker.answered (tracker : FanOutTracker) (reply : Reply) : FanOutTracker :=
  { tracker with
    responsesSoFar := tracker.responsesSoFar + 1
    response :=
      if tracker.responsesSoFar = 0 then some (reply.status, reply.response)
      else tracker.response }

theorem tracker_answered {answers : List (UInt16 × Reply)} (small : answers.length < 65535)
    (total : UInt16) (callback : Option Nat) (number : UInt16) (reply : Reply) :
    FanOutTracker.answered ⟨total, UInt16.ofNat answers.length, callback,
        answers.head?.map (fun answer => (answer.2.status, answer.2.response))⟩ reply =
      ⟨total, UInt16.ofNat (answers.length + 1), callback,
        (answers ++ [(number, reply)]).head?.map
          (fun answer => (answer.2.status, answer.2.response))⟩ := by
  have next : UInt16.ofNat answers.length + 1 = UInt16.ofNat (answers.length + 1) := by
    simp
  unfold FanOutTracker.answered
  rw [next]
  cases answers with
  | nil => rfl
  | cons first rest =>
    have counted : UInt16.ofNat (first :: rest).length ≠ 0 := by
      intro zero
      have same := (ofNat_eq_iff (Nat.le_of_lt small) (Nat.zero_le _)).mp zero
      cases same
    rw [if_neg counted]
    rfl

end Served

namespace World

/-- What is known between two steps. -/
structure Accounted (map : SubDeviceMap) (world : World) : Prop where
  subdevices : world.subdevices = map
  sound : world.fault = false
  submitted : ∀ ticket < world.tickets, ∃ request, Event.submitted ticket request ∈ world.log
  fresh : ∀ ticket, world.tickets ≤ ticket → world.account ticket = ⟨[], [], [], [], none⟩ ∧
    ∀ request, Event.submitted ticket request ∉ world.log
  kept : ∀ ticket request, Event.submitted ticket request ∈ world.log →
    Kept map ticket request (world.account ticket)

section Steps
variable {map : SubDeviceMap} {world : World} {request : Command}

/-- A step that concerns one call only. -/
theorem Accounted.change (accounted : Accounted map world) {other : World} {changed : Nat}
    (subdevices : other.subdevices = world.subdevices) (sound : other.fault = false)
    (tickets : other.tickets = world.tickets) (within : changed < world.tickets)
    (log : ∀ ticket request, Event.submitted ticket request ∈ other.log ↔
      Event.submitted ticket request ∈ world.log)
    (others : ∀ ticket, ticket ≠ changed → other.account ticket = world.account ticket)
    (kept : ∀ request, Event.submitted changed request ∈ world.log →
      Kept map changed request (world.account changed) →
        Kept map changed request (other.account changed)) : Accounted map other := by
  refine ⟨subdevices.trans accounted.subdevices, sound, ?_, ?_, ?_⟩
  · intro ticket bound
    rw [tickets] at bound
    obtain ⟨request, member⟩ := accounted.submitted ticket bound
    exact ⟨request, (log ticket request).mpr member⟩
  · intro ticket bound
    rw [tickets] at bound
    obtain ⟨unused, unknown⟩ := accounted.fresh ticket bound
    refine ⟨?_, fun request member => unknown request ((log ticket request).mp member)⟩
    rw [others ticket (by omega)]
    exact unused
  · intro ticket request member
    have before := (log ticket request).mp member
    by_cases same : ticket = changed
    · rw [same] at before ⊢
      exact kept request before (accounted.kept changed request before)
    · rw [others ticket same]
      exact accounted.kept ticket request before

theorem account_frames (frames : List FanOut) (ticket : Nat)
    (same : (frames.filter (fun frame => frame.ticket = ticket)).flatMap FanOut.rest =
      (world.frames.filter (fun frame => frame.ticket = ticket)).flatMap FanOut.rest) :
    account { world with frames := frames } ticket = world.account ticket := by
  unfold account
  rw [← same]

theorem proceed_accounted (accounted : Accounted map world) : Accounted map world.proceed := by
  unfold proceed
  split
  · exact accounted
  · rename_i ticket frames top
    have same (other : Nat) :
        account { world with frames := frames } other = world.account other := by
      apply account_frames
      rw [top]
      by_cases own : ticket = other <;> simp [own]
    refine { accounted with fresh := ?_, kept := ?_ }
    · intro other bound
      rw [same]
      exact accounted.fresh other bound
    · intro other request member
      rw [same]
      exact accounted.kept other request member
  · rename_i ticket number rest frames top
    have unsent : (world.account ticket).unsent = number :: (rest ++
        (frames.filter (fun frame => frame.ticket = ticket)).flatMap FanOut.rest) := by
      simp [account, top]
    have sent : account { world with
        outstanding := world.outstanding ++ [⟨ticket, number, true⟩]
        frames := ⟨ticket, rest⟩ :: frames } ticket = { world.account ticket with
          waiting := (world.account ticket).waiting ++ [⟨ticket, number, true⟩]
          unsent := rest ++
            (frames.filter (fun frame => frame.ticket = ticket)).flatMap FanOut.rest } := by
      simp [account]
    have within : ticket < world.tickets := by
      by_contra unused
      rw [(accounted.fresh ticket (Nat.le_of_not_lt unused)).1] at unsent
      cases unsent
    refine accounted.change ?_ ?_ ?_ within ?_ ?_ ?_
    · rfl
    · exact accounted.sound
    · rfl
    · exact fun _ _ => Iff.rfl
    · intro other different
      have apart : ¬ ticket = other := fun same => different same.symm
      simp [account, top, apart]
    · intro request member kept
      rw [sent]
      constructor
      · intro way
        rw [(kept.refused way).2.1] at unsent
        cases unsent
      · intro device way
        rw [(kept.device device way).1] at unsent
        cases unsent
      · intro way
        exact ⟨(kept.all way).1, (kept.all way).2.sent unsent⟩

/-- A step that starts a call. -/
theorem Accounted.start (accounted : Accounted map world) {other : World} (request : Command)
    (subdevices : other.subdevices = world.subdevices) (sound : other.fault = false)
    (tickets : other.tickets = world.tickets + 1)
    (log : ∀ ticket asked, Event.submitted ticket asked ∈ other.log ↔
      Event.submitted ticket asked ∈ world.log ∨ (ticket = world.tickets ∧ asked = request))
    (others : ∀ ticket, ticket ≠ world.tickets → other.account ticket = world.account ticket)
    (kept : Kept map world.tickets request (other.account world.tickets)) :
    Accounted map other := by
  refine ⟨subdevices.trans accounted.subdevices, sound, ?_, ?_, ?_⟩
  · intro ticket bound
    rw [tickets] at bound
    rcases Nat.lt_succ_iff_lt_or_eq.mp bound with before | rfl
    · obtain ⟨asked, member⟩ := accounted.submitted ticket before
      exact ⟨asked, (log ticket asked).mpr (.inl member)⟩
    · exact ⟨request, (log _ request).mpr (.inr ⟨rfl, rfl⟩)⟩
  · intro ticket bound
    rw [tickets] at bound
    obtain ⟨unused, unknown⟩ := accounted.fresh ticket (by omega)
    rw [others ticket (by omega)]
    refine ⟨unused, ?_⟩
    intro asked member
    rcases (log ticket asked).mp member with before | ⟨same, -⟩
    · exact unknown asked before
    · omega
  · intro ticket asked member
    rcases (log ticket asked).mp member with before | ⟨rfl, rfl⟩
    · have earlier : ticket ≠ world.tickets := by
        rintro rfl
        exact (accounted.fresh _ (Nat.le_refl _)).2 asked before
      rw [others ticket earlier]
      exact accounted.kept ticket asked before
    · exact kept

theorem sendRDMRequest_refused (way : route world.subdevices request = .refused) :
    world.sendRDMRequest request = { world with
      tickets := world.tickets + 1
      log := world.log ++ [.submitted world.tickets request] ++
        [.ran world.tickets (nackReply request nrSubDeviceOutOfRange)] } := by
  unfold route at way
  unfold sendRDMRequest fanOutToSubDevices nackIfNotBroadcast
  dsimp only
  split_ifs at way ⊢ <;> rfl

theorem sendRDMRequest_device {number : UInt16}
    (way : route world.subdevices request = .device number) :
    world.sendRDMRequest request = { world with
      tickets := world.tickets + 1
      log := world.log ++ [.submitted world.tickets request]
      outstanding := world.outstanding ++ [⟨world.tickets, number, false⟩] } := by
  unfold route at way
  unfold sendRDMRequest
  dsimp only
  split_ifs at way ⊢
  cases way
  rfl

theorem sendRDMRequest_all (way : route world.subdevices request = .all) :
    world.sendRDMRequest request = { world with
      tickets := world.tickets + 1
      log := world.log ++ [.submitted world.tickets request]
      trackers := Function.update world.trackers world.tickets
        (some (.new (UInt16.ofNat world.subdevices.entries.length) world.tickets))
      frames := ⟨world.tickets, world.subdevices.numbers⟩ :: world.frames } := by
  unfold route at way
  unfold sendRDMRequest fanOutToSubDevices
  split_ifs at way ⊢
  rfl

/-- A call that is not refused and does not go to one sub device alone needs some. -/
theorem sendRDMRequest_accounted (accounted : Accounted map world) (request : Command)
    (answerable : Answerable map (.sendRDMRequest request)) :
    Accounted map (world.sendRDMRequest request) := by
  have unused := (accounted.fresh world.tickets (Nat.le_refl _)).1
  simp only [account, Account.mk.injEq] at unused
  obtain ⟨waiting, unsent, answers, runs, tracker⟩ := unused
  have map' := accounted.subdevices
  cases way : route map request with
  | refused =>
    rw [sendRDMRequest_refused (by rw [map', way])]
    refine accounted.start request rfl accounted.sound rfl ?_ ?_ ?_
    · simp
    · intro ticket different
      have apart : ¬ world.tickets = ticket := fun same => different same.symm
      simp [account, filterMap_cons, apart]
    · apply Kept.of_refused way
      simp [account, filterMap_cons, waiting, unsent, runs]
  | device number =>
    rw [sendRDMRequest_device (by rw [map', way])]
    refine accounted.start request rfl accounted.sound rfl ?_ ?_ ?_
    · intro ticket asked
      simp
    · intro ticket different
      have apart : ¬ world.tickets = ticket := fun same => different same.symm
      simp [account, filterMap_cons, apart]
    · apply Kept.of_device way
      refine ⟨unsent, .inl ?_⟩
      simp [account, filterMap_cons, waiting, answers, runs]
  | all =>
    rw [sendRDMRequest_all (by rw [map', way])]
    refine accounted.start request rfl accounted.sound rfl ?_ ?_ ?_
    · intro ticket asked
      simp
    · intro ticket different
      have apart : ¬ world.tickets = ticket := fun same => different same.symm
      simp [account, filterMap_cons, apart, different]
    · apply Kept.of_all way (answerable way)
      have length : world.subdevices.entries.length = map.numbers.length := by
        rw [map', SubDeviceMap.numbers, length_map]
      constructor
      · simp [account, filterMap_cons, waiting, unsent, answers, map']
      · simp [account, waiting]
      · simp [account, filterMap_cons, answers, runs, length, FanOutTracker.new]
      · intro empty
        simp [account, filterMap_cons, answers] at empty
        exact absurd (eq_nil_of_length_eq_zero empty.symm) (answerable way)

variable {index : Nat} {delivery : Delivery}

/-- The completion of a request leaves those with other tickets outstanding. -/
theorem waiting_other {outstanding : List Delivery} {ticket : Nat}
    (found : outstanding[index]? = some delivery) (apart : delivery.ticket ≠ ticket) :
    (outstanding.eraseIdx index).filter (fun other => other.ticket = ticket) =
      outstanding.filter (fun other => other.ticket = ticket) := by
  obtain ⟨before, after, split, erased⟩ := eraseIdx_split found
  rw [erased, split]
  simp [apart]

theorem waiting_perm (found : world.outstanding[index]? = some delivery) :
    (world.account delivery.ticket).waiting.Perm (delivery ::
      (world.outstanding.eraseIdx index).filter
        (fun other => other.ticket = delivery.ticket)) := by
  obtain ⟨before, after, split, erased⟩ := eraseIdx_split found
  rw [erased]
  simp [account, split]

theorem handleSubDeviceResponse_tracked {address : Nat} {tracker : FanOutTracker}
    (found : world.trackers address = some tracker) (reply : Reply) :
    world.handleSubDeviceResponse address reply =
      if (tracker.answered reply).responsesSoFar = tracker.numberOfSubdevices then
        { world.runCallback (tracker.answered reply) with
          trackers := Function.update world.trackers address none }
      else { world with
        trackers := Function.update world.trackers address (some (tracker.answered reply)) } := by
  unfold handleSubDeviceResponse
  simp only [found]
  by_cases first : tracker.responsesSoFar = 0
  · simp [first, FanOutTracker.answered]
  · simp [first, FanOutTracker.answered]

/-- A sub device that a call went to alone has completed it. -/
theorem complete_alone (accounted : Accounted map world)
    (found : world.outstanding[index]? = some delivery) (alone : delivery.fanOut = false)
    (within : delivery.ticket < world.tickets) (reply : Reply) :
    Accounted map { world with
      outstanding := world.outstanding.eraseIdx index
      log := world.log ++ [.answered delivery.ticket delivery.number reply] ++
        [.ran delivery.ticket reply] } := by
  have waits := waiting_perm found
  have member : delivery ∈ (world.account delivery.ticket).waiting := waits.symm.subset
    mem_cons_self
  refine accounted.change rfl accounted.sound rfl within ?_ ?_ ?_
  · simp
  · intro ticket different
    have apart : ¬ delivery.ticket = ticket := fun same => different same.symm
    simp [account, filterMap_cons, waiting_other found apart, apart]
  · intro request _ kept
    cases way : route map request with
    | refused =>
      rw [(kept.refused way).1] at member
      cases member
    | all =>
      have fanned := (kept.all way).2.bound delivery member
      rw [alone] at fanned
      cases fanned
    | device number =>
      obtain ⟨unsent, ⟨waiting, answers, runs⟩ | ⟨waiting, -⟩⟩ := kept.device number way
      · rw [waiting] at member waits
        have same : delivery.number = number :=
          congrArg Delivery.number (mem_singleton.mp member)
        have none := perm_singleton.mp waits.symm
        apply Kept.of_device way
        refine ⟨unsent, .inr ⟨(List.cons.inj none).2, reply, ?_, ?_⟩⟩
        · simp only [account] at answers
          simp [account, filterMap_cons, answers, same]
        · simp only [account] at runs
          simp [account, filterMap_cons, runs]
      · rw [waiting] at member
        cases member

theorem complete_fanOut (accounted : Accounted map world)
    (found : world.outstanding[index]? = some delivery) (fanned : delivery.fanOut = true)
    (within : delivery.ticket < world.tickets) (reply : Reply) :
    Accounted map (handleSubDeviceResponse { world with
      outstanding := world.outstanding.eraseIdx index
      log := world.log ++ [.answered delivery.ticket delivery.number reply] }
        delivery.ticket reply) := by
  have waits := waiting_perm found
  have member : delivery ∈ (world.account delivery.ticket).waiting := waits.symm.subset
    mem_cons_self
  obtain ⟨asked, submitted⟩ := accounted.submitted delivery.ticket within
  obtain ⟨-, -, out⟩ :=
    (accounted.kept delivery.ticket asked submitted).fannedOut member fanned
  have lengths := out.length_eq
  have positive := length_pos_of_mem member
  have small := numbers_length map
  have tracker := (out.tracked (by omega)).2
  have runs := (out.tracked (by omega)).1
  have handled := @handleSubDeviceResponse_tracked { world with
    outstanding := world.outstanding.eraseIdx index
    log := world.log ++ [.answered delivery.ticket delivery.number reply] } _ _ tracker reply
  rw [handled, tracker_answered (by omega) _ _ delivery.number]
  have others (ticket : Nat) (different : ticket ≠ delivery.ticket) :
      (world.outstanding.eraseIdx index).filter (fun other => other.ticket = ticket) =
        world.outstanding.filter (fun other => other.ticket = ticket) :=
    waiting_other found (fun same => different same.symm)
  have counter := ofNat_eq_iff (show (world.account delivery.ticket).answers.length + 1 ≤ 65535 by
    omega) small
  by_cases all : (world.account delivery.ticket).answers.length + 1 = map.numbers.length
  · rw [if_pos (counter.mpr all)]
    cases head : ((world.account delivery.ticket).answers ++ [(delivery.number, reply)]).head? with
    | none => simp at head
    | some first =>
      unfold runCallback
      refine accounted.change rfl accounted.sound rfl within ?_ ?_ ?_
      · intro ticket request
        simp
      · intro ticket different
        have apart : ¬ delivery.ticket = ticket := fun same => different same.symm
        simp [account, filterMap_cons, others ticket different, apart, different]
      · intro request _ kept
        obtain ⟨way, some, -⟩ := kept.fannedOut member fanned
        apply Kept.of_all way some
        have answered := @FannedOut.answer _ _ _ out _ _ waits reply
          [⟨first.2.status, first.2.response, []⟩] none (fun less => absurd all (by omega))
          (fun _ => by rw [head]; rfl)
        convert answered using 1
        simp only [account] at runs
        simp [account, filterMap_cons, runs]
  · rw [if_neg (fun same => all (counter.mp same))]
    refine accounted.change rfl accounted.sound rfl within ?_ ?_ ?_
    · intro ticket request
      simp
    · intro ticket different
      have apart : ¬ delivery.ticket = ticket := fun same => different same.symm
      simp [account, filterMap_cons, others ticket different, apart, different]
    · intro request _ kept
      obtain ⟨way, some, -⟩ := kept.fannedOut member fanned
      apply Kept.of_all way some
      have answered := @FannedOut.answer _ _ _ out _ _ waits reply [] _ (fun _ => ⟨rfl, rfl⟩)
        (fun same => absurd same all)
      convert answered using 1
      simp only [account] at runs
      simp [account, filterMap_cons, runs]

theorem complete_accounted (accounted : Accounted map world) (index : Nat) (reply : Reply) :
    Accounted map (world.complete index reply) := by
  unfold complete
  split
  · exact accounted
  · rename_i delivery found
    have member : delivery ∈ (world.account delivery.ticket).waiting :=
      (waiting_perm found).symm.subset mem_cons_self
    have within : delivery.ticket < world.tickets := by
      by_contra unused
      rw [(accounted.fresh _ (Nat.le_of_not_lt unused)).1] at member
      cases member
    by_cases fanned : delivery.fanOut = true
    · rw [if_pos fanned]
      exact complete_fanOut accounted found fanned within reply
    · rw [if_neg fanned]
      exact complete_alone accounted found (by simpa using fanned) within reply

theorem step_accounted (accounted : Accounted map world) (input : Input)
    (answerable : Answerable map input) : Accounted map (world.step input) := by
  unfold step
  rw [if_neg (by rw [accounted.sound]; nofun)]
  cases input with
  | sendRDMRequest request => exact sendRDMRequest_accounted accounted request answerable
  | proceed => exact proceed_accounted accounted
  | complete index reply => exact complete_accounted accounted index reply

theorem initial_accounted (map : SubDeviceMap) : Accounted map (World.initial map) := by
  refine ⟨rfl, rfl, ?_, ?_, ?_⟩
  · intro ticket bound
    exact absurd bound (Nat.not_lt_zero ticket)
  · intro ticket _
    exact ⟨rfl, fun request member => by cases member⟩
  · intro ticket request member
    cases member

/-- A call to all of no sub devices is never completed. -/
theorem step_unserved (accounted : Accounted map world) {input : Input}
    (unanswerable : ¬ Answerable map input) :
    ¬ ∀ ticket request, Event.submitted ticket request ∈ (world.step input).log →
      Served map request ((world.step input).account ticket) := by
  intro served
  cases input with
  | proceed | complete => exact unanswerable trivial
  | sendRDMRequest request =>
    obtain ⟨way, none⟩ := Classical.not_imp.mp unanswerable
    have empty := not_not.mp none
    have sent : world.step (.sendRDMRequest request) = _ :=
      (if_neg (by rw [accounted.sound]; nofun)).trans
        (sendRDMRequest_all (by rw [accounted.subdevices, way]))
    rw [sent] at served
    have unused := (accounted.fresh world.tickets (Nat.le_refl _)).1
    simp only [account, Account.mk.injEq] at unused
    obtain ⟨waiting, unsent, answers, runs, -⟩ := unused
    rcases (served world.tickets request (by simp)).all way with ⟨-, some⟩ |
      ⟨first, rest, some, -⟩
    · apply some
      simp [account, waiting, unsent, accounted.subdevices, empty]
    · simp [account, filterMap_cons, answers] at some

end Steps

end World

open World

/-- Every call is completed once, by its own sub device or by the last one of all with the first
answer, exactly if no call goes to all of no sub devices. -/
theorem completes_once_iff (map : SubDeviceMap) (inputs : List Input) :
    (∀ count, let world := run step (World.initial map) (inputs.take count)
      world.fault = false ∧ ∀ ticket request, Event.submitted ticket request ∈ world.log →
        Served map request (world.account ticket)) ↔
      Permitted step (fun _ input => Answerable map input) (World.initial map) inputs := by
  apply @always_iff_permitted World Input step (fun _ input => Answerable map input)
    (Accounted map)
    (fun world => world.fault = false ∧ ∀ ticket request,
      Event.submitted ticket request ∈ world.log → Served map request (world.account ticket))
  · intro world accounted
    exact ⟨accounted.sound, fun ticket request member =>
      (accounted.kept ticket request member).served⟩
  · intro world input accounted answerable
    exact step_accounted accounted input answerable
  · intro world input accounted unanswerable goal
    exact step_unserved accounted unanswerable goal.2
  · exact initial_accounted map

def exampleSet : Command := ⟨⟨1, 2⟩, ⟨3, 4⟩, 0, 1, 0, allRdmSubdevices, .setCommand, 0x60, [7]⟩

/-- A SET for all sub devices of which there are none. -/
theorem empty_never_completes :
    let world := run step (World.initial .empty) [.sendRDMRequest exampleSet, .proceed]
    world.outstanding = [] ∧ world.frames = [] ∧ Event.submitted 0 exampleSet ∈ world.log ∧
      (world.account 0).runs = [] := by
  decide

end OpenLighting.SubDeviceDispatcher

import OpenLighting.E131Tracking

namespace OpenLighting.E131

open TransitionSystem FiniteMap List

variable {Cid : Type}

/-- The difference of two wrapped counters that are less than half of the numbers apart. -/
theorem sub_toInt8_toInt (received last : Nat) (near : last ≤ received + 128)
    (ahead : received ≤ last + 127) :
    (UInt8.ofNat received - UInt8.ofNat last).toInt8.toInt = (received : Int) - last := by
  have wrapped : (UInt8.ofNat received - UInt8.ofNat last).toNat =
      (256 - last % 256 + received % 256) % 256 := by
    rw [UInt8.toNat_sub, UInt8.toNat_ofNat', UInt8.toNat_ofNat']
  have signed : (UInt8.ofNat received - UInt8.ofNat last).toInt8.toInt =
      ((UInt8.ofNat received - UInt8.ofNat last).toNat : Int).bmod 256 := by
    rw [UInt8.toInt8, Int8.toInt, Int8.toBitVec, BitVec.toInt_eq_toNat_bmod]
    rfl
  rw [signed, wrapped, Int.bmod_def]
  split <;> omega

/-- Inside the window a sequence number is old exactly when its counter is not larger. -/
theorem oldSequence_iff (received last : Nat) (near : last < received + 20)
    (ahead : received ≤ last + 127) :
    oldSequence (UInt8.ofNat received) (UInt8.ofNat last) = decide (received ≤ last) := by
  rw [oldSequence, sub_toInt8_toInt received last (by omega) ahead]
  refine decide_eq_decide.mpr ?_
  rw [show sequenceDiffThreshold = -20 from rfl]
  omega

/-- A source, and the packets that it sends to a universe, by their counters. -/
structure Stream (Cid : Type) where
  cid : Cid
  universeId : Nat
  priority : UInt8
  packet : Nat → DMPMessage Cid
  own : ∀ counter, (packet counter).cid = cid
  addressed : ∀ counter, (packet counter).header.universeId.toNat = universeId
  numbered : ∀ counter, (packet counter).header.sequence = UInt8.ofNat counter
  level : ∀ counter, (packet counter).header.priority = priority
  goesOn : ∀ counter, (packet counter).header.streamTerminated = false

/-- The source of a stream is tracked at its priority, and has the data of one of its packets. -/
structure Holding (ignorePreview : Bool) (stream : Stream Cid) (handler : UniverseHandler Cid)
    (counter : Nat) : Prop where
  level : handler.activePriority = stream.priority
  held : ∃ source ∈ handler.sources, source.cid = stream.cid ∧
    source.sequence = UInt8.ofNat counter ∧
    ∃ slots, (stream.packet counter).slots ignorePreview = some slots ∧
      source.buffer = .holding slots

/-- A merge leaves the sources as they are. -/
theorem Holding.merge {ignorePreview : Bool} {stream : Stream Cid} {handler : UniverseHandler Cid}
    {counter : Nat} (holding : Holding ignorePreview stream handler counter) :
    Holding ignorePreview stream handler.merge counter := by
  refine ⟨?_, ?_⟩
  · rw [merge_activePriority]
    exact holding.level
  · rw [merge_sources]
    exact holding.held

section Beside
variable {handler : UniverseHandler Cid} {now : Int} {header : E131Header}
  {front back : List (DmxSource Cid)} {source mine : DmxSource Cid}

/-- A new packet at the active priority goes to its source. -/
theorem trackKnown_level {index : Nat}
    (new : oldSequence header.sequence source.sequence = false)
    (goes : header.streamTerminated = false) (level : header.priority = handler.activePriority) :
    trackKnown handler now header index source =
      ({ handler with
        sources := handler.sources.set index
          { source with sequence := header.sequence, lastHeardFrom := now } }, .fill index) := by
  have steady : ¬ handler.activePriority < handler.activePriority := UInt8.lt_irrefl _
  rw [trackKnown, if_neg (by rw [new]; exact Bool.false_ne_true),
    if_neg (by rw [goes]; exact Bool.false_ne_true), level, if_neg steady, if_neg steady]

/-- A source stays as it is, with the priority, whatever data the packet has. -/
structure Keeps (mine : DmxSource Cid) (handler : UniverseHandler Cid)
    (result : UniverseHandler Cid × Verdict) : Prop where
  stays : mine ∈ result.1.sources
  level : result.1.activePriority = handler.activePriority
  apart : ∀ index slots, result.2 = .fill index → mine ∈ (result.1.fill index slots).sources

/-- Data for one source does not reach those beside it. -/
theorem keeps_fill (beside : mine ∈ front ++ back) (fresh : DmxSource Cid) {after : UniverseHandler Cid}
    (shape : after.sources = front ++ fresh :: back)
    (level : after.activePriority = handler.activePriority) :
    Keeps mine handler (after, .fill front.length) := by
  have among : ∀ other : DmxSource Cid, mine ∈ front ++ other :: back := by
    intro other
    cases mem_append.mp beside with
    | inl early => exact mem_append_left _ early
    | inr late => exact mem_append_right front (mem_cons_of_mem other late)
  refine ⟨by rw [shape]; exact among fresh, level, fun index slots same => ?_⟩
  cases same
  rw [fill_sources shape]
  exact among _

theorem keeps_trackNew (member : mine ∈ handler.sources)
    (level : ¬ handler.activePriority < header.priority) (cid : Cid) :
    Keeps mine handler (trackNew handler now cid header) := by
  have same : Keeps mine handler (handler, .ignore) :=
    ⟨member, rfl, fun _ _ fills => by cases fills⟩
  rw [trackNew]
  split
  · exact same
  · dsimp only
    split
    · exact same
    · exact keeps_fill (by rw [append_nil]; exact member) _ rfl rfl

theorem keeps_trackKnown (shape : handler.sources = front ++ source :: back)
    (beside : mine ∈ front ++ back) (level : ¬ handler.activePriority < header.priority) :
    Keeps mine handler (trackKnown handler now header front.length source) := by
  have several : ¬ handler.sources.length = 1 := by
    intro one
    rw [alone_of_length shape one] at beside
    cases beside
  have erased : mine ∈ handler.sources.eraseIdx front.length := by
    rw [eraseIdx_split shape]
    exact beside
  rw [trackKnown]
  split
  · refine ⟨?_, rfl, fun _ _ fills => by cases fills⟩
    cases mem_append.mp beside with
    | inl early => exact shape ▸ mem_append_left _ early
    | inr late => exact shape ▸ mem_append_right front (mem_cons_of_mem source late)
  · split
    · refine ⟨erased, if_neg ?_, fun _ _ fills => by cases fills⟩
      rw [List.isEmpty_iff]
      exact List.ne_nil_of_mem erased
    · split
      · exact ⟨erased, rfl, fun _ _ fills => by cases fills⟩
      · exact keeps_fill beside _ (set_split shape _) rfl

end Beside

section Packets
variable [DecidableEq Cid] {ignorePreview : Bool} {handler : UniverseHandler Cid} {now : Int}
  {message : DMPMessage Cid} {stream : Stream Cid} {counter : Nat}

/-- The source of a packet is not tracked, or is at one place. -/
theorem track_cases (handler : UniverseHandler Cid) (now : Int) (cid : Cid) (header : E131Header) :
    (∀ source ∈ (handler.expire now cid).sources, source.cid ≠ cid) ∧
        trackSourceIfRequired handler now cid header =
          trackNew (handler.expire now cid) now cid header ∨
      ∃ front source back, (handler.expire now cid).sources = front ++ source :: back ∧
        source.cid = cid ∧
        trackSourceIfRequired handler now cid header =
          trackKnown (handler.expire now cid) now header front.length source := by
  rw [trackSourceIfRequired]
  cases found : (handler.expire now cid).sources.findIdx?
      (fun source => decide (source.cid = cid)) with
  | none =>
    left
    refine ⟨fun source member same => ?_, rfl⟩
    have missing := List.findIdx?_eq_none_iff.mp found source member
    rw [decide_eq_false_iff_not] at missing
    exact missing same
  | some index =>
    right
    have ⟨less, here, _⟩ := List.findIdx?_eq_some_iff_getElem.mp found
    have split := take_append_drop index (handler.expire now cid).sources
    rw [drop_eq_getElem_cons less] at split
    have front : ((handler.expire now cid).sources.take index).length = index := by
      rw [length_take]
      omega
    refine ⟨_, _, _, split.symm, of_decide_eq_true here, ?_⟩
    simp only [List.getElem?_eq_getElem less, front]

/-- What is done with a packet that reaches `TrackSourceIfRequired`. -/
theorem handle_of_slots {slots : List UInt8} (found : message.slots ignorePreview = some slots) :
    ∃ code : Int, (message.header.streamTerminated = false → code = 0) ∧
      handler.handle ignorePreview now message =
        let (tracked, verdict) := trackSourceIfRequired handler now message.cid message.header
        match verdict with
        | .ignore => tracked
        | .merge => tracked.merge
        | .fill index => if code = 0 then (tracked.fill index slots).merge else tracked.merge := by
  rw [DMPMessage.slots] at found
  rw [UniverseHandler.handle]
  cases known : message.payload ignorePreview with
  | none => simp only [known, reduceCtorEq] at found
  | some pair =>
    simp only [known] at found
    split at found
    · cases found
    · rename_i goes
      refine ⟨startCode message.header pair.1 pair.2, fun whole => ?_, ?_⟩
      · by_contra other
        exact goes ⟨other, whole⟩
      · rw [← Option.some.inj found]
        dsimp only
        rw [UniverseHandler.receive]
        exact if_neg goes

/-- A packet that does not reach it changes nothing. -/
theorem handle_of_no_slots (none : message.slots ignorePreview = none) :
    handler.handle ignorePreview now message = handler := by
  rw [DMPMessage.slots] at none
  rw [UniverseHandler.handle]
  cases known : message.payload ignorePreview with
  | none => rfl
  | some pair =>
    simp only [known] at none
    split at none
    · rename_i skipped
      dsimp only
      exact if_pos skipped
    · cases none

/-- A source that does not expire stays, and so does the priority. -/
theorem expire_keeps {source : DmxSource Cid} {cid : Cid} (member : source ∈ handler.sources)
    (fresh : source.cid = cid ∨ now ≤ source.lastHeardFrom + expiryInterval) :
    source ∈ (handler.expire now cid).sources ∧
      (handler.expire now cid).activePriority = handler.activePriority := by
  have kept : source ∈ unexpired now cid handler.sources :=
    mem_filter.mpr ⟨member, decide_eq_true fresh⟩
  refine ⟨kept, ?_⟩
  rw [UniverseHandler.expire]
  rw [if_neg]
  rw [List.isEmpty_iff]
  exact List.ne_nil_of_mem kept

/-- A packet of the source itself: its data is taken when its counter is larger. -/
theorem Holding.ownPacket (holding : Holding ignorePreview stream handler counter)
    (orderly : handler.Orderly) (now : Int) (received : Nat) {slots : List UInt8}
    (found : (stream.packet received).slots ignorePreview = some slots)
    (near : counter < received + 20) (ahead : received ≤ counter + 127) :
    Holding ignorePreview stream (handler.handle ignorePreview now (stream.packet received))
      (max counter received) := by
  have ⟨source, member, here, sequence, data⟩ := holding.held
  have ⟨code, zero, handled⟩ := @handle_of_slots _ _ ignorePreview handler now _ _ found
  have ⟨kept, level⟩ := @expire_keeps _ _ handler now source stream.cid member (.inl here)
  have ready := orderly.expire now stream.cid
  rw [stream.own] at handled
  cases track_cases handler now stream.cid (stream.packet received).header with
  | inl unknown => exact absurd here (unknown.1 source kept)
  | inr known =>
    have ⟨front, other, back, shape, same, tracked⟩ := known
    have there : other ∈ (handler.expire now stream.cid).sources := by
      rw [shape]
      exact mem_append_right front mem_cons_self
    have one : other = source :=
      inj_on_of_nodup_map ready.distinct there kept (same.trans here.symm)
    by_cases old : received ≤ counter
    · have stale : oldSequence (stream.packet received).header.sequence other.sequence = true := by
        rw [one, stream.numbered, sequence, oldSequence_iff received counter near ahead]
        exact decide_eq_true old
      rw [tracked, trackKnown, if_pos stale] at handled
      rw [handled, Nat.max_eq_left old]
      exact ⟨level.trans holding.level, source, kept, here, sequence, data⟩
    · have equal : (stream.packet received).header.priority =
          (handler.expire now stream.cid).activePriority := by
        rw [stream.level, level, holding.level]
      have new : oldSequence (stream.packet received).header.sequence source.sequence = false := by
        rw [stream.numbered, sequence, oldSequence_iff received counter near ahead]
        exact decide_eq_false old
      have refilled := set_split shape
        { source with sequence := (stream.packet received).header.sequence, lastHeardFrom := now }
      rw [one] at tracked
      rw [tracked, trackKnown_level new (stream.goesOn received) equal] at handled
      dsimp only at handled
      rw [if_pos (zero (stream.goesOn received)), fill_sources refilled] at handled
      rw [handled, Nat.max_eq_right (by omega)]
      refine Holding.merge ⟨level.trans holding.level, _,
        mem_append_right front mem_cons_self, here, stream.numbered received, slots,
        found, rfl⟩

/-- A packet of another source, while the one of the stream does not expire. -/
theorem Holding.otherPacket (holding : Holding ignorePreview stream handler counter)
    (other : message.cid ≠ stream.cid) (lower : ¬ stream.priority < message.header.priority)
    (fresh : ∀ source ∈ handler.sources, source.cid = stream.cid →
      now ≤ source.lastHeardFrom + expiryInterval) :
    Holding ignorePreview stream (handler.handle ignorePreview now message) counter := by
  cases found : message.slots ignorePreview with
  | none =>
    rw [handle_of_no_slots found]
    exact holding
  | some slots =>
    have ⟨mine, member, here, data⟩ := holding.held
    have ⟨code, _, handled⟩ := @handle_of_slots _ _ ignorePreview handler now _ _ found
    have ⟨kept, level⟩ := @expire_keeps _ _ handler now mine message.cid member
      (.inr (fresh mine member here))
    have below : ¬ (handler.expire now message.cid).activePriority < message.header.priority := by
      rw [level, holding.level]
      exact lower
    have keeps : Keeps mine (handler.expire now message.cid)
        (trackSourceIfRequired handler now message.cid message.header) := by
      cases track_cases handler now message.cid message.header with
      | inl unknown =>
        rw [unknown.2]
        exact keeps_trackNew kept below message.cid
      | inr known =>
        have ⟨front, source, back, shape, same, tracked⟩ := known
        rw [tracked]
        refine keeps_trackKnown shape (mem_beside (shape ▸ kept) ?_) below
        intro equal
        rw [← equal, here] at same
        exact other same.symm
    generalize trackSourceIfRequired handler now message.cid message.header = result
      at keeps handled
    have ⟨tracked, verdict⟩ := result
    have steady : tracked.activePriority = stream.priority :=
      (keeps.level.trans level).trans holding.level
    have held : Holding ignorePreview stream tracked counter :=
      ⟨steady, mine, keeps.stays, here, data⟩
    rw [handled]
    cases verdict with
    | ignore => exact held
    | merge => exact held.merge
    | fill index =>
      dsimp only
      split
      · exact Holding.merge ⟨steady, mine, keeps.apart index slots rfl, here, data⟩
      · exact held.merge

/-- Where the data of a packet goes, its source has the sequence number of the packet, and its
priority is the active one. -/
theorem track_fills {cid : Cid} {header : E131Header} {tracked : UniverseHandler Cid} {index : Nat}
    (fills : trackSourceIfRequired handler now cid header = (tracked, .fill index)) :
    tracked.activePriority = header.priority ∧
      ∃ front source back, tracked.sources = front ++ source :: back ∧ front.length = index ∧
        source.cid = cid ∧ source.sequence = header.sequence := by
  cases track_cases handler now cid header with
  | inl unknown =>
    rw [unknown.2, trackNew] at fills
    split at fills
    · cases fills
    · rename_i neither
      have above : ¬ header.priority < (handler.expire now cid).activePriority :=
        fun lower => neither (.inr lower)
      dsimp only at fills
      split at fills
      · split at fills
        · cases fills
        · cases fills
          exact ⟨rfl, [], _, [], rfl, rfl, rfl, rfl⟩
      · rename_i level
        split at fills
        · cases fills
        · cases fills
          exact ⟨UInt8.le_antisymm (UInt8.not_lt.mp above) (UInt8.not_lt.mp level), _, _, [], rfl,
            rfl, rfl, rfl⟩
  | inr known =>
    have ⟨front, source, back, shape, same, tracks⟩ := known
    have refilled := set_split shape
      { source with sequence := header.sequence, lastHeardFrom := now }
    rw [tracks, trackKnown] at fills
    split at fills
    · cases fills
    · split at fills
      · cases fills
      · split at fills
        · split at fills
          · cases fills
            exact ⟨rfl, front, _, back, refilled, rfl, same, rfl⟩
          · cases fills
        · rename_i above
          split at fills
          · split at fills
            · cases fills
              exact ⟨rfl, front, _, back, refilled, rfl, same, rfl⟩
            · cases fills
              exact ⟨rfl, [], _, [], rfl, rfl, same, rfl⟩
          · rename_i below
            cases fills
            exact ⟨UInt8.le_antisymm (UInt8.not_lt.mp above) (UInt8.not_lt.mp below), front, _,
              back, refilled, rfl, same, rfl⟩

theorem holding_accepted (stream : Stream Cid)
    (accepted : accepts ignorePreview handler now (stream.packet counter) = true) :
    Holding ignorePreview stream (handler.handle ignorePreview now (stream.packet counter))
      counter := by
  have ⟨present, takes⟩ := Bool.and_eq_true_iff.mp accepted
  have ⟨slots, found⟩ := Option.isSome_iff_exists.mp present
  have ⟨code, zero, handled⟩ := @handle_of_slots _ _ ignorePreview handler now _ _ found
  generalize tracks : trackSourceIfRequired handler now (stream.packet counter).cid
    (stream.packet counter).header = result at takes handled
  have ⟨tracked, verdict⟩ := result
  cases verdict with
  | ignore | merge => cases takes
  | fill index =>
    have ⟨level, front, source, back, shape, place, same, sequence⟩ := track_fills tracks
    rw [handled]
    dsimp only
    rw [if_pos (zero (stream.goesOn counter)), ← place, fill_sources shape]
    refine Holding.merge ⟨level.trans (stream.level counter), _,
      mem_append_right front mem_cons_self, same.trans (stream.own counter),
      sequence.trans (stream.numbered counter), slots, found, rfl⟩

end Packets

/-- A packet of the stream arrives, or something else happens to the inflator. -/
inductive Arrival (Cid : Type) where
  | own (now : Int) (counter : Nat)
  | other (event : Event Cid)

namespace Stream
variable [DecidableEq Cid] {ignorePreview : Bool} {stream : Stream Cid} {watched : Watched Cid}
  {counter : Nat}

def event (stream : Stream Cid) : Arrival Cid → Event Cid
  | .own now received => .packet now (stream.packet received)
  | .other event => event

/-- The largest counter that was received, of the packets with data. -/
def largest (ignorePreview : Bool) (stream : Stream Cid) (counter : Nat) : Arrival Cid → Nat
  | .own _ received =>
    if ((stream.packet received).slots ignorePreview).isSome then max counter received
    else counter
  | .other _ => counter

/-- An inflator, with the largest counter that was received from a source. -/
def arrive (ignorePreview : Bool) (stream : Stream Cid) (state : Watched Cid × Nat)
    (arrival : Arrival Cid) : Watched Cid × Nat :=
  (state.1.step (stream.event arrival), stream.largest ignorePreview state.2 arrival)

/-- A packet of the stream is in the window. Any other source has another CID and no higher
priority, that of the stream does not expire, and its handler is not removed. -/
def Expected (ignorePreview : Bool) (stream : Stream Cid) (state : Watched Cid × Nat) :
    Arrival Cid → Prop
  | .own _ received => ((stream.packet received).slots ignorePreview).isSome = true →
      state.2 < received + 20 ∧ received ≤ state.2 + 127
  | .other (.packet now message) => message.header.universeId.toNat = stream.universeId →
      message.cid ≠ stream.cid ∧ ¬ stream.priority < message.header.priority ∧
        ∀ handler, state.1.inflator.handlers.lookup stream.universeId = some handler →
          ∀ source ∈ handler.sources, source.cid = stream.cid →
            now ≤ source.lastHeardFrom + expiryInterval
  | .other (.setHandler _ _ _) => True
  | .other (.removeHandler universeId) => universeId ≠ stream.universeId

/-- The source of the stream is tracked for its universe, with the data of this counter. -/
structure Tracking (ignorePreview : Bool) (stream : Stream Cid) (watched : Watched Cid)
    (counter : Nat) : Prop where
  tracked : watched.AllTracked
  preview : watched.inflator.ignorePreview = ignorePreview
  held : ∃ handler, watched.inflator.handlers.lookup stream.universeId = some handler ∧
    Holding ignorePreview stream handler counter

/-- A packet changes the handler of its universe and no other. -/
theorem lookup_packet {now : Int} {message : DMPMessage Cid} {universeId : Nat}
    {handler : UniverseHandler Cid}
    (found : watched.inflator.handlers.lookup universeId = some handler) :
    (watched.step (.packet now message)).inflator.handlers.lookup universeId =
      some (if message.header.universeId.toNat = universeId then
        handler.handle watched.inflator.ignorePreview now message else handler) := by
  cases known : watched.inflator.handlers.lookup message.header.universeId.toNat with
  | none =>
    simp only [Watched.step, known, DMPE131Inflator.handlePDUData]
    rw [if_neg (fun same => by rw [same, found] at known; cases known), found]
  | some before =>
    simp only [Watched.step, known, DMPE131Inflator.handlePDUData]
    rw [lookup_insert_eq]
    by_cases same : universeId = message.header.universeId.toNat
    · rw [if_pos same, if_pos same.symm]
      rw [← same, found] at known
      rw [Option.some.inj known]
    · rw [if_neg same, if_neg (Ne.symm same), found]

/-- Every arrival in the window keeps the data of the largest counter. -/
theorem Tracking.arrive (tracking : Tracking ignorePreview stream watched counter)
    (arrival : Arrival Cid) (expected : Expected ignorePreview stream (watched, counter) arrival) :
    Tracking ignorePreview stream (watched.step (stream.event arrival))
      (stream.largest ignorePreview counter arrival) := by
  have ⟨handler, known, holding⟩ := tracking.held
  have orderly := (tracking.tracked stream.universeId handler known).orderly
  refine ⟨tracking.tracked.step _, (Watched.step_ignorePreview _ _).trans tracking.preview, ?_⟩
  cases arrival with
  | own now received =>
    have found := @lookup_packet _ _ watched now (stream.packet received) _ _ known
    rw [if_pos (stream.addressed received), tracking.preview] at found
    refine ⟨_, found, ?_⟩
    rw [largest]
    cases data : (stream.packet received).slots ignorePreview with
    | none =>
      rw [handle_of_no_slots data]
      exact holding
    | some slots =>
      have ⟨near, ahead⟩ := expected (by rw [data]; rfl)
      exact holding.ownPacket orderly now received data near ahead
  | other event =>
    cases event with
    | packet now message =>
      have found := @lookup_packet _ _ watched now message _ _ known
      refine ⟨_, found, ?_⟩
      split
      · rename_i here
        have ⟨apart, lower, fresh⟩ := expected here
        rw [tracking.preview]
        exact holding.otherPacket apart lower (fresh handler known)
      · exact holding
    | setHandler universeId buffer priority =>
      change ∃ after, (watched.inflator.setHandler universeId buffer priority).handlers.lookup
        stream.universeId = some after ∧ Holding ignorePreview stream after counter
      rw [DMPE131Inflator.setHandler]
      rw [lookup_insert_eq]
      by_cases same : stream.universeId = universeId
      · rw [if_pos same, ← same, known]
        exact ⟨_, rfl, holding.level, holding.held⟩
      · rw [if_neg same]
        exact ⟨handler, known, holding⟩
    | removeHandler universeId =>
      have found : (watched.inflator.handlers.erase universeId).lookup stream.universeId =
          some handler := by
        rw [lookup_erase_eq, if_neg (Ne.symm expected)]
        exact known
      exact ⟨handler, found, holding⟩

theorem preview_run (watched : Watched Cid) (events : List (Event Cid)) :
    (run Watched.step watched events).inflator.ignorePreview = watched.inflator.ignorePreview :=
  @run_invariant _ _ Watched.step (fun _ _ => True)
    (fun state => state.inflator.ignorePreview = watched.inflator.ignorePreview)
    (fun state event same _ => (state.step_ignorePreview event).trans same) _ _ rfl
    (permitted_true _ _ _)

/-- Whatever has happened before, once a packet of a source is accepted its data is followed: in
every order in which the packets arrive inside the window, with duplicates and those of others
between them, the source has the data of the packet with the largest counter. -/
theorem holds_largest (ignorePreview : Bool) (stream : Stream Cid) (past : List (Event Cid))
    (now : Int) (first : Nat) (handler : UniverseHandler Cid)
    (known : (run Watched.step (Watched.initial ignorePreview) past).inflator.handlers.lookup
      stream.universeId = some handler)
    (accepted : accepts ignorePreview handler now (stream.packet first) = true)
    (arrivals : List (Arrival Cid))
    (expected : Permitted (arrive ignorePreview stream) (Expected ignorePreview stream)
      ((run Watched.step (Watched.initial ignorePreview) past).step
        (.packet now (stream.packet first)), first) arrivals) :
    let after := run (arrive ignorePreview stream)
      ((run Watched.step (Watched.initial ignorePreview) past).step
        (.packet now (stream.packet first)), first) arrivals
    ∃ handler, after.1.inflator.handlers.lookup stream.universeId = some handler ∧
      Holding ignorePreview stream handler after.2 := by
  have tracked := @Watched.allTracked_run Cid _ ignorePreview past
  have preview := preview_run (Watched.initial ignorePreview : Watched Cid) past
  generalize run Watched.step (Watched.initial ignorePreview) past = watched
    at known expected tracked preview ⊢
  have found := @lookup_packet _ _ watched now (stream.packet first) _ _ known
  rw [if_pos (stream.addressed first), preview] at found
  have start : Tracking ignorePreview stream (watched.step (.packet now (stream.packet first)))
      first :=
    ⟨tracked.step _, (Watched.step_ignorePreview _ _).trans preview, _, found,
      holding_accepted stream accepted⟩
  exact (@run_invariant _ _ (arrive ignorePreview stream) (Expected ignorePreview stream)
    (fun state => Tracking ignorePreview stream state.1 state.2)
    (fun _ arrival tracking permitted => tracking.arrive arrival permitted) _ _ start
    expected).held

/-- A source that counts its packets, each with its counter in a slot. -/
def counted : Stream Nat where
  cid := 7
  universeId := 1
  priority := 100
  packet counter := oneSlot 7 (.ofNat counter) (.ofNat counter)
  own _ := rfl
  addressed _ := rfl
  numbered _ := rfl
  level _ := rfl
  goesOn _ := rfl

/-- Packets that arrive late and twice, while the sequence numbers wrap. -/
theorem counted_in_order :
    let after := run (arrive true counted)
      ((run Watched.step (Watched.initial true) [.setHandler 1 .new none]).step
        (.packet 0 (counted.packet 250)), 250)
      [.own 1 257, .own 2 255, .other (.setHandler 2 .new none), .own 3 257, .own 4 384, .own 5 370]
    after.2 = 384 ∧ ∃ handler, after.1.inflator.handlers.lookup 1 = some handler ∧
      Holding true counted handler 384 :=
  ⟨by decide +kernel, holds_largest true counted [.setHandler 1 .new none] 0 250 _ rfl
    (by decide +kernel) [.own 1 257, .own 2 255, .other (.setHandler 2 .new none), .own 3 257,
      .own 4 384, .own 5 370]
    ⟨fun _ => by decide +kernel, fun _ => by decide +kernel, trivial, fun _ => by decide +kernel,
      fun _ => by decide +kernel, fun _ => by decide +kernel, trivial⟩⟩

end Stream

end OpenLighting.E131

import Yijian.IoLists
import Yijian.Server

/-!
# Idle Connections

`ping_append` and `ping_move2back` put a connection at the back of the ping list with the
time of the clock, and the timer takes connections off its front until it meets one that is
not overdue. So it takes off all that are, and no other, as long as the list is sorted by
`ping_time`; that it is follows from a clock that does not go back.

The runs are those of ordinary connections, which send no frame of a peer server.

## Convention

The clock is `UInt64`, as the source has it, and `now - ping_time` is unsigned: a time in the future
would make it wrap to a large number. That it does not is part of the result and follows from the
clock. The timer looks at the front of the list only, and stops at the first fresh connection. A
connection is moved to the back by the write callback, when an answer has been written,
and by nothing that it sends, although the read callback has a comment that says so. Two connections
with the same time keep their order.

## Main results

* `pingtimeLoop_eq`: over a sorted list, stopping at the first fresh connection is
  filtering.
* `idle_expiry`: every state of a run is sorted, and the timer removes exactly the overdue
  connections.
* `values_pingErase`, `values_pingMove2back`: without its nodes, the list is the ping list of
  `Server`.
-/

namespace Yijian.IoLists

variable {ι : Type} [DecidableEq ι]

/-! ### What a run tells about a connection -/

/-- The events of ordinary connections. -/
def Event.Ordinary : Event ι → Prop
  | .serverConnect _ => False
  | .serverDisconnect _ => False
  | .accept _ _ => True
  | .readError _ => True
  | .write _ _ _ _ _ => True
  | .pingtime _ => True
  | .foreachBegin => True
  | .foreachNext _ => True

/-- What `ping_time()` reads in an event. -/
def Event.reading : Event ι → Option UInt64
  | .accept _ now => some now
  | .write _ now _ _ _ => some now
  | .pingtime now => some now
  | _ => none

/-- The connection that an event accepts. -/
def Event.accepts : Event ι → Option ι
  | .accept io _ => some io
  | _ => none

/-- The time at which an event appends the connection or moves it to the back. -/
def Event.touches (io : ι) : Event ι → Option UInt64
  | .accept io' now => if io' = io then some now else none
  | .write io' now _ _ _ => if io' = io then some now else none
  | _ => none

/-- The readings of the clock in a run. -/
def readings (es : List (Event ι)) : List UInt64 := es.filterMap Event.reading

/-- When the connection was appended or moved to the back last. -/
def lastTouch (es : List (Event ι)) (io : ι) : Option UInt64 :=
  es.foldl (fun last e => (e.touches io).or last) none

/-- The last append or move was more than `PINGPONGTIMEOUT` seconds before `now`. -/
def overdue (es : List (Event ι)) (now : UInt64) (io : ι) : Bool :=
  match lastTouch es io with
  | some t => t.toNat + pingpongtimeout.toNat < now.toNat
  | none => false

/-- Runs of ordinary connections, each accepted once, over a clock that does not go back. -/
structure Orderly (es : List (Event ι)) : Prop where
  ordinary : ∀ e ∈ es, e.Ordinary
  accepted_once : (es.filterMap Event.accepts).Nodup
  clock : (readings es).Pairwise (· ≤ ·)

/-- The timer at `now` takes exactly the overdue connections off the list and takes their
handles from them, and leaves the others in order; no time is ahead of the clock. -/
structure ExpiresExactly (es : List (Event ι)) (s : IoLists ι) (now : UInt64) : Prop where
  pinglist : (s.pingtimeCallback now).pinglist =
    s.pinglist.filter fun p => !overdue es now p.2
  iterSp : ∀ io, (s.pingtimeCallback now).iterSp io =
    if io ∈ s.pinglist.values ∧ overdue es now io = true then none else s.iterSp io
  no_wrap : ∀ io ∈ s.pinglist.values,
    (now - s.pingTime io).toNat = now.toNat - (s.pingTime io).toNat ∧ s.pingTime io ≤ now

/-! ### The loop of the timer -/

/-- The subtraction of a time that is not ahead. -/
theorem pingpongtimeout_lt_sub {now t : UInt64} (h : t ≤ now) :
    now - t > pingpongtimeout ↔ t.toNat + pingpongtimeout.toNat < now.toNat := by
  rw [gt_iff_lt, UInt64.lt_iff_toNat_lt, UInt64.toNat_sub_of_le _ _ h]
  rw [UInt64.le_iff_toNat_le] at h
  omega

/-- **Over a sorted list**, stopping at the first fresh connection is filtering. -/
theorem pingtimeLoop_eq (now : UInt64) (l : NodeList ι) (s : IoLists ι)
    (hsorted : (l.values.map s.pingTime).Pairwise (· ≤ ·))
    (hle : ∀ io ∈ l.values, s.pingTime io ≤ now) :
    pingtimeLoop now l s =
      { s with
        pinglist := l.filter fun p => !decide (now - s.pingTime p.2 > pingpongtimeout)
        iterSp := fun io =>
          if io ∈ l.values ∧ now - s.pingTime io > pingpongtimeout then none
          else s.iterSp io } := by
  induction l generalizing s with
  | nil => simp [pingtimeLoop]
  | cons p rest ih =>
      obtain ⟨it, io⟩ := p
      rw [NodeList.values_cons, List.map_cons, List.pairwise_cons] at hsorted
      have hio : s.pingTime io ≤ now := hle io List.mem_cons_self
      have hrest : ∀ io' ∈ NodeList.values rest, s.pingTime io' ≤ now :=
        fun io' hmem => hle io' (List.mem_cons_of_mem _ hmem)
      rw [pingtimeLoop]
      split
      · rename_i hover
        rw [ih { s with iterSp := Function.update s.iterSp io none } hsorted.2 hrest]
        congr 1
        · rw [List.filter_cons_of_neg (by simp [hover])]
        · funext io'
          simp only [NodeList.values_cons, List.mem_cons]
          by_cases hio' : io' = io
          · subst hio'
            rw [Function.update_self, ite_self, if_pos ⟨Or.inl rfl, hover⟩]
          · rw [Function.update_of_ne hio']
            simp only [hio', false_or]
      · rename_i hfresh
        -- every later connection is at least as fresh
        have hall : ∀ io' ∈ NodeList.values ((it, io) :: rest),
            ¬ now - s.pingTime io' > pingpongtimeout := by
          intro io' hmem hover
          rcases List.mem_cons.mp hmem with rfl | hmem
          · exact hfresh hover
          · have hlater : s.pingTime io ≤ s.pingTime io' :=
              hsorted.1 _ (List.mem_map_of_mem hmem)
            rw [UInt64.le_iff_toNat_le] at hlater
            rw [pingpongtimeout_lt_sub (hrest io' hmem)] at hover
            rw [pingpongtimeout_lt_sub hio] at hfresh
            omega
        congr 1
        · refine (List.filter_eq_self.mpr fun p hp => ?_).symm
          simpa using hall p.2 (List.mem_map_of_mem hp)
        · funext io'
          rw [if_neg fun h => hall io' h.1 h.2]

/-! ### What every step preserves -/

/-- The list is sorted, and its times are those of the last append or move. -/
structure Stamped (last : ι → Option UInt64) (times : List UInt64) (s : IoLists ι) : Prop where
  sound : Sound s
  peers : s.peers = []
  touched : ∀ io ∈ s.pinglist.values, last io = some (s.pingTime io)
  sorted : (s.pinglist.values.map s.pingTime).Pairwise (· ≤ ·)
  read : ∀ io ∈ s.pinglist.values, s.pingTime io ∈ times

variable {last last' : ι → Option UInt64} {times : List UInt64} {s s' : IoLists ι}

omit [DecidableEq ι] in
/-- A ping list that loses connections keeps its stamps. -/
theorem Stamped.of_sublist (h : Stamped last times s) (hsound : Sound s') (hpeers : s'.peers = [])
    (hsub : s'.pinglist.Sublist s.pinglist) (htime : s'.pingTime = s.pingTime) :
    Stamped last times s' where
  sound := hsound
  peers := hpeers
  touched io hio := by
    rw [htime]
    exact h.touched io ((hsub.map Prod.snd).subset hio)
  sorted := by
    rw [htime]
    exact h.sorted.sublist ((hsub.map Prod.snd).map s.pingTime)
  read io hio := by
    rw [htime]
    exact h.read io ((hsub.map Prod.snd).subset hio)

omit [DecidableEq ι] in
/-- Connections that are taken out leave the stamps of the others. -/
theorem Stamped.trim (h : Stamped last times s) (htrims : Trims s s') : Stamped last times s' :=
  h.of_sublist htrims.sound (htrims.peers.trans h.peers) htrims.sublist htrims.pingTime

omit [DecidableEq ι] in
/-- What the run tells about connections that are not listed does not matter. -/
theorem Stamped.congr (h : Stamped last times s)
    (hlast : ∀ io ∈ s.pinglist.values, last' io = last io) (now : UInt64) :
    Stamped last' (times ++ [now]) s :=
  { h with
    touched := fun io hio => (hlast io hio).trans (h.touched io hio)
    read := fun io hio => List.mem_append_left _ (h.read io hio) }

/-- **`ping_append`** puts the latest time at the back. -/
theorem Stamped.pingAppend (h : Stamped last times s) {io : ι} (hnone : s.iterSp io = none)
    (hacc : io ∈ s.accepted) {now : UInt64} (hclock : ∀ t ∈ times, t ≤ now) :
    Stamped (Function.update last io (some now)) (times ++ [now]) (s.pingAppend io now) := by
  have hio : io ∉ s.pinglist.values := (h.sound.iterSp_eq_none.mp hnone).1
  have htime : ∀ io' ∈ s.pinglist.values, (s.pingAppend io now).pingTime io' = s.pingTime io' := by
    intro io' hmem
    refine Function.update_of_ne ?_ _ _
    rintro rfl
    exact hio hmem
  have hself : (s.pingAppend io now).pingTime io = now := Function.update_self _ _ _
  have hvalues : (s.pingAppend io now).pinglist.values = s.pinglist.values ++ [io] :=
    NodeList.values_insertEnd _ _ _
  refine ⟨h.sound.pingAppend hnone hacc now, h.peers, ?_, ?_, ?_⟩
  · intro io' hmem
    rw [hvalues, List.mem_append, List.mem_singleton] at hmem
    rcases hmem with hmem | rfl
    · have hne : io' ≠ io := by
        rintro rfl
        exact hio hmem
      rw [Function.update_of_ne hne, htime io' hmem]
      exact h.touched io' hmem
    · rw [Function.update_self, hself]
  · rw [hvalues, List.map_append, List.map_congr_left htime, List.map_singleton, hself,
      List.pairwise_append]
    refine ⟨h.sorted, List.pairwise_singleton _ _, fun t ht t' ht' => ?_⟩
    obtain ⟨io', hmem, rfl⟩ := List.mem_map.mp ht
    obtain rfl := List.mem_singleton.mp ht'
    exact hclock _ (h.read io' hmem)
  · intro io' hmem
    rw [hvalues, List.mem_append, List.mem_singleton] at hmem
    rcases hmem with hmem | rfl
    · rw [htime io' hmem]
      exact List.mem_append_left _ (h.read io' hmem)
    · rw [hself]
      exact List.mem_append_right _ List.mem_cons_self

/-- The last touch is that of the last event, if it is one. -/
theorem lastTouch_append (es : List (Event ι)) (e : Event ι) (io : ι) :
    lastTouch (es ++ [e]) io = (e.touches io).or (lastTouch es io) := by
  rw [lastTouch, List.foldl_append]
  rfl

omit [DecidableEq ι] in
/-- The readings of the clock, in their order. -/
theorem readings_append (es : List (Event ι)) (e : Event ι) :
    readings (es ++ [e]) = readings es ++ e.reading.toList := by
  rw [readings, List.filterMap_append]
  cases hread : e.reading <;> simp [readings, hread]

/-- What a run of ordinary connections leaves behind. -/
structure Idle (es : List (Event ι)) (s : IoLists ι) : Prop where
  stamped : Stamped (lastTouch es) (readings es) s
  accepted : ∀ io ∈ s.accepted, io ∈ es.filterMap Event.accepts

omit [DecidableEq ι] in
/-- What comes before the last event is orderly. -/
theorem Orderly.of_append {es : List (Event ι)} {e : Event ι} (h : Orderly (es ++ [e])) :
    Orderly es where
  ordinary e' he' := h.ordinary e' (List.mem_append_left _ he')
  accepted_once := by
    have haccepts := h.accepted_once
    rw [List.filterMap_append] at haccepts
    exact (List.nodup_append.mp haccepts).1
  clock := by
    have hclock := h.clock
    rw [readings_append] at hclock
    exact (List.pairwise_append.mp hclock).1

omit [DecidableEq ι] in
/-- The clock does not go back. -/
theorem Orderly.le_reading {es : List (Event ι)} {e : Event ι} (h : Orderly (es ++ [e]))
    {now : UInt64} (hread : e.reading = some now) : ∀ t ∈ readings es, t ≤ now := by
  have hclock := h.clock
  rw [readings_append, hread] at hclock
  exact fun t ht => (List.pairwise_append.mp hclock).2.2 t ht now List.mem_cons_self

/-- An event that touches one connection. -/
theorem lastTouch_eq_update {es : List (Event ι)} {e : Event ι} {io : ι} {now : UInt64}
    (h : ∀ io', e.touches io' = if io = io' then some now else none) :
    lastTouch (es ++ [e]) = Function.update (lastTouch es) io (some now) := by
  funext io'
  rw [lastTouch_append, h]
  by_cases hio : io = io'
  · rw [if_pos hio, ← hio, Function.update_self]
    rfl
  · rw [if_neg hio, Function.update_of_ne (Ne.symm hio)]
    rfl

/-- An event that touches no connection and reads no clock. -/
theorem Idle.quiet {es : List (Event ι)} {e : Event ι} (h : Idle es s) (hsound : Sound s')
    (hpeers : s'.peers = []) (hsub : s'.pinglist.Sublist s.pinglist)
    (htime : s'.pingTime = s.pingTime) (hacc : s'.accepted = s.accepted)
    (htouch : ∀ io, e.touches io = none) : Idle (es ++ [e]) s' where
  stamped := by
    have hlast : lastTouch (es ++ [e]) = lastTouch es := by
      funext io
      rw [lastTouch_append, htouch]
      rfl
    have hstamped := h.stamped.of_sublist hsound hpeers hsub htime
    rw [hlast, readings_append]
    exact { hstamped with read := fun io hio => List.mem_append_left _ (hstamped.read io hio) }
  accepted io hio := by
    rw [List.filterMap_append]
    exact List.mem_append_left _ (h.accepted io (hacc ▸ hio))

/-- An event that touches a connection which is not listed. -/
theorem Idle.touch_unlisted {es : List (Event ι)} {e : Event ι} (h : Idle es s)
    (htrims : Trims s s') {io : ι} {now : UInt64} (hio : io ∉ s'.pinglist.values)
    (htouch : ∀ io', e.touches io' = if io = io' then some now else none)
    (hread : e.reading = some now) : Idle (es ++ [e]) s' where
  stamped := by
    rw [lastTouch_eq_update htouch, readings_append, hread]
    refine (h.stamped.trim htrims).congr (fun io' hmem => Function.update_of_ne ?_ _ _) now
    rintro rfl
    exact hio hmem
  accepted io' hio' := by
    rw [List.filterMap_append]
    exact List.mem_append_left _ (h.accepted io' (htrims.accepted ▸ hio'))

/-- An event that appends a connection. -/
theorem Idle.touch_append {es : List (Event ι)} {e : Event ι} {io : ι} {now : UInt64}
    (h : Stamped (lastTouch es) (readings es) s) (hnone : s.iterSp io = none)
    (hacc : io ∈ s.accepted)
    (haccepts : ∀ io' ∈ s.accepted, io' ∈ (es ++ [e]).filterMap Event.accepts)
    (hclock : ∀ t ∈ readings es, t ≤ now)
    (htouch : ∀ io', e.touches io' = if io = io' then some now else none)
    (hread : e.reading = some now) : Idle (es ++ [e]) (s.pingAppend io now) where
  stamped := by
    rw [lastTouch_eq_update htouch, readings_append, hread]
    exact h.pingAppend hnone hacc hclock
  accepted := haccepts

/-- The timer keeps a sorted list sorted. -/
theorem Idle.pingtime {es : List (Event ι)} (h : Idle es s) {now : UInt64}
    (hclock : ∀ t ∈ readings es, t ≤ now) :
    Idle (es ++ [.pingtime now]) (s.pingtimeCallback now) := by
  have heq := pingtimeLoop_eq now s.pinglist s h.stamped.sorted
    fun io hio => hclock _ (h.stamped.read io hio)
  have hsound : Sound (pingtimeLoop now s.pinglist s) :=
    Sound.pingtimeLoop now s.pinglist h.stamped.sound
  rw [pingtimeCallback]
  rw [heq] at hsound ⊢
  exact h.quiet hsound h.stamped.peers List.filter_sublist rfl rfl fun _ => rfl

/-! #### One step -/

/-- No client is a peer. -/
theorem Idle.not_mem_peers {es : List (Event ι)} (h : Idle es s) (io : ι) :
    io ∉ s.peers.values := by
  rw [h.stamped.peers]
  exact fun hmem => by cases hmem

/-- What has not been accepted is not listed. -/
theorem Idle.not_mem_pinglist {es : List (Event ι)} (h : Idle es s) {io : ι}
    (hio : io ∉ s.accepted) : io ∉ s.pinglist.values := by
  intro hmem
  refine hio (h.stamped.sound.accepted io ?_)
  rw [NodeList.values_append]
  exact List.mem_append_left _ hmem

/-- What has been accepted stays so. -/
theorem Idle.accepted_append {es : List (Event ι)} (h : Idle es s) (e : Event ι) :
    ∀ io ∈ s.accepted, io ∈ (es ++ [e]).filterMap Event.accepts := by
  intro io hio
  rw [List.filterMap_append]
  exact List.mem_append_left _ (h.accepted io hio)

/-- **An accepted connection** is put at the end. -/
theorem Idle.accept {es : List (Event ι)} (h : Idle es s) {io : ι} {now : UInt64}
    (horderly : Orderly (es ++ [.accept io now])) :
    ∃ s', IoLists.step (some s) (.accept io now) = some s' ∧
      Idle (es ++ [.accept io now]) s' := by
  have hnew : io ∉ s.accepted := by
    have hnodup := horderly.accepted_once
    rw [List.filterMap_append, List.nodup_append] at hnodup
    exact fun hacc => hnodup.2.2 io (h.accepted io hacc) io List.mem_cons_self rfl
  have hnone : s.iterSp io = none :=
    h.stamped.sound.iterSp_eq_none.mpr ⟨h.not_mem_pinglist hnew, h.not_mem_peers io⟩
  have hadmit : Stamped (lastTouch es) (readings es) { s with accepted := io :: s.accepted } :=
    { h.stamped with
      sound := ⟨h.stamped.sound.indexes, fun io' hio' =>
        List.mem_cons_of_mem _ (h.stamped.sound.accepted io' hio')⟩ }
  refine ⟨_, by rw [IoLists.step, if_pos (by simpa [Event.enabled] using hnew)]; rfl, ?_⟩
  refine Idle.touch_append hadmit hnone List.mem_cons_self ?_ (horderly.le_reading rfl)
    (fun io' => rfl) rfl
  intro io' hio'
  rcases List.mem_cons.mp hio' with rfl | hio'
  · rw [List.filterMap_append]
    exact List.mem_append_right _ List.mem_cons_self
  · exact h.accepted_append _ io' hio'

/-- **A read error** takes the connection out. -/
theorem Idle.readError {es : List (Event ι)} (h : Idle es s) (io : ι) :
    ∃ s', IoLists.step (some s) (.readError io) = some s' ∧ Idle (es ++ [.readError io]) s' := by
  obtain ⟨s', heq, htrims, -⟩ := h.stamped.sound.pingErase (h.not_mem_peers io)
  by_cases hacc : io ∈ s.accepted
  · refine ⟨s', ?_, h.quiet htrims.sound (htrims.peers.trans h.stamped.peers) htrims.sublist
      htrims.pingTime htrims.accepted fun _ => rfl⟩
    rw [IoLists.step, if_pos (by simpa [Event.enabled] using hacc), IoLists.handle, heq]
    rfl
  · exact ⟨s, by rw [IoLists.step, if_neg (by simpa [Event.enabled] using hacc)],
      h.quiet h.stamped.sound h.stamped.peers (.refl _) rfl rfl fun _ => rfl⟩

/-- **A write** moves the connection to the end, if it is listed, and may take it out there. -/
theorem Idle.write {es : List (Event ι)} (h : Idle es s) {io : ι} {now : UInt64}
    {isDisconnectRes hasUuid throws : Bool}
    (horderly : Orderly (es ++ [.write io now isDisconnectRes hasUuid throws])) :
    ∃ s', IoLists.step (some s) (.write io now isDisconnectRes hasUuid throws) = some s' ∧
      Idle (es ++ [.write io now isDisconnectRes hasUuid throws]) s' := by
  have hsound := h.stamped.sound
  by_cases hacc : io ∈ s.accepted
  · obtain ⟨s₀, htrims₀, hnone, hmove⟩ := hsound.pingMove2back (h.not_mem_peers io) now
    obtain ⟨s₁, s', hmove', htrims, heq⟩ := hsound.connectionWriteCallback (h.not_mem_peers io)
      hacc now isDisconnectRes hasUuid throws
    obtain rfl : _ = s₁ := Option.some.inj (hmove.symm.trans hmove')
    refine ⟨s', ?_, ?_⟩
    · rw [IoLists.step, if_pos (by simpa [Event.enabled] using hacc)]
      exact heq
    · cases hit : s.iterSp io with
      | none =>
          rw [hit] at htrims
          have htrims' : Trims s s' := htrims₀.trans htrims
          refine h.touch_unlisted htrims' (fun hmem => ?_) (fun io' => rfl) rfl
          exact (hsound.iterSp_eq_none.mp hit).1 ((htrims'.sublist.map Prod.snd).subset hmem)
      | some it =>
          rw [hit] at htrims
          have hkeep := h.accepted_append (.write io now isDisconnectRes hasUuid throws)
          have hidle := Idle.touch_append (h.stamped.trim htrims₀) hnone
            (htrims₀.accepted ▸ hacc) (htrims₀.accepted ▸ hkeep) (horderly.le_reading rfl)
            (fun io' => rfl) rfl
          exact ⟨hidle.stamped.trim htrims, fun io' hio' =>
            hidle.accepted io' (htrims.accepted ▸ hio')⟩
  · refine ⟨s, by rw [IoLists.step, if_neg (by simpa [Event.enabled] using hacc)], ?_⟩
    exact h.touch_unlisted (.refl hsound) (h.not_mem_pinglist hacc) (fun io' => rfl) rfl

/-- **A step** of an ordinary connection is defined and keeps the list sorted. -/
theorem Idle.step {es : List (Event ι)} {e : Event ι} (h : Idle es s)
    (horderly : Orderly (es ++ [e])) :
    ∃ s', IoLists.step (some s) e = some s' ∧ Idle (es ++ [e]) s' := by
  have hsound := h.stamped.sound
  have hpeers := h.stamped.peers
  have hordinary := horderly.ordinary e (List.mem_append_right _ List.mem_cons_self)
  cases e with
  | serverConnect io => exact hordinary.elim
  | serverDisconnect io => exact hordinary.elim
  | accept io now => exact h.accept horderly
  | readError io => exact h.readError io
  | write io now isDisconnectRes hasUuid throws => exact h.write horderly
  | pingtime now => exact ⟨_, rfl, h.pingtime (horderly.le_reading rfl)⟩
  | foreachBegin =>
      exact ⟨_, rfl, h.quiet ⟨hsound.indexes, hsound.accepted⟩ hpeers (.refl _) rfl rfl
        fun _ => rfl⟩
  | foreachNext k =>
      refine ⟨_, rfl, ?_⟩
      have hsame : ∀ running, Idle (es ++ [.foreachNext k]) { s with running := running } :=
        fun running => h.quiet ⟨hsound.indexes, hsound.accepted⟩ hpeers (.refl _) rfl rfl
          fun _ => rfl
      rw [IoLists.foreachNext]
      split
      · exact hsame s.running
      · split
        · exact hsame _
        · exact hsame _

/-- **A run** of ordinary connections. -/
theorem Orderly.idle {es : List (Event ι)} (h : Orderly es) :
    ∃ s, es.foldl IoLists.step (some new) = some s ∧ Idle es s := by
  induction es using List.reverseRecOn with
  | nil =>
      refine ⟨new, rfl, ⟨sound_new, rfl, ?_, List.Pairwise.nil, ?_⟩, ?_⟩ <;>
        · intro io hio
          cases hio
  | append_singleton es e ih =>
      obtain ⟨s, hrun, hidle⟩ := ih h.of_append
      obtain ⟨s', hstep, hidle'⟩ := hidle.step h
      exact ⟨s', by rw [List.foldl_append, hrun]; exact hstep, hidle'⟩

/-- **Idle expiry.** After every run of ordinary connections over a clock that does not go
back, the list is sorted and lists no connection twice, and the timer removes exactly the
overdue connections. -/
theorem idle_expiry {es : List (Event ι)} (h : Orderly es) :
    ∃ s, es.foldl step (some new) = some s ∧ s.pinglist.values.Nodup ∧
      (s.pinglist.values.map s.pingTime).Pairwise (· ≤ ·) ∧
      ∀ now, (∀ t ∈ readings es, t ≤ now) → ExpiresExactly es s now := by
  obtain ⟨s, hrun, hidle⟩ := h.idle
  have hstamped := hidle.stamped
  have hnodup := hstamped.sound.indexes.nodup_values
  rw [NodeList.values_append, List.nodup_append] at hnodup
  refine ⟨s, hrun, hnodup.1, hstamped.sorted, fun now hclock => ?_⟩
  have hle : ∀ io ∈ s.pinglist.values, s.pingTime io ≤ now :=
    fun io hio => hclock _ (hstamped.read io hio)
  have hover : ∀ io ∈ s.pinglist.values,
      overdue es now io = decide (now - s.pingTime io > pingpongtimeout) := by
    intro io hio
    rw [overdue, hstamped.touched io hio]
    simp only [pingpongtimeout_lt_sub (hle io hio)]
  have heq := pingtimeLoop_eq now s.pinglist s hstamped.sorted hle
  refine ⟨?_, fun io => ?_, fun io hio => ⟨UInt64.toNat_sub_of_le _ _ (hle io hio), hle io hio⟩⟩
  · rw [pingtimeCallback, heq]
    refine List.filter_congr fun p hp => ?_
    rw [hover p.2 (List.mem_map_of_mem hp)]
  · rw [pingtimeCallback, heq]
    by_cases hio : io ∈ s.pinglist.values
    · simp only [hover io hio, decide_eq_true_eq]
    · simp only [hio, false_and, if_false]

/-- Two connections, one of which was written to since. -/
theorem idle_expiry_two :
    ∃ s, [Event.accept 0 10, .accept 1 20, .write 0 100 false true false].foldl step
        (some (new : IoLists ℕ)) = some s ∧ s.pinglist.values.Nodup ∧
      (s.pinglist.values.map s.pingTime).Pairwise (· ≤ ·) ∧
      ∀ now, (∀ t ∈ readings [Event.accept 0 10, .accept 1 20, .write 0 100 false true false],
        t ≤ now) →
        ExpiresExactly [Event.accept 0 10, .accept 1 20, .write 0 100 false true false] s now :=
  idle_expiry ⟨by simp [Event.Ordinary], by decide, by decide⟩

/-! ### The ping list of the server -/

/-- `ping_erase`, without the nodes. -/
theorem values_pingErase (h : Sound s) {io : ι} (hio : io ∉ s.peers.values) :
    (s.pingErase io).map (fun r => r.2.pinglist.values) =
      some (Yijian.pingErase io s.pinglist.values) := by
  rcases h.pingErase_eq hio with ⟨hnone, heq⟩ | ⟨before, it, after, hsplit, heq⟩
  · rw [heq, Option.map_some, Yijian.pingErase,
      List.erase_of_not_mem (h.iterSp_eq_none.mp hnone).1]
  · have hnodup := h.indexes.nodup_values
    rw [hsplit, NodeList.values_append, NodeList.values_append, List.append_assoc,
      NodeList.values_cons, List.nodup_append] at hnodup
    have hbefore : io ∉ NodeList.values before := fun hmem =>
      hnodup.2.2 io hmem io List.mem_cons_self rfl
    rw [heq, Option.map_some, Yijian.pingErase, hsplit, NodeList.values_append,
      NodeList.values_append, NodeList.values_cons, List.erase_append_right _ hbefore,
      List.erase_cons_head]

/-- `ping_move2back`, without the nodes. -/
theorem values_pingMove2back (h : Sound s) {io : ι} (hio : io ∉ s.peers.values) (now : UInt64) :
    (s.pingMove2back io now).map (fun s' => s'.pinglist.values) =
      some (Yijian.pingMove2back io s.pinglist.values) := by
  have herase := values_pingErase h hio
  obtain ⟨s', heq, -, -⟩ := h.pingErase hio
  rw [heq, Option.map_some, Option.some.injEq] at herase
  rw [IoLists.pingMove2back, heq, Yijian.pingMove2back, ← herase]
  cases hit : s.iterSp io with
  | none =>
      have hunlisted := (h.iterSp_eq_none.mp hit).1
      rw [Yijian.pingErase, List.erase_of_not_mem hunlisted] at herase
      rw [if_neg hunlisted, ← herase]
      rfl
  | some it =>
      have hlisted : io ∈ s.pinglist.values := by
        by_contra hnot
        have hnone := h.iterSp_eq_none.mpr ⟨hnot, hio⟩
        rw [hit] at hnone
        cases hnone
      rw [if_pos hlisted]
      exact congrArg some (NodeList.values_insertEnd _ _ _)

end Yijian.IoLists

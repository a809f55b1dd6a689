import Yijian.Lib.NodeList
import Yijian.Lib.Runs

/-!
# The Ping List and the Peer Server List

A connection is in the ping list from its acceptance on, and moves to the list of peer
servers with a serverconnect frame. Both are linked lists (`std::list`), and one member
of the connection, `iter_sp`, holds its iterator in either of them. The peer list is
copied on write: `peer_server_foreach` runs over the list object it found, and a push or
an erase that finds the object in use goes on with a copy of it.

An iterator is the address of a node (`Yijian.Lib.NodeList`). `erase` with an iterator of
another list is undefined behaviour; the functions return `none` there, and a run ends.

`uuidnode_map_` and the shutdown in the timer callback are not part of this model.

## Convention

Both lists hold shared pointers and each connection one iterator, so whether an iterator is one of
the list it is used on is a matter of the history, and of the type of the frames that the connection
has sent: a serverconnect moves it to the peer list, and nothing moves it back. `ping_erase` and
`ping_move2back` take the iterator as one of the ping list without asking; the write callback does
so for every connection, peer servers included. A run with undefined behaviour is not continued,
and the condition is therefore asked of each step before it is taken.

## Main results

* `Sound.step_iff`: a step keeps the handles right exactly if it fits (`Fits`).
* `membership_iff`: the runs in which every handle is always right.
-/

namespace Yijian

open Runs

variable {ι : Type}

/-- A running `peer_server_foreach`: the list object it holds and the connections it has
visited. -/
structure Foreach (ι : Type) where
  object : ℕ
  visited : List ι

/-- `pinglist_`, `peer_servers_.io_list_` with all list objects that it has pointed to, the
members `iter_sp` and `ping_time` of every connection, and the running calls of
`peer_server_foreach`. New nodes and objects are numbered. -/
structure IoLists (ι : Type) where
  pinglist : NodeList ι
  ioList : ℕ
  objects : ℕ → NodeList ι
  running : List (Foreach ι)
  iterSp : ι → Option ℕ
  pingTime : ι → UInt64
  accepted : List ι
  nextNode : ℕ
  nextObject : ℕ

namespace IoLists

/-- The state after `initSetup`. -/
def new : IoLists ι where
  pinglist := []
  ioList := 0
  objects := fun _ => []
  running := []
  iterSp := fun _ => none
  pingTime := fun _ => 0
  accepted := []
  nextNode := 0
  nextObject := 1

/-- The current list of the peer servers, `*io_list_`. -/
def peers (s : IoLists ι) : NodeList ι := s.objects s.ioList

variable [DecidableEq ι]

/-! ### The ping list -/

/-- `ping_erase`. -/
def pingErase (s : IoLists ι) (io : ι) : Option (Bool × IoLists ι) :=
  match s.iterSp io with
  | some it =>
      (s.pinglist.erase it).map fun pinglist =>
        (true, { s with pinglist := pinglist, iterSp := Function.update s.iterSp io none })
  | none => some (false, s)

/-- `ping_append`; `now` is what `ping_time()` reads. -/
def pingAppend (s : IoLists ι) (io : ι) (now : UInt64) : IoLists ι :=
  { s with
    pinglist := s.pinglist.insertEnd s.nextNode io
    iterSp := Function.update s.iterSp io (some s.nextNode)
    pingTime := Function.update s.pingTime io now
    nextNode := s.nextNode + 1 }

/-- `ping_move2back`. -/
def pingMove2back (s : IoLists ι) (io : ι) (now : UInt64) : Option (IoLists ι) :=
  (s.pingErase io).map fun r => if r.1 then r.2.pingAppend io now else r.2

/-- `PINGPONGTIMEOUT`. -/
def pingpongtimeout : UInt64 := 120

/-- The loop of `pingtime_callback` over what is left of the ping list. -/
def pingtimeLoop (now : UInt64) : NodeList ι → IoLists ι → IoLists ι
  | [], s => { s with pinglist := [] }
  | (node, io) :: rest, s =>
      if now - s.pingTime io > pingpongtimeout then
        pingtimeLoop now rest { s with iterSp := Function.update s.iterSp io none }
      else
        { s with pinglist := (node, io) :: rest }

/-- `pingtime_callback`. -/
def pingtimeCallback (s : IoLists ι) (now : UInt64) : IoLists ι :=
  pingtimeLoop now s.pinglist s

/-! ### The peer server list -/

/-- `io_list_.unique()`: no running `peer_server_foreach` holds the current list object. -/
def unique (s : IoLists ι) : Bool := s.running.all fun f => f.object != s.ioList

/-- `io_list_.reset(new std::list(*io_list_))`. -/
def resetCopy (s : IoLists ι) : IoLists ι :=
  { s with
    ioList := s.nextObject
    objects := Function.update s.objects s.nextObject (s.peers.copy s.nextNode)
    nextNode := s.nextNode + s.peers.length
    nextObject := s.nextObject + 1 }

/-- The copy that a push or an erase makes of a list object in use. -/
def copyOnWrite (s : IoLists ι) : IoLists ι := if s.unique then s else s.resetCopy

/-- `*io_list_` with another content. -/
def setPeers (s : IoLists ι) (l : NodeList ι) : IoLists ι :=
  { s with objects := Function.update s.objects s.ioList l }

/-- The insertion of `peer_servers_push`. -/
def peersInsert (s : IoLists ι) (io : ι) : IoLists ι :=
  { s.setPeers (s.peers.insertEnd s.nextNode io) with
    iterSp := Function.update s.iterSp io (some s.nextNode)
    nextNode := s.nextNode + 1 }

/-- `peer_servers_push`. -/
def peerServersPush (s : IoLists ι) (io : ι) : IoLists ι := s.copyOnWrite.peersInsert io

/-- The erasure of `peer_servers_erase`. The member `iter_sp` stays as it is. -/
def peersErase (s : IoLists ι) (io : ι) : Option (IoLists ι) :=
  match s.iterSp io with
  | some it => (s.peers.erase it).map s.setPeers
  | none => some s

/-- `peer_servers_erase`. -/
def peerServersErase (s : IoLists ι) (io : ι) : Option (IoLists ι) := s.copyOnWrite.peersErase io

/-- `peer_server_foreach` takes the current list object. -/
def foreachBegin (s : IoLists ι) : IoLists ι :=
  { s with running := s.running ++ [⟨s.ioList, []⟩] }

/-- The `k`-th running `peer_server_foreach` visits the next connection of its list object,
or ends and lets go of the object. -/
def foreachNext (s : IoLists ι) (k : ℕ) : IoLists ι :=
  match s.running[k]? with
  | none => s
  | some f =>
      match (s.objects f.object).values[f.visited.length]? with
      | some io => { s with running := s.running.set k { f with visited := f.visited ++ [io] } }
      | none => { s with running := s.running.eraseIdx k }

/-! ### The callbacks -/

/-- `socket_accept_callback` with the new connection `io`. -/
def socketAcceptCallback (s : IoLists ι) (io : ι) (now : UInt64) : IoLists ι :=
  { s.pingAppend io now with accepted := io :: s.accepted }

/-- `deleteReadio` of `connection_write_callback`; `hasUuid` is whether the connection has a
uuid. -/
def deleteReadio (s : IoLists ι) (io : ι) (hasUuid : Bool) : Option (IoLists ι) :=
  if hasUuid then (s.pingErase io).map Prod.snd else some s

/-- `connection_write_callback` with a frame to write. -/
def connectionWriteCallback (s : IoLists ι) (io : ι) (now : UInt64)
    (isDisconnectRes hasUuid throws : Bool) : Option (IoLists ι) :=
  (s.pingMove2back io now).bind fun s =>
    (if isDisconnectRes then s.deleteReadio io hasUuid else some s).bind fun s =>
      if throws then s.deleteReadio io hasUuid else some s

/-- What happens to the lists. -/
inductive Event (ι : Type)
  /-- `socket_accept_callback`, with a new connection. -/
  | accept (io : ι) (now : UInt64)
  /-- `connection_read_callback` with a serverconnect frame. -/
  | serverConnect (io : ι)
  /-- `connection_read_callback` with a serverdisconnect frame. -/
  | serverDisconnect (io : ι)
  /-- `connection_read_callback` where `socket_read` threw one of the six codes. -/
  | readError (io : ι)
  /-- `connection_write_callback` with a frame to write. -/
  | write (io : ι) (now : UInt64) (isDisconnectRes hasUuid throws : Bool)
  /-- `pingtime_callback`. -/
  | pingtime (now : UInt64)
  /-- A worker enters `peer_server_foreach`. -/
  | foreachBegin
  /-- A worker goes on in `peer_server_foreach`. -/
  | foreachNext (k : ℕ)

/-- A connection is accepted once, and every other event is about one that was. -/
def Event.enabled (s : IoLists ι) : Event ι → Bool
  | .accept io _ => io ∉ s.accepted
  | .serverConnect io => io ∈ s.accepted
  | .serverDisconnect io => io ∈ s.accepted
  | .readError io => io ∈ s.accepted
  | .write io _ _ _ _ => io ∈ s.accepted
  | .pingtime _ => true
  | .foreachBegin => true
  | .foreachNext _ => true

/-- What an event does. -/
def handle (s : IoLists ι) : Event ι → Option (IoLists ι)
  | .accept io now => some (s.socketAcceptCallback io now)
  | .serverConnect io => (s.pingErase io).map fun r => r.2.peerServersPush io
  | .serverDisconnect io => s.peerServersErase io
  | .readError io => (s.pingErase io).map Prod.snd
  | .write io now isDisconnectRes hasUuid throws =>
      s.connectionWriteCallback io now isDisconnectRes hasUuid throws
  | .pingtime now => some (s.pingtimeCallback now)
  | .foreachBegin => some s.foreachBegin
  | .foreachNext k => some (s.foreachNext k)

/-- A step of the event loop or of a worker. Behind undefined behaviour there is none. -/
def step : Option (IoLists ι) → Event ι → Option (IoLists ι)
  | none, _ => none
  | some s, e => if e.enabled s then s.handle e else some s

/-! ### The handles -/

/-- `io` is in the list once, and `it` points to it. -/
def Position (l : NodeList ι) (it : ℕ) (io : ι) : Prop :=
  ∃ before after : NodeList ι,
    l = before ++ (it, io) :: after ∧ io ∉ before.values ∧ io ∉ after.values

/-- A connection without a handle is in neither list; a connection with one is in exactly
one of them, once, and the handle points to it in the current list object. -/
structure Membership (s : IoLists ι) : Prop where
  null_iff : ∀ io, s.iterSp io = none ↔ io ∉ s.pinglist.values ∧ io ∉ s.peers.values
  position : ∀ io it, s.iterSp io = some it →
    Position s.pinglist it io ∧ io ∉ s.peers.values ∨
      io ∉ s.pinglist.values ∧ Position s.peers it io

/-- The handles are right in a state that was reached without undefined behaviour. -/
def HandlesRight : Option (IoLists ι) → Prop
  | none => False
  | some s => Membership s

/-- What an event needs. A peer gets no write, no read error and no second serverconnect
frame; a serverdisconnect frame comes from a connection in neither list; and no frame of the
two kinds arrives while a `peer_server_foreach` runs over a list object that is not
empty. -/
def Fits (s : IoLists ι) : Event ι → Prop
  | .accept _ _ => True
  | .serverConnect io => io ∉ s.peers.values ∧ (s.unique = true ∨ s.peers = [])
  | .serverDisconnect io =>
      (io ∉ s.pinglist.values ∧ io ∉ s.peers.values) ∧ (s.unique = true ∨ s.peers = [])
  | .readError io => io ∉ s.peers.values
  | .write io _ _ _ _ => io ∉ s.peers.values
  | .pingtime _ => True
  | .foreachBegin => True
  | .foreachNext _ => True

/-- The step is behind no undefined behaviour, and its event fits. -/
def StepFits : Option (IoLists ι) → Event ι → Prop
  | none, _ => False
  | some s, e => e.enabled s = true → s.Fits e

/-- The invariant: the handles index the two lists together, and only accepted connections
are listed. -/
structure Sound (s : IoLists ι) : Prop where
  indexes : NodeList.Indexes s.iterSp s.nextNode (s.pinglist ++ s.peers)
  accepted : ∀ io ∈ NodeList.values (s.pinglist ++ s.peers), io ∈ s.accepted

omit [DecidableEq ι] in
/-- The lists are empty at the start. -/
theorem sound_new : Sound (new : IoLists ι) where
  indexes := NodeList.Indexes.nil 0
  accepted io hio := by cases hio

variable {s : IoLists ι}

omit [DecidableEq ι] in
/-- No connection of the ping list is a peer. -/
theorem Sound.not_mem_peers (h : Sound s) {io : ι} (hio : io ∈ s.pinglist.values) :
    io ∉ s.peers.values := by
  have hnodup := h.indexes.nodup_values
  rw [NodeList.values_append] at hnodup
  exact fun hpeer => (List.nodup_append.mp hnodup).2.2 io hio io hpeer rfl

omit [DecidableEq ι] in
/-- The two lists have no node in common. -/
theorem Sound.not_mem_nodes (h : Sound s) {it : ℕ} (hit : it ∈ s.pinglist.nodes) :
    it ∉ s.peers.nodes := by
  have hnodup := h.indexes.nodup_nodes
  rw [NodeList.nodes_append] at hnodup
  exact fun hpeer => (List.nodup_append.mp hnodup).2.2 it hit it hpeer rfl

omit [DecidableEq ι] in
/-- A connection has an iterator if and only if one of the lists has it. -/
theorem Sound.iterSp_eq_none (h : Sound s) {io : ι} :
    s.iterSp io = none ↔ io ∉ s.pinglist.values ∧ io ∉ s.peers.values := by
  rw [h.indexes.iter_eq_none, NodeList.values_append, List.mem_append, not_or]

omit [DecidableEq ι] in
/-- Where elements are listed once, a node is a position. -/
theorem position_of_mem {l : NodeList ι} (hnodup : l.values.Nodup) {it : ℕ} {io : ι}
    (h : (it, io) ∈ l) : Position l it io := by
  obtain ⟨before, after, rfl⟩ := List.append_of_mem h
  rw [NodeList.values_append, NodeList.values_cons, List.nodup_append] at hnodup
  exact ⟨before, after, rfl, fun hmem => hnodup.2.2 io hmem io List.mem_cons_self rfl,
    (List.nodup_cons.mp hnodup.2.1).1⟩

omit [DecidableEq ι] in
/-- In sound lists the iterator tells the membership. -/
theorem Sound.membership (h : Sound s) : Membership s where
  null_iff io := h.iterSp_eq_none
  position io it hit := by
    have hnodup := h.indexes.nodup_values
    rw [NodeList.values_append, List.nodup_append] at hnodup
    rcases List.mem_append.mp ((h.indexes.iter_iff io it).mp hit) with hping | hpeer
    · exact Or.inl ⟨position_of_mem hnodup.1 hping,
        h.not_mem_peers (NodeList.mem_values_of_mem hping)⟩
    · exact Or.inr ⟨fun hping => h.not_mem_peers hping (NodeList.mem_values_of_mem hpeer),
        position_of_mem hnodup.2.1 hpeer⟩

/-! ### The ping list, step by step -/

/-- A connection that is no peer is taken off the ping list, if it is there. -/
theorem Sound.pingErase_eq (h : Sound s) {io : ι} (hio : io ∉ s.peers.values) :
    s.iterSp io = none ∧ s.pingErase io = some (false, s) ∨
      ∃ before it after, s.pinglist = before ++ (it, io) :: after ∧
        s.pingErase io = some (true,
          { s with pinglist := before ++ after, iterSp := Function.update s.iterSp io none }) := by
  rw [pingErase]
  cases hit : s.iterSp io with
  | none => exact Or.inl ⟨rfl, rfl⟩
  | some it =>
      have hmem : (it, io) ∈ s.pinglist := by
        rcases List.mem_append.mp ((h.indexes.iter_iff io it).mp hit) with hping | hpeer
        · exact hping
        · exact absurd (NodeList.mem_values_of_mem hpeer) hio
      obtain ⟨before, after, hsplit⟩ := List.append_of_mem hmem
      refine Or.inr ⟨before, it, after, hsplit, ?_⟩
      have hnodup := h.indexes.nodup_nodes
      rw [hsplit, List.append_assoc, NodeList.nodes_append, List.cons_append, NodeList.nodes_cons,
        List.nodup_append] at hnodup
      have herase : s.pinglist.erase it = some (before ++ after) := by
        rw [hsplit]
        exact NodeList.erase_append_cons fun hbefore =>
          hnodup.2.2 it hbefore it List.mem_cons_self rfl
      simp only [herase, Option.map_some]

/-- A peer's handle is of no use on the ping list. -/
theorem Sound.pingErase_of_peer (h : Sound s) {io : ι} (hio : io ∈ s.peers.values) :
    s.pingErase io = none := by
  obtain ⟨it, hmem⟩ := NodeList.exists_of_mem_values hio
  have hit := (h.indexes.iter_iff io it).mpr (List.mem_append_right _ hmem)
  have herase : s.pinglist.erase it = none :=
    NodeList.erase_eq_none.mpr fun hnode => h.not_mem_nodes hnode (NodeList.mem_nodes_of_mem hmem)
  simp only [IoLists.pingErase, hit, herase, Option.map_none]

/-- A connection that leaves the ping list takes its iterator with it. -/
theorem Sound.removePing (h : Sound s) {before after : NodeList ι} {it : ℕ} {io : ι}
    (hsplit : s.pinglist = before ++ (it, io) :: after) :
    Sound { s with pinglist := before ++ after, iterSp := Function.update s.iterSp io none } where
  indexes := by
    have hindexes := h.indexes
    rw [hsplit] at hindexes
    exact hindexes.remove_append
  accepted io' hio' := by
    refine h.accepted io' ?_
    rw [hsplit]
    simp only [NodeList.values_append, NodeList.values_cons, List.mem_append, List.mem_cons]
      at hio' ⊢
    rcases hio' with (hbefore | hafter) | hpeer
    · exact Or.inl (Or.inl hbefore)
    · exact Or.inl (Or.inr (Or.inr hafter))
    · exact Or.inr hpeer

/-- A connection without an iterator joins the ping list. -/
theorem Sound.pingAppend (h : Sound s) {io : ι} (hnone : s.iterSp io = none)
    (hacc : io ∈ s.accepted) (now : UInt64) : Sound (s.pingAppend io now) where
  indexes := by
    have hperm : ((s.nextNode, io) :: (s.pinglist ++ s.peers)).Perm
        (s.pinglist.insertEnd s.nextNode io ++ s.peers) := by
      rw [NodeList.insertEnd, List.append_assoc]
      exact List.perm_middle.symm
    exact (h.indexes.insert hnone).perm hperm
  accepted io' hio' := by
    rw [NodeList.values_append, List.mem_append] at hio'
    rcases hio' with hping | hpeer
    · rw [show (s.pingAppend io now).pinglist.values = s.pinglist.values ++ [io] from
        NodeList.values_insertEnd _ _ _, List.mem_append, List.mem_singleton] at hping
      rcases hping with hping | rfl
      · exact h.accepted io' (by rw [NodeList.values_append]; exact List.mem_append_left _ hping)
      · exact hacc
    · exact h.accepted io' (by rw [NodeList.values_append]; exact List.mem_append_right _ hpeer)

/-- What a call of `ping_erase` on a connection that is no peer leaves as it was. -/
structure Trims (s s' : IoLists ι) : Prop where
  sound : Sound s'
  sublist : s'.pinglist.Sublist s.pinglist
  pingTime : s'.pingTime = s.pingTime
  accepted : s'.accepted = s.accepted
  ioList : s'.ioList = s.ioList
  objects : s'.objects = s.objects
  running : s'.running = s.running

omit [DecidableEq ι] in
/-- Nothing is taken out. -/
theorem Trims.refl (h : Sound s) : Trims s s :=
  ⟨h, List.Sublist.refl _, rfl, rfl, rfl, rfl, rfl⟩

omit [DecidableEq ι] in
/-- What is taken out in two steps is taken out. -/
theorem Trims.trans {s₁ s₂ s₃ : IoLists ι} (h : Trims s₁ s₂) (h' : Trims s₂ s₃) : Trims s₁ s₃ where
  sound := h'.sound
  sublist := h'.sublist.trans h.sublist
  pingTime := h'.pingTime.trans h.pingTime
  accepted := h'.accepted.trans h.accepted
  ioList := h'.ioList.trans h.ioList
  objects := h'.objects.trans h.objects
  running := h'.running.trans h.running

omit [DecidableEq ι] in
/-- The peers are left alone. -/
theorem Trims.peers {s' : IoLists ι} (h : Trims s s') : s'.peers = s.peers := by
  rw [IoLists.peers, IoLists.peers, h.ioList, h.objects]

omit [DecidableEq ι] in
/-- The lists stay as shared as they are. -/
theorem Trims.unique {s' : IoLists ι} (h : Trims s s') : s'.unique = s.unique := by
  rw [IoLists.unique, IoLists.unique, h.ioList, h.running]

/-- **`ping_erase`** of a connection that is no peer. -/
theorem Sound.pingErase (h : Sound s) {io : ι} (hio : io ∉ s.peers.values) :
    ∃ s', s.pingErase io = some ((s.iterSp io).isSome, s') ∧ Trims s s' ∧ s'.iterSp io = none := by
  rcases h.pingErase_eq hio with ⟨hnone, heq⟩ | ⟨before, it, after, hsplit, heq⟩
  · exact ⟨s, by rw [hnone, heq]; rfl, .refl h, hnone⟩
  · have hit : s.iterSp io = some it := (h.indexes.iter_iff io it).mpr (by rw [hsplit]; simp)
    refine ⟨_, by rw [hit, heq]; rfl, ⟨h.removePing hsplit, ?_, rfl, rfl, rfl, rfl, rfl⟩,
      Function.update_self _ _ _⟩
    rw [hsplit]
    exact (List.sublist_cons_self _ _).append_left before

/-- **`ping_move2back`** of a connection that is no peer: it is entered anew, if it was
listed. -/
theorem Sound.pingMove2back (h : Sound s) {io : ι} (hio : io ∉ s.peers.values) (now : UInt64) :
    ∃ s', Trims s s' ∧ s'.iterSp io = none ∧
      s.pingMove2back io now =
        some (if (s.iterSp io).isSome then s'.pingAppend io now else s') := by
  obtain ⟨s', heq, htrims, hnone⟩ := h.pingErase hio
  exact ⟨s', htrims, hnone, by rw [IoLists.pingMove2back, heq, Option.map_some]⟩

/-- `delete_readio` finds the node of a client, and takes the connection out. -/
theorem Sound.deleteReadio (h : Sound s) {io : ι} (hio : io ∉ s.peers.values) (hasUuid : Bool) :
    ∃ s', s.deleteReadio io hasUuid = some s' ∧ Trims s s' := by
  rw [IoLists.deleteReadio]
  cases hasUuid with
  | false => exact ⟨s, rfl, .refl h⟩
  | true =>
      obtain ⟨s', heq, htrims, -⟩ := h.pingErase hio
      rw [if_pos rfl, heq]
      exact ⟨s', rfl, htrims⟩

/-- **The write callback** of a connection that is no peer moves it to the back, and may
take it off. -/
theorem Sound.connectionWriteCallback (h : Sound s) {io : ι} (hio : io ∉ s.peers.values)
    (hacc : io ∈ s.accepted) (now : UInt64) (isDisconnectRes hasUuid throws : Bool) :
    ∃ s₁ s', s.pingMove2back io now = some s₁ ∧ Trims s₁ s' ∧
      s.connectionWriteCallback io now isDisconnectRes hasUuid throws = some s' := by
  obtain ⟨s₀, htrims₀, hnone, hmove⟩ := h.pingMove2back hio now
  generalize hs₁ : (if (s.iterSp io).isSome then s₀.pingAppend io now else s₀) = s₁ at hmove
  have hsound₁ : Sound s₁ := by
    rw [← hs₁]
    split
    · exact htrims₀.sound.pingAppend hnone (htrims₀.accepted ▸ hacc) now
    · exact htrims₀.sound
  have hio₁ : io ∉ s₁.peers.values := by
    have hpeers : s₁.peers = s₀.peers := by
      rw [← hs₁]
      split <;> rfl
    rwa [hpeers, htrims₀.peers]
  have hdelete : ∀ {t : IoLists ι} (b : Bool), Trims s₁ t →
      ∃ t', (if b then t.deleteReadio io hasUuid else some t) = some t' ∧ Trims s₁ t' := by
    intro t b ht
    cases b with
    | false => exact ⟨t, rfl, ht⟩
    | true =>
        obtain ⟨t', heq, ht'⟩ := ht.sound.deleteReadio (by rwa [ht.peers]) hasUuid
        exact ⟨t', heq, ht.trans ht'⟩
  obtain ⟨s₂, hres, htrims₂⟩ := hdelete isDisconnectRes (.refl hsound₁)
  obtain ⟨s₃, hthrow, htrims₃⟩ := hdelete throws htrims₂
  refine ⟨s₁, s₃, hmove, htrims₃, ?_⟩
  rw [IoLists.connectionWriteCallback, hmove, Option.bind_some, hres, Option.bind_some, hthrow]

/-- The loop of `pingtime_callback` goes on from a sound state. -/
theorem Sound.pingtimeLoop (now : UInt64) (l : NodeList ι) {s : IoLists ι}
    (h : Sound { s with pinglist := l }) : Sound (pingtimeLoop now l s) := by
  induction l generalizing s with
  | nil => exact h
  | cons p rest ih =>
      obtain ⟨it, io⟩ := p
      rw [IoLists.pingtimeLoop]
      split
      · have hfront : (it, io) :: rest = [] ++ (it, io) :: rest := rfl
        exact ih (h.removePing hfront)
      · exact h

/-! ### The peer list, step by step -/

omit [DecidableEq ι] in
@[simp] theorem peers_setPeers (s : IoLists ι) (l : NodeList ι) : (s.setPeers l).peers = l :=
  Function.update_self _ _ _

@[simp] theorem peers_peersInsert (s : IoLists ι) (io : ι) :
    (s.peersInsert io).peers = s.peers.insertEnd s.nextNode io := Function.update_self _ _ _

@[simp] theorem iterSp_peersInsert_self (s : IoLists ι) (io : ι) :
    (s.peersInsert io).iterSp io = some s.nextNode := Function.update_self io _ s.iterSp

/-- The other connections keep their iterators. -/
theorem iterSp_peersInsert_of_ne (s : IoLists ι) {io io' : ι} (h : io' ≠ io) :
    (s.peersInsert io).iterSp io' = s.iterSp io' := Function.update_of_ne h _ s.iterSp

omit [DecidableEq ι] in
@[simp] theorem peers_resetCopy (s : IoLists ι) :
    s.resetCopy.peers = s.peers.copy s.nextNode := Function.update_self _ _ _

/-- A connection without an iterator joins the peers. -/
theorem Sound.peersInsert (h : Sound s) {io : ι} (hnone : s.iterSp io = none)
    (hacc : io ∈ s.accepted) : Sound (s.peersInsert io) where
  indexes := by
    have hperm : ((s.nextNode, io) :: (s.pinglist ++ s.peers)).Perm
        (s.pinglist ++ (s.peersInsert io).peers) := by
      rw [peers_peersInsert, NodeList.insertEnd, ← List.append_assoc]
      exact (List.perm_append_singleton _ _).symm
    exact (h.indexes.insert hnone).perm hperm
  accepted io' hio' := by
    rw [NodeList.values_append, peers_peersInsert, NodeList.values_insertEnd, ← List.append_assoc,
      ← NodeList.values_append, List.mem_append, List.mem_singleton] at hio'
    rcases hio' with hlisted | rfl
    · exact h.accepted io' hlisted
    · exact hacc

omit [DecidableEq ι] in
/-- A list object in use that lists nothing is copied without harm. -/
theorem Sound.copyOnWrite (h : Sound s) (hunique : s.unique = true ∨ s.peers = []) :
    Sound s.copyOnWrite := by
  rw [IoLists.copyOnWrite]
  split
  · exact h
  · rename_i hshared
    have hnil : s.peers = [] := hunique.resolve_left hshared
    have hcopy : s.resetCopy.peers = [] := by
      rw [peers_resetCopy, hnil]
      rfl
    have hindexes := h.indexes
    have haccepted := h.accepted
    rw [hnil] at hindexes haccepted
    refine ⟨?_, ?_⟩
    · rw [hcopy]
      have hnext : s.resetCopy.nextNode = s.nextNode := by
        simp only [resetCopy, hnil, List.length_nil, Nat.add_zero]
      rw [hnext]
      exact hindexes
    · rw [hcopy]
      exact haccepted

omit [DecidableEq ι] in
/-- A copy of the list leaves the iterators where they point. -/
theorem iterSp_copyOnWrite (s : IoLists ι) : s.copyOnWrite.iterSp = s.iterSp := by
  rw [copyOnWrite]
  split <;> rfl

omit [DecidableEq ι] in
/-- A copy of the list leaves the connections alone. -/
theorem accepted_copyOnWrite (s : IoLists ι) : s.copyOnWrite.accepted = s.accepted := by
  rw [copyOnWrite]
  split <;> rfl

/-- **A fitting event** has a defined effect and keeps the invariant. -/
theorem Sound.handle (h : Sound s) {e : Event ι} (henabled : e.enabled s = true)
    (hfits : s.Fits e) : ∃ s', s.handle e = some s' ∧ Sound s' := by
  cases e with
  | accept io now =>
      have hnew : io ∉ s.accepted := by simpa [Event.enabled] using henabled
      have hnone : s.iterSp io = none :=
        h.indexes.iter_eq_none.mpr fun hlisted => hnew (h.accepted io hlisted)
      have hadmit : Sound { s with accepted := io :: s.accepted } :=
        ⟨h.indexes, fun io' hio' => List.mem_cons_of_mem _ (h.accepted io' hio')⟩
      exact ⟨_, rfl, hadmit.pingAppend hnone List.mem_cons_self now⟩
  | serverConnect io =>
      have hacc : io ∈ s.accepted := by simpa [Event.enabled] using henabled
      obtain ⟨hio, hunique⟩ := hfits
      obtain ⟨s', heq, htrims, hnone⟩ := h.pingErase hio
      have hunique' : s'.unique = true ∨ s'.peers = [] := by
        rw [htrims.unique, htrims.peers]
        exact hunique
      refine ⟨_, by rw [IoLists.handle, heq]; rfl, ?_⟩
      refine (htrims.sound.copyOnWrite hunique').peersInsert ?_ ?_
      · rw [iterSp_copyOnWrite, hnone]
      · rw [accepted_copyOnWrite, htrims.accepted]
        exact hacc
  | serverDisconnect io =>
      obtain ⟨hio, hunique⟩ := hfits
      have hnone : s.copyOnWrite.iterSp io = none := by
        rw [iterSp_copyOnWrite, h.iterSp_eq_none]
        exact hio
      refine ⟨s.copyOnWrite, ?_, h.copyOnWrite hunique⟩
      rw [IoLists.handle, peerServersErase, peersErase, hnone]
  | readError io =>
      obtain ⟨s', heq, htrims, -⟩ := h.pingErase hfits
      exact ⟨s', by rw [IoLists.handle, heq]; rfl, htrims.sound⟩
  | write io now isDisconnectRes hasUuid throws =>
      have hacc : io ∈ s.accepted := by simpa [Event.enabled] using henabled
      obtain ⟨_, s', -, htrims, heq⟩ :=
        h.connectionWriteCallback hfits hacc now isDisconnectRes hasUuid throws
      exact ⟨s', heq, htrims.sound⟩
  | pingtime now => exact ⟨_, rfl, Sound.pingtimeLoop now s.pinglist h⟩
  | foreachBegin => exact ⟨_, rfl, h.indexes, h.accepted⟩
  | foreachNext k =>
      refine ⟨_, rfl, ?_⟩
      rw [IoLists.foreachNext]
      split
      · exact h
      · split <;> exact ⟨h.indexes, h.accepted⟩

/-! ### What goes wrong -/

omit [DecidableEq ι] in
/-- A handle that does not point into the list of its connection. -/
theorem not_membership_of_stale {s : IoLists ι} (io : ι) (it : ℕ) (hit : s.iterSp io = some it)
    (hio : io ∈ s.peers.values) (hstale : it ∉ s.peers.nodes) : ¬ Membership s := by
  intro h
  rcases h.position io it hit with ⟨-, hnot⟩ | ⟨-, before, after, hsplit, -⟩
  · exact hnot hio
  · exact hstale (hsplit ▸ by simp)

omit [DecidableEq ι] in
/-- The copy of a list object that lists a peer leaves the handle of the peer behind. -/
theorem Sound.stale_resetCopy (h : Sound s) {io : ι} (hio : io ∈ s.peers.values) :
    ∃ it, s.iterSp io = some it ∧ it < s.nextNode ∧ it ∉ s.resetCopy.peers.nodes := by
  obtain ⟨it, hmem⟩ := NodeList.exists_of_mem_values hio
  have hlt : it < s.nextNode := by
    refine h.indexes.lt_next it ?_
    rw [NodeList.nodes_append]
    exact List.mem_append_right _ (NodeList.mem_nodes_of_mem hmem)
  refine ⟨it, (h.indexes.iter_iff io it).mpr (List.mem_append_right _ hmem), hlt, ?_⟩
  rw [peers_resetCopy, NodeList.nodes_copy, List.mem_range'_1]
  omega

/-- A second serverconnect, or one that copies the list of the other peers. -/
theorem Sound.not_handlesRight_serverConnect (h : Sound s) {io : ι}
    (hfits : ¬ s.Fits (.serverConnect io)) :
    ¬ HandlesRight (s.handle (.serverConnect io)) := by
  by_cases hio : io ∈ s.peers.values
  · rw [IoLists.handle, h.pingErase_of_peer hio]
    exact id
  · have hshared : ¬ (s.unique = true ∨ s.peers = []) := fun hor => hfits ⟨hio, hor⟩
    obtain ⟨s', heq, htrims, -⟩ := h.pingErase hio
    obtain ⟨hnot, hne⟩ := not_or.mp hshared
    obtain ⟨peer, hpeer⟩ := List.exists_mem_of_ne_nil s.peers hne
    have hvalue : peer.2 ∈ s'.peers.values := by
      rw [htrims.peers]
      exact List.mem_map_of_mem hpeer
    obtain ⟨it, hit, hlt, hstale⟩ := htrims.sound.stale_resetCopy hvalue
    have hcopy : s'.copyOnWrite = s'.resetCopy := by
      rw [IoLists.copyOnWrite, htrims.unique, if_neg hnot]
    have hother : peer.2 ≠ io := by
      rintro rfl
      exact hio (htrims.peers ▸ hvalue)
    rw [IoLists.handle, heq]
    change ¬ Membership (s'.copyOnWrite.peersInsert io)
    rw [hcopy]
    refine not_membership_of_stale peer.2 it ?_ ?_ ?_
    · rw [iterSp_peersInsert_of_ne _ hother]
      exact hit
    · rw [peers_peersInsert, peers_resetCopy, NodeList.values_insertEnd, NodeList.values_copy]
      exact List.mem_append_left _ hvalue
    · rw [peers_peersInsert, NodeList.nodes_insertEnd, List.mem_append, List.mem_singleton]
      rintro (hmem | rfl)
      · exact hstale hmem
      · have hle : s'.nextNode ≤ s'.resetCopy.nextNode := Nat.le_add_right _ _
        omega

/-- A serverdisconnect from a listed connection, or one that copies the list of the
peers. -/
theorem Sound.not_handlesRight_serverDisconnect (h : Sound s) {io : ι}
    (hfits : ¬ s.Fits (.serverDisconnect io)) :
    ¬ HandlesRight (s.handle (.serverDisconnect io)) := by
  rw [IoLists.handle, peerServersErase, peersErase, iterSp_copyOnWrite]
  by_cases hio : io ∉ s.pinglist.values ∧ io ∉ s.peers.values
  · obtain ⟨hnot, hne⟩ := not_or.mp fun hor => hfits ⟨hio, hor⟩
    obtain ⟨peer, hpeer⟩ := List.exists_mem_of_ne_nil s.peers hne
    obtain ⟨it, hit, -, hstale⟩ := h.stale_resetCopy (List.mem_map_of_mem hpeer)
    rw [h.iterSp_eq_none.mpr hio, IoLists.copyOnWrite, if_neg hnot]
    refine not_membership_of_stale peer.2 it hit ?_ hstale
    rw [peers_resetCopy, NodeList.values_copy]
    exact List.mem_map_of_mem hpeer
  · obtain ⟨it, hit⟩ := Option.ne_none_iff_exists'.mp fun hnone => hio (h.iterSp_eq_none.mp hnone)
    have hmem := (h.indexes.iter_iff io it).mp hit
    simp only [hit]
    by_cases hnode : it ∈ s.copyOnWrite.peers.nodes
    · -- the handle of a peer, which stays where it is
      have hcopy : s.copyOnWrite = s := by
        rw [IoLists.copyOnWrite] at hnode ⊢
        split at hnode
        · rename_i hunique
          exact if_pos hunique
        · rw [peers_resetCopy, NodeList.nodes_copy, List.mem_range'_1] at hnode
          have hlt := h.indexes.lt_next it (NodeList.mem_nodes_of_mem hmem)
          omega
      rw [hcopy] at hnode ⊢
      have hpeer : (it, io) ∈ s.peers := by
        rcases List.mem_append.mp hmem with hping | hpeer
        · exact absurd hnode (h.not_mem_nodes (NodeList.mem_nodes_of_mem hping))
        · exact hpeer
      obtain ⟨x, before, after, hsplit, herase⟩ := NodeList.erase_eq_some hnode
      rw [herase]
      intro hright
      rcases hright.position io it hit with ⟨⟨before', after', hping, -⟩, -⟩ | ⟨-, hpos⟩
      · have hvalue : io ∈ s.pinglist.values := by
          rw [show s.pinglist = before' ++ (it, io) :: after' from hping]
          simp
        exact h.not_mem_peers hvalue (NodeList.mem_values_of_mem hpeer)
      · obtain ⟨before', after', heq, -⟩ := hpos
        rw [peers_setPeers] at heq
        have hnodup := h.indexes.nodup_nodes
        rw [NodeList.nodes_append, hsplit, List.nodup_append] at hnodup
        have hperm : (NodeList.nodes (before ++ (it, x) :: after)).Perm
            (it :: NodeList.nodes (before ++ after)) := List.perm_middle.map Prod.fst
        have hfresh := (List.nodup_cons.mp (hperm.nodup_iff.mp hnodup.2.1)).1
        exact hfresh (heq ▸ by simp)
    · rw [NodeList.erase_eq_none.mpr hnode]
      exact id

/-- **An event that does not fit** ends in undefined behaviour or leaves a handle that is
not right. -/
theorem Sound.not_handlesRight (h : Sound s) {e : Event ι} (hfits : ¬ s.Fits e) :
    ¬ HandlesRight (s.handle e) := by
  cases e with
  | serverConnect io => exact h.not_handlesRight_serverConnect hfits
  | serverDisconnect io => exact h.not_handlesRight_serverDisconnect hfits
  | readError io =>
      rw [IoLists.handle, h.pingErase_of_peer (not_not.mp hfits)]
      exact id
  | write io now isDisconnectRes hasUuid throws =>
      rw [IoLists.handle, IoLists.connectionWriteCallback, IoLists.pingMove2back,
        h.pingErase_of_peer (not_not.mp hfits)]
      exact id
  | accept io now => exact absurd trivial hfits
  | pingtime now => exact absurd trivial hfits
  | foreachBegin => exact absurd trivial hfits
  | foreachNext k => exact absurd trivial hfits

/-! ### Runs -/

/-- The invariant of a run without undefined behaviour. -/
def SoundStep : Option (IoLists ι) → Prop
  | none => False
  | some s => Sound s

/-- **A step** keeps the handles right exactly if its event fits. -/
theorem Sound.step_iff (h : Sound s) (e : Event ι) :
    HandlesRight (step (some s) e) ↔ StepFits (some s) e := by
  rw [step, StepFits]
  cases henabled : e.enabled s with
  | false => exact iff_of_true h.membership fun htrue => absurd htrue Bool.false_ne_true
  | true =>
      rw [if_pos rfl]
      constructor
      · intro hright _
        by_contra hfits
        exact h.not_handlesRight hfits hright
      · intro hfits
        obtain ⟨s', heq, hsound⟩ := h.handle henabled (hfits rfl)
        rw [heq]
        exact hsound.membership

/-- Every step that fits is sound. -/
theorem Sound.soundStep (h : Sound s) {e : Event ι} (hfits : StepFits (some s) e) :
    SoundStep (step (some s) e) := by
  rw [step]
  cases henabled : e.enabled s with
  | false => exact h
  | true =>
      obtain ⟨s', heq, hsound⟩ := h.handle henabled (hfits henabled)
      rw [if_pos rfl, heq]
      exact hsound

/-- **The handles are right** in every state of a run exactly if all its events fit. -/
theorem membership_iff (es : List (Event ι)) :
    Always step HandlesRight (some new) es ↔ StepsMeet step StepFits (some new) es := by
  refine always_iff_stepsMeet (I := SoundStep) ?_ ?_ sound_new sound_new.membership
  · rintro (_ | s) e hI - hfits
    · exact hI.elim
    · exact Sound.soundStep hI hfits
  · rintro (_ | s) e hI -
    · exact hI.elim
    · exact Sound.step_iff hI e

/-- A client that sends a serverconnect frame, and then a frame is written to it:
`ping_move2back` erases the iterator of the peer list from the ping list. -/
theorem not_membership_write_peer :
    ¬ Always step HandlesRight (some (new : IoLists Unit))
      [.accept () 0, .serverConnect (), .write () 1 false false false] := by
  intro h
  exact h.last

end IoLists

end Yijian

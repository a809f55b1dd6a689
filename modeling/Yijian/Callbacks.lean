import Yijian.ClientNumbers
import Yijian.Lib.NodeMap

/-!
# The Callbacks of a Client

`netyi` keeps the callbacks of an application in a map: under the number of the request that
they wait for, or under one of four fixed keys. `put_map` and the two `put_map_send` register a
callback, the latter two with the lock held from before `client_send` on. `call_map` looks a
callback up with the lock held, calls it without the lock, and erases it with the lock held again
if the callback says so, through the iterator that it found before the call.

The steps here are the sections between taking and giving back the lock; a `put_map_send` is two,
so that others are seen to wait for the lock between them. Any number of callbacks may be running,
and everything may happen while they run: also what a callback does itself.

Each registration has a number, which tells two of the same function apart. `latest` and `stopped`
are the history: the last registration under each key, and the registrations whose callback has
left `isStop` true.

## Main results

* `MapInv.due_register`: the callback that waits under a key is the one registered last.
* `NetyiInv.step`: as long as callbacks stop only themselves, the map holds exactly the last
  registrations that have not stopped.
* `keepsCallbacks_iff`: what a step needs so that no callback is lost.
* `callbacks_kept_iff`: the runs that lose no callback.
* `not_callbacks_kept`: connecting from inside the callback of a login.
-/

namespace Yijian

open Runs

/-! ### Keys -/

/-- `enum Session_ID`. -/
inductive SessionID
  | registLoginConnect
  | logoutDisconnect
  | acceptUnreadMsg
  | userNoti
deriving DecidableEq, Repr

/-- The value of an enumerator. -/
def SessionID.key : SessionID → ℤ
  | registLoginConnect => -1
  | logoutDisconnect => -2
  | acceptUnreadMsg => -3
  | userNoti => -4

/-- The key with which the net callback calls `call_map`. -/
def netKey (sp : Buffer) : ℤ :=
  if sp.datatype ∈ [ChatType.loginnoti.code, ChatType.addfriendnoti.code,
      ChatType.addfriendauthorizenoti.code] then
    SessionID.userNoti.key
  else if sp.datatype = ChatType.nodemessagenoti.code then
    SessionID.acceptUnreadMsg.key
  else if sp.datatype ∈ [ChatType.registorres.code, ChatType.loginres.code,
      ChatType.clientconnectres.code] then
    SessionID.registLoginConnect.key
  else if sp.datatype ∈ [ChatType.logoutres.code, ChatType.clientdisconnectres.code] then
    SessionID.logoutDisconnect.key
  else
    sp.sessionId

/-! ### The client -/

variable {φ : Type}

/-- What is registered: a `std::function`, which may be empty. -/
structure Registration (φ : Type) where
  func : Option φ
  number : ℕ

/-- A `call_map` between its two sections: the frame, the iterator, and the function that was
copied, with its registration. -/
structure CallMap (φ : Type) where
  sp : Buffer
  it : NodeMap.Iterator ℤ
  lfunc : φ
  number : ℕ

/-- A request that `put_map_send` has sent: the frame, and the registration that goes with it. -/
structure SentRequest where
  sp : Buffer
  key : ℤ
  number : ℕ

/-- The client. `putting` is the registration for which the lock is held. -/
structure Netyi (φ : Type) where
  sessionidCbfuncMap : NodeMap ℤ (Registration φ)
  putting : Option (ℤ × Option φ)
  sessionid : ℕ
  buffersP : List Buffer
  calls : List (CallMap φ)
  registered : ℕ
  latest : ℤ → Option (Registration φ)
  stopped : List ℕ
  sent : List SentRequest

/-- A client without callbacks. -/
def Netyi.new (sessionid : ℕ) : Netyi φ where
  sessionidCbfuncMap := NodeMap.empty
  putting := none
  sessionid := sessionid
  buffersP := []
  calls := []
  registered := 0
  latest := fun _ => none
  stopped := []
  sent := []

/-- `sessionid_cbfunc_map_[sessionid] = func`. -/
def Netyi.register (s : Netyi φ) (sessionid : ℤ) (func : Option φ) : Netyi φ :=
  { s with
    sessionidCbfuncMap := s.sessionidCbfuncMap.assign sessionid ⟨func, s.registered⟩
    registered := s.registered + 1
    latest := Function.update s.latest sessionid (some ⟨func, s.registered⟩) }

/-- `client_send` in a `put_map_send` that will register `func` under `key`. -/
def Netyi.clientSend (s : Netyi φ) (sp : Buffer) (key : ℤ) (func : Option φ) : Netyi φ :=
  { s with
    sessionid := (Yijian.clientSend s.sessionid sp).2
    buffersP := s.buffersP ++ [(Yijian.clientSend s.sessionid sp).1]
    putting := some (key, func)
    sent := s.sent ++ [⟨(Yijian.clientSend s.sessionid sp).1, key, s.registered⟩] }

/-- `put_map`. -/
def Netyi.putMap (s : Netyi φ) (sessionid : ℤ) (func : Option φ) : Netyi φ :=
  if s.putting.isSome then s else s.register sessionid func

/-- `put_map_send(sp, func)`, up to and with `client_send`: the key is the number that is sent. -/
def Netyi.putMapSend (s : Netyi φ) (sp : Buffer) (func : Option φ) : Netyi φ :=
  if s.putting.isSome then s else s.clientSend sp s.sessionid func

/-- `put_map_send(sessionid, sp, func)`, up to and with `client_send`. -/
def Netyi.putMapSendKey (s : Netyi φ) (sessionid : ℤ) (sp : Buffer) (func : Option φ) : Netyi φ :=
  if s.putting.isSome then s else s.clientSend sp sessionid func

/-- The rest of the two: the callback is registered and the lock is given back. -/
def Netyi.putMapSent (s : Netyi φ) : Netyi φ :=
  match s.putting with
  | none => s
  | some (key, func) => { s.register key func with putting := none }

/-- What `call_map` finds for a frame: nothing, or the callback that it calls. -/
def Netyi.found (s : Netyi φ) (sp : Buffer) : Option (CallMap φ) :=
  match s.sessionidCbfuncMap.slot (netKey sp) with
  | none => none
  | some (node, r) => r.func.map fun lfunc => ⟨sp, ⟨netKey sp, node⟩, lfunc, r.number⟩

/-- The first section of `call_map`, and the beginning of the call. -/
def Netyi.callMap (s : Netyi φ) (sp : Buffer) : Netyi φ :=
  if s.putting.isSome then s else { s with calls := s.calls ++ (s.found sp).toList }

/-- The end of the call `i`, and the second section of `call_map`. -/
def Netyi.called (s : Netyi φ) (i : ℕ) (isStop : Bool) : Netyi φ :=
  match s.calls[i]? with
  | none => s
  | some c =>
      if isStop then
        if s.putting.isSome then s
        else
          { s with
            sessionidCbfuncMap := (s.sessionidCbfuncMap.erase c.it).getD s.sessionidCbfuncMap
            calls := s.calls.eraseIdx i
            stopped := c.number :: s.stopped }
      else { s with calls := s.calls.eraseIdx i }

/-- The steps of a client. `connected` is what the read callback does on a ClientConnectRes. -/
inductive NetyiEvent (φ : Type)
  | putMap (sessionid : ℤ) (func : Option φ)
  | putMapSend (sp : Buffer) (func : Option φ)
  | putMapSendKey (sessionid : ℤ) (sp : Buffer) (func : Option φ)
  | putMapSent
  | callMap (sp : Buffer)
  | called (i : ℕ) (isStop : Bool)
  | connected (sessionid : ℕ)

/-- One step. -/
def netyiStep (s : Netyi φ) : NetyiEvent φ → Netyi φ
  | .putMap sessionid func => s.putMap sessionid func
  | .putMapSend sp func => s.putMapSend sp func
  | .putMapSendKey sessionid sp func => s.putMapSendKey sessionid sp func
  | .putMapSent => s.putMapSent
  | .callMap sp => s.callMap sp
  | .called i isStop => s.called i isStop
  | .connected sessionid => { s with sessionid := sessionid }

/-! ### The statement -/

/-- The callback that waits under a key: the last one that was registered, unless it has
stopped. -/
def Netyi.due (s : Netyi φ) (key : ℤ) : Option φ :=
  (s.latest key).bind fun r => if r.number ∈ s.stopped then none else r.func

/-- No callback is lost in a step. A frame calls the callback that waits under its key; the
requests that were sent under this key have their callbacks registered by then, or later ones;
and a callback that stops takes itself out of the map, and no other registration. -/
def KeepsCallbacks (s : Netyi φ) : NetyiEvent φ → Prop
  | .callMap sp =>
      s.putting = none →
        (s.found sp).map CallMap.lfunc = s.due (netKey sp) ∧
        ∀ p ∈ s.sent, p.key = netKey sp →
          ∃ r, s.latest p.key = some r ∧ p.number ≤ r.number
  | .called i true =>
      s.putting = none → ∀ c, s.calls[i]? = some c →
        ∃ m, s.sessionidCbfuncMap.erase c.it = some m ∧
          ∀ key node r, s.sessionidCbfuncMap.slot key = some (node, r) → r.number ≠ c.number →
            m.slot key = some (node, r)
  | _ => True

/-- A callback that stops is still the last one that was registered under its key, and has not
been stopped by another call. -/
def StopsLatest (s : Netyi φ) : NetyiEvent φ → Prop
  | .called i true =>
      s.putting = none → ∀ c, s.calls[i]? = some c →
        (s.latest c.it.key).map Registration.number = some c.number ∧ c.number ∉ s.stopped
  | _ => True

/-! ### The map and the history -/

/-- The map holds the last registrations that have not stopped, and running calls know the node
of theirs. -/
structure MapInv (s : Netyi φ) : Prop where
  latest_of_slot : ∀ {key node r}, s.sessionidCbfuncMap.slot key = some (node, r) →
    s.latest key = some r ∧ r.number ∉ s.stopped
  slot_of_latest : ∀ {key r}, s.latest key = some r → r.number ∉ s.stopped →
    ∃ node, s.sessionidCbfuncMap.slot key = some (node, r)
  number_lt : ∀ {key r}, s.latest key = some r → r.number < s.registered
  number_inj : ∀ {key key' r r'}, s.latest key = some r → s.latest key' = some r' →
    r.number = r'.number → key = key'
  stopped_lt : ∀ {number}, number ∈ s.stopped → number < s.registered
  call_lt : ∀ {c}, c ∈ s.calls → c.number < s.registered
  call_key : ∀ {c}, c ∈ s.calls → ∀ {key r}, s.latest key = some r → r.number = c.number →
    key = c.it.key
  call_node : ∀ {c}, c ∈ s.calls → ∀ {node r},
    s.sessionidCbfuncMap.slot c.it.key = some (node, r) → r.number = c.number → node = c.it.node

/-- The requests that were sent have their callbacks registered, but for the one whose
`put_map_send` holds the lock. -/
def SentInv (s : Netyi φ) : Prop :=
  ∀ p ∈ s.sent, (∃ r, s.latest p.key = some r ∧ p.number ≤ r.number) ∨
    p.number = s.registered ∧ ∃ func, s.putting = some (p.key, func)

/-- What every run keeps whose callbacks stop as the latest. -/
structure NetyiInv (s : Netyi φ) : Prop where
  map : MapInv s
  sent : SentInv s

/-- No callback waits at the start. -/
theorem netyiInv_new (sessionid : ℕ) : NetyiInv (Netyi.new sessionid : Netyi φ) where
  map := by
    constructor <;> simp [Netyi.new]
  sent := by
    intro p hp
    cases hp

/-- The invariant is about the map, the running calls and the history. -/
theorem MapInv.frame {s s' : Netyi φ} (h : MapInv s)
    (hmap : s'.sessionidCbfuncMap = s.sessionidCbfuncMap) (hcalls : s'.calls = s.calls)
    (hregistered : s'.registered = s.registered) (hlatest : s'.latest = s.latest)
    (hstopped : s'.stopped = s.stopped) : MapInv s' := by
  constructor
  all_goals simp only [hmap, hcalls, hregistered, hlatest, hstopped]
  · exact h.latest_of_slot
  · exact h.slot_of_latest
  · exact h.number_lt
  · exact h.number_inj
  · exact h.stopped_lt
  · exact h.call_lt
  · exact h.call_key
  · exact h.call_node

/-- Under the invariant a frame calls the callback that waits under its key. -/
theorem MapInv.found_eq {s : Netyi φ} (h : MapInv s) (sp : Buffer) :
    (s.found sp).map CallMap.lfunc = s.due (netKey sp) := by
  rw [Netyi.found, Netyi.due]
  cases hslot : s.sessionidCbfuncMap.slot (netKey sp) with
  | none =>
      cases hlatest : s.latest (netKey sp) with
      | none => rfl
      | some r =>
          by_cases hstop : r.number ∈ s.stopped
          · simp [hstop]
          · obtain ⟨node, hnode⟩ := h.slot_of_latest hlatest hstop
            rw [hslot] at hnode
            cases hnode
  | some p =>
      obtain ⟨node, r⟩ := p
      obtain ⟨hlatest, hstop⟩ := h.latest_of_slot hslot
      simp only [hlatest, Option.bind_some, if_neg hstop]
      cases r.func <;> rfl

/-! ### Steps -/

/-- The last registrations after a registration. -/
theorem latest_register {s : Netyi φ} {sessionid key : ℤ} {func : Option φ} {r : Registration φ}
    (h : (s.register sessionid func).latest key = some r) :
    key = sessionid ∧ r = ⟨func, s.registered⟩ ∨ key ≠ sessionid ∧ s.latest key = some r := by
  by_cases hkey : key = sessionid
  · subst hkey
    simp only [Netyi.register, Function.update_self, Option.some.injEq] at h
    exact Or.inl ⟨rfl, h.symm⟩
  · simp only [Netyi.register, Function.update_of_ne hkey] at h
    exact Or.inr ⟨hkey, h⟩

/-- The map after a registration. -/
theorem slot_register {s : Netyi φ} {sessionid key : ℤ} {func : Option φ} {node : ℕ}
    {r : Registration φ}
    (h : (s.register sessionid func).sessionidCbfuncMap.slot key = some (node, r)) :
    key = sessionid ∧ r = ⟨func, s.registered⟩ ∨
      key ≠ sessionid ∧ s.sessionidCbfuncMap.slot key = some (node, r) := by
  by_cases hkey : key = sessionid
  · subst hkey
    simp only [Netyi.register, NodeMap.slot_assign_self, Option.some.injEq, Prod.mk.injEq] at h
    exact Or.inl ⟨rfl, h.2.symm⟩
  · simp only [Netyi.register, NodeMap.slot_assign_of_ne _ hkey] at h
    exact Or.inr ⟨hkey, h⟩

/-- **A registration** is the latest under its key, in the node that the key has. -/
theorem MapInv.register {s : Netyi φ} (h : MapInv s) (sessionid : ℤ) (func : Option φ) :
    MapInv (s.register sessionid func) where
  latest_of_slot := by
    intro key node r hslot
    rcases slot_register hslot with ⟨rfl, rfl⟩ | ⟨hkey, hslot⟩
    · exact ⟨Function.update_self _ _ _, fun hmem => Nat.lt_irrefl _ (h.stopped_lt hmem)⟩
    · simp only [Netyi.register, Function.update_of_ne hkey]
      exact h.latest_of_slot hslot
  slot_of_latest := by
    intro key r hlatest hstop
    rcases latest_register hlatest with ⟨rfl, rfl⟩ | ⟨hkey, hlatest⟩
    · exact ⟨_, NodeMap.slot_assign_self _ _ _⟩
    · simp only [Netyi.register, NodeMap.slot_assign_of_ne _ hkey]
      exact h.slot_of_latest hlatest hstop
  number_lt := by
    intro key r hlatest
    rcases latest_register hlatest with ⟨-, rfl⟩ | ⟨-, hlatest⟩
    · exact Nat.lt_succ_self _
    · exact Nat.lt_succ_of_lt (h.number_lt hlatest)
  number_inj := by
    intro key key' r r' hlatest hlatest' hnumber
    rcases latest_register hlatest with ⟨hkey, hr⟩ | ⟨-, hold⟩ <;>
      rcases latest_register hlatest' with ⟨hkey', hr'⟩ | ⟨-, hold'⟩
    · exact hkey.trans hkey'.symm
    · rw [hr] at hnumber
      exact absurd hnumber (Nat.ne_of_gt (h.number_lt hold'))
    · rw [hr'] at hnumber
      exact absurd hnumber (Nat.ne_of_lt (h.number_lt hold))
    · exact h.number_inj hold hold' hnumber
  stopped_lt := fun hmem => Nat.lt_succ_of_lt (h.stopped_lt hmem)
  call_lt := fun hc => Nat.lt_succ_of_lt (h.call_lt hc)
  call_key := by
    intro c hc key r hlatest hnumber
    rcases latest_register hlatest with ⟨rfl, rfl⟩ | ⟨-, hlatest⟩
    · exact absurd hnumber (Nat.ne_of_gt (h.call_lt hc))
    · exact h.call_key hc hlatest hnumber
  call_node := by
    intro c hc node r hslot hnumber
    rcases slot_register hslot with ⟨-, rfl⟩ | ⟨-, hslot⟩
    · exact absurd hnumber (Nat.ne_of_gt (h.call_lt hc))
    · exact h.call_node hc hslot hnumber

/-- What is registered waits from then on, and the other keys keep their callbacks. -/
theorem MapInv.due_register {s : Netyi φ} (h : MapInv s) (sessionid key : ℤ) (func : Option φ) :
    (s.register sessionid func).due key = if key = sessionid then func else s.due key := by
  rw [Netyi.due]
  by_cases hkey : key = sessionid
  · subst hkey
    have hnew : s.registered ∉ s.stopped := fun hmem => Nat.lt_irrefl _ (h.stopped_lt hmem)
    simp only [Netyi.register, Function.update_self, Option.bind_some, if_true]
    exact if_neg hnew
  · simp only [Netyi.register, Function.update_of_ne hkey, if_neg hkey]
    rfl

/-- A registration keeps the promises of the requests that were sent before. -/
theorem latest_register_of_le {s : Netyi φ} (h : MapInv s) {sessionid key : ℤ} {func : Option φ}
    {number : ℕ} (hle : ∃ r, s.latest key = some r ∧ number ≤ r.number) :
    ∃ r, (s.register sessionid func).latest key = some r ∧ number ≤ r.number := by
  obtain ⟨r, hlatest, hnumber⟩ := hle
  by_cases hkey : key = sessionid
  · subst hkey
    exact ⟨_, Function.update_self _ _ _,
      Nat.le_of_lt (Nat.lt_of_le_of_lt hnumber (h.number_lt hlatest))⟩
  · exact ⟨r, (Function.update_of_ne hkey _ _).trans hlatest, hnumber⟩

/-- A callback under a fixed key keeps the invariant. -/
theorem NetyiInv.putMap {s : Netyi φ} (h : NetyiInv s) (sessionid : ℤ) (func : Option φ) :
    NetyiInv (s.putMap sessionid func) := by
  rw [Netyi.putMap]
  split
  · exact h
  · rename_i hfree
    refine ⟨h.map.register sessionid func, fun p hp => Or.inl ?_⟩
    rcases h.sent p hp with hle | ⟨-, func', hput⟩
    · exact latest_register_of_le h.map hle
    · rw [hput] at hfree
      exact absurd rfl hfree

/-- A request that is sent waits for its registration. -/
theorem NetyiInv.clientSend {s : Netyi φ} (h : NetyiInv s) (hfree : s.putting.isSome ≠ true)
    (sp : Buffer) (key : ℤ) (func : Option φ) : NetyiInv (s.clientSend sp key func) := by
  refine ⟨h.map.frame rfl rfl rfl rfl rfl, fun p hp => ?_⟩
  rcases List.mem_append.mp hp with hp | hp
  · rcases h.sent p hp with hle | ⟨-, func', hput⟩
    · exact Or.inl hle
    · rw [hput] at hfree
      exact absurd rfl hfree
  · obtain rfl := List.mem_singleton.mp hp
    exact Or.inr ⟨rfl, func, rfl⟩

/-- A request that is sent keeps the invariant. -/
theorem NetyiInv.putMapSent {s : Netyi φ} (h : NetyiInv s) : NetyiInv s.putMapSent := by
  rw [Netyi.putMapSent]
  cases hput : s.putting with
  | none => exact h
  | some p =>
      obtain ⟨key, func⟩ := p
      have hmap := h.map.register key func
      refine ⟨hmap.frame rfl rfl rfl rfl rfl, fun p hp => Or.inl ?_⟩
      rcases h.sent p hp with hle | ⟨hnumber, func', hput'⟩
      · exact latest_register_of_le h.map hle
      · rw [hput, Option.some.injEq, Prod.mk.injEq] at hput'
        obtain ⟨rfl, -⟩ := hput'
        exact ⟨_, Function.update_self _ _ _, Nat.le_of_eq hnumber⟩

/-- A call knows the node and the registration of its callback. -/
theorem MapInv.call {s : Netyi φ} (h : MapInv s) (sp : Buffer) :
    MapInv { s with calls := s.calls ++ (s.found sp).toList } := by
  have hcall : ∀ c ∈ (s.found sp).toList, ∃ r, s.latest c.it.key = some r ∧
      r.number = c.number ∧
      s.sessionidCbfuncMap.slot c.it.key = some (c.it.node, r) := by
    intro c hc
    rw [Option.mem_toList, Netyi.found] at hc
    cases hslot : s.sessionidCbfuncMap.slot (netKey sp) with
    | none =>
        rw [hslot] at hc
        cases hc
    | some p =>
        obtain ⟨node, r⟩ := p
        rw [hslot] at hc
        obtain ⟨lfunc, -, rfl⟩ := Option.map_eq_some_iff.mp hc
        exact ⟨r, (h.latest_of_slot hslot).1, rfl, hslot⟩
  refine ⟨h.latest_of_slot, h.slot_of_latest, h.number_lt, h.number_inj, h.stopped_lt, ?_, ?_, ?_⟩
  · intro c hc
    rcases List.mem_append.mp hc with hc | hc
    · exact h.call_lt hc
    · obtain ⟨r, hlatest, hnumber, -⟩ := hcall c hc
      exact hnumber ▸ h.number_lt hlatest
  · intro c hc key r hlatest hnumber
    rcases List.mem_append.mp hc with hc | hc
    · exact h.call_key hc hlatest hnumber
    · obtain ⟨r', hlatest', hnumber', -⟩ := hcall c hc
      exact h.number_inj hlatest hlatest' (hnumber.trans hnumber'.symm)
  · intro c hc node r hslot hnumber
    rcases List.mem_append.mp hc with hc | hc
    · exact h.call_node hc hslot hnumber
    · obtain ⟨r', -, -, hslot'⟩ := hcall c hc
      rw [hslot', Option.some.injEq, Prod.mk.injEq] at hslot
      exact hslot.1.symm

/-- The end of a call that does not stop its callback. -/
theorem MapInv.eraseCall {s : Netyi φ} (h : MapInv s) (i : ℕ) :
    MapInv { s with calls := s.calls.eraseIdx i } where
  latest_of_slot := h.latest_of_slot
  slot_of_latest := h.slot_of_latest
  number_lt := h.number_lt
  number_inj := h.number_inj
  stopped_lt := h.stopped_lt
  call_lt := fun hc => h.call_lt (List.mem_of_mem_eraseIdx hc)
  call_key := fun hc => h.call_key (List.mem_of_mem_eraseIdx hc)
  call_node := fun hc => h.call_node (List.mem_of_mem_eraseIdx hc)

/-- The iterator of a call leads to its registration exactly if this is the last one under its
key and has not stopped. -/
theorem MapInv.slot_iff {s : Netyi φ} (h : MapInv s) {c : CallMap φ} (hc : c ∈ s.calls) :
    (∃ r, s.sessionidCbfuncMap.slot c.it.key = some (c.it.node, r) ∧ r.number = c.number) ↔
      (s.latest c.it.key).map Registration.number = some c.number ∧ c.number ∉ s.stopped := by
  constructor
  · rintro ⟨r, hslot, hnumber⟩
    obtain ⟨hlatest, hstop⟩ := h.latest_of_slot hslot
    rw [hlatest, Option.map_some, hnumber]
    exact ⟨rfl, hnumber ▸ hstop⟩
  · rintro ⟨hlatest, hstop⟩
    obtain ⟨r, hr, hnumber⟩ := Option.map_eq_some_iff.mp hlatest
    obtain ⟨node, hslot⟩ := h.slot_of_latest hr (hnumber.symm ▸ hstop)
    have hnode := h.call_node hc hslot hnumber
    exact ⟨r, hnode ▸ hslot, hnumber⟩

/-- **A callback that stops as the latest** takes its entry out of the map. -/
theorem MapInv.stop {s : Netyi φ} (h : MapInv s) {c : CallMap φ} (hc : c ∈ s.calls)
    (hlatest : (s.latest c.it.key).map Registration.number = some c.number) :
    MapInv { s with
      sessionidCbfuncMap := { s.sessionidCbfuncMap with
        slot := Function.update s.sessionidCbfuncMap.slot c.it.key none }
      stopped := c.number :: s.stopped } := by
  have hslot' : ∀ {key node r},
      Function.update s.sessionidCbfuncMap.slot c.it.key none key = some (node, r) →
        key ≠ c.it.key ∧ s.sessionidCbfuncMap.slot key = some (node, r) := by
    intro key node r hslot
    by_cases hkey : key = c.it.key
    · subst hkey
      rw [Function.update_self] at hslot
      cases hslot
    · rw [Function.update_of_ne hkey] at hslot
      exact ⟨hkey, hslot⟩
  refine ⟨?_, ?_, h.number_lt, h.number_inj, ?_, h.call_lt, h.call_key, ?_⟩
  · intro key node r hslot
    obtain ⟨hkey, hslot⟩ := hslot' hslot
    obtain ⟨hr, hstop⟩ := h.latest_of_slot hslot
    refine ⟨hr, fun hmem => ?_⟩
    rcases List.mem_cons.mp hmem with hnumber | hmem
    · exact hkey (h.call_key hc hr hnumber)
    · exact hstop hmem
  · intro key r hr hstop
    have hkey : key ≠ c.it.key := by
      rintro rfl
      rw [hr, Option.map_some, Option.some.injEq] at hlatest
      exact hstop (hlatest ▸ List.mem_cons_self)
    simp only [Function.update_of_ne hkey]
    exact h.slot_of_latest hr fun hmem => hstop (List.mem_cons_of_mem _ hmem)
  · intro number hmem
    rcases List.mem_cons.mp hmem with rfl | hmem
    · exact h.call_lt hc
    · exact h.stopped_lt hmem
  · intro c' hc' node r hslot
    exact h.call_node hc' (hslot' hslot).2

/-- A call keeps the invariant, if it stops no other callback. -/
theorem NetyiInv.called {s : Netyi φ} (h : NetyiInv s) {i : ℕ} {isStop : Bool}
    (hstop : StopsLatest s (.called i isStop)) : NetyiInv (s.called i isStop) := by
  rw [Netyi.called]
  cases hcall : s.calls[i]? with
  | none => exact h
  | some c =>
      have hc := List.mem_of_getElem? hcall
      cases isStop with
      | false => exact ⟨h.map.eraseCall i, h.sent⟩
      | true =>
          simp only [if_true]
          split
          · exact h
          · rename_i hfree
            have hput : s.putting = none := by simpa using hfree
            have howns := hstop hput c hcall
            obtain ⟨r, hslot, -⟩ := (h.map.slot_iff hc).mpr howns
            rw [NodeMap.erase_eq_some_iff.mpr ⟨⟨r, hslot⟩, rfl⟩, Option.getD_some]
            exact ⟨(h.map.stop hc howns.1).eraseCall i, h.sent⟩

/-- **One step.** As long as callbacks stop as the latest, the map holds the last registrations
that have not stopped. -/
theorem NetyiInv.step {s : Netyi φ} {e : NetyiEvent φ} (h : NetyiInv s) (hstop : StopsLatest s e) :
    NetyiInv (netyiStep s e) := by
  cases e with
  | putMap sessionid func => exact h.putMap sessionid func
  | putMapSend sp func =>
      rw [netyiStep, Netyi.putMapSend]
      split
      · exact h
      · rename_i hfree
        exact h.clientSend hfree sp _ func
  | putMapSendKey sessionid sp func =>
      rw [netyiStep, Netyi.putMapSendKey]
      split
      · exact h
      · rename_i hfree
        exact h.clientSend hfree sp _ func
  | putMapSent => exact h.putMapSent
  | callMap sp =>
      rw [netyiStep, Netyi.callMap]
      split
      · exact h
      · exact ⟨h.map.call sp, h.sent⟩
  | called i isStop => exact h.called hstop
  | connected sessionid =>
      exact ⟨h.map.frame rfl rfl rfl rfl rfl, h.sent⟩

/-- **What a step needs.** A step loses no callback exactly if a callback that stops is still the
last one under its key. -/
theorem keepsCallbacks_iff {s : Netyi φ} (h : NetyiInv s) (e : NetyiEvent φ) :
    KeepsCallbacks s e ↔ StopsLatest s e := by
  cases e with
  | callMap sp =>
      refine iff_of_true (fun hput => ⟨h.map.found_eq sp, fun p hp _ => ?_⟩) trivial
      rcases h.sent p hp with hle | ⟨-, func, hput'⟩
      · exact hle
      · rw [hput] at hput'
        cases hput'
  | called i isStop =>
      cases isStop with
      | false => exact Iff.rfl
      | true =>
          refine forall₃_congr fun _ c hcall => ?_
          have hc := List.mem_of_getElem? hcall
          rw [← h.map.slot_iff hc]
          constructor
          · rintro ⟨m, hm, hkept⟩
            obtain ⟨⟨r, hslot⟩, rfl⟩ := NodeMap.erase_eq_some_iff.mp hm
            refine ⟨r, hslot, ?_⟩
            by_contra hnumber
            have hgone := hkept _ _ _ hslot hnumber
            simp only [Function.update_self] at hgone
            cases hgone
          · rintro ⟨r, hslot, hnumber⟩
            refine ⟨_, NodeMap.erase_eq_some_iff.mpr ⟨⟨r, hslot⟩, rfl⟩, ?_⟩
            intro key node r' hslot' hne
            have hkey : key ≠ c.it.key := by
              rintro rfl
              rw [hslot, Option.some.injEq, Prod.mk.injEq] at hslot'
              exact hne (hslot'.2 ▸ hnumber)
            simp only [Function.update_of_ne hkey]
            exact hslot'
  | putMap _ _ | putMapSend _ _ | putMapSendKey _ _ _ | putMapSent | connected _ => exact Iff.rfl

/-- **Client callbacks, exactly.** A run of registrations and deliveries loses no callback if and
only if every callback that stops is by then still the last one that was registered under its
key, and has not been stopped by another call. -/
theorem callbacks_kept_iff (sessionid : ℕ) (es : List (NetyiEvent φ)) :
    StepsMeet netyiStep KeepsCallbacks (Netyi.new sessionid) es ↔
      StepsMeet netyiStep StopsLatest (Netyi.new sessionid) es :=
  stepsMeet_iff_of_inv (I := NetyiInv) (fun _ _ h hstop => h.step hstop)
    (fun _ e h => keepsCallbacks_iff h e) (netyiInv_new sessionid)

/-- A frame of the given type and number. -/
def frameOf (type : ChatType) (sessionid : ℕ) : Buffer :=
  { Buffer.new Uninit.zero with dataType := type.code, sessionId := sessionid }

/-- The callback 0 of a login connects, with the callback 1; then it stops, and takes the
callback 1 out of the map. -/
theorem not_callbacks_kept :
    ¬ StepsMeet netyiStep KeepsCallbacks (Netyi.new 0 : Netyi ℕ)
      [.putMapSendKey SessionID.registLoginConnect.key (frameOf .login 0) (some 0), .putMapSent,
        .callMap (frameOf .loginres 0),
        .putMapSendKey SessionID.registLoginConnect.key (frameOf .clientconnect 0) (some 1),
        .putMapSent, .called 0 true, .callMap (frameOf .clientconnectres 100)] := by
  rintro ⟨-, -, -, -, -, -, hlast, -⟩
  have hfound := (hlast rfl).1
  exact absurd hfound (by decide)

end Yijian

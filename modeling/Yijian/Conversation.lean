import Yijian.Callbacks
import Yijian.Relays

/-!
# Conversations

An application asks through `netyi`, which registers its callback under the number that
`client_send` gives the request. The event loop of the server reads the request, numbers it by
itself and makes a task of it; a worker dispatches the task, and mounts the answer on the
connection, in frames that carry the number of the event loop. The event loop of the client reads
the frames and calls what is registered under their number. In between there are notifications,
which the workers of other connections mount at any time, and which go to fixed keys.

The parts are those of the modules before. What is on its way from one part to the other is kept
in order; the tasks of a connection are dispatched in any order, and all threads take their steps
in any order. A dispatch is one step: the frames that it mounts stay together. The event loop of
the client is one thread: it reads no frame while a callback runs.

## Main results

* `frames_turn`: what a worker mounts on the connection, as the client sees it.
* `talkInv_step`: each request is in one place, and its callback waits for it.
* `conversation`: every answer goes to the callback of its request, and every request is answered
  once.
* `conversation_in_order`: with one worker, which takes the tasks in order, the answers come in the
  order of the requests.
-/

namespace Yijian

open Attempts Runs

variable {φ : Type}

/-! ### What the client sees -/

/-- What the client reads of a frame. -/
def Buffer.seen (f : Buffer) : Buffer := deliver (Buffer.new Uninit.zero) f.wire

/-- The frame ends an answer to the request with the number. -/
def Buffer.answers (sp : Buffer) (k : ℕ) : Bool := netKey sp = k && sp.isLastBuffer

/-- The key is read from the header. -/
theorem netKey_congr {sp sp' : Buffer} (h : sp.view = sp'.view) : netKey sp = netKey sp' := by
  simp only [Buffer.view, FrameView.mk.injEq] at h
  rw [netKey, netKey, h.1, h.2.2.1]

/-- Whether a frame answers a request is read from the header. -/
theorem answers_congr {sp sp' : Buffer} (h : sp.view = sp'.view) (k : ℕ) :
    sp.answers k = sp'.answers k := by
  have hlast : sp.isLastBuffer = sp'.isLastBuffer := congrArg FrameView.isLast h
  rw [Buffer.answers, Buffer.answers, netKey_congr h, hlast]

/-- A frame of a response. -/
structure Piece (type : ChatType) (sessionid : ℕ) (isLast : Bool) (f : Buffer) : Prop where
  made : ∃ u c, c.length ≤ 1019 ∧
    f = (Buffer.buffer u type.code c).2.setSessionid sessionid isLast

/-- What the client reads of a frame: the number without its flag, and the rest as it was sent. -/
theorem Piece.view_deliver {type : ChatType} {sessionid : ℕ} {isLast : Bool} {f : Buffer}
    (h : Piece type sessionid isLast f) (hlt : sessionid < 2 ^ 16) :
    ∃ c : List UInt8, ∀ v, (deliver (Buffer.new v) f.wire).view =
      ⟨sessionid % 2 ^ 15, isLast ^^ decide (2 ^ 15 ≤ sessionid), type.code, c.length, c⟩ := by
  obtain ⟨u, c, hc, rfl⟩ := h.made
  exact ⟨c, fun v => deliver_setSessionid u v type.code hlt hc isLast⟩

/-- The client sees the same in every buffer. -/
theorem Piece.sound {type : ChatType} {sessionid : ℕ} {isLast : Bool} {f : Buffer}
    (h : Piece type sessionid isLast f) (hlt : sessionid < 2 ^ 16) (v : Uninit) :
    (deliver (Buffer.new v) f.wire).view = f.seen.view := by
  obtain ⟨c, hview⟩ := h.view_deliver hlt
  exact (hview v).trans (hview Uninit.zero).symm

/-- The client reads the type. -/
theorem Piece.datatype_seen {type : ChatType} {sessionid : ℕ} {isLast : Bool} {f : Buffer}
    (h : Piece type sessionid isLast f) (hlt : sessionid < 2 ^ 16) :
    f.seen.datatype = type.code := by
  obtain ⟨c, hview⟩ := h.view_deliver hlt
  exact congrArg FrameView.type (hview Uninit.zero)

/-- The client reads whether the frame is the last one, below the flag. -/
theorem Piece.isLast_seen {type : ChatType} {sessionid : ℕ} {isLast : Bool} {f : Buffer}
    (h : Piece type sessionid isLast f) (hlt : sessionid < 2 ^ 15) :
    f.seen.isLastBuffer = isLast := by
  obtain ⟨c, hview⟩ := h.view_deliver (hlt.trans (by decide))
  have hlast : f.seen.isLastBuffer = (isLast ^^ decide (2 ^ 15 ≤ sessionid)) :=
    congrArg FrameView.isLast (hview Uninit.zero)
  rw [hlast, decide_eq_false (Nat.not_le.mpr hlt), Bool.xor_false]

/-- The client reads the number, below the flag. -/
theorem Piece.sessionId_seen {type : ChatType} {sessionid : ℕ} {isLast : Bool} {f : Buffer}
    (h : Piece type sessionid isLast f) (hlt : sessionid < 2 ^ 15) :
    f.seen.sessionId = sessionid := by
  obtain ⟨c, hview⟩ := h.view_deliver (hlt.trans (by decide))
  have hid : f.seen.sessionId = sessionid % 2 ^ 15 :=
    congrArg FrameView.sessionid (hview Uninit.zero)
  rw [hid, Nat.mod_eq_of_lt hlt]

/-! ### The frames of a response -/

/-- The frames that `mountBuffer2Node` puts on a write queue for a response. -/
def Response.frames (payload : Response → List UInt8) (u : Response → ℕ → Uninit)
    (sessionid : ℕ) (r : Response) : List Buffer :=
  match yijianBuffer (u r) r.dispatchType.code (payload r) with
  | .error _ => []
  | .ok bufSpV => markFrames sessionid bufSpV

/-- The frames of a response are pieces of it, the last of which is marked. -/
theorem Response.frames_pieces (payload : Response → List UInt8) (u : Response → ℕ → Uninit)
    (sessionid : ℕ) (r : Response) :
    ∃ front last, r.frames payload u sessionid = front ++ [last] ∧
      (∀ f ∈ front, Piece r.dispatchType sessionid false f) ∧
        Piece r.dispatchType sessionid true last := by
  have hpieces : ∀ (cs : List (List UInt8)) (j : ℕ), cs ≠ [] → (∀ c ∈ cs, c.length ≤ 1019) →
      ∃ front last, markFrames sessionid (encodeAll (u r) r.dispatchType.code j cs) =
          front ++ [last] ∧ (∀ f ∈ front, Piece r.dispatchType sessionid false f) ∧
        Piece r.dispatchType sessionid true last := by
    intro cs
    induction cs with
    | nil => exact fun j hne => absurd rfl hne
    | cons c cs ih =>
        intro j _ hcs
        have hc := hcs c List.mem_cons_self
        cases cs with
        | nil =>
            refine ⟨[], _, ?_, fun f hf => absurd hf List.not_mem_nil, ⟨u r j, c, hc, rfl⟩⟩
            rw [encodeAll, encodeAll, markFrames_singleton, List.nil_append]
        | cons c' cs =>
            obtain ⟨front, last, hframes, hfront, hlast⟩ := ih (j + 1) (List.cons_ne_nil _ _)
              fun d hd => hcs d (List.mem_cons_of_mem _ hd)
            rw [encodeAll] at hframes
            refine ⟨(Buffer.buffer (u r j) r.dispatchType.code c).2.setSessionid sessionid false ::
              front, last, ?_, ?_, hlast⟩
            · rw [encodeAll, encodeAll, markFrames_cons_cons, hframes, List.cons_append]
            · rw [List.forall_mem_cons]
              exact ⟨⟨u r j, c, hc, rfl⟩, hfront⟩
  rw [Response.frames, yijianBuffer_eq]
  exact hpieces _ 0 (Chunks.chunks_ne_nil maxlength_pos _)
    fun c hc => Chunks.length_le_of_mem_chunks maxlength_pos hc

/-! ### Where a response goes -/

/-- The answers to a request of this kind go to its number. -/
def ClientRequest.ByNumber (request : ClientRequest) : Prop :=
  missingCheck request.types.1.code = true ∧ request.types.1 ≠ .logout ∧
    request.types.1 ≠ .clientdisconnect

/-- A notification has a fixed key. -/
theorem netKey_of_isNoti {r : Response} (hr : r.isNoti = true) {sp : Buffer}
    (hsp : sp.datatype = r.dispatchType.code) : netKey sp < 0 := by
  rw [netKey, hsp]
  cases r with
  | loginNoti _ | addFriendNoti _ | addFriendAuthorizeNoti _ | nodeMessageNoti _ =>
      simp [Response.dispatchType, ChatType.code, SessionID.key]
  | _ => cases hr

/-- The types that the net callback takes to fixed keys. -/
def fixedTypes : List ChatType :=
  [.loginnoti, .addfriendnoti, .addfriendauthorizenoti, .nodemessagenoti, .registorres, .loginres,
    .clientconnectres, .logoutres, .clientdisconnectres]

/-- A type is fixed if its code is one of the fixed ones. -/
theorem code_mem_fixedTypes {type : ChatType} :
    type.code ∈ fixedTypes.map ChatType.code ↔ type ∈ fixedTypes := by
  cases type <;> decide

/-- Any other type goes to the number of its frames. -/
theorem netKey_of_not_fixed {type : ChatType} (htype : type ∉ fixedTypes) {sp : Buffer}
    (hsp : sp.datatype = type.code) : netKey sp = sp.sessionId := by
  have hcode : sp.datatype ∉ fixedTypes.map ChatType.code := by
    rwa [hsp, code_mem_fixedTypes]
  simp only [fixedTypes, List.map_cons, List.map_nil, List.mem_cons, List.not_mem_nil, or_false,
    not_or] at hcode
  simp [netKey, hcode]

/-- The answers to a request go to its number. -/
theorem ClientRequest.ByNumber.answers {request : ClientRequest} (h : request.ByNumber)
    {r : Response} (hr : r.Answers request) : r.dispatchType ∉ fixedTypes := by
  obtain ⟨hchecked, hlogout, hdisconnect⟩ := h
  have hregister : missingCheck ChatType.registor.code = false := by decide
  have hlogin : missingCheck ChatType.login.code = false := by decide
  have hconnect : missingCheck ChatType.clientconnect.code = false := by decide
  rcases hr with hr | hr
  · rw [hr]
    cases request with
    | register _ => exact absurd (hregister.symm.trans hchecked) Bool.false_ne_true
    | login _ => exact absurd (hlogin.symm.trans hchecked) Bool.false_ne_true
    | clientConnect _ => exact absurd (hconnect.symm.trans hchecked) Bool.false_ne_true
    | logout _ => exact absurd rfl hlogout
    | clientDisConnect _ => exact absurd rfl hdisconnect
    | _ => simp [ClientRequest.types, fixedTypes]
  · rw [hr]
    decide

/-! ### What is on its way to the client -/

/-- The frames go on to the last one of their response. -/
def Continued : List Buffer → Prop
  | [] => True
  | f :: rest =>
      (∀ k : ℕ, netKey f.seen = k → f.seen.isLastBuffer = false →
        ∃ g ∈ rest, g.seen.answers k = true) ∧ Continued rest

/-- Frames behind frames. -/
theorem Continued.append {fs gs : List Buffer} (hfs : Continued fs) (hgs : Continued gs) :
    Continued (fs ++ gs) := by
  induction fs with
  | nil => exact hgs
  | cons f rest ih =>
      refine ⟨fun k hkey hlast => ?_, ih hfs.2⟩
      obtain ⟨g, hg, hk⟩ := hfs.1 k hkey hlast
      exact ⟨g, List.mem_append_left _ hg, hk⟩

/-- What the client knows of the frames on their way to it, wherever it reads them. -/
structure Readable (f : Buffer) : Prop where
  sound : ∀ v, (deliver (Buffer.new v) f.wire).view = f.seen.view
  datatype : f.seen.datatype ≠ ChatType.clientconnectres.code

/-- How many of the frames end an answer to the request with the number. -/
def countEnds (k : ℕ) (fs : List Buffer) : ℕ := fs.countP fun f => f.seen.answers k

/-- The last frames are counted part by part. -/
theorem countEnds_append (k : ℕ) (fs gs : List Buffer) :
    countEnds k (fs ++ gs) = countEnds k fs + countEnds k gs := List.countP_append

section Frames

variable (payload : Response → List UInt8) (u : Response → ℕ → Uninit) {sessionid : ℕ}
  {r : Response}

/-- **The frames of a notification** answer no request. -/
theorem frames_of_isNoti (hr : r.isNoti = true) (hlt : sessionid < 2 ^ 16) :
    Continued (r.frames payload u sessionid) ∧
      (∀ f ∈ r.frames payload u sessionid, Readable f) ∧
        ∀ k, countEnds k (r.frames payload u sessionid) = 0 := by
  obtain ⟨front, last, hframes, hfront, hlast⟩ := r.frames_pieces payload u sessionid
  have hpiece : ∀ f ∈ r.frames payload u sessionid,
      ∃ isLast, Piece r.dispatchType sessionid isLast f := by
    intro f hf
    rw [hframes, List.mem_append, List.mem_singleton] at hf
    rcases hf with hf | rfl
    · exact ⟨false, hfront f hf⟩
    · exact ⟨true, hlast⟩
  have hkey : ∀ f ∈ r.frames payload u sessionid, netKey f.seen < 0 := by
    intro f hf
    obtain ⟨isLast, hf⟩ := hpiece f hf
    exact netKey_of_isNoti hr (hf.datatype_seen hlt)
  have hcontinued : ∀ fs : List Buffer, (∀ f ∈ fs, netKey f.seen < 0) → Continued fs := by
    intro fs hfs
    induction fs with
    | nil => trivial
    | cons f fs ih =>
        rw [List.forall_mem_cons] at hfs
        exact ⟨fun k hk => absurd hfs.1 (by omega), ih hfs.2⟩
  refine ⟨hcontinued _ hkey, fun f hf => ?_, fun k => ?_⟩
  · obtain ⟨isLast, hf⟩ := hpiece f hf
    refine ⟨hf.sound hlt, ?_⟩
    rw [hf.datatype_seen hlt]
    cases r with
    | loginNoti _ | addFriendNoti _ | addFriendAuthorizeNoti _ | nodeMessageNoti _ =>
        simp [Response.dispatchType, ChatType.code]
    | _ => cases hr
  · rw [countEnds, List.countP_eq_zero]
    intro f hf hends
    rw [Buffer.answers, Bool.and_eq_true, decide_eq_true_eq] at hends
    have hneg := hkey f hf
    omega

/-- **The frames of an answer** end it once, under the number that they are marked with. -/
theorem frames_of_answer (hr : r.dispatchType ∉ fixedTypes) (hlt : sessionid < 2 ^ 15) :
    Continued (r.frames payload u sessionid) ∧
      (∀ f ∈ r.frames payload u sessionid, Readable f) ∧
        ∀ k, countEnds k (r.frames payload u sessionid) = if k = sessionid then 1 else 0 := by
  have hlt' : sessionid < 2 ^ 16 := hlt.trans (by decide)
  obtain ⟨front, last, hframes, hfront, hlast⟩ := r.frames_pieces payload u sessionid
  have hkey {isLast : Bool} {f : Buffer} (hf : Piece r.dispatchType sessionid isLast f) :
      netKey f.seen = sessionid := by
    rw [netKey_of_not_fixed hr (hf.datatype_seen hlt'), hf.sessionId_seen hlt]
  have hends {isLast : Bool} {f : Buffer} (hf : Piece r.dispatchType sessionid isLast f) (k : ℕ) :
      f.seen.answers k = (decide (k = sessionid) && isLast) := by
    rw [Buffer.answers, hkey hf, hf.isLast_seen hlt]
    simp [eq_comm]
  have hreadable {isLast : Bool} {f : Buffer} (hf : Piece r.dispatchType sessionid isLast f) :
      Readable f := by
    refine ⟨hf.sound hlt', ?_⟩
    rw [hf.datatype_seen hlt']
    intro hcode
    exact hr (by rw [ChatType.eq_clientconnectres hcode]; decide)
  have hcontinued : ∀ fs : List Buffer, (∀ f ∈ fs, Piece r.dispatchType sessionid false f) →
      Continued (fs ++ [last]) := by
    intro fs hfs
    induction fs with
    | nil =>
        refine ⟨fun k _ hk => ?_, trivial⟩
        rw [hlast.isLast_seen hlt] at hk
        cases hk
    | cons f fs ih =>
        rw [List.forall_mem_cons] at hfs
        refine ⟨fun k hk _ => ⟨last, List.mem_append_right _ (List.mem_singleton_self _), ?_⟩,
          ih hfs.2⟩
        rw [hkey hfs.1] at hk
        rw [hends hlast k, Bool.and_true, decide_eq_true (Int.ofNat_inj.mp hk).symm]
  rw [hframes]
  refine ⟨hcontinued front hfront, fun f hf => ?_, fun k => ?_⟩
  · rw [List.mem_append, List.mem_singleton] at hf
    rcases hf with hf | rfl
    · exact hreadable (hfront f hf)
    · exact hreadable hlast
  · have hzero : countEnds k front = 0 := by
      rw [countEnds, List.countP_eq_zero]
      intro f hf
      rw [hends (hfront f hf), Bool.and_false]
      exact Bool.false_ne_true
    rw [countEnds_append, hzero, Nat.zero_add, countEnds, List.countP_singleton, hends hlast,
      Bool.and_true]
    by_cases hk : k = sessionid
    · rw [if_pos (decide_eq_true hk), if_pos hk]
    · rw [if_neg (by simpa using hk), if_neg hk]

end Frames

/-! ### What a worker mounts -/

/-- The variables of the thread at the end of a dispatch. -/
def DbClient.turn (client : DbClient) (request : ClientRequest) (dataSessionid : ℕ) (t : Turn) :
    Turn :=
  match client.dispatch request dataSessionid t with
  | .ok _ t' => t'
  | .error _ t' => t'

/-- The responses on the requesting connection, which is no peer server. -/
def Turn.onNode (t : Turn) : List Response := t.mounted.flatMap (Mounted.onNode t.peers)

/-- A request of this kind does not change the number of the frames. -/
theorem sessionid_turn (client : DbClient) {request : ClientRequest} (h : request.ByNumber)
    (dataSessionid : ℕ) (info : ConnectInfo) (node : ReadIo) (sessionid : ℕ) :
    (client.turn request dataSessionid (.start info node sessionid 0)).sessionid = sessionid := by
  have hends : Ends (client.dispatch request dataSessionid) (.start info node sessionid 0)
      (fun _ t => t.sessionid = sessionid) fun _ t => t.sessionid = sessionid := by
    simp only [DbClient.dispatch, ends_bind, ends_get]
    cases request.verdict dataSessionid (.start info node sessionid 0) with
    | reject errnum errmsg => exact ends_mountSelf.mpr rfl
    | handle =>
        have hS : request.types.1 = .clientconnect → ∀ s, s = sessionid := by
          intro htype
          have hchecked := h.1
          rw [htype] at hchecked
          exact absurd hchecked (by decide)
        have hstart : (Turn.start info node sessionid 0).Mounts (· = sessionid)
            request.RelaysOnly := ⟨rfl, fun m hm => absurd hm List.not_mem_nil⟩
        exact (keeps_relays_handle hS _ hstart).mono (fun _ _ ht => ht.1) fun _ _ ht => ht.1
  rw [DbClient.turn]
  rw [Ends] at hends
  generalize client.dispatch request dataSessionid (.start info node sessionid 0) = out at hends ⊢
  cases out with
  | ok _ t => exact hends
  | error _ t => exact hends

/-- What is mounted on the connection is one answer and notifications. -/
theorem replied_turn {client : DbClient} {request : ClientRequest} {dataSessionid : ℕ} {t : Turn}
    (h : RepliedOnce request (client.dispatch request dataSessionid) t) :
    (client.turn request dataSessionid t).Replied request := by
  rw [DbClient.turn]
  rw [RepliedOnce, Ends] at h
  generalize client.dispatch request dataSessionid t = out at h ⊢
  cases out with
  | ok _ t' => exact h
  | error _ t' => exact absurd h id

/-- **The frames that a worker mounts** on the connection answer its request once. -/
theorem frames_turn (payload : Response → List UInt8) (u : Response → ℕ → Uninit)
    {request : ClientRequest} (hrequest : request.ByNumber) {t : Turn}
    (hlt : t.sessionid < 2 ^ 15) (h : t.Replied request) :
    Continued (t.onNode.flatMap (Response.frames payload u t.sessionid)) ∧
      (∀ f ∈ t.onNode.flatMap (Response.frames payload u t.sessionid), Readable f) ∧
        ∀ k, countEnds k (t.onNode.flatMap (Response.frames payload u t.sessionid)) =
          if k = t.sessionid then 1 else 0 := by
  obtain ⟨r, hreplies, hr⟩ := h
  have hanswer : ∀ r' ∈ t.onNode, r'.isNoti = false → r'.dispatchType ∉ fixedTypes := by
    intro r' hr' hnoti
    have hmem : r' ∈ t.replies := List.mem_filter.mpr ⟨hr', by rw [hnoti]; rfl⟩
    rw [hreplies, List.mem_singleton] at hmem
    exact hmem ▸ hrequest.answers hr
  have hframes : ∀ rs : List Response,
      (∀ r' ∈ rs, r'.isNoti = false → r'.dispatchType ∉ fixedTypes) →
      Continued (rs.flatMap (Response.frames payload u t.sessionid)) ∧
        (∀ f ∈ rs.flatMap (Response.frames payload u t.sessionid), Readable f) ∧
          ∀ k, countEnds k (rs.flatMap (Response.frames payload u t.sessionid)) =
            if k = t.sessionid then (rs.filter fun r => !r.isNoti).length else 0 := by
    intro rs hrs
    induction rs with
    | nil => exact ⟨trivial, fun f hf => absurd hf List.not_mem_nil, fun k => (ite_self _).symm⟩
    | cons r' rs ih =>
        rw [List.forall_mem_cons] at hrs
        obtain ⟨hcontinued, hreadable, hcount⟩ := ih hrs.2
        have hfirst : Continued (r'.frames payload u t.sessionid) ∧
            (∀ f ∈ r'.frames payload u t.sessionid, Readable f) ∧
              ∀ k, countEnds k (r'.frames payload u t.sessionid) =
                if k = t.sessionid then (if r'.isNoti then 0 else 1) else 0 := by
          cases hnoti : r'.isNoti with
          | true => simpa using frames_of_isNoti payload u hnoti (hlt.trans (by decide))
          | false => simpa using frames_of_answer payload u (hrs.1 hnoti) hlt
        rw [List.flatMap_cons]
        refine ⟨hfirst.1.append hcontinued, fun f hf => ?_, fun k => ?_⟩
        · rw [List.mem_append] at hf
          exact hf.elim (hfirst.2.1 f) (hreadable f)
        · rw [countEnds_append, hfirst.2.2, hcount, List.filter_cons]
          by_cases hk : k = t.sessionid
          · rw [if_pos hk, if_pos hk, if_pos hk]
            cases r'.isNoti
            · simp [Nat.add_comm]
            · simp
          · rw [if_neg hk, if_neg hk, if_neg hk]
  have hone := hframes t.onNode hanswer
  have hfilter : (t.onNode.filter fun r => !r.isNoti) = t.replies := rfl
  rw [hfilter, hreplies] at hone
  exact hone

/-! ### Client and server -/

/-- A request that an application asks, with its serialization, which fits a frame. -/
structure Ask where
  request : ClientRequest
  u : Uninit
  data : List UInt8
  data_le : data.length ≤ 1019

/-- The buffer of the request. -/
def Ask.buffer (a : Ask) : Buffer := (Buffer.buffer a.u a.request.types.1.code a.data).2

/-- A connection, from the callbacks of the client to the tasks of the workers. The requests that
are written and not read yet, the tasks and the frames on their way to the client are in order.
`asked` and `answers` are the history: the numbers and callbacks of the requests, and the frames
that have arrived, each with the callback that it has called. -/
structure Talk (φ : Type) where
  net : Netyi φ
  io : ReadIo
  requests : List (ClientRequest × Buffer)
  tasks : List (ClientRequest × Work)
  frames : List Buffer
  asked : List (ℤ × φ)
  answers : List (Buffer × Option φ)

/-- Client and server after the ClientConnect that has set both counters. -/
def Talk.start (io : ReadIo) : Talk φ where
  net := Netyi.new io.sessionid
  io := io
  requests := []
  tasks := []
  frames := []
  asked := []
  answers := []

/-- The steps. `dispatch` is a worker with the database client and the variables of its thread that
it has then; `notify` is the worker of another connection. -/
inductive TalkEvent (φ : Type)
  | ask (a : Ask) (func : φ)
  | asked
  | putMap (sessionid : ℤ) (func : Option φ)
  | read (u : Uninit × Uninit)
  | dispatch (k : ℕ) (client : DbClient) (info : ConnectInfo) (node : ReadIo)
      (payload : Response → List UInt8) (u : Response → ℕ → Uninit)
  | notify (r : Response) (sessionid : UInt16) (payload : Response → List UInt8)
      (u : Response → ℕ → Uninit)
  | arrive (v : Uninit)
  | called (i : ℕ) (isStop : Bool)

/-- The read callback of the server on the next request. -/
def Talk.read (t : Talk φ) (u : Uninit × Uninit) : Talk φ :=
  match t.requests with
  | [] => t
  | (request, b) :: rest =>
      let out := readComplete u.2 t.io (deliver (Buffer.new u.1) b.wire)
      { t with
        requests := rest
        io := out.2
        tasks := t.tasks ++ out.1.work.map fun w => (request, w) }

/-- A worker dispatches the task `k`. -/
def Talk.dispatch (t : Talk φ) (k : ℕ) (client : DbClient) (info : ConnectInfo) (node : ReadIo)
    (payload : Response → List UInt8) (u : Response → ℕ → Uninit) : Talk φ :=
  match t.tasks[k]? with
  | none => t
  | some (request, w) =>
      match w.spVec.getLast? with
      | none => t
      | some back =>
          let turn := client.turn request back.sessionId (.start info node w.sessionid 0)
          { t with
            tasks := t.tasks.eraseIdx k
            frames := t.frames ++ turn.onNode.flatMap (Response.frames payload u turn.sessionid) }

/-- The read callback of the client on the next frame, with the net callback up to the call. -/
def Talk.arrive (t : Talk φ) (v : Uninit) : Talk φ :=
  match t.frames with
  | [] => t
  | f :: rest =>
      if t.net.putting.isSome || !t.net.calls.isEmpty then t
      else
        let sp := deliver (Buffer.new v) f.wire
        { t with
          net := { t.net.callMap sp with sessionid := clientReadCallback t.net.sessionid sp }
          frames := rest
          answers := t.answers ++ [(sp, (t.net.found sp).map CallMap.lfunc)] }

/-- One step. -/
def talkStep (t : Talk φ) : TalkEvent φ → Talk φ
  | .ask a func =>
      if t.net.putting.isSome then t
      else
        { t with
          net := t.net.putMapSend a.buffer (some func)
          requests := t.requests ++ [(a.request, (clientSend t.net.sessionid a.buffer).1)]
          asked := t.asked ++ [((t.net.sessionid : ℤ), func)] }
  | .asked => { t with net := t.net.putMapSent }
  | .putMap sessionid func => { t with net := t.net.putMap sessionid func }
  | .read u => t.read u
  | .dispatch k client info node payload u => t.dispatch k client info node payload u
  | .notify r sessionid payload u =>
      if r.isNoti then { t with frames := t.frames ++ r.frames payload u sessionid.toNat } else t
  | .arrive v => t.arrive v
  | .called i isStop => { t with net := t.net.called i isStop }

/-- How often an answer to the request with the number has arrived as a whole. -/
def Talk.answered (t : Talk φ) (k : ℕ) : ℕ := t.answers.countP fun p => p.1.answers k

/-- What is asked of a step. The application asks by numbers below the largest one, and registers
other callbacks under fixed keys; what a request that is handled needs of the database is met; and
a callback that stops has the last frame of its answer, or is still registered under its fixed
key. -/
def TalkOk (t : Talk φ) : TalkEvent φ → Prop
  | .ask a _ => a.request.ByNumber ∧ t.net.sessionid < maxSessionID
  | .putMap sessionid _ => sessionid < 0
  | .dispatch k client info node _ _ =>
      ∀ request w back, t.tasks[k]? = some (request, w) → w.spVec.getLast? = some back →
        request.verdict back.sessionId (.start info node w.sessionid 0) = .handle →
          client.Meets (.start info node w.sessionid 0) request
  | .called i true =>
      ∀ c, t.net.calls[i]? = some c →
        if netKey c.sp < 0 then
          (t.net.latest (netKey c.sp)).map Registration.number = some c.number
        else c.sp.isLastBuffer = true
  | _ => True

/-! ### Each request in one place -/

/-- The requests that have been asked from the number `n` on are written, then they are tasks, then
their answers are on the way, and then these have arrived. -/
structure PlacesInv (n : ℕ) (t : Talk φ) : Prop where
  counter : t.net.sessionid = t.io.sessionid + t.requests.length
  le : n ≤ t.io.sessionid ∧ t.net.sessionid ≤ maxSessionID
  requests : ∀ {j request b}, t.requests[j]? = some (request, b) → request.ByNumber ∧
    ∃ a : Ask, a.request = request ∧ b = (clientSend (t.io.sessionid + j) a.buffer).1
  tasks : ∀ p ∈ t.tasks, p.1.ByNumber ∧ p.2.sessionid < maxSessionID ∧
    ∃ back, p.2.spVec.getLast? = some back ∧ back.sessionId = p.2.sessionid
  continued : Continued t.frames
  readable : ∀ f ∈ t.frames, Readable f
  places : ∀ k, t.tasks.countP (fun p => p.2.sessionid = k) + countEnds k t.frames + t.answered k =
    if n ≤ k ∧ k < t.io.sessionid then 1 else 0

/-- The callbacks of the requests wait until their answers have arrived. -/
structure CallsInv (n : ℕ) (t : Talk φ) : Prop where
  net : NetyiInv t.net
  asked : ∀ {j p}, t.asked[j]? = some p → p.1 = ((n + j : ℕ) : ℤ)
  length : n + t.asked.length = t.net.sessionid
  waits : ∀ {key func}, (key, func) ∈ t.asked → t.net.putting = some (key, some func) ∨
    ∃ r, t.net.latest key = some r ∧ r.func = some func
  stopped : ∀ {k : ℕ} {r}, t.net.latest k = some r → r.number ∈ t.net.stopped → 0 < t.answered k
  fresh : ∀ {k : ℕ}, t.net.sessionid ≤ k → t.net.latest k = none
  putting : ∀ {key func}, t.net.putting = some (key, func) → t.net.latest key = none ∧
    ∃ k : ℕ, key = k ∧ k < t.net.sessionid
  calls : t.net.calls.length ≤ 1
  call : ∀ c ∈ t.net.calls, c.it.key = netKey c.sp ∧ c.number ∉ t.net.stopped ∧
    (0 ≤ netKey c.sp → (t.net.latest (netKey c.sp)).map Registration.number = some c.number ∧
      ∀ k : ℕ, c.sp.answers k = true → 0 < t.answered k)
  answers : ∀ p ∈ t.answers, 0 ≤ netKey p.1 → ∃ func, p.2 = some func ∧ (netKey p.1, func) ∈ t.asked

variable {n : ℕ} {t : Talk φ}

/-- The places do not depend on the callbacks. -/
theorem PlacesInv.frame (h : PlacesInv n t) {net : Netyi φ}
    (hnet : net.sessionid = t.net.sessionid) : PlacesInv n { t with net := net } :=
  ⟨hnet.trans h.counter, ⟨h.le.1, hnet.trans_le h.le.2⟩, h.requests, h.tasks, h.continued,
    h.readable, h.places⟩

/-- The callbacks do not depend on the server. -/
theorem CallsInv.frame (h : CallsInv n t) (io : ReadIo) (requests : List (ClientRequest × Buffer))
    (tasks : List (ClientRequest × Work)) (frames : List Buffer) :
    CallsInv n { t with io := io, requests := requests, tasks := tasks, frames := frames } :=
  ⟨h.net, h.asked, h.length, h.waits, h.stopped, h.fresh, h.putting, h.calls, h.call, h.answers⟩

/-- Each number below the counter of the client has been asked. -/
theorem CallsInv.exists_asked (h : CallsInv n t) {k : ℕ} (hn : n ≤ k) (hk : k < t.net.sessionid) :
    ∃ func, ((k : ℤ), func) ∈ t.asked := by
  have hlt : k - n < t.asked.length := by
    have hlength := h.length
    omega
  have hkey : t.asked[k - n].1 = k := by
    rw [h.asked (List.getElem?_eq_getElem hlt), Nat.add_sub_cancel' hn]
  refine ⟨t.asked[k - n].2, ?_⟩
  rw [← hkey]
  exact List.getElem_mem hlt

/-- The numbers that have been asked. -/
theorem CallsInv.of_asked (h : CallsInv n t) {key : ℤ} {func : φ} (hp : (key, func) ∈ t.asked) :
    ∃ k : ℕ, key = k ∧ n ≤ k ∧ k < t.net.sessionid := by
  obtain ⟨j, hj⟩ := List.mem_iff_getElem?.mp hp
  obtain ⟨hlt, -⟩ := List.getElem?_eq_some_iff.mp hj
  have hlength := h.length
  exact ⟨n + j, h.asked hj, Nat.le_add_right n j, by omega⟩

/-- A request takes the next number. -/
theorem PlacesInv.ask (h : PlacesInv n t) (a : Ask) (func : φ) (ha : a.request.ByNumber)
    (hlt : t.net.sessionid < maxSessionID) : PlacesInv n (talkStep t (.ask a func)) := by
  rw [talkStep]
  split
  · exact h
  · rename_i hfree
    have hmod : (t.net.sessionid + 1) % 2 ^ 16 = t.net.sessionid + 1 :=
      Nat.mod_eq_of_lt (Nat.lt_of_lt_of_le (Nat.succ_lt_succ hlt) (by decide))
    have hnext : (t.net.putMapSend a.buffer (some func)).sessionid = t.net.sessionid + 1 := by
      rw [Netyi.putMapSend, if_neg hfree]
      exact hmod
    refine ⟨?_, ⟨h.le.1, ?_⟩, fun {j request b} hj => ?_, h.tasks, h.continued, h.readable,
      h.places⟩
    · rw [hnext, h.counter, List.length_append, List.length_singleton, Nat.add_assoc]
    · rw [hnext]
      exact hlt
    · rw [List.getElem?_append] at hj
      split at hj
      · exact h.requests hj
      · rename_i hge
        obtain ⟨hj', hab⟩ := List.getElem?_eq_some_iff.mp hj
        have heq : j = t.requests.length := by
          rw [List.length_singleton] at hj'
          omega
        subst heq
        simp only [Nat.sub_self, List.getElem_cons_zero, Prod.mk.injEq] at hab
        obtain ⟨rfl, rfl⟩ := hab
        exact ⟨ha, a, rfl, by rw [h.counter]⟩

/-- A request is put on the queue under the next number, with its callback. -/
theorem CallsInv.ask (h : CallsInv n t) (a : Ask) (func : φ)
    (hlt : t.net.sessionid < maxSessionID) : CallsInv n (talkStep t (.ask a func)) := by
  rw [talkStep]
  split
  · exact h
  · rename_i hfree
    have hmod : (t.net.sessionid + 1) % 2 ^ 16 = t.net.sessionid + 1 :=
      Nat.mod_eq_of_lt (Nat.lt_of_lt_of_le (Nat.succ_lt_succ hlt) (by decide))
    have hnone : t.net.putting = none := by simpa using hfree
    have hsend : t.net.putMapSend a.buffer (some func) =
        t.net.clientSend a.buffer t.net.sessionid (some func) := if_neg hfree
    have hnext : (t.net.clientSend a.buffer t.net.sessionid (some func)).sessionid =
        t.net.sessionid + 1 := hmod
    have hnet := h.net.clientSend hfree a.buffer t.net.sessionid (some func)
    rw [hsend]
    refine ⟨hnet, fun {j p} hj => ?_, ?_, fun {key func'} hp => ?_, h.stopped,
      fun {k} hk => h.fresh (Nat.le_of_succ_le (hnext.symm.trans_le hk)),
      fun {key func'} hput => ?_, h.calls, h.call, fun p hp hkey => ?_⟩
    · rw [List.getElem?_append] at hj
      split at hj
      · exact h.asked hj
      · obtain ⟨hj', hp⟩ := List.getElem?_eq_some_iff.mp hj
        have heq : j = t.asked.length := by
          rw [List.length_singleton] at hj'
          omega
        subst heq
        simp only [Nat.sub_self, List.getElem_cons_zero] at hp
        rw [← hp, h.length]
    · rw [hnext, List.length_append, List.length_singleton, ← h.length, Nat.add_assoc]
    · rcases List.mem_append.mp hp with hp | hp
      · rcases h.waits hp with hput | hold
        · rw [hnone] at hput
          cases hput
        · exact .inr hold
      · obtain ⟨rfl, rfl⟩ := Prod.mk.inj (List.mem_singleton.mp hp)
        exact .inl rfl
    · obtain ⟨rfl, -⟩ := Prod.mk.inj (Option.some.inj hput)
      exact ⟨h.fresh (Nat.le_refl _), t.net.sessionid, rfl,
        (Nat.lt_succ_self _).trans_eq hnext.symm⟩
    · obtain ⟨func', hfunc, hmem⟩ := h.answers p hp hkey
      exact ⟨func', hfunc, List.mem_append_left _ hmem⟩

/-- What becomes of the callbacks with a registration that overwrites no request. -/
theorem CallsInv.register (h : CallsInv n t) (key : ℤ) (func : Option φ) {net : Netyi φ}
    (hinv : NetyiInv net) (hlatest : net.latest = (t.net.register key func).latest)
    (hstopped : net.stopped = t.net.stopped) (hcalls : net.calls = t.net.calls)
    (hsessionid : net.sessionid = t.net.sessionid) (hput : net.putting = none)
    (hnew : key < 0 ∨ t.net.latest key = none ∧ ∃ k : ℕ, key = k ∧ k < t.net.sessionid)
    (hold : ∀ {key' func'}, t.net.putting = some (key', some func') →
      key' = key ∧ some func' = func) :
    CallsInv n { t with net := net } := by
  have hother {key' : ℤ} (hne : key' ≠ key) : net.latest key' = t.net.latest key' := by
    rw [hlatest, Netyi.register]
    exact Function.update_of_ne hne _ _
  have hself : net.latest key = some ⟨func, t.net.registered⟩ := by
    rw [hlatest, Netyi.register]
    exact Function.update_self _ _ _
  have hnewNumber : t.net.registered ∉ t.net.stopped := fun hmem =>
    Nat.lt_irrefl _ (h.net.map.stopped_lt hmem)
  refine ⟨hinv, h.asked, h.length.trans hsessionid.symm, fun {key' func'} hp => ?_,
    fun {k r} hr hmem => ?_, fun {k} hk => ?_, fun hput' => ?_, hcalls ▸ h.calls, fun c hc => ?_,
    h.answers⟩
  · right
    rcases h.waits hp with hwait | ⟨r, hr, hfunc⟩
    · obtain ⟨rfl, rfl⟩ := hold hwait
      exact ⟨_, hself, rfl⟩
    · obtain ⟨k, rfl, -, -⟩ := h.of_asked hp
      have hne : (k : ℤ) ≠ key := by
        rintro rfl
        rcases hnew with hneg | ⟨hnone, -⟩
        · omega
        · rw [hnone] at hr
          cases hr
      exact ⟨r, (hother hne).trans hr, hfunc⟩
  · rw [hstopped] at hmem
    by_cases hk : (k : ℤ) = key
    · rw [hk, hself] at hr
      obtain rfl := Option.some.inj hr
      exact absurd hmem hnewNumber
    · rw [hother hk] at hr
      exact h.stopped hr hmem
  · rw [hsessionid] at hk
    have hne : (k : ℤ) ≠ key := by
      rintro rfl
      rcases hnew with hneg | ⟨-, k', heq, hlt⟩
      · omega
      · omega
    exact (hother hne).trans (h.fresh hk)
  · rw [hput] at hput'
    cases hput'
  · rw [hcalls] at hc
    obtain ⟨hkey, hrunning, hanswer⟩ := h.call c hc
    refine ⟨hkey, hstopped ▸ hrunning, fun hpos => ?_⟩
    obtain ⟨hnumber, harrived⟩ := hanswer hpos
    have hne : netKey c.sp ≠ key := by
      intro heq
      rcases hnew with hneg | ⟨hnone, -⟩
      · omega
      · rw [heq, hnone] at hnumber
        cases hnumber
    exact ⟨by rw [hother hne]; exact hnumber, harrived⟩

/-- A request is sent. -/
theorem CallsInv.registered (h : CallsInv n t) : CallsInv n (talkStep t .asked) := by
  have hinv := h.net.putMapSent
  rw [talkStep]
  cases hput : t.net.putting with
  | none =>
      have hsame : t.net.putMapSent = t.net := by rw [Netyi.putMapSent, hput]
      rw [hsame]
      exact h
  | some p =>
      obtain ⟨key, func⟩ := p
      have hsent : t.net.putMapSent = { t.net.register key func with putting := none } := by
        rw [Netyi.putMapSent, hput]
      rw [hsent] at hinv ⊢
      obtain ⟨hnone, hk⟩ := h.putting hput
      refine h.register key func hinv rfl rfl rfl rfl rfl (.inr ⟨hnone, hk⟩) ?_
      intro key' func' hput'
      rw [hput] at hput'
      obtain ⟨rfl, rfl⟩ := Prod.mk.inj (Option.some.inj hput')
      exact ⟨rfl, rfl⟩

/-- A callback under a fixed key. -/
theorem CallsInv.putMap (h : CallsInv n t) {sessionid : ℤ} (hneg : sessionid < 0)
    (func : Option φ) : CallsInv n (talkStep t (.putMap sessionid func)) := by
  have hinv := h.net.putMap sessionid func
  rw [talkStep]
  rw [Netyi.putMap] at hinv ⊢
  split
  · exact h
  · rename_i hfree
    have hnone : t.net.putting = none := by simpa using hfree
    rw [if_neg hfree] at hinv
    refine h.register sessionid func hinv rfl rfl rfl rfl hnone (.inl hneg) fun hput => ?_
    rw [hnone] at hput
    cases hput

/-- **A callback that stops** has the whole answer, or is the last one under its fixed key. -/
theorem CallsInv.called (h : CallsInv n t) {i : ℕ} {isStop : Bool}
    (hok : TalkOk t (.called i isStop)) : CallsInv n (talkStep t (.called i isStop)) := by
  have hstops : StopsLatest t.net (.called i isStop) := by
    cases isStop with
    | false => trivial
    | true =>
        intro _ c hc
        obtain ⟨hkey, hrunning, hanswer⟩ := h.call c (List.mem_of_getElem? hc)
        refine ⟨?_, hrunning⟩
        rw [hkey]
        have hc' := hok c hc
        split at hc'
        · exact hc'
        · rename_i hpos
          exact (hanswer (Int.not_lt.mp hpos)).1
  have hinv := h.net.called hstops
  rw [talkStep]
  rw [Netyi.called] at hinv ⊢
  cases hcall : t.net.calls[i]? with
  | none => exact h
  | some c =>
      have hc := List.mem_of_getElem? hcall
      have hnone : t.net.calls.eraseIdx i = [] := by
        obtain ⟨hlt, -⟩ := List.getElem?_eq_some_iff.mp hcall
        rw [← List.length_eq_zero_iff, List.length_eraseIdx_of_lt hlt]
        have hone := h.calls
        omega
      simp only [hcall, hnone] at hinv ⊢
      cases isStop with
      | false =>
          exact ⟨hinv, h.asked, h.length, h.waits, h.stopped, h.fresh, h.putting, Nat.zero_le _,
            fun c' hc' => absurd hc' List.not_mem_nil, h.answers⟩
      | true =>
          simp only [if_true] at hinv ⊢
          split
          · exact h
          · rename_i hfree
            rw [if_neg hfree] at hinv
            refine ⟨hinv, h.asked, h.length, h.waits, fun {k r} hr hmem => ?_, h.fresh, h.putting,
              Nat.zero_le _, fun c' hc' => absurd hc' List.not_mem_nil, h.answers⟩
            rcases List.mem_cons.mp hmem with hnumber | hmem
            · -- the registration is that of the call
              have hkey : (k : ℤ) = netKey c.sp :=
                (h.net.map.call_key hc hr hnumber).trans (h.call c hc).1
              have hpos : 0 ≤ netKey c.sp := by omega
              have hlast := hok c hcall
              rw [if_neg (Int.not_lt.mpr hpos)] at hlast
              refine ((h.call c hc).2.2 hpos).2 k ?_
              rw [Buffer.answers, hlast, Bool.and_true]
              exact decide_eq_true hkey.symm
            · exact h.stopped hr hmem

/-! ### Steps of the server -/

/-- A request that has the number of the counter becomes a task with this number. -/
theorem readComplete_ask {a : Ask} (ha : a.request.ByNumber) {io : ReadIo}
    (hlt : io.sessionid < maxSessionID) (u : Uninit × Uninit) :
    ∃ v back, readComplete u.2 io
        (deliver (Buffer.new u.1) (clientSend io.sessionid a.buffer).1.wire) =
          (.sentWork (v ++ [back]) io.sessionid,
            { io with bufferSpV := [], sessionid := io.sessionid + 1 }) ∧
      back.sessionId = io.sessionid := by
  have hmax : maxSessionID = 32767 := rfl
  have hview := deliver_setSessionid a.u u.1 a.request.types.1.code
    (hlt.trans (by decide)) a.data_le true
  rw [show (Buffer.buffer a.u a.request.types.1.code a.data).2.setSessionid io.sessionid true =
    (clientSend io.sessionid a.buffer).1 from rfl] at hview
  generalize deliver (Buffer.new u.1) (clientSend io.sessionid a.buffer).1.wire = back
    at hview ⊢
  simp only [Buffer.view, FrameView.mk.injEq] at hview
  obtain ⟨hid, hlast, htype, -, -⟩ := hview
  rw [Nat.mod_eq_of_lt (by omega)] at hid
  rw [decide_eq_false (by omega), Bool.xor_false] at hlast
  have hchecked : missingCheck back.datatype = true := by
    rw [htype]
    exact ha.1
  have hnext : counterAfter io.sessionid back = io.sessionid + 1 := by
    rw [counterAfter_eq, numbered, hlast, hchecked, Bool.and_self, if_pos rfl, nextCounter,
      if_neg (by omega), Nat.mod_eq_of_lt (by omega)]
  have hexpected : expectedSessionid io.sessionid = io.sessionid := if_neg (by omega)
  refine ⟨io.bufferSpV.dropLast, back, ?_, hid⟩
  rw [readComplete_checked u.2 io hlast hchecked, hnext, hexpected]

/-- What the event loop makes of the next request. -/
theorem PlacesInv.read_request (h : PlacesInv n t) {request : ClientRequest} {b : Buffer}
    {rest : List (ClientRequest × Buffer)} (hrequests : t.requests = (request, b) :: rest)
    (u : Uninit × Uninit) :
    request.ByNumber ∧ t.io.sessionid < maxSessionID ∧ ∃ v back,
      talkStep t (.read u) = { t with
        requests := rest
        io := { t.io with bufferSpV := [], sessionid := t.io.sessionid + 1 }
        tasks := t.tasks ++ [(request, ⟨v ++ [back], t.io.sessionid⟩)] } ∧
      back.sessionId = t.io.sessionid := by
  obtain ⟨hby, a, rfl, rfl⟩ := h.requests (j := 0) (by rw [hrequests]; rfl)
  have hcounter := h.counter
  rw [hrequests, List.length_cons] at hcounter
  have hlt : t.io.sessionid < maxSessionID := by
    have hle := h.le.2
    omega
  obtain ⟨v, back, hread, hid⟩ := readComplete_ask hby hlt u
  refine ⟨hby, hlt, v, back, ?_, hid⟩
  rw [talkStep, Talk.read, hrequests]
  simp only [Nat.add_zero, hread, ReadOutcome.work, List.map_cons, List.map_nil]

/-- **The event loop** gives the request the number that the client has given it. -/
theorem PlacesInv.read (h : PlacesInv n t) (u : Uninit × Uninit) :
    PlacesInv n (talkStep t (.read u)) := by
  cases hrequests : t.requests with
  | nil =>
      rw [talkStep, Talk.read, hrequests]
      exact h
  | cons p rest =>
      obtain ⟨request, b⟩ := p
      obtain ⟨hby, hlt, v, back, hstep, hid⟩ := h.read_request hrequests u
      have hcounter := h.counter
      rw [hrequests, List.length_cons] at hcounter
      rw [hstep]
      refine ⟨hcounter.trans (by simp only []; omega), ⟨Nat.le_succ_of_le h.le.1, h.le.2⟩,
        fun {j request b} hj => ?_, fun p hp => ?_, h.continued, h.readable, fun k => ?_⟩
      · obtain ⟨hby', a', ha', hb⟩ := h.requests (j := j + 1) (by rw [hrequests]; exact hj)
        exact ⟨hby', a', ha', by rw [hb, Nat.add_assoc, Nat.add_comm 1 j]⟩
      · rcases List.mem_append.mp hp with hp | hp
        · exact h.tasks p hp
        · obtain rfl := List.mem_singleton.mp hp
          exact ⟨hby, hlt, back, List.getLast?_concat, hid⟩
      · have hk := h.places k
        rw [List.countP_append, List.countP_singleton]
        have hn := h.le.1
        simp only [decide_eq_true_eq, Talk.answered] at hk ⊢
        split_ifs at hk ⊢ <;> omega

/-- What a worker makes of a task: the frames of one answer. -/
theorem PlacesInv.dispatch_task (h : PlacesInv n t) {k : ℕ} {client : DbClient}
    {info : ConnectInfo} {node : ReadIo} {payload : Response → List UInt8}
    {u : Response → ℕ → Uninit} (hok : TalkOk t (.dispatch k client info node payload u))
    {request : ClientRequest} {w : Work} (htask : t.tasks[k]? = some (request, w)) :
    ∃ fs, talkStep t (.dispatch k client info node payload u) =
        { t with tasks := t.tasks.eraseIdx k, frames := t.frames ++ fs } ∧
      Continued fs ∧ (∀ f ∈ fs, Readable f) ∧
        ∀ m, countEnds m fs = if m = w.sessionid then 1 else 0 := by
  obtain ⟨hby, hlt, back, hback, hid⟩ := h.tasks _ (List.mem_of_getElem? htask)
  have hreplied : RepliedOnce request (client.dispatch request back.sessionId)
      (.start info node w.sessionid 0) :=
    (repliedOnce_dispatch_iff client request back.sessionId info node w.sessionid 0).mpr
      (hok request w back htask hback)
  have hsession := sessionid_turn client hby back.sessionId info node w.sessionid
  have hframes := frames_turn payload u hby
    (by rw [hsession]; exact hlt.trans (by decide)) (replied_turn hreplied)
  rw [hsession] at hframes
  refine ⟨_, ?_, hframes⟩
  simp only [talkStep, Talk.dispatch, htask, hback, hsession]

/-- **A worker** answers the request of its task. -/
theorem PlacesInv.dispatch (h : PlacesInv n t) {k : ℕ} {client : DbClient} {info : ConnectInfo}
    {node : ReadIo} {payload : Response → List UInt8} {u : Response → ℕ → Uninit}
    (hok : TalkOk t (.dispatch k client info node payload u)) :
    PlacesInv n (talkStep t (.dispatch k client info node payload u)) := by
  cases htask : t.tasks[k]? with
  | none =>
      rw [talkStep, Talk.dispatch, htask]
      exact h
  | some p =>
      obtain ⟨request, w⟩ := p
      obtain ⟨fs, hstep, hcontinued, hreadable, hcount⟩ := h.dispatch_task hok htask
      rw [hstep]
      refine ⟨h.counter, h.le, h.requests, fun p hp => h.tasks p (List.mem_of_mem_eraseIdx hp),
        h.continued.append hcontinued, fun f hf => ?_, fun m => ?_⟩
      · exact (List.mem_append.mp hf).elim (h.readable f) (hreadable f)
      · have hm := h.places m
        obtain ⟨hk, hw⟩ := List.getElem?_eq_some_iff.mp htask
        have hperm := (List.getElem_cons_eraseIdx_perm hk).countP_eq fun p => p.2.sessionid = m
        rw [List.countP_cons, hw] at hperm
        simp only [Talk.answered, countEnds_append, hcount] at hm ⊢
        rw [← hm, ← hperm]
        simp only [decide_eq_true_eq, eq_comm (a := m)]
        omega

/-- A notification is no answer. -/
theorem PlacesInv.notify (h : PlacesInv n t) (r : Response) (sessionid : UInt16)
    (payload : Response → List UInt8) (u : Response → ℕ → Uninit) :
    PlacesInv n (talkStep t (.notify r sessionid payload u)) := by
  rw [talkStep]
  split
  · rename_i hr
    obtain ⟨hcontinued, hreadable, hcount⟩ := frames_of_isNoti payload u hr
      sessionid.toNat_lt
    refine ⟨h.counter, h.le, h.requests, h.tasks, h.continued.append hcontinued, fun f hf => ?_,
      fun k => ?_⟩
    · exact (List.mem_append.mp hf).elim (h.readable f) (hreadable f)
    · have hk := h.places k
      simp only [Talk.answered, countEnds_append, hcount, Nat.add_zero] at hk ⊢
      exact hk
  · exact h

/-! ### Answers -/

/-- What is on its way to a number answers a request that still waits. -/
theorem PlacesInv.key_waits (h : PlacesInv n t) {f : Buffer} {rest : List Buffer}
    (hframes : t.frames = f :: rest) {k : ℕ} (hkey : netKey f.seen = k) :
    n ≤ k ∧ k < t.net.sessionid ∧ t.answered k = 0 := by
  have hpos : 0 < countEnds k t.frames := by
    rw [hframes, countEnds, List.countP_pos_iff]
    cases hlast : f.seen.isLastBuffer with
    | true =>
        refine ⟨f, List.mem_cons_self, ?_⟩
        rw [Buffer.answers, hlast, Bool.and_true]
        exact decide_eq_true hkey
    | false =>
        have hcontinued := h.continued
        rw [hframes] at hcontinued
        obtain ⟨g, hg, hends⟩ := hcontinued.1 k hkey hlast
        exact ⟨g, List.mem_cons_of_mem _ hg, hends⟩
  have hplace := h.places k
  have hcounter := h.counter
  split_ifs at hplace <;> omega

/-- The read callback of the client takes the frame, or waits. -/
theorem talkStep_arrive (t : Talk φ) (v : Uninit) :
    talkStep t (.arrive v) = t ∨ ∃ f rest, t.frames = f :: rest ∧ t.net.putting = none ∧
      t.net.calls = [] ∧ talkStep t (.arrive v) = { t with
        net := { t.net with
          calls := (t.net.found (deliver (Buffer.new v) f.wire)).toList
          sessionid := clientReadCallback t.net.sessionid (deliver (Buffer.new v) f.wire) }
        frames := rest
        answers := t.answers ++ [(deliver (Buffer.new v) f.wire,
          (t.net.found (deliver (Buffer.new v) f.wire)).map CallMap.lfunc)] } := by
  rw [talkStep, Talk.arrive]
  cases hframes : t.frames with
  | nil => exact .inl rfl
  | cons f rest =>
      simp only
      split
      · exact .inl rfl
      · rename_i hfree
        simp only [Bool.or_eq_true, Bool.not_eq_true', not_or, Bool.not_eq_true,
          Bool.not_eq_false, List.isEmpty_iff, Option.isSome_eq_false_iff,
          Option.isNone_iff_eq_none] at hfree
        refine .inr ⟨f, rest, rfl, hfree.1, hfree.2, ?_⟩
        rw [Netyi.callMap, hfree.1, hfree.2]
        rfl

/-- The frame that arrives leaves the way to the client. -/
theorem PlacesInv.arrive (h : PlacesInv n t) (v : Uninit) :
    PlacesInv n (talkStep t (.arrive v)) := by
  rcases talkStep_arrive t v with hsame | ⟨f, rest, hframes, -, -, hstep⟩
  · rw [hsame]
    exact h
  · have hreadable := h.readable
    have hcontinued := h.continued
    rw [hframes] at hreadable hcontinued
    obtain ⟨hsound, htype⟩ := hreadable f List.mem_cons_self
    have hview := hsound v
    rw [hstep]
    generalize deliver (Buffer.new v) f.wire = sp at hview ⊢
    have hsession : clientReadCallback t.net.sessionid sp = t.net.sessionid := by
      have hsp : sp.datatype = f.seen.datatype := congrArg FrameView.type hview
      exact if_neg (hsp ▸ htype)
    refine ⟨hsession.trans h.counter, ⟨h.le.1, hsession.trans_le h.le.2⟩, h.requests, h.tasks,
      hcontinued.2, fun g hg => hreadable g (List.mem_cons_of_mem _ hg), fun k => ?_⟩
    have hk := h.places k
    rw [hframes, countEnds, List.countP_cons] at hk
    rw [Talk.answered, List.countP_append, List.countP_singleton, answers_congr hview k, ← hk]
    simp only [Talk.answered, countEnds]
    omega

/-- The call of a frame has the registration under its key. -/
theorem MapInv.of_found {s : Netyi φ} (h : MapInv s) {sp : Buffer} {c : CallMap φ}
    (hc : s.found sp = some c) : c.it.key = netKey sp ∧ c.sp = sp ∧
      (s.latest (netKey sp)).map Registration.number = some c.number ∧ c.number ∉ s.stopped := by
  rw [Netyi.found] at hc
  cases hslot : s.sessionidCbfuncMap.slot (netKey sp) with
  | none =>
      rw [hslot] at hc
      cases hc
  | some p =>
      obtain ⟨node, r⟩ := p
      rw [hslot] at hc
      obtain ⟨lfunc, -, rfl⟩ := Option.map_eq_some_iff.mp hc
      obtain ⟨hlatest, hrunning⟩ := h.latest_of_slot hslot
      exact ⟨rfl, rfl, by rw [hlatest]; rfl, hrunning⟩

/-- **A frame that arrives** calls the callback of its request. -/
theorem CallsInv.arrive (h : CallsInv n t) (hplaces : PlacesInv n t) (v : Uninit) :
    CallsInv n (talkStep t (.arrive v)) := by
  rcases talkStep_arrive t v with hsame | ⟨f, rest, hframes, hput, hcalls, hstep⟩
  · rw [hsame]
    exact h
  · obtain ⟨hsound, htype⟩ := hplaces.readable f (by rw [hframes]; exact List.mem_cons_self)
    have hview := hsound v
    rw [hstep]
    generalize hsp : deliver (Buffer.new v) f.wire = sp at hview ⊢
    have hkeySp : netKey sp = netKey f.seen := netKey_congr hview
    have hsession : clientReadCallback t.net.sessionid sp = t.net.sessionid := by
      have hsp : sp.datatype = f.seen.datatype := congrArg FrameView.type hview
      exact if_neg (hsp ▸ htype)
    have hinv : NetyiInv { t.net with
        calls := (t.net.found sp).toList
        sessionid := clientReadCallback t.net.sessionid sp } := by
      have hcall := h.net.map.call sp
      rw [hcalls, List.nil_append] at hcall
      exact ⟨hcall.frame rfl rfl rfl rfl rfl, h.net.sent⟩
    have hgrows (k : ℕ) : t.answered k ≤ Talk.answered { t with
        answers := t.answers ++ [(sp, (t.net.found sp).map CallMap.lfunc)] } k := by
      rw [Talk.answered, Talk.answered, List.countP_append]
      exact Nat.le_add_right _ _
    refine ⟨hinv, h.asked, h.length.trans hsession.symm, fun hp => ?_, fun {k r} hr hmem =>
      Nat.lt_of_lt_of_le (h.stopped hr hmem) (hgrows k), fun {k} hk => h.fresh (hsession ▸ hk),
      fun hput' => ?_, ?_, fun c hc => ?_, fun p hp hpos => ?_⟩
    · exact h.waits hp
    · exact absurd (hput.symm.trans hput') (Option.some_ne_none _).symm
    · cases t.net.found sp <;> simp
    · obtain ⟨hkey, rfl, hnumber, hrunning⟩ := h.net.map.of_found (Option.mem_toList.mp hc)
      refine ⟨hkey, hrunning, fun _ => ⟨hnumber, fun k hk => ?_⟩⟩
      rw [Talk.answered, List.countP_append, List.countP_singleton, if_pos hk]
      exact Nat.succ_pos _
    · rcases List.mem_append.mp hp with hp | hp
      · exact h.answers p hp hpos
      · obtain rfl := List.mem_singleton.mp hp
        obtain ⟨k, hk⟩ := Int.eq_ofNat_of_zero_le hpos
        obtain ⟨hn, hlt, hzero⟩ := hplaces.key_waits hframes (hkeySp.symm.trans hk)
        obtain ⟨func, hfunc⟩ := h.exists_asked hn hlt
        refine ⟨func, ?_, by rw [hk]; exact hfunc⟩
        rw [h.net.map.found_eq, Netyi.due, hk]
        rcases h.waits hfunc with hput' | ⟨r, hr, hfunc'⟩
        · exact absurd (hput.symm.trans hput') (Option.some_ne_none _).symm
        · have hrunning : r.number ∉ t.net.stopped := fun hmem =>
            absurd (h.stopped hr hmem) (by omega)
          exact (congrArg (Option.bind · _) hr).trans ((if_neg hrunning).trans hfunc')

/-! ### Runs -/

/-- The number of the request whose answer the frame ends. -/
def Buffer.ends (sp : Buffer) : Option ℕ :=
  if 0 ≤ netKey sp ∧ sp.isLastBuffer = true then some (netKey sp).toNat else none

/-- The requests whose answers the frames end, in order. -/
def ended (sps : List Buffer) : List ℕ := sps.filterMap Buffer.ends

/-- The number that a frame ends the answers to. -/
theorem ends_iff (sp : Buffer) (k : ℕ) : sp.ends = some k ↔ sp.answers k = true := by
  rw [Buffer.ends, Buffer.answers, Bool.and_eq_true, decide_eq_true_eq]
  split
  · rename_i h
    rw [Option.some.injEq, and_iff_left h.2]
    omega
  · rename_i h
    exact iff_of_false (Option.some_ne_none _).symm fun hk => h ⟨by omega, hk.2⟩

/-- What a frame ends is read from the header. -/
theorem ends_congr {sp sp' : Buffer} (h : sp.view = sp'.view) : sp.ends = sp'.ends :=
  Option.ext fun k => by rw [ends_iff, ends_iff, answers_congr h]

/-- Frames that end one answer. -/
theorem ended_eq_singleton {fs : List Buffer} {sessionid : ℕ}
    (h : ∀ k, countEnds k fs = if k = sessionid then 1 else 0) :
    ended (fs.map Buffer.seen) = [sessionid] := by
  rw [← List.perm_singleton, List.perm_iff_count]
  intro k
  have hcount : (ended (fs.map Buffer.seen)).count k = countEnds k fs := by
    rw [ended, List.count_filterMap, List.countP_map, countEnds]
    refine List.countP_congr fun f _ => ?_
    rw [Function.comp, beq_iff_eq]
    exact ends_iff _ _
  rw [hcount, h, List.count_singleton]
  exact if_congr (by rw [beq_iff_eq, eq_comm]) rfl rfl

/-- The answers that have arrived, those on their way and the tasks are in the order of the
requests. -/
def InOrder (n : ℕ) (t : Talk φ) : Prop :=
  ended (t.answers.map Prod.fst) ++ ended (t.frames.map Buffer.seen) ++
    t.tasks.map (fun p => p.2.sessionid) = List.range' n (t.io.sessionid - n)

/-- What frames behind others end. -/
theorem ended_append (fs fs' : List Buffer) : ended ((fs ++ fs').map Buffer.seen) =
    ended (fs.map Buffer.seen) ++ ended (fs'.map Buffer.seen) := by
  rw [ended, List.map_append, List.filterMap_append]
  rfl

/-- A request that is read becomes the last task. -/
theorem InOrder.read (h : InOrder n t) (hplaces : PlacesInv n t) (u : Uninit × Uninit) :
    InOrder n (talkStep t (.read u)) := by
  rw [InOrder] at h ⊢
  cases hrequests : t.requests with
  | nil =>
      rw [talkStep, Talk.read, hrequests]
      exact h
  | cons p rest =>
      obtain ⟨-, -, v, back, hstep, -⟩ := hplaces.read_request hrequests u
      have hle := hplaces.le.1
      have hnext : t.io.sessionid + 1 - n = t.io.sessionid - n + 1 := by omega
      rw [hstep]
      simp only [List.map_append, List.map_cons, List.map_nil]
      rw [← List.append_assoc, h, hnext, List.range'_1_concat, Nat.add_sub_cancel' hle]

/-- The first task becomes the last answer on the way. -/
theorem InOrder.dispatch (h : InOrder n t) (hplaces : PlacesInv n t) {client : DbClient}
    {info : ConnectInfo} {node : ReadIo} {payload : Response → List UInt8}
    {u : Response → ℕ → Uninit} (hok : TalkOk t (.dispatch 0 client info node payload u)) :
    InOrder n (talkStep t (.dispatch 0 client info node payload u)) := by
  rw [InOrder] at h ⊢
  cases htasks : t.tasks with
  | nil =>
      rw [talkStep, Talk.dispatch, htasks]
      exact h
  | cons p rest =>
      obtain ⟨fs, hstep, -, -, hcount⟩ :=
        hplaces.dispatch_task (k := 0) hok (by rw [htasks]; rfl)
      rw [htasks, List.map_cons, List.append_cons] at h
      rw [hstep]
      simp only [htasks, List.eraseIdx_cons_zero]
      rw [ended_append, ended_eq_singleton hcount, ← List.append_assoc]
      exact h

/-- The first frame on the way arrives, with the end of an answer or without. -/
theorem InOrder.arrive (h : InOrder n t) (hplaces : PlacesInv n t) (v : Uninit) :
    InOrder n (talkStep t (.arrive v)) := by
  rw [InOrder] at h ⊢
  rcases talkStep_arrive t v with hsame | ⟨f, rest, hframes, -, -, hstep⟩
  · rw [hsame]
    exact h
  · have hview := (hplaces.readable f (by rw [hframes]; exact List.mem_cons_self)).sound v
    rw [hstep]
    rw [hframes, List.map_cons, ended, ended, List.filterMap_cons] at h
    simp only [ended, List.map_append, List.map_cons, List.map_nil, List.filterMap_append,
      List.filterMap_cons, List.filterMap_nil, ends_congr hview]
    cases hends : f.seen.ends with
    | none =>
        rw [hends] at h
        rw [List.append_nil]
        exact h
    | some k =>
        rw [hends] at h
        rw [List.append_assoc _ [k]]
        exact h

end Yijian

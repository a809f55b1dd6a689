import Mathlib.Data.List.InsertIdx
import Yijian.IoLists

/-!
# The Peer List is Copied on Write

To its callers the list of peer servers is a sequence: a push appends, an erase takes out one
entry, and a `peer_server_foreach` visits what was listed when it began, whatever happens to
the list in the meantime. `Listing` is this view, and `Listing.Does` what each call is to do
to it. The code keeps to it by copying a list object that is in use before it changes it. The
nodes of the copy are new, and the connections keep the iterators into the old object.

## Convention

A list object is in use while somebody holds a second pointer to it, which is what
`peer_server_foreach` does: `unique()` is true of an object that nobody visits. Visits begin, go on
by one entry and end as steps of their own, any number of them at a time, with pushes and erases in
between. The abstract `Listing` has no objects and no nodes: a visit there carries what it has still
to see. The two agree up to the moment at which an erase uses an iterator into an object that has
been replaced by its copy; where exactly that is, is the condition of the result.

## Main results

* `PeerInv.push`, `PeerInv.foreachNext`: pushes and visits do what they are to do.
* `copy_on_write_iff`: a run does what it is to do exactly if every erase finds a list object
  that is not in use and an iterator into this object.
-/

namespace Yijian.IoLists

open Runs

variable {ι : Type} [DecidableEq ι]

/-! ### The calls -/

/-- A call on the peer list. -/
inductive PeerEvent (ι : Type)
  | push (io : ι)
  | erase (io : ι)
  | foreachBegin
  | foreachNext (k : ℕ)

/-- What a call does. -/
def peerStep : Option (IoLists ι) → PeerEvent ι → Option (IoLists ι)
  | none, _ => none
  | some s, .push io => some (s.peerServersPush io)
  | some s, .erase io => s.peerServersErase io
  | some s, .foreachBegin => some s.foreachBegin
  | some s, .foreachNext k => some (s.foreachNext k)

/-- What callers see: the listed connections, and for each running `peer_server_foreach` the
content of its snapshot and the connections it has visited. -/
structure Listing (ι : Type) where
  listed : List ι
  running : List (List ι × List ι)

omit [DecidableEq ι] in
/-- The view of a state. -/
def view (s : IoLists ι) : Listing ι where
  listed := s.peers.values
  running := s.running.map fun f => ((s.objects f.object).values, f.visited)

/-- The `k`-th running call visits the first connection of its snapshot that it has not
visited, or it has visited all of them and ends. -/
inductive Visits (k : ℕ) : List (List ι × List ι) → List (List ι × List ι) → Prop
  | visit {running : List (List ι × List ι)} {visited rest : List ι} {io : ι}
      (h : running[k]? = some (visited ++ io :: rest, visited)) :
      Visits k running (running.set k (visited ++ io :: rest, visited ++ [io]))
  | finish {running : List (List ι × List ι)} {visited : List ι}
      (h : running[k]? = some (visited, visited)) : Visits k running (running.eraseIdx k)
  | idle {running : List (List ι × List ι)} (h : running[k]? = none) : Visits k running running

/-- What a call is to do. Only visiting changes what is running, and no snapshot is ever
changed. -/
def Listing.Does (v : Listing ι) : PeerEvent ι → Listing ι → Prop
  | .push io, v' => v'.listed = v.listed ++ [io] ∧ v'.running = v.running
  | .erase io, v' =>
      (∃ before after, v.listed = before ++ io :: after ∧ v'.listed = before ++ after) ∧
        v'.running = v.running
  | .foreachBegin, v' => v'.listed = v.listed ∧ v'.running = v.running ++ [(v.listed, [])]
  | .foreachNext k, v' => v'.listed = v.listed ∧ Visits k v.running v'.running

/-- The call has a defined effect, which is what it is to do. -/
def DoesRight : Option (IoLists ι) → PeerEvent ι → Prop
  | none, _ => False
  | some s, e => ∃ s', peerStep (some s) e = some s' ∧ s.view.Does e s'.view

/-- An erase finds a list object that is not in use, and the connection has an iterator into
this object. -/
def EraseFits : Option (IoLists ι) → PeerEvent ι → Prop
  | none, _ => False
  | some s, .erase io => s.unique = true ∧ ∃ it, s.iterSp io = some it ∧ it ∈ s.peers.nodes
  | some _, _ => True

/-! ### The invariant -/

/-- What every call preserves: nodes and objects are old ones, an iterator into the current
object is that of its connection, and what a running call has visited is a prefix of its
snapshot. -/
structure PeerInv (s : IoLists ι) : Prop where
  nodup_nodes : s.peers.nodes.Nodup
  node_lt : ∀ node ∈ s.peers.nodes, node < s.nextNode
  iter_lt : ∀ io it, s.iterSp io = some it → it < s.nextNode
  iter_mem : ∀ io it, s.iterSp io = some it → it ∈ s.peers.nodes → (it, io) ∈ s.peers
  ioList_lt : s.ioList < s.nextObject
  object_lt : ∀ f ∈ s.running, f.object < s.nextObject
  visited : ∀ f ∈ s.running, f.visited <+: (s.objects f.object).values

variable {s : IoLists ι}

omit [DecidableEq ι] in
/-- There are no peers at the start. -/
theorem peerInv_new : PeerInv (new : IoLists ι) where
  nodup_nodes := List.nodup_nil
  node_lt node hnode := by cases hnode
  iter_lt io it hit := by cases hit
  iter_mem io it hit := by cases hit
  ioList_lt := Nat.zero_lt_one
  object_lt f hf := by cases hf
  visited f hf := by cases hf

omit [DecidableEq ι] in
/-- The list is unique if no visit goes through it. -/
theorem unique_iff : s.unique = true ↔ ∀ f ∈ s.running, f.object ≠ s.ioList := by
  simp only [unique, List.all_eq_true, bne_iff_ne]

omit [DecidableEq ι] in
/-- Changing an object that no running call holds changes no snapshot. -/
theorem running_view_update {object : ℕ} (l : NodeList ι)
    (h : ∀ f ∈ s.running, f.object ≠ object) :
    s.running.map (fun f => ((Function.update s.objects object l f.object).values, f.visited)) =
      s.view.running :=
  List.map_congr_left fun f hf => by rw [Function.update_of_ne (h f hf)]

omit [DecidableEq ι] in
/-- **The copy** of a list object in use lists the same connections. No running call holds
it. -/
theorem PeerInv.copyOnWrite (h : PeerInv s) :
    PeerInv s.copyOnWrite ∧ s.copyOnWrite.unique = true ∧ s.copyOnWrite.view = s.view := by
  rw [IoLists.copyOnWrite]
  split
  · rename_i hunique
    exact ⟨h, hunique, rfl⟩
  · have hfresh : ∀ f ∈ s.running, f.object ≠ s.nextObject :=
      fun f hf => Nat.ne_of_lt (h.object_lt f hf)
    have hlen : s.resetCopy.nextNode = s.nextNode + s.peers.length := rfl
    refine ⟨?_, unique_iff.mpr hfresh, ?_⟩
    · refine
        { nodup_nodes := ?_
          node_lt := fun node hnode => ?_
          iter_lt := fun io it hit => Nat.lt_add_right _ (h.iter_lt io it hit)
          iter_mem := fun io it hit hnode => ?_
          ioList_lt := Nat.lt_succ_self _
          object_lt := fun f hf => Nat.lt_succ_of_lt (h.object_lt f hf)
          visited := fun f hf => ?_ }
      · rw [peers_resetCopy, NodeList.nodes_copy]
        exact List.nodup_range'
      · rw [peers_resetCopy, NodeList.nodes_copy, List.mem_range'_1] at hnode
        omega
      · rw [peers_resetCopy, NodeList.nodes_copy, List.mem_range'_1] at hnode
        have hlt := h.iter_lt io it hit
        omega
      · rw [show s.resetCopy.objects f.object = s.objects f.object from
          Function.update_of_ne (hfresh f hf) _ _]
        exact h.visited f hf
    · rw [view, view, peers_resetCopy, NodeList.values_copy]
      exact congrArg _ (running_view_update _ hfresh)

/-! ### Pushing and erasing -/

omit [DecidableEq ι] in
/-- Another content for a list object that is not in use. -/
theorem view_setPeers (hunique : s.unique = true) (l : NodeList ι) :
    (s.setPeers l).view = ⟨l.values, s.view.running⟩ := by
  rw [view, peers_setPeers]
  exact congrArg _ (running_view_update l (unique_iff.mp hunique))

omit [DecidableEq ι] in
/-- A list that is unique may be changed under the visits. -/
theorem PeerInv.visited_setPeers (h : PeerInv s) (hunique : s.unique = true) (l : NodeList ι) :
    ∀ f ∈ s.running, f.visited <+: ((s.setPeers l).objects f.object).values := by
  intro f hf
  rw [show (s.setPeers l).objects f.object = s.objects f.object from
    Function.update_of_ne (unique_iff.mp hunique f hf) _ _]
  exact h.visited f hf

/-- The insertion into a list object that is not in use. -/
theorem PeerInv.peersInsert (h : PeerInv s) (hunique : s.unique = true) (io : ι) :
    PeerInv (s.peersInsert io) where
  nodup_nodes := by
    rw [peers_peersInsert, NodeList.nodes_insertEnd, List.nodup_append]
    refine ⟨h.nodup_nodes, List.nodup_singleton _, fun node hnode node' hnode' => ?_⟩
    rw [List.mem_singleton.mp hnode']
    exact Nat.ne_of_lt (h.node_lt node hnode)
  node_lt node hnode := by
    rw [peers_peersInsert, NodeList.nodes_insertEnd, List.mem_append, List.mem_singleton] at hnode
    rcases hnode with hnode | rfl
    · exact Nat.lt_succ_of_lt (h.node_lt node hnode)
    · exact Nat.lt_succ_self _
  iter_lt io' it hit := by
    by_cases hio : io' = io
    · subst hio
      rw [iterSp_peersInsert_self, Option.some.injEq] at hit
      rw [← hit]
      exact Nat.lt_succ_self _
    · rw [iterSp_peersInsert_of_ne _ hio] at hit
      exact Nat.lt_succ_of_lt (h.iter_lt io' it hit)
  iter_mem io' it hit hnode := by
    rw [peers_peersInsert, NodeList.nodes_insertEnd, List.mem_append, List.mem_singleton] at hnode
    rw [peers_peersInsert, NodeList.insertEnd, List.mem_append, List.mem_singleton]
    by_cases hio : io' = io
    · subst hio
      rw [iterSp_peersInsert_self, Option.some.injEq] at hit
      rw [← hit]
      exact Or.inr rfl
    · rw [iterSp_peersInsert_of_ne _ hio] at hit
      have hlt := h.iter_lt io' it hit
      exact Or.inl (h.iter_mem io' it hit (hnode.resolve_right (Nat.ne_of_lt hlt)))
  ioList_lt := h.ioList_lt
  object_lt := h.object_lt
  visited := h.visited_setPeers hunique _

/-- **A push** appends one connection and changes no snapshot. -/
theorem PeerInv.push (h : PeerInv s) (io : ι) :
    PeerInv (s.peerServersPush io) ∧ s.view.Does (.push io) (s.peerServersPush io).view := by
  obtain ⟨hinv, hunique, hview⟩ := h.copyOnWrite
  refine ⟨hinv.peersInsert hunique io, ?_⟩
  have hset : (s.copyOnWrite.peersInsert io).view =
      ⟨(s.copyOnWrite.peers.insertEnd s.copyOnWrite.nextNode io).values,
        s.copyOnWrite.view.running⟩ :=
    view_setPeers hunique (s.copyOnWrite.peers.insertEnd s.copyOnWrite.nextNode io)
  rw [peerServersPush, hset, ← hview, NodeList.values_insertEnd]
  exact ⟨rfl, rfl⟩

omit [DecidableEq ι] in
/-- Taking out a node of a list object that is not in use. -/
theorem PeerInv.setPeers (h : PeerInv s) (hunique : s.unique = true)
    {before after : NodeList ι} {p : ℕ × ι} (hsplit : s.peers = before ++ p :: after) :
    PeerInv (s.setPeers (before ++ after)) := by
  have hsub : (before ++ after).Sublist s.peers := by
    rw [hsplit]
    exact (List.sublist_cons_self _ _).append_left before
  refine
    { nodup_nodes := ?_
      node_lt := fun node hnode => ?_
      iter_lt := h.iter_lt
      iter_mem := fun io it hit hnode => ?_
      ioList_lt := h.ioList_lt
      object_lt := h.object_lt
      visited := h.visited_setPeers hunique _ }
  · rw [peers_setPeers]
    exact h.nodup_nodes.sublist (hsub.map Prod.fst)
  · rw [peers_setPeers] at hnode
    exact h.node_lt node ((hsub.map Prod.fst).subset hnode)
  · rw [peers_setPeers] at hnode ⊢
    obtain ⟨x, hx⟩ := NodeList.exists_of_mem_nodes hnode
    have hio := h.iter_mem io it hit ((hsub.map Prod.fst).subset hnode)
    rwa [NodeList.eq_of_mem_of_nodup h.nodup_nodes hio (hsub.subset hx)]

omit [DecidableEq ι] in
/-- **An erase that fits** takes out one entry of the connection and changes no snapshot. -/
theorem PeerInv.erase (h : PeerInv s) {io : ι} (hfits : EraseFits (some s) (.erase io)) :
    ∃ s', s.peerServersErase io = some s' ∧ PeerInv s' ∧ s.view.Does (.erase io) s'.view := by
  obtain ⟨hunique, it, hit, hnode⟩ := hfits
  obtain ⟨x, before, after, hsplit, herase⟩ := NodeList.erase_eq_some hnode
  have hx : x = io := by
    refine NodeList.eq_of_mem_of_nodup h.nodup_nodes ?_ (h.iter_mem io it hit hnode)
    rw [hsplit]
    exact List.mem_append_right _ List.mem_cons_self
  refine ⟨s.setPeers (before ++ after), ?_, h.setPeers hunique hsplit, ?_⟩
  · rw [peerServersErase, IoLists.copyOnWrite, if_pos hunique, peersErase]
    simp only [hit, herase, Option.map_some]
  · rw [view_setPeers hunique]
    refine ⟨⟨NodeList.values before, NodeList.values after, ?_, NodeList.values_append _ _⟩, rfl⟩
    rw [view, hsplit, NodeList.values_append, NodeList.values_cons, hx]

/-- **An erase that does not fit** is undefined or takes out nothing. -/
theorem PeerInv.not_erase (h : PeerInv s) {io : ι} (hfits : ¬ EraseFits (some s) (.erase io)) :
    ¬ DoesRight (some s) (.erase io) := by
  obtain ⟨hinv, -, hview⟩ := h.copyOnWrite
  rintro ⟨s', hstep, ⟨before, after, hlisted, hlisted'⟩, -⟩
  rw [peerStep, peerServersErase, peersErase, iterSp_copyOnWrite] at hstep
  cases hit : s.iterSp io with
  | none =>
      simp only [hit, Option.some.injEq] at hstep
      rw [← hstep, hview, hlisted] at hlisted'
      have hlen := congrArg List.length hlisted'
      simp only [List.length_append, List.length_cons] at hlen
      omega
  | some it =>
      have herase : s.copyOnWrite.peers.erase it = none := by
        rw [IoLists.copyOnWrite]
        split
        · rename_i hunique
          exact NodeList.erase_eq_none.mpr fun hnode => hfits ⟨hunique, it, hit, hnode⟩
        · rw [peers_resetCopy]
          exact NodeList.erase_copy (h.iter_lt io it hit)
      simp only [hit, herase, Option.map_none] at hstep
      cases hstep

/-! ### Visiting -/

omit [DecidableEq ι] in
/-- **A call that begins** takes the current list object as its snapshot. -/
theorem PeerInv.foreachBegin (h : PeerInv s) :
    PeerInv s.foreachBegin ∧ s.view.Does .foreachBegin s.foreachBegin.view := by
  have hmem : ∀ f ∈ s.foreachBegin.running, f ∈ s.running ∨ f = ⟨s.ioList, []⟩ := by
    intro f hf
    rcases List.mem_append.mp hf with hf | hf
    · exact Or.inl hf
    · exact Or.inr (List.mem_singleton.mp hf)
  refine ⟨{ h with object_lt := fun f hf => ?_, visited := fun f hf => ?_ }, rfl, ?_⟩
  · rcases hmem f hf with hf | rfl
    · exact h.object_lt f hf
    · exact h.ioList_lt
  · rcases hmem f hf with hf | rfl
    · exact h.visited f hf
    · exact List.nil_prefix
  · exact List.map_append

omit [DecidableEq ι] in
/-- **A call that goes on** visits the next connection of its snapshot, or has visited all of
them and ends. -/
theorem PeerInv.foreachNext (h : PeerInv s) (k : ℕ) :
    PeerInv (s.foreachNext k) ∧ s.view.Does (.foreachNext k) (s.foreachNext k).view := by
  have hview : s.view.running[k]? =
      (s.running[k]?).map fun f => ((s.objects f.object).values, f.visited) :=
    List.getElem?_map
  rw [IoLists.foreachNext]
  cases hf : s.running[k]? with
  | none =>
      rw [hf] at hview
      exact ⟨h, rfl, .idle hview⟩
  | some f =>
      rw [hf, Option.map_some] at hview
      have hmem : f ∈ s.running := List.mem_of_getElem? hf
      obtain ⟨rest, hrest⟩ := h.visited f hmem
      simp only [← hrest, List.getElem?_append_right (Nat.le_refl _), Nat.sub_self]
      rw [← hrest] at hview
      cases rest with
      | nil =>
          rw [List.append_nil] at hview
          have hsub := List.eraseIdx_sublist s.running k
          refine ⟨{ h with
              object_lt := fun g hg => h.object_lt g (hsub.subset hg)
              visited := fun g hg => h.visited g (hsub.subset hg) }, rfl, ?_⟩
          have herase : (view { s with running := s.running.eraseIdx k }).running =
              s.view.running.eraseIdx k := (List.eraseIdx_map _ _ _).symm
          change Visits k s.view.running (view { s with running := s.running.eraseIdx k }).running
          rw [herase]
          exact .finish hview
      | cons io rest =>
          have hvisit : f.visited ++ [io] <+: (s.objects f.object).values := by
            rw [← hrest]
            exact ⟨rest, List.append_assoc _ _ _⟩
          refine ⟨{ h with
              object_lt := fun g hg => ?_
              visited := fun g hg => ?_ }, rfl, ?_⟩
          · rcases List.mem_or_eq_of_mem_set hg with hg | rfl
            · exact h.object_lt g hg
            · exact h.object_lt f hmem
          · rcases List.mem_or_eq_of_mem_set hg with hg | rfl
            · exact h.visited g hg
            · exact hvisit
          · have hset : (view { s with
                running := s.running.set k { f with visited := f.visited ++ [io] } }).running =
                s.view.running.set k (f.visited ++ io :: rest, f.visited ++ [io]) := by
              rw [hrest]
              exact List.map_set
            change Visits k s.view.running (view { s with
                running := s.running.set k { f with visited := f.visited ++ [io] } }).running
            rw [hset]
            exact .visit hview

/-! ### Runs -/

/-- The invariant of a run, as long as there is no undefined behaviour. -/
def PeerInvStep : Option (IoLists ι) → Prop
  | none => True
  | some s => PeerInv s

/-- **A call** does what it is to do exactly if an erase fits. -/
theorem PeerInv.doesRight_iff (h : PeerInv s) (e : PeerEvent ι) :
    DoesRight (some s) e ↔ EraseFits (some s) e := by
  cases e with
  | push io => exact iff_of_true ⟨_, rfl, (h.push io).2⟩ trivial
  | foreachBegin => exact iff_of_true ⟨_, rfl, h.foreachBegin.2⟩ trivial
  | foreachNext k => exact iff_of_true ⟨_, rfl, (h.foreachNext k).2⟩ trivial
  | erase io =>
      constructor
      · intro hright
        by_contra hfits
        exact h.not_erase hfits hright
      · intro hfits
        obtain ⟨s', hstep, -, hdoes⟩ := h.erase hfits
        exact ⟨s', hstep, hdoes⟩

/-- Every call keeps the invariant. -/
theorem PeerInv.step (h : PeerInv s) (e : PeerEvent ι) : PeerInvStep (peerStep (some s) e) := by
  cases e with
  | push io => exact (h.push io).1
  | foreachBegin => exact h.foreachBegin.1
  | foreachNext k => exact (h.foreachNext k).1
  | erase io =>
      obtain ⟨hinv, hunique, -⟩ := h.copyOnWrite
      rw [peerStep, peerServersErase, peersErase]
      cases hit : s.copyOnWrite.iterSp io with
      | none => exact hinv
      | some it =>
          simp only
          by_cases hnode : it ∈ s.copyOnWrite.peers.nodes
          · obtain ⟨x, before, after, hsplit, herase⟩ := NodeList.erase_eq_some hnode
            rw [herase]
            exact hinv.setPeers hunique hsplit
          · rw [NodeList.erase_eq_none.mpr hnode]
            exact trivial

/-- **The peer list.** In a run of pushes, erases and visits every call does what it is to
do exactly if every erase fits. -/
theorem copy_on_write_iff (es : List (PeerEvent ι)) :
    StepsMeet peerStep DoesRight (some new) es ↔
      StepsMeet peerStep EraseFits (some new) es := by
  refine stepsMeet_congr (I := PeerInvStep) ?_ ?_ peerInv_new
  · rintro (_ | s) e h
    · exact trivial
    · exact PeerInv.step h e
  · rintro (_ | s) e h
    · exact Iff.rfl
    · exact PeerInv.doesRight_iff h e

/-- A worker is in `peer_server_foreach` while the one peer disconnects: the list is copied,
and the iterator of the peer points into the old object. -/
theorem not_copy_on_write_shared :
    ¬ StepsMeet peerStep DoesRight (some (new : IoLists Unit))
      [.push (), .foreachBegin, .erase ()] := by
  rintro ⟨-, -, ⟨s', hstep, -⟩, -⟩
  cases hstep

end Yijian.IoLists

import Mathlib.Data.List.Nodup
import Mathlib.Data.List.Perm.Basic
import Mathlib.Logic.Function.Basic

/-!
# Linked Lists and Their Iterators

A linked list is the sequence of its nodes, each with its address and its value; an iterator
is the address of a node. Elements are erased through an iterator, which has to be one of
the list it is used on: `erase` with another one is undefined. A copy of a list has the same
values in nodes of its own, so no iterator of the one list is one of the other.

`Indexes iter next l` is the usual invariant of elements that know their own iterator: each
element of `l` is listed once, `iter` gives its node, and gives none for every other element.

## Convention

The addresses are natural numbers that the caller takes from a counter, and a new node gets one
that no list has used. Two lists in one program thus never share a node by accident, and an
iterator that has outlived its list stays dangling. Undefined behaviour is the result `none`,
which no later step can turn into a value again. The order of the list is that of the nodes; an
element may have been entered twice, and `Indexes` is what rules it out.

## Main results

* `erase_eq_some`: erasing through an iterator takes out one entry and keeps the order.
* `erase_copy`: an iterator older than a copy is of no use on it.
* `Indexes.insert`, `Indexes.remove`: entering an element and taking it out keep the index.
-/

/-- A linked list: the addresses and the values of its nodes. -/
abbrev NodeList (α : Type*) := List (ℕ × α)

namespace NodeList

variable {α : Type*}

/-- The values, in order. -/
def values (l : NodeList α) : List α := l.map Prod.snd

/-- The addresses of the nodes, in order. -/
def nodes (l : NodeList α) : List ℕ := l.map Prod.fst

/-- A new node at the end. -/
def insertEnd (l : NodeList α) (node : ℕ) (x : α) : NodeList α := l ++ [(node, x)]

/-- The list without the node that the iterator points to. -/
def erase (l : NodeList α) (it : ℕ) : Option (NodeList α) :=
  if it ∈ l.nodes then some (l.eraseP fun p => p.1 == it) else none

/-- A list of the same values, in the nodes from `fresh` on. -/
def copy (l : NodeList α) (fresh : ℕ) : NodeList α :=
  (l.values.zipIdx fresh).map Prod.swap

@[simp] theorem values_nil : values ([] : NodeList α) = [] := rfl

@[simp] theorem values_cons (p : ℕ × α) (l : NodeList α) : values (p :: l) = p.2 :: values l :=
  rfl

@[simp] theorem nodes_cons (p : ℕ × α) (l : NodeList α) : nodes (p :: l) = p.1 :: nodes l := rfl

@[simp] theorem values_append (l l' : NodeList α) :
    values (l ++ l') = values l ++ values l' := List.map_append

@[simp] theorem nodes_append (l l' : NodeList α) : nodes (l ++ l') = nodes l ++ nodes l' :=
  List.map_append

@[simp] theorem values_insertEnd (l : NodeList α) (node : ℕ) (x : α) :
    (l.insertEnd node x).values = l.values ++ [x] := by
  rw [insertEnd, values_append]
  rfl

@[simp] theorem nodes_insertEnd (l : NodeList α) (node : ℕ) (x : α) :
    (l.insertEnd node x).nodes = l.nodes ++ [node] := by
  rw [insertEnd, nodes_append]
  rfl

@[simp] theorem values_copy (l : NodeList α) (fresh : ℕ) : (l.copy fresh).values = l.values := by
  rw [copy, values, List.map_map]
  exact List.zipIdx_map_fst fresh l.values

@[simp] theorem nodes_copy (l : NodeList α) (fresh : ℕ) :
    (l.copy fresh).nodes = List.range' fresh l.length := by
  rw [copy, nodes, List.map_map]
  have hsnd : (l.values.zipIdx fresh).map Prod.snd = List.range' fresh l.values.length :=
    List.zipIdx_map_snd fresh l.values
  rw [values, List.length_map] at hsnd
  exact hsnd

/-- The value of an entry is one of the values. -/
theorem mem_values_of_mem {l : NodeList α} {node : ℕ} {x : α} (h : (node, x) ∈ l) :
    x ∈ l.values := List.mem_map_of_mem h

/-- The node of an entry is one of the nodes. -/
theorem mem_nodes_of_mem {l : NodeList α} {node : ℕ} {x : α} (h : (node, x) ∈ l) :
    node ∈ l.nodes := List.mem_map_of_mem h

/-- Every value has a node. -/
theorem exists_of_mem_values {l : NodeList α} {x : α} (h : x ∈ l.values) :
    ∃ node, (node, x) ∈ l := by
  obtain ⟨⟨node, y⟩, hmem, rfl⟩ := List.mem_map.mp h
  exact ⟨node, hmem⟩

/-- Every node has a value. -/
theorem exists_of_mem_nodes {l : NodeList α} {node : ℕ} (h : node ∈ l.nodes) :
    ∃ x, (node, x) ∈ l := by
  obtain ⟨⟨node', x⟩, hmem, rfl⟩ := List.mem_map.mp h
  exact ⟨x, hmem⟩

/-- A node holds one value. -/
theorem eq_of_mem_of_nodup {l : NodeList α} (h : l.nodes.Nodup) {node : ℕ} {x y : α}
    (hx : (node, x) ∈ l) (hy : (node, y) ∈ l) : x = y :=
  congrArg Prod.snd (List.inj_on_of_nodup_map h hx hy rfl)

/-! ### Erasing -/

/-- Only an iterator of the list can be erased. -/
theorem erase_eq_none {l : NodeList α} {it : ℕ} : l.erase it = none ↔ it ∉ l.nodes := by
  rw [erase]
  split
  · rename_i hmem
    exact iff_of_false (by simp) (fun hnot => hnot hmem)
  · rename_i hnot
    exact iff_of_true rfl hnot

/-- **Erasing** takes out the node of the iterator. -/
theorem erase_append_cons {before after : NodeList α} {it : ℕ} {x : α}
    (h : it ∉ before.nodes) :
    erase (before ++ (it, x) :: after) it = some (before ++ after) := by
  have hbefore : ∀ p ∈ before, ¬ (p.1 == it) = true := by
    intro p hp heq
    exact h (beq_iff_eq.mp heq ▸ List.mem_map_of_mem hp)
  rw [erase, if_pos (by simp), List.eraseP_append_right _ hbefore,
    List.eraseP_cons_of_pos (by simp)]

/-- An iterator of the list can be used, and takes out one entry. -/
theorem erase_eq_some {l : NodeList α} {it : ℕ} (h : it ∈ l.nodes) :
    ∃ x before after, l = before ++ (it, x) :: after ∧ l.erase it = some (before ++ after) := by
  induction l with
  | nil => cases h
  | cons p l ih =>
      by_cases heq : p.1 = it
      · refine ⟨p.2, [], l, by rw [← heq]; rfl, ?_⟩
        rw [← heq]
        have hnil : p.1 ∉ nodes ([] : NodeList α) := List.not_mem_nil
        exact erase_append_cons hnil
      · have hmem : it ∈ nodes l := by
          rcases List.mem_cons.mp h with heq' | hmem
          · exact absurd heq'.symm heq
          · exact hmem
        obtain ⟨x, before, after, rfl, herase⟩ := ih hmem
        refine ⟨x, p :: before, after, rfl, ?_⟩
        rw [erase, if_pos hmem, Option.some.injEq] at herase
        rw [erase, if_pos h, List.eraseP_cons_of_neg (by simpa using heq), herase]
        rfl

/-- An iterator older than the copy is of no use on it. -/
theorem erase_copy {l : NodeList α} {it fresh : ℕ} (h : it < fresh) :
    (l.copy fresh).erase it = none := by
  rw [erase_eq_none, nodes_copy, List.mem_range'_1]
  omega

/-! ### Elements that know their iterator -/

/-- Each element of `l` is listed once and `iter` gives its node, one of the nodes below
`next`; for an element that is not listed it gives none. -/
structure Indexes (iter : α → Option ℕ) (next : ℕ) (l : NodeList α) : Prop where
  nodup_nodes : l.nodes.Nodup
  nodup_values : l.values.Nodup
  lt_next : ∀ node ∈ l.nodes, node < next
  iter_iff : ∀ x node, iter x = some node ↔ (node, x) ∈ l

namespace Indexes

variable {iter : α → Option ℕ} {next : ℕ} {l l' : NodeList α}

/-- A value without an iterator is not listed. -/
theorem iter_eq_none (h : Indexes iter next l) {x : α} : iter x = none ↔ x ∉ l.values := by
  rw [Option.eq_none_iff_forall_ne_some]
  constructor
  · intro hnone hmem
    obtain ⟨node, hmem⟩ := exists_of_mem_values hmem
    exact hnone node ((h.iter_iff x node).mpr hmem)
  · intro hmem node hsome
    exact hmem (mem_values_of_mem ((h.iter_iff x node).mp hsome))

/-- The order of the list does not matter. -/
theorem perm (h : Indexes iter next l) (hperm : l.Perm l') : Indexes iter next l' where
  nodup_nodes := (hperm.map Prod.fst).nodup_iff.mp h.nodup_nodes
  nodup_values := (hperm.map Prod.snd).nodup_iff.mp h.nodup_values
  lt_next node hnode := h.lt_next node ((hperm.map Prod.fst).mem_iff.mpr hnode)
  iter_iff x node := (h.iter_iff x node).trans hperm.mem_iff

/-- A list that lists nothing. -/
theorem nil (next : ℕ) : Indexes (fun _ : α => none) next [] where
  nodup_nodes := List.nodup_nil
  nodup_values := List.nodup_nil
  lt_next node hnode := by cases hnode
  iter_iff x node := by simp

variable [DecidableEq α]

/-- **Entering** an element in a new node. -/
theorem insert (h : Indexes iter next l) {x : α} (hx : iter x = none) :
    Indexes (Function.update iter x (some next)) (next + 1) ((next, x) :: l) where
  nodup_nodes := List.nodup_cons.mpr
    ⟨fun hmem => Nat.lt_irrefl next (h.lt_next next hmem), h.nodup_nodes⟩
  nodup_values := List.nodup_cons.mpr ⟨h.iter_eq_none.mp hx, h.nodup_values⟩
  lt_next node hnode := by
    rcases List.mem_cons.mp hnode with rfl | hnode
    · exact Nat.lt_succ_self _
    · exact Nat.lt_succ_of_lt (h.lt_next node hnode)
  iter_iff y node := by
    rw [List.mem_cons, Prod.mk.injEq]
    by_cases hy : y = x
    · subst hy
      rw [Function.update_self, Option.some.injEq]
      have hnot : (node, y) ∉ l := fun hmem => h.iter_eq_none.mp hx (mem_values_of_mem hmem)
      constructor
      · rintro rfl
        exact Or.inl ⟨rfl, rfl⟩
      · rintro (⟨heq, -⟩ | hmem)
        · exact heq.symm
        · exact absurd hmem hnot
    · rw [Function.update_of_ne hy, h.iter_iff]
      exact ⟨Or.inr, fun hor => hor.resolve_left fun heq => hy heq.2⟩

/-- **Taking out** an element. -/
theorem remove {node : ℕ} {x : α} (h : Indexes iter next ((node, x) :: l)) :
    Indexes (Function.update iter x none) next l where
  nodup_nodes := (List.nodup_cons.mp h.nodup_nodes).2
  nodup_values := (List.nodup_cons.mp h.nodup_values).2
  lt_next node' hnode := h.lt_next node' (List.mem_cons_of_mem _ hnode)
  iter_iff y node' := by
    have hx : x ∉ l.values := (List.nodup_cons.mp h.nodup_values).1
    by_cases hy : y = x
    · subst hy
      rw [Function.update_self]
      exact iff_of_false (by simp) fun hmem => hx (mem_values_of_mem hmem)
    · rw [Function.update_of_ne hy, h.iter_iff, List.mem_cons, Prod.mk.injEq]
      exact ⟨fun hor => hor.resolve_left fun heq => hy heq.2, Or.inr⟩

/-- Removing from the front of two lists, the first of which holds the element. -/
theorem remove_append {before after rest : NodeList α} {node : ℕ} {x : α}
    (h : Indexes iter next ((before ++ (node, x) :: after) ++ rest)) :
    Indexes (Function.update iter x none) next ((before ++ after) ++ rest) := by
  have hfront : Indexes iter next ((node, x) :: ((before ++ after) ++ rest)) := by
    refine h.perm ?_
    rw [← List.cons_append]
    exact List.Perm.append_right rest List.perm_middle
  exact hfront.remove

end Indexes

end NodeList

import Mathlib.Data.Nat.Notation
import Mathlib.Logic.Function.Basic

/-!
# Maps of Nodes and Their Iterators

A map keeps each entry in a node of its own. An iterator is the address of a node, together
with the key of the node, which never changes. A value is put into the node of its key, and
into a new one only where the key has none (`assign`): an iterator of the key stays valid, and
leads to the new value. Entries are erased through an iterator, whose node has to be in the
map: `erase` with another one is undefined.

## Convention

The address stands for the node, and a counter gives a new node a number that no node of the map
has had. A key keeps its node while it is in the map, which is why a value can be assigned through
it while somebody else holds an iterator. After an erase and a new assignment the key has another
node, and the old iterator is of no use, although its key is in the map again. Maps whose nodes
are not counted, and are only asked for their values, are functions and need none of this.

## Main results

* `slot_assign_self`, `slot_assign_of_ne`: what an assignment does to the entries.
* `erase_eq_some_iff`: when an iterator can be used, and what is left.
-/

/-- A map of nodes: the node and the value of each key, and the next address. -/
structure NodeMap (κ ν : Type*) where
  slot : κ → Option (ℕ × ν)
  fresh : ℕ

namespace NodeMap

variable {κ ν : Type*} [DecidableEq κ]

/-- An iterator. -/
structure Iterator (κ : Type*) where
  key : κ
  node : ℕ

/-- A map without entries. -/
def empty : NodeMap κ ν := ⟨fun _ => none, 0⟩

/-- The node of a key, or the one that it would get. -/
def nodeOf (m : NodeMap κ ν) (key : κ) : ℕ :=
  match m.slot key with
  | some (node, _) => node
  | none => m.fresh

/-- `m[key] = value`. -/
def assign (m : NodeMap κ ν) (key : κ) (value : ν) : NodeMap κ ν where
  slot := Function.update m.slot key (some (m.nodeOf key, value))
  fresh := if (m.slot key).isSome then m.fresh else m.fresh + 1

/-- The map without the node that the iterator points to. -/
def erase (m : NodeMap κ ν) (it : Iterator κ) : Option (NodeMap κ ν) :=
  if (m.slot it.key).map Prod.fst = some it.node then
    some { m with slot := Function.update m.slot it.key none }
  else none

omit [DecidableEq κ] in
@[simp] theorem slot_empty (key : κ) : (empty : NodeMap κ ν).slot key = none := rfl

@[simp] theorem slot_assign_self (m : NodeMap κ ν) (key : κ) (value : ν) :
    (m.assign key value).slot key = some (m.nodeOf key, value) :=
  Function.update_self key _ m.slot

@[simp] theorem slot_assign_of_ne (m : NodeMap κ ν) {key key' : κ} (h : key' ≠ key) (value : ν) :
    (m.assign key value).slot key' = m.slot key' :=
  Function.update_of_ne h _ m.slot

/-- **Erasing** is possible where the node of the iterator is in the map, whatever its value has
become, and takes out that entry. -/
theorem erase_eq_some_iff {m m' : NodeMap κ ν} {it : Iterator κ} :
    m.erase it = some m' ↔
      (∃ value, m.slot it.key = some (it.node, value)) ∧
        m' = { m with slot := Function.update m.slot it.key none } := by
  rw [erase]
  cases hslot : m.slot it.key with
  | none => simp
  | some p =>
      obtain ⟨node, value⟩ := p
      simp only [Option.map_some, Option.some.injEq, Prod.mk.injEq]
      by_cases hnode : node = it.node
      · simp [hnode, eq_comm]
      · simp [hnode]

end NodeMap

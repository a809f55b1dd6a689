import Mathlib.Logic.Function.Basic

/-!
# Routes by Key and by Owner

A routing table `κ → Option ι` takes a key to its owner. It can be edited by key or by
owner, and the two agree only where the entries of an owner are the entries under its
key. The lemmas say exactly when.

## Convention

A deletion by key does not look at the owner, and a deletion by owner does not look at the key. A
program that keeps the table by key, for entries that have owners, gets along as long as nobody
enters a key of which another one is the owner still. The equivalences are between the two edits,
in one step, for any table; what a run of edits comes to is left to the program, which knows
whose keys they are.

## Main results

* `delete_eq_remove_iff`, `deleteAll_eq_removeAll_iff`: deleting keys removes the given
  owners.
* `put_eq_claim_iff`: putting an entry leaves its owner one entry.
-/

namespace Routes

variable {κ ι : Type*} [DecidableEq κ]

/-- Enter `i` under the key `k`. -/
def put (k : κ) (i : ι) (m : κ → Option ι) : κ → Option ι := Function.update m k (some i)

/-- Delete the entry under the key `k`. -/
def delete (k : κ) (m : κ → Option ι) : κ → Option ι := Function.update m k none

/-- Delete the entries under the keys `key i`. -/
def deleteAll (key : ι → κ) (is : List ι) (m : κ → Option ι) : κ → Option ι :=
  is.foldl (fun m i => delete (key i) m) m

@[simp] theorem put_self (k : κ) (i : ι) (m : κ → Option ι) : put k i m k = some i := by
  simp [put]

/-- The other keys keep their routes. -/
theorem put_of_ne {k w : κ} (h : w ≠ k) (i : ι) (m : κ → Option ι) : put k i m w = m w := by
  simp [put, h]

@[simp] theorem delete_self (k : κ) (m : κ → Option ι) : delete k m k = none := by
  simp [delete]

/-- The other keys keep their routes. -/
theorem delete_of_ne {k w : κ} (h : w ≠ k) (m : κ → Option ι) : delete k m w = m w := by
  simp [delete, h]

/-- An entry that is deleted at once leaves nothing. -/
@[simp] theorem delete_put (k : κ) (i : ι) (m : κ → Option ι) :
    delete k (put k i m) = delete k m := by
  simp [delete, put]

/-- To delete a key twice is to delete it once. -/
theorem delete_delete (k : κ) (m : κ → Option ι) : delete k (delete k m) = delete k m := by
  simp [delete]

/-- The keys of a list are deleted, and no others. -/
theorem deleteAll_apply (key : ι → κ) (is : List ι) (m : κ → Option ι) (w : κ) :
    deleteAll key is m w = if w ∈ is.map key then none else m w := by
  induction is generalizing m with
  | nil => rfl
  | cons i is ih =>
      have hfold : deleteAll key (i :: is) m w = deleteAll key is (delete (key i) m) w := rfl
      rw [hfold, ih]
      by_cases hw : w = key i
      · subst hw
        simp
      · simp [hw, delete_of_ne]

variable [DecidableEq ι]

/-- Remove all entries of the owners `is`. -/
def removeAll (is : List ι) (m : κ → Option ι) : κ → Option ι :=
  fun w => (m w).filter fun j => j ∉ is

/-- Remove all entries of the owner `i`. -/
def remove (i : ι) (m : κ → Option ι) : κ → Option ι := removeAll [i] m

/-- Give `i` the key `k` and no other. -/
def claim (k : κ) (i : ι) (m : κ → Option ι) : κ → Option ι := put k i (remove i m)

omit [DecidableEq κ] in
/-- A key is without a route if the one it had led to a connection of the list. -/
theorem removeAll_eq_none_iff {is : List ι} {m : κ → Option ι} {w : κ} :
    removeAll is m w = none ↔ ∀ j, m w = some j → j ∈ is := by
  simp [removeAll, Option.filter_eq_none_iff]

omit [DecidableEq κ] in
/-- A key keeps its route if that does not lead to a connection of the list. -/
theorem removeAll_eq_iff {is : List ι} {m : κ → Option ι} {w : κ} :
    removeAll is m w = m w ↔ ∀ j, m w = some j → j ∉ is := by
  rw [removeAll]
  cases m w <;> simp

/-- Deleting the keys of some owners removes these owners exactly if every entry under one
of the keys belongs to one of them and they have no others. -/
theorem deleteAll_eq_removeAll_iff {key : ι → κ} {is : List ι} {m : κ → Option ι} :
    deleteAll key is m = removeAll is m ↔
      ∀ w j, m w = some j → (w ∈ is.map key ↔ j ∈ is) := by
  rw [funext_iff]
  refine forall_congr' fun w => ?_
  rw [deleteAll_apply]
  by_cases hw : w ∈ is.map key
  · rw [if_pos hw, eq_comm, removeAll_eq_none_iff]
    simp only [hw, true_iff]
  · rw [if_neg hw, eq_comm, removeAll_eq_iff]
    simp only [hw, false_iff]

/-- Deleting a key removes an owner exactly if the entry under the key, if any, is the
owner's, and the owner has no other. -/
theorem delete_eq_remove_iff {k : κ} {i : ι} {m : κ → Option ι} :
    delete k m = remove i m ↔ ∀ w j, m w = some j → (w = k ↔ j = i) := by
  have hone : delete k m = deleteAll (fun _ => k) [i] m := rfl
  rw [hone, remove, deleteAll_eq_removeAll_iff]
  simp

/-- Entering an owner under a key leaves it no other key exactly if it has no other. -/
theorem put_eq_claim_iff {k : κ} {i : ι} {m : κ → Option ι} :
    put k i m = claim k i m ↔ ∀ w, m w = some i → w = k := by
  rw [claim, funext_iff]
  refine forall_congr' fun w => ?_
  by_cases hw : w = k
  · simp [hw]
  · rw [put_of_ne hw, put_of_ne hw, eq_comm, remove, removeAll_eq_iff]
    simp only [List.mem_singleton, hw, imp_false]
    constructor
    · intro h hi
      exact h i hi rfl
    · rintro h j hj rfl
      exact h hj

omit [DecidableEq ι] in
/-- Entering an owner under a key changes nothing exactly if it is there. -/
theorem put_eq_self_iff {k : κ} {i : ι} {m : κ → Option ι} :
    put k i m = m ↔ m k = some i := by
  rw [put, Function.update_eq_self_iff, eq_comm]

omit [DecidableEq κ] in
/-- Removing an owner changes nothing exactly if it has no entry. -/
theorem remove_eq_self_iff {i : ι} {m : κ → Option ι} :
    remove i m = m ↔ ∀ w, m w ≠ some i := by
  rw [funext_iff]
  refine forall_congr' fun w => ?_
  rw [remove, removeAll_eq_iff]
  simp only [List.mem_singleton]
  constructor
  · intro h hi
    exact h i hi rfl
  · rintro h j hj rfl
    exact h hj

end Routes

import Mathlib.Data.List.Forall2
import Mathlib.Data.List.Nodup
import Mathlib.Data.List.Pairwise

/-!
# Collections of Documents

A collection is a list of documents. `findOne` and `updateOne` take the first document
that matches, `insertUnique` keeps a key unique, and `addToSet` adds an element to an
array that does not have it. `run` runs operations one after the other, any of which may
fail by itself or by a fault from outside; what was done before stays done.

## Convention

A collection is a list in the order of insertion, since a query without a sort gives documents in
that order, and an update of one document takes the first. A unique index is a function to keys:
an insert of a key that is there already fails, and a document in which the fields of the index
are missing has a key, too. A failure comes in two kinds, which the callers tell apart and `run`
does not: an operation that refuses by itself, and a fault from outside, which strikes before the
operation has done anything. Either way the operations before have been done and those behind are
not reached. There are no transactions to take anything back.

## Main results

* `map_updateOne`: what an update keeps of each document.
* `mem_join`, `nodup_join`: what the keys of the documents lead to, once each.
* `run_inv`: the induction rule — what every operation preserves is preserved by a
  sequence of them, wherever it fails.
* `run_outline`: what holds where a sequence stops, by an assertion for each operation.
* `run_simulation`, `run_simulation_forall₂`: operations that do what others do, wherever they
  stop.
-/

namespace Documents

variable {α κ : Type*}

/-- The first document that matches. -/
def findOne (p : α → Bool) (docs : List α) : Option α := docs.find? p

/-- Update the first document that matches. -/
def updateOne (p : α → Bool) (f : α → α) : List α → List α
  | [] => []
  | doc :: docs => if p doc then f doc :: docs else doc :: updateOne p f docs

/-- An update that matches nothing does nothing. -/
theorem updateOne_of_find_eq_none {p : α → Bool} {f : α → α} {docs : List α}
    (h : docs.find? p = none) : updateOne p f docs = docs := by
  induction docs with
  | nil => rfl
  | cons d docs ih =>
      have hd : ¬ p d = true := List.find?_eq_none.mp h d List.mem_cons_self
      rw [updateOne, if_neg hd, ih ((List.find?_cons_of_neg hd).symm.trans h)]

/-- The document that an update leaves matching is found afterwards. -/
theorem findOne_updateOne {p : α → Bool} {f : α → α} (hf : ∀ doc, p doc = true → p (f doc) = true)
    (docs : List α) : findOne p (updateOne p f docs) = (findOne p docs).map f := by
  induction docs with
  | nil => rfl
  | cons d docs ih =>
      rw [updateOne, findOne, findOne]
      split
      · rename_i hd
        rw [List.find?_cons_of_pos hd, List.find?_cons_of_pos (hf d hd), Option.map_some]
      · rename_i hd
        rw [List.find?_cons_of_neg hd, List.find?_cons_of_neg hd]
        exact ih

/-- An update leaves alone what it keeps of the document that is found. -/
theorem map_updateOne_find {β : Type*} {p : α → Bool} {f : α → α} {g : α → β} {docs : List α}
    (hg : ∀ doc, docs.find? p = some doc → g (f doc) = g doc) :
    (updateOne p f docs).map g = docs.map g := by
  induction docs with
  | nil => rfl
  | cons d docs ih =>
      rw [updateOne]
      split
      · rename_i hd
        rw [List.map_cons, List.map_cons, hg d (List.find?_cons_of_pos hd)]
      · rename_i hd
        rw [List.map_cons, List.map_cons, ih]
        intro doc hdoc
        exact hg doc ((List.find?_cons_of_neg hd).trans hdoc)

/-- An update leaves alone what it keeps of each document. -/
theorem map_updateOne {β : Type*} {p : α → Bool} {f : α → α} {g : α → β}
    (hg : ∀ doc, p doc = true → g (f doc) = g doc) (docs : List α) :
    (updateOne p f docs).map g = docs.map g :=
  map_updateOne_find fun doc hdoc => hg doc (List.find?_some hdoc)

/-- An update of documents that are made of others. -/
theorem updateOne_map {β : Type*} {p : α → Bool} {f : α → α} {g : β → α} {q : β → Bool}
    {h : β → β} (hp : ∀ b, p (g b) = q b) (hf : ∀ b, f (g b) = g (h b)) (bs : List β) :
    updateOne p f (bs.map g) = (updateOne q h bs).map g := by
  induction bs with
  | nil => rfl
  | cons b bs ih =>
      rw [List.map_cons, updateOne, updateOne, hp, hf, ih]
      split <;> rfl

/-- What is there after an update has been there, or is what the update has made. -/
theorem mem_updateOne {p : α → Bool} {f : α → α} {docs : List α} {doc : α}
    (h : doc ∈ updateOne p f docs) : doc ∈ docs ∨ ∃ old ∈ docs, p old = true ∧ doc = f old := by
  induction docs with
  | nil => cases h
  | cons d docs ih =>
      rw [updateOne] at h
      split at h
      · rename_i hp
        rcases List.mem_cons.mp h with rfl | h
        · exact .inr ⟨d, List.mem_cons_self, hp, rfl⟩
        · exact .inl (List.mem_cons_of_mem d h)
      · rcases List.mem_cons.mp h with rfl | h
        · exact .inl List.mem_cons_self
        · rcases ih h with h | ⟨old, hold, hp, rfl⟩
          · exact .inl (List.mem_cons_of_mem d h)
          · exact .inr ⟨old, List.mem_cons_of_mem d hold, hp, rfl⟩

/-- The updated document is the one that is found. -/
theorem mem_updateOne_find {p : α → Bool} {f : α → α} {docs : List α} {doc : α}
    (h : doc ∈ updateOne p f docs) :
    doc ∈ docs ∨ ∃ old, findOne p docs = some old ∧ doc = f old := by
  induction docs with
  | nil => cases h
  | cons d docs ih =>
      rw [updateOne] at h
      split at h
      · rename_i hp
        rcases List.mem_cons.mp h with rfl | h
        · exact .inr ⟨d, List.find?_cons_of_pos hp, rfl⟩
        · exact .inl (List.mem_cons_of_mem d h)
      · rename_i hp
        rcases List.mem_cons.mp h with rfl | h
        · exact .inl List.mem_cons_self
        · rcases ih h with h | ⟨old, hfind, rfl⟩
          · exact .inl (List.mem_cons_of_mem d h)
          · exact .inr ⟨old, (List.find?_cons_of_neg hp).trans hfind, rfl⟩

/-- Two updates of the document that is found are one. -/
theorem updateOne_updateOne {p : α → Bool} {f g : α → α}
    (hf : ∀ doc, p doc = true → p (f doc) = true) (docs : List α) :
    updateOne p g (updateOne p f docs) = updateOne p (g ∘ f) docs := by
  induction docs with
  | nil => rfl
  | cons d docs ih =>
      rw [updateOne, updateOne]
      split
      · rename_i hp
        rw [updateOne, if_pos (hf d hp), Function.comp_apply]
      · rename_i hp
        rw [updateOne, if_neg hp, ih]

/-- Every document is there after an update, as it was or updated. -/
theorem exists_mem_updateOne (p : α → Bool) (f : α → α) {docs : List α} {doc : α}
    (h : doc ∈ docs) : doc ∈ updateOne p f docs ∨ f doc ∈ updateOne p f docs := by
  induction docs with
  | nil => cases h
  | cons d docs ih =>
      rw [updateOne]
      rcases List.mem_cons.mp h with rfl | h
      · split
        · exact .inr List.mem_cons_self
        · exact .inl List.mem_cons_self
      · split
        · exact .inl (List.mem_cons_of_mem _ h)
        · exact (ih h).imp (List.mem_cons_of_mem d) (List.mem_cons_of_mem d)

/-- An update takes no document away. -/
@[simp] theorem length_updateOne (p : α → Bool) (f : α → α) (docs : List α) :
    (updateOne p f docs).length = docs.length := by
  simpa using congrArg List.length (map_updateOne (g := fun _ => ()) (fun _ _ => rfl) docs)

/-- Update all documents that match. -/
def updateMany (p : α → Bool) (f : α → α) (docs : List α) : List α :=
  docs.map fun doc => if p doc then f doc else doc

/-- Two updates do the same if they do the same to each document. -/
theorem updateMany_inj {p q : α → Bool} {f g : α → α} {docs : List α} :
    updateMany p f docs = updateMany q g docs ↔
      ∀ doc ∈ docs, (if p doc then f doc else doc) = if q doc then g doc else doc :=
  List.map_inj_left

/-- An update leaves alone what it keeps of each document. -/
theorem map_updateMany {β : Type*} {p : α → Bool} {f : α → α} {g : α → β}
    (hg : ∀ doc, p doc = true → g (f doc) = g doc) (docs : List α) :
    (updateMany p f docs).map g = docs.map g := by
  rw [updateMany, List.map_map]
  refine List.map_congr_left fun doc _ => ?_
  rw [Function.comp_apply]
  split
  · rename_i hp
    exact hg doc hp
  · rfl

/-- An update of many documents does nothing if it changes none of those that match. -/
theorem updateMany_eq_self_iff {p : α → Bool} {f : α → α} {docs : List α} :
    updateMany p f docs = docs ↔ ∀ doc ∈ docs, p doc = true → f doc = doc := by
  constructor
  · intro h doc hdoc hp
    have hself := List.map_inj_left.mp (h.trans (List.map_id docs).symm) doc hdoc
    simpa [hp] using hself
  · intro h
    refine (List.map_congr_left fun doc hdoc => ?_).trans (List.map_id docs)
    split
    · rename_i hp
      exact h doc hdoc hp
    · rfl

/-- Where keys are unique and all that matches has one key, the first document that matches is
the only one. -/
theorem updateOne_eq_updateMany {key : α → κ} {k : κ} {p : α → Bool} {f : α → α}
    {docs : List α} (hnodup : (docs.map key).Nodup) (hp : ∀ doc, p doc = true → key doc = k) :
    updateOne p f docs = updateMany p f docs := by
  induction docs with
  | nil => rfl
  | cons d docs ih =>
      obtain ⟨hd, hdocs⟩ := List.nodup_cons.mp hnodup
      rw [updateOne, updateMany, List.map_cons]
      split
      · rename_i hpd
        have hrest : updateMany p f docs = docs := by
          rw [updateMany_eq_self_iff]
          intro doc hdoc hpdoc
          have hkey : key doc = key d := (hp doc hpdoc).trans (hp d hpd).symm
          exact absurd (hkey ▸ List.mem_map_of_mem hdoc) hd
        rw [← updateMany, hrest]
      · rw [ih hdocs, updateMany]

/-! ### Documents and what they stand for -/

section Represent

variable {ρ : Type*} {R : α → ρ → Prop} {docs : List α} {recs : List ρ} {p : α → Bool}
  {q : ρ → Bool}

/-- The document that is found stands for what is found. -/
theorem forall₂_find (h : List.Forall₂ R docs recs) (hp : ∀ doc r, R doc r → p doc = q r) :
    (docs.find? p = none ∧ recs.find? q = none) ∨
      ∃ doc r, docs.find? p = some doc ∧ recs.find? q = some r ∧ R doc r := by
  induction h with
  | nil => exact .inl ⟨rfl, rfl⟩
  | @cons doc r docs recs hR hrest ih =>
      rw [List.find?_cons, List.find?_cons, hp doc r hR]
      cases q r with
      | true => exact .inr ⟨doc, r, rfl, rfl, hR⟩
      | false => exact ih

/-- Every record has a document that stands for it. -/
theorem exists_of_mem_forall₂ (h : List.Forall₂ R docs recs) {r : ρ} (hr : r ∈ recs) :
    ∃ doc ∈ docs, R doc r := by
  induction h with
  | nil => cases hr
  | cons hR _ ih =>
      rcases List.mem_cons.mp hr with rfl | hr
      · exact ⟨_, List.mem_cons_self, hR⟩
      · obtain ⟨doc, hdoc, hR'⟩ := ih hr
        exact ⟨doc, List.mem_cons_of_mem _ hdoc, hR'⟩

/-- **An update of one document** is one of what it stands for, if the document that is found
stands for what is found, after it as before. -/
theorem forall₂_updateOne_iff {f : α → α} {g : ρ → ρ} (h : List.Forall₂ R docs recs)
    (hp : ∀ doc r, R doc r → p doc = q r) :
    List.Forall₂ R (updateOne p f docs) (updateOne q g recs) ↔
      ∀ doc r, docs.find? p = some doc → recs.find? q = some r → R doc r → R (f doc) (g r) := by
  induction h with
  | nil => exact iff_of_true .nil fun _ _ h _ => nomatch h
  | @cons doc r docs recs hR hrest ih =>
      rw [updateOne, updateOne, List.find?_cons, List.find?_cons, hp doc r hR]
      cases q r with
      | true =>
          rw [if_pos rfl, if_pos rfl, List.forall₂_cons, and_iff_left hrest]
          constructor
          · rintro h doc' r' ⟨⟩ ⟨⟩ -
            exact h
          · exact fun h => h doc r rfl rfl hR
      | false =>
          rw [if_neg Bool.false_ne_true, if_neg Bool.false_ne_true, List.forall₂_cons,
            and_iff_right hR, ih]

/-- A document that stands for its record after an update as before. -/
theorem forall₂_updateOne_left {f : α → α} (h : List.Forall₂ R docs recs)
    (hf : ∀ doc r, docs.find? p = some doc → R doc r → R (f doc) r) :
    List.Forall₂ R (updateOne p f docs) recs := by
  induction h with
  | nil => exact .nil
  | @cons doc r docs recs hR hrest ih =>
      rw [updateOne]
      split
      · rename_i hp
        exact .cons (hf doc r (List.find?_cons_of_pos hp) hR) hrest
      · rename_i hp
        refine .cons hR (ih fun doc' r' hfind hR' => ?_)
        exact hf doc' r' ((List.find?_cons_of_neg hp).trans hfind) hR'

/-- What holds of each record, by the document that stands for it. -/
theorem forall_mem_iff_forall₂ {S : α → ρ → Prop} {P : ρ → Prop} (h : List.Forall₂ R docs recs)
    (hP : ∀ doc ∈ docs, ∀ r, R doc r → (P r ↔ S doc r)) :
    (∀ r ∈ recs, P r) ↔ List.Forall₂ S docs recs := by
  induction h with
  | nil => exact iff_of_true (fun _ h => nomatch h) .nil
  | @cons doc r docs recs hR hrest ih =>
      rw [List.forall_mem_cons, List.forall₂_cons, hP doc List.mem_cons_self r hR,
        ih fun doc' hdoc' => hP doc' (List.mem_cons_of_mem doc hdoc')]

end Represent

/-- A document with a new key. -/
theorem nodup_append_singleton {key : α → κ} {doc : α} {docs : List α}
    (h : (docs.map key).Nodup) (hnew : ∀ d ∈ docs, key d ≠ key doc) :
    ((docs ++ [doc]).map key).Nodup := by
  rw [List.map_append, List.map_singleton, List.nodup_append]
  refine ⟨h, List.nodup_singleton _, fun k hk k' hk' heq => ?_⟩
  obtain ⟨d, hd, rfl⟩ := List.mem_map.mp hk
  exact hnew d hd (heq.trans (List.mem_singleton.mp hk'))

/-- Insert a document behind the others, unless one of them has its key. -/
def insertUnique [DecidableEq κ] (key : α → κ) (doc : α) (docs : List α) :
    Option (List α) :=
  if key doc ∈ docs.map key then none else some (docs ++ [doc])

/-- After an insert the key is there, whether the insert has been refused or not. -/
theorem mem_keys_insertUnique [DecidableEq κ] {key : α → κ} {doc : α} {docs : List α} {k : κ} :
    k ∈ ((insertUnique key doc docs).getD docs).map key ↔ k ∈ docs.map key ∨ k = key doc := by
  rw [insertUnique]
  split
  · rename_i hkey
    constructor
    · exact .inl
    · rintro (h | rfl)
      · exact h
      · exact hkey
  · rw [Option.getD_some, List.map_append, List.mem_append, List.map_singleton,
      List.mem_singleton]

/-- An insert keeps the keys unique. -/
theorem nodup_insertUnique [DecidableEq κ] {key : α → κ} {doc : α} {docs : List α}
    (h : (docs.map key).Nodup) : (((insertUnique key doc docs).getD docs).map key).Nodup := by
  rw [insertUnique]
  split
  · exact h
  · rename_i hkey
    exact nodup_append_singleton h fun d hd heq => hkey (heq ▸ List.mem_map_of_mem hd)

/-- Insert documents, each of them whatever becomes of the others, and tell whether all have
found their keys free. -/
def insertEach [DecidableEq κ] (key : α → κ) : List α → List α → Bool × List α
  | [], docs => (true, docs)
  | doc :: new, docs =>
      match insertUnique key doc docs with
      | none => (false, (insertEach key new docs).2)
      | some docs' => insertEach key new docs'

/-- Documents with different keys, which no document has yet, are all inserted, and no others. -/
theorem insertEach_iff [DecidableEq κ] {key : α → κ} {new docs : List α} :
    (insertEach key new docs).1 = true ↔
      (new.map key).Nodup ∧ ∀ k ∈ new.map key, k ∉ docs.map key := by
  induction new generalizing docs with
  | nil => simp [insertEach]
  | cons doc new ih =>
      rw [insertEach, insertUnique]
      split
      · rename_i hnone
        split at hnone
        · rename_i hkey
          refine iff_of_false Bool.false_ne_true fun h => ?_
          exact h.2 (key doc) (by simp) hkey
        · cases hnone
      · rename_i docs' hsome
        split at hsome
        · cases hsome
        · rename_i hkey
          obtain rfl := Option.some.inj hsome
          rw [ih]
          simp only [List.map_cons, List.nodup_cons, List.map_append, List.mem_append,
            List.mem_cons, List.map_nil, List.not_mem_nil, or_false, not_or]
          constructor
          · rintro ⟨hnew, h⟩
            refine ⟨⟨fun hdoc => (h _ hdoc).2 rfl, hnew⟩, ?_⟩
            rintro k (rfl | hk)
            · exact hkey
            · exact (h k hk).1
          · rintro ⟨⟨hdoc, hnew⟩, h⟩
            exact ⟨hnew, fun k hk => ⟨h k (.inr hk), fun heq => hdoc (heq ▸ hk)⟩⟩

/-- Inserts that all succeed have appended their documents. -/
theorem insertEach_of_all [DecidableEq κ] {key : α → κ} {new docs : List α}
    (h : (insertEach key new docs).1 = true) : (insertEach key new docs).2 = docs ++ new := by
  induction new generalizing docs with
  | nil => exact (List.append_nil docs).symm
  | cons doc new ih =>
      rw [insertEach] at h ⊢
      cases hdoc : insertUnique key doc docs with
      | none =>
          rw [hdoc] at h
          cases h
      | some docs' =>
          rw [hdoc] at h
          rw [insertUnique] at hdoc
          split at hdoc
          · cases hdoc
          · obtain rfl := Option.some.inj hdoc
            exact (ih h).trans (by rw [List.append_assoc, List.singleton_append])

/-! ### Documents by key -/

section Key

variable [DecidableEq κ] {key : α → κ}

/-- The first document with the key `k`. -/
def lookup (key : α → κ) (k : κ) (docs : List α) : Option α :=
  findOne (fun doc => key doc == k) docs

/-- The first document under the key is the one that is found. -/
theorem lookup_cons (k : κ) (doc : α) (docs : List α) :
    lookup key k (doc :: docs) = if key doc = k then some doc else lookup key k docs := by
  rw [lookup, findOne, List.find?_cons]
  by_cases h : key doc = k
  · simp [h]
  · rw [if_neg h, beq_eq_false_iff_ne.mpr h]
    rfl

/-- Two conditions on keys are one on the pair of them. -/
theorem findOne_pair {κ' : Type*} [DecidableEq κ'] {key' : α → κ'} (k : κ) (k' : κ')
    (docs : List α) :
    findOne (fun doc => key doc == k && key' doc == k') docs =
      lookup (fun doc => (key doc, key' doc)) (k, k') docs := by
  refine congrArg (fun p => docs.find? p) (funext fun doc => ?_)
  show (key doc == k && key' doc == k') = decide ((key doc, key' doc) = (k, k'))
  rw [Bool.eq_iff_iff, Bool.and_eq_true, beq_iff_eq, beq_iff_eq, decide_eq_true_iff,
    Prod.mk.injEq]

/-- What is found under a key has the key. -/
theorem key_of_lookup {k : κ} {docs : List α} {doc : α} (h : lookup key k docs = some doc) :
    key doc = k := by
  have hp : (key doc == k) = true := List.find?_some (p := fun doc => key doc == k) h
  exact beq_iff_eq.mp hp

/-- What is found is in the collection. -/
theorem mem_of_lookup {k : κ} {docs : List α} {doc : α} (h : lookup key k docs = some doc) :
    doc ∈ docs :=
  List.mem_of_find?_eq_some h

/-- Where keys are unique, a document is looked up by its key. -/
theorem lookup_eq_some_iff {docs : List α} (hnodup : (docs.map key).Nodup) {k : κ} {doc : α} :
    lookup key k docs = some doc ↔ doc ∈ docs ∧ key doc = k := by
  constructor
  · intro h
    exact ⟨mem_of_lookup h, key_of_lookup h⟩
  · rintro ⟨hmem, rfl⟩
    induction docs with
    | nil => cases hmem
    | cons d docs ih =>
        obtain ⟨hd, hdocs⟩ := List.nodup_cons.mp hnodup
        rw [lookup_cons]
        rcases List.mem_cons.mp hmem with rfl | hmem
        · rw [if_pos rfl]
        · have hne : key d ≠ key doc := by
            intro heq
            exact hd (heq ▸ List.mem_map_of_mem hmem)
          rw [if_neg hne]
          exact ih hdocs hmem

/-- An update by key is seen under its key only. -/
theorem lookup_updateOne {k : κ} {f : α → α} (hf : ∀ doc, key doc = k → key (f doc) = k)
    (k' : κ) (docs : List α) :
    lookup key k' (updateOne (fun doc => key doc == k) f docs) =
      if k' = k then (lookup key k' docs).map f else lookup key k' docs := by
  induction docs with
  | nil => simp [updateOne, lookup, findOne]
  | cons d docs ih =>
      rw [updateOne, lookup_cons]
      by_cases hd : key d = k
      · rw [if_pos (beq_iff_eq.mpr hd), lookup_cons, hf d hd, hd]
        by_cases hk : k' = k
        · simp [hk]
        · simp [hk, Ne.symm hk]
      · have hp : ¬ (key d == k) = true := fun h => hd (beq_iff_eq.mp h)
        rw [if_neg hp, lookup_cons, ih]
        by_cases hk : key d = k'
        · have hkk : k' ≠ k := fun h => hd (hk.trans h)
          simp [hk, hkk]
        · simp [hk]

/-- An update that keeps the keys is not seen in what it keeps of the documents. -/
theorem map_lookup_updateOne {β : Type*} {p : α → Bool} {f : α → α} {g : α → β}
    (hkey : ∀ doc, key (f doc) = key doc) (hg : ∀ doc, g (f doc) = g doc) (k : κ)
    (docs : List α) :
    (lookup key k (updateOne p f docs)).map g = (lookup key k docs).map g := by
  induction docs with
  | nil => rfl
  | cons d docs ih =>
      rw [updateOne, lookup_cons]
      split
      · rw [lookup_cons, hkey]
        split
        · rw [Option.map_some, Option.map_some, hg]
        · rfl
      · rw [lookup_cons]
        split
        · rfl
        · exact ih

/-- Where keys are unique, an update of documents of one key is seen in all of them that
match. -/
theorem lookup_updateOne_of_nodup {p : α → Bool} {f : α → α} {k : κ} {docs : List α}
    (hnodup : (docs.map key).Nodup) (hp : ∀ doc, p doc = true → key doc = k)
    (hf : ∀ doc, key (f doc) = key doc) (k' : κ) :
    lookup key k' (updateOne p f docs) =
      (lookup key k' docs).map fun doc => if p doc then f doc else doc := by
  induction docs with
  | nil => rfl
  | cons d docs ih =>
      obtain ⟨hd, hdocs⟩ := List.nodup_cons.mp hnodup
      rw [updateOne, lookup_cons]
      by_cases hpd : p d = true
      · rw [if_pos hpd, lookup_cons, hf]
        by_cases hk : key d = k'
        · simp [hk, hpd]
        · rw [if_neg hk, if_neg hk]
          cases hlook : lookup key k' docs with
          | none => rfl
          | some doc =>
              have hne : ¬ p doc = true := by
                intro hpdoc
                have hkey : key d = key doc := (hp d hpd).trans (hp doc hpdoc).symm
                exact hd (hkey ▸ List.mem_map_of_mem (mem_of_lookup hlook))
              simp [hne]
      · rw [if_neg hpd, lookup_cons, ih hdocs]
        by_cases hk : key d = k'
        · simp [hk, hpd]
        · rw [if_neg hk, if_neg hk]

/-- A document that is appended is found where there is none under its key. -/
theorem lookup_append_singleton (k : κ) (docs : List α) (doc : α) :
    lookup key k (docs ++ [doc]) =
      (lookup key k docs).or (if key doc = k then some doc else none) := by
  rw [lookup, lookup, findOne, findOne, List.find?_append, List.find?_singleton]
  simp

/-- A document is found if one of its key is there. -/
theorem lookup_eq_none_iff {k : κ} {docs : List α} :
    lookup key k docs = none ↔ k ∉ docs.map key := by
  rw [lookup, findOne, List.find?_eq_none]
  simp

/-! ### Joins -/

variable {β : Type*}

/-- Look up the keys of the documents that match in `m`. -/
def join (key : α → κ) (p : α → Bool) (m : κ → Option β) (docs : List α) : List β :=
  (docs.filter p).filterMap fun doc => m (key doc)

/-- Where keys are unique, a join reaches what the keys of its documents lead to. -/
theorem mem_join {p : α → Bool} {m : κ → Option β} {docs : List α}
    (hnodup : (docs.map key).Nodup) {b : β} :
    b ∈ join key p m docs ↔
      ∃ k, m k = some b ∧ ∃ doc, lookup key k docs = some doc ∧ p doc = true := by
  rw [join, List.mem_filterMap]
  constructor
  · rintro ⟨doc, hdoc, hb⟩
    obtain ⟨hmem, hp⟩ := List.mem_filter.mp hdoc
    exact ⟨key doc, hb, doc, (lookup_eq_some_iff hnodup).mpr ⟨hmem, rfl⟩, hp⟩
  · rintro ⟨k, hb, doc, hdoc, hp⟩
    obtain ⟨hmem, rfl⟩ := (lookup_eq_some_iff hnodup).mp hdoc
    exact ⟨doc, List.mem_filter.mpr ⟨hmem, hp⟩, hb⟩

omit [DecidableEq κ] in
/-- A list without duplicates is mapped to one without duplicates exactly where the map is
injective on its members. -/
theorem nodup_filterMap_iff {f : α → Option β} {as : List α} (hnodup : as.Nodup) :
    (as.filterMap f).Nodup ↔
      ∀ a ∈ as, ∀ a' ∈ as, ∀ b, f a = some b → f a' = some b → a = a' := by
  rw [List.Nodup, List.pairwise_filterMap]
  constructor
  · intro h a ha a' ha' b hb hb'
    have hsymm : Std.Symm fun a a' : α => ∀ b, f a = some b → ∀ b', f a' = some b' → b ≠ b' :=
      ⟨fun _ _ h b hb b' hb' => (h b' hb' b hb).symm⟩
    by_contra hne
    exact h.forall ha ha' hne b hb b hb' rfl
  · intro h
    refine hnodup.pairwise_of_forall_ne ?_
    rintro a ha a' ha' hne b hb b' hb' rfl
    exact hne (h a ha a' ha' b hb hb')

/-- Where keys are unique, a join reaches nothing twice exactly where no two keys of its
documents lead to the same. -/
theorem nodup_join {p : α → Bool} {m : κ → Option β} {docs : List α}
    (hnodup : (docs.map key).Nodup) :
    (join key p m docs).Nodup ↔
      ∀ k k' b, m k = some b → m k' = some b →
        (∃ doc, lookup key k docs = some doc ∧ p doc = true) →
        (∃ doc, lookup key k' docs = some doc ∧ p doc = true) → k = k' := by
  have hdocs : (docs.filter p).Nodup := (List.Nodup.of_map key hnodup).filter p
  rw [join, nodup_filterMap_iff hdocs]
  constructor
  · rintro h k k' b hk hk' ⟨doc, hdoc, hp⟩ ⟨doc', hdoc', hp'⟩
    obtain ⟨hmem, rfl⟩ := (lookup_eq_some_iff hnodup).mp hdoc
    obtain ⟨hmem', rfl⟩ := (lookup_eq_some_iff hnodup).mp hdoc'
    have heq := h doc (List.mem_filter.mpr ⟨hmem, hp⟩) doc' (List.mem_filter.mpr ⟨hmem', hp'⟩)
      b hk hk'
    rw [heq]
  · intro h doc hdoc doc' hdoc' b hb hb'
    obtain ⟨hmem, hp⟩ := List.mem_filter.mp hdoc
    obtain ⟨hmem', hp'⟩ := List.mem_filter.mp hdoc'
    have hlookup := (lookup_eq_some_iff hnodup).mpr ⟨hmem, rfl⟩
    have hlookup' := (lookup_eq_some_iff hnodup).mpr ⟨hmem', rfl⟩
    have hkey := h _ _ b hb hb' ⟨doc, hlookup, hp⟩ ⟨doc', hlookup', hp'⟩
    rw [hkey, hlookup'] at hlookup
    exact (Option.some.inj hlookup).symm

end Key

/-! ### Arrays without repetitions -/

/-- Add an element to an array that does not have it. -/
def addToSet [DecidableEq α] (a : α) (as : List α) : List α :=
  if a ∈ as then as else as ++ [a]

/-- The members of a set with another one. -/
theorem mem_addToSet [DecidableEq α] {a b : α} {as : List α} :
    b ∈ addToSet a as ↔ b ∈ as ∨ b = a := by
  rw [addToSet]
  split
  · rename_i h
    constructor
    · exact .inl
    · rintro (hb | rfl)
      · exact hb
      · exact h
  · simp

/-! ### Operations that may fail -/

variable {δ ε : Type*}

/-- Another error is no success. -/
theorem mapError_eq_ok {ε' : Type*} {x : Except ε δ} {f : ε → ε'} {d : δ} :
    x.mapError f = .ok d ↔ x = .ok d := by
  cases x with
  | error e => exact iff_of_false (fun h => nomatch h) fun h => nomatch h
  | ok d' => exact ⟨fun h => congrArg Except.ok (Except.ok.inj h), fun h => h ▸ rfl⟩

/-- Two calls succeed one after the other. -/
theorem bind_eq_ok.{u} {β γ : Type u} {x : Except ε β} {f : β → Except ε γ} {c : γ} :
    x >>= f = .ok c ↔ ∃ b, x = .ok b ∧ f b = .ok c := by
  cases x with
  | error e => exact iff_of_false (fun h => nomatch h) fun ⟨_, h, _⟩ => nomatch h
  | ok b => exact ⟨fun h => ⟨b, rfl, h⟩, fun ⟨_, hb, h⟩ => Except.ok.inj hb ▸ h⟩

/-- Run the operations up to the first that fails; `fault n` makes the operation number
`n` fail. -/
def run : (ℕ → Option ε) → List (δ → Except ε δ) → δ → Except ε Unit × δ
  | _, [], d => (.ok (), d)
  | fault, op :: ops, d =>
      match fault 0 with
      | some e => (.error e, d)
      | none =>
          match op d with
          | .error e => (.error e, d)
          | .ok d' => run (fun n => fault (n + 1)) ops d'

/-! #### One operation, with `k` of them done -/

/-- A sequence of operations counts its faults from the first one. -/
theorem run_zero (fault : ℕ → Option ε) (ops : List (δ → Except ε δ)) (d : δ) :
    run fault ops d = run (fun n => fault (n + 0)) ops d := rfl

/-- An operation that is made to fail ends the sequence. -/
theorem run_cons_fault (fault : ℕ → Option ε) (k : ℕ) {e : ε} (h : fault k = some e)
    (op : δ → Except ε δ) (ops : List (δ → Except ε δ)) (d : δ) :
    run (fun n => fault (n + k)) (op :: ops) d = (.error e, d) := by
  simp only [run, Nat.zero_add, h]

/-- An operation that fails by itself ends the sequence. -/
theorem run_cons_error (fault : ℕ → Option ε) (k : ℕ) (h : fault k = none)
    {op : δ → Except ε δ} {d : δ} {e : ε} (hop : op d = .error e)
    (ops : List (δ → Except ε δ)) :
    run (fun n => fault (n + k)) (op :: ops) d = (.error e, d) := by
  simp only [run, Nat.zero_add, h, hop]

/-- An operation that succeeds leaves the others to be done. -/
theorem run_cons_ok (fault : ℕ → Option ε) (k : ℕ) (h : fault k = none) {op : δ → Except ε δ}
    {d d' : δ} (hop : op d = .ok d') (ops : List (δ → Except ε δ)) :
    run (fun n => fault (n + k)) (op :: ops) d = run (fun n => fault (n + (k + 1))) ops d' := by
  simp only [run, Nat.zero_add, h, hop]
  congr 1
  funext n
  rw [Nat.add_right_comm, Nat.add_assoc]

/-- What it takes for operations to be done, one after the other. -/
theorem run_cons_eq_ok {fault : ℕ → Option ε} {op : δ → Except ε δ} {ops : List (δ → Except ε δ)}
    {d d' : δ} :
    run fault (op :: ops) d = (.ok (), d') ↔ fault 0 = none ∧
      ∃ d₁, op d = .ok d₁ ∧ run (fun n => fault (n + 1)) ops d₁ = (.ok (), d') := by
  rw [run]
  cases fault 0 with
  | some e => simp
  | none =>
      cases op d with
      | error e => simp
      | ok d₁ => simp

/-- **The induction rule for operations.** -/
theorem run_inv {I : δ → Prop} {ops : List (δ → Except ε δ)}
    (hops : ∀ op ∈ ops, ∀ d d', I d → op d = .ok d' → I d') (fault : ℕ → Option ε) {d : δ}
    (hd : I d) : I (run fault ops d).2 := by
  induction ops generalizing fault d with
  | nil => exact hd
  | cons op ops ih =>
      rw [run]
      cases fault 0 with
      | some e => exact hd
      | none =>
          simp only
          cases hop : op d with
          | error e => exact hd
          | ok d' =>
              exact ih (fun op' h' => hops op' (List.mem_cons_of_mem op h')) _
                (hops op List.mem_cons_self d d' hd hop)

/-- Operations that lead from one assertion to the next stop in front of one of them, which fails,
or behind the last. -/
theorem run_stops {I : ℕ → δ → Prop} {ops : List (δ → Except ε δ)}
    (hops : ∀ k op, ops[k]? = some op → ∀ d d', I k d → op d = .ok d' → I (k + 1) d')
    (fault : ℕ → Option ε) {d : δ} (hd : I 0 d) :
    (I ops.length (run fault ops d).2 ∧ (run fault ops d).1 = .ok ()) ∨
      ∃ n op e, ops[n]? = some op ∧ I n (run fault ops d).2 ∧ (run fault ops d).1 = .error e ∧
        (fault n = some e ∨ op (run fault ops d).2 = .error e) := by
  induction ops generalizing I fault d with
  | nil => exact .inl ⟨hd, rfl⟩
  | cons op ops ih =>
      rw [run]
      cases hfault : fault 0 with
      | some e => exact .inr ⟨0, op, e, rfl, hd, rfl, .inl hfault⟩
      | none =>
          simp only
          cases hop : op d with
          | error e => exact .inr ⟨0, op, e, rfl, hd, rfl, .inr hop⟩
          | ok d' =>
              have hnext : ∀ k op', ops[k]? = some op' → ∀ d d', I (k + 1) d →
                  op' d = .ok d' → I (k + 1 + 1) d' :=
                fun k op' hk => hops (k + 1) op' (by simpa using hk)
              rcases ih hnext (fun n => fault (n + 1)) (hops 0 op rfl d d' hd hop) with
                h | ⟨n, op', e, hn, hI, herr, hwhy⟩
              · exact .inl h
              · exact .inr ⟨n + 1, op', e, by simpa using hn, hI, herr, hwhy⟩

/-- **The outline of a sequence of operations**: the assertion that stands in front of each one
leads to the next, and the operations stop at one of them, behind the last if none fails. -/
theorem run_outline {I : ℕ → δ → Prop} {ops : List (δ → Except ε δ)}
    (hops : ∀ k op, ops[k]? = some op → ∀ d d', I k d → op d = .ok d' → I (k + 1) d')
    (fault : ℕ → Option ε) {d : δ} (hd : I 0 d) :
    ∃ n ≤ ops.length, I n (run fault ops d).2 ∧
      ((run fault ops d).1 = .ok () ↔ n = ops.length) := by
  rcases run_stops hops fault hd with ⟨hI, hok⟩ | ⟨n, op, e, hn, hI, herr, -⟩
  · exact ⟨ops.length, Nat.le_refl _, hI, iff_of_true hok rfl⟩
  · have hlt : n < ops.length := (List.getElem?_eq_some_iff.mp hn).1
    refine ⟨n, Nat.le_of_lt hlt, hI, iff_of_false (fun hok => ?_) (Nat.ne_of_lt hlt)⟩
    cases herr.symm.trans hok

/-- A fault in front of the operation number `n`. -/
def cutAt (e : ε) (n k : ℕ) : Option ε := if k = n then some e else none

/-- Operations that are cut have done those in front of the cut. -/
theorem run_cutAt {ops : List (δ → Except ε δ)} {n : ℕ} {d d' : δ} (e : ε)
    (h : run (fun _ => none) (ops.take n) d = (.ok (), d')) :
    run (cutAt e n) ops d = (if n < ops.length then .error e else .ok (), d') := by
  induction ops generalizing n d with
  | nil =>
      rw [List.take_nil] at h
      exact h
  | cons op ops ih =>
      cases n with
      | zero =>
          obtain rfl := (Prod.mk.inj h).2
          rfl
      | succ n =>
          rw [List.take_succ_cons, run_cons_eq_ok] at h
          obtain ⟨-, d₁, hop, hrest⟩ := h
          have hcut : (fun k => cutAt e (n + 1) (k + 1)) = cutAt e n := by
            funext k
            rw [cutAt, cutAt]
            simp only [Nat.add_right_cancel_iff]
          rw [run, hcut]
          simp only [cutAt, hop, Nat.zero_ne_add_one, if_false]
          rw [ih hrest]
          simp

/-- One operation more. -/
theorem run_take_succ {ops : List (δ → Except ε δ)} {n : ℕ} {op : δ → Except ε δ} {d d₁ d₂ : δ}
    (h : run (fun _ => none) (ops.take n) d = (.ok (), d₁)) (hn : ops[n]? = some op)
    (hop : op d₁ = .ok d₂) : run (fun _ => none) (ops.take (n + 1)) d = (.ok (), d₂) := by
  induction ops generalizing n d with
  | nil => cases hn
  | cons first ops ih =>
      cases n with
      | zero =>
          obtain rfl := Option.some.inj hn
          obtain rfl := (Prod.mk.inj h).2
          exact run_cons_eq_ok.mpr ⟨rfl, d₂, hop, rfl⟩
      | succ n =>
          rw [List.take_succ_cons, run_cons_eq_ok] at h ⊢
          obtain ⟨-, d', hfirst, hrest⟩ := h
          exact ⟨rfl, d', hfirst, ih hrest (by simpa using hn)⟩

/-- **The simulation rule for operations**: each of `ops` does what the next one of `ops'` does, or
nothing that is seen in it, so that `k` of them do what `m k` of the others do. Where they stop, the
others can be made to stop. -/
theorem run_simulation {δ' : Type*} {R : δ → δ' → Prop} (ops : List (δ → Except ε δ))
    (ops' : List (δ' → Except ε δ')) {m : ℕ → ℕ} (hm : m 0 = 0)
    (hlast : ∀ n, n < ops.length ↔ m n < ops'.length)
    (hops : ∀ k op, ops[k]? = some op → ∀ d d₁ d', R d d' → op d = .ok d₁ →
      (m (k + 1) = m k ∧ R d₁ d') ∨ ∃ op' d₁', m (k + 1) = m k + 1 ∧ ops'[m k]? = some op' ∧
        op' d' = .ok d₁' ∧ R d₁ d₁')
    (fault : ℕ → Option ε) {d : δ} {d' : δ'} (h : R d d') :
    ∃ cut : ℕ → Option ε, R (run fault ops d).2 (run cut ops' d').2 ∧
      ((run fault ops d).1 = .ok () ↔ (run cut ops' d').1 = .ok ()) ∧
      ((run fault ops d).1 = .ok () → cut = fun _ => none) ∧
      ∀ k e, cut k = some e → ∃ n op, m n = k ∧ ops[n]? = some op ∧
        (fault n = some e ∨ op (run fault ops d).2 = .error e) := by
  have hstops := run_stops (I := fun k d =>
    ∃ e', run (fun _ => none) (ops'.take (m k)) d' = (.ok (), e') ∧ R d e')
    (fun k op hk d d₁ hd hop => by
      obtain ⟨e', hrun, hR⟩ := hd
      rcases hops k op hk d d₁ e' hR hop with ⟨hsame, hR₁⟩ | ⟨op', e₁, hnext, hk', hop', hR₁⟩
      · exact ⟨e', hsame ▸ hrun, hR₁⟩
      · exact ⟨e₁, hnext ▸ run_take_succ hrun hk' hop', hR₁⟩)
    fault ⟨d', by rw [hm, List.take_zero]; rfl, h⟩
  rcases hstops with ⟨⟨e', hrun, hR⟩, hok⟩ | ⟨n, op, e, hn, ⟨e', hrun, hR⟩, herr, hwhy⟩
  · have hall : ops'.length ≤ m ops.length :=
      Nat.not_lt.mp fun hlt => Nat.lt_irrefl _ ((hlast _).mpr hlt)
    rw [List.take_of_length_le hall] at hrun
    refine ⟨fun _ => none, hrun ▸ hR, ?_, fun _ => rfl, fun k e hk => by cases hk⟩
    rw [hok, hrun]
  · have hlt : m n < ops'.length := (hlast n).mp (List.getElem?_eq_some_iff.mp hn).1
    have hcut := run_cutAt e hrun
    rw [if_pos hlt] at hcut
    refine ⟨cutAt e (m n), hcut ▸ hR, ?_, fun hok => ?_, fun k e₁ hk => ?_⟩
    · rw [herr, hcut]
    · cases herr.symm.trans hok
    · rw [cutAt] at hk
      split at hk
      · rename_i hkn
        obtain rfl := Option.some.inj hk
        exact ⟨n, op, hkn.symm, hn, hwhy⟩
      · cases hk

/-- Where the one operation succeeds, the other one does the same. -/
def Simulates {δ' : Type*} (R : δ → δ' → Prop) (op : δ → Except ε δ) (op' : δ' → Except ε δ') :
    Prop :=
  ∀ d d₁ d', R d d' → op d = .ok d₁ → ∃ d₁', op' d' = .ok d₁' ∧ R d₁ d₁'

/-- **The simulation rule, one operation for another**: the others are cut at the number where the
first ones stop, for the same reason. -/
theorem run_simulation_forall₂ {δ' : Type*} {R : δ → δ' → Prop} {ops : List (δ → Except ε δ)}
    {ops' : List (δ' → Except ε δ')} (hops : List.Forall₂ (Simulates R) ops ops')
    (fault : ℕ → Option ε) {d : δ} {d' : δ'} (h : R d d') :
    ∃ cut : ℕ → Option ε, R (run fault ops d).2 (run cut ops' d').2 ∧
      ((run fault ops d).1 = .ok () → cut = fun _ => none) ∧
      ∀ k e, cut k = some e → ∃ op, ops[k]? = some op ∧
        (fault k = some e ∨ ∃ d, op d = .error e) := by
  obtain ⟨cut, hR, -, hok, hcut⟩ := run_simulation (m := id) ops ops' rfl
    (fun n => by rw [hops.length_eq]; rfl)
    (fun k op hk d d₁ d' hd hop => by
      obtain ⟨hlt, rfl⟩ := List.getElem?_eq_some_iff.mp hk
      have hlt' : k < ops'.length := hops.length_eq ▸ hlt
      obtain ⟨d₁', hop', hR⟩ := hops.get hlt hlt' d d₁ d' hd hop
      exact .inr ⟨_, d₁', rfl, List.getElem?_eq_getElem hlt', hop', hR⟩)
    fault h
  refine ⟨cut, hR, hok, fun k e hk => ?_⟩
  obtain ⟨n, op, rfl, hn, hwhy⟩ := hcut k e hk
  exact ⟨op, hn, hwhy.imp_right fun herr => ⟨_, herr⟩⟩

/-- Operations that succeed under conditions of their own are all done where these hold and none
is made to fail. -/
theorem run_fst_eq_ok_iff {c : ℕ → Prop} {ops : List (δ → Except ε δ)}
    (hops : ∀ k op, ops[k]? = some op → ∀ d, (∃ d', op d = .ok d') ↔ c k)
    (fault : ℕ → Option ε) (d : δ) :
    (run fault ops d).1 = .ok () ↔ ∀ k < ops.length, fault k = none ∧ c k := by
  induction ops generalizing c fault d with
  | nil => exact iff_of_true rfl fun k hk => absurd hk (Nat.not_lt_zero k)
  | cons op ops ih =>
      have hstop : ∀ e : ε, ¬ (fault 0 = none ∧ c 0) →
          ((Except.error e : Except ε Unit) = .ok () ↔
            ∀ k < (op :: ops).length, fault k = none ∧ c k) := fun e hnot =>
        iff_of_false (fun h => nomatch h) fun h => hnot (h 0 (Nat.succ_pos _))
      rw [run]
      cases hfault : fault 0 with
      | some e => exact hstop e fun h => by simp [hfault] at h
      | none =>
          simp only
          cases hop : op d with
          | error e =>
              refine hstop e fun h => ?_
              obtain ⟨d', hd'⟩ := (hops 0 op rfl d).mpr h.2
              exact nomatch hop.symm.trans hd'
          | ok d' =>
              have hfirst : c 0 := (hops 0 op rfl d).mp ⟨d', hop⟩
              rw [ih (c := fun k => c (k + 1)) fun k op' hk => hops (k + 1) op' (by simpa using hk)]
              constructor
              · rintro h (_ | k) hk
                · exact ⟨hfault, hfirst⟩
                · exact h k (Nat.lt_of_succ_lt_succ hk)
              · exact fun h k hk => h (k + 1) (Nat.succ_lt_succ hk)

end Documents

import Mathlib.Algebra.Group.Int.Defs
import Mathlib.Data.Int.Notation
import Mathlib.Data.List.Forall2
import Yijian.Lib.Documents

/-!
# Documents as Field Maps

A document is a list of fields with names, in which the first of a name counts. Updates set a
field, append to an array, replace an element of an array or add to a number; all other fields
stay as they are. Reading a field that is not there, or is of another type, is an error.

## Convention

A reader that meets a missing field throws another error than one that meets a value of another
type, as the views of the driver do. Numbers are signed, of 32 or of 64 bits: `$inc` goes from the
one to the other where 32 bits are too few, and is refused where 64 are. Object ids are values of
a parameter, without any structure, and a document that holds one gives the same back. The order
of the fields is kept, though only two places depend on it: of two fields with one name the first
is read, and an array is read from its front.

## Main results

* `get_set`: an update of a field is seen in this field only.
* `addDocument_array`: what `$addToSet` does to an array.
* `mapM_eq_ok_iff`, `readArray_push`, `readArray_setMatched`: reading an array after an update
  of it.
-/

namespace Bson

variable {ω : Type*}

/-- A value; `ω` are the object ids. -/
inductive Value (ω : Type*)
  | utf8 (value : String)
  | int32 (value : ℤ)
  | int64 (value : ℤ)
  | bool (value : Bool)
  | oid (value : ω)
  | array (values : List (Value ω))
  | document (fields : List (String × Value ω))

/-- The fields of a document. -/
abbrev Fields (ω : Type*) := List (String × Value ω)

/-! ### Fields -/

/-- The value of a field. -/
def get (name : String) (doc : Fields ω) : Option (Value ω) := doc.lookup name

/-- `$set`. -/
def set (name : String) (v : Value ω) : Fields ω → Fields ω
  | [] => [(name, v)]
  | field :: fields =>
      if field.1 = name then (name, v) :: fields else field :: set name v fields

/-- The first field of the name is the one that is read. -/
theorem get_cons (name : String) (field : String × Value ω) (fields : Fields ω) :
    get name (field :: fields) = if field.1 = name then some field.2 else get name fields := by
  rw [get, List.lookup_cons]
  by_cases h : field.1 = name
  · rw [if_pos h, h, beq_self_eq_true]
  · have hne : (name == field.1) = false := beq_eq_false_iff_ne.mpr (Ne.symm h)
    rw [if_neg h, hne]
    rfl

/-- **An update of a field** is seen in this field only. -/
theorem get_set (name other : String) (v : Value ω) (doc : Fields ω) :
    get other (set name v doc) = if name = other then some v else get other doc := by
  induction doc with
  | nil =>
      rw [set, get_cons]
  | cons field fields ih =>
      rw [set]
      split
      · rename_i hfield
        rw [get_cons, get_cons, hfield]
        split
        · rfl
        · rfl
      · rename_i hfield
        rw [get_cons, ih, get_cons]
        by_cases hname : name = other
        · rw [if_pos hname, if_pos hname, if_neg (hname ▸ hfield)]
        · rw [if_neg hname, if_neg hname]

@[simp] theorem get_set_self (name : String) (v : Value ω) (doc : Fields ω) :
    get name (set name v doc) = some v := by
  rw [get_set, if_pos rfl]

/-- A field that is set leaves the others alone. -/
theorem get_set_of_ne {name other : String} (h : name ≠ other) (v : Value ω) (doc : Fields ω) :
    get other (set name v doc) = get other doc := by
  rw [get_set, if_neg h]

/-- `$set` of several fields. -/
def setAll (fields doc : Fields ω) : Fields ω :=
  fields.foldl (fun doc field => set field.1 field.2 doc) doc

/-- Fields that are set leave the others alone. -/
theorem get_setAll_of_notMem {fields : Fields ω} {other : String}
    (h : other ∉ fields.map Prod.fst) (doc : Fields ω) :
    get other (setAll fields doc) = get other doc := by
  induction fields generalizing doc with
  | nil => rfl
  | cons field fields ih =>
      rw [List.map_cons, List.mem_cons, not_or] at h
      rw [setAll, List.foldl_cons]
      exact (ih h.2 _).trans (get_set_of_ne (Ne.symm h.1) _ _)

/-- Fields with different names are all set. -/
theorem get_setAll_of_mem {fields : Fields ω} (h : (fields.map Prod.fst).Nodup)
    {field : String × Value ω} (hfield : field ∈ fields) (doc : Fields ω) :
    get field.1 (setAll fields doc) = some field.2 := by
  induction fields generalizing doc with
  | nil => cases hfield
  | cons first fields ih =>
      rw [List.map_cons, List.nodup_cons] at h
      rw [setAll, List.foldl_cons]
      rcases List.mem_cons.mp hfield with rfl | hfield
      · exact (get_setAll_of_notMem h.1 _).trans (get_set_self _ _ _)
      · exact ih h.2 hfield _

/-! ### Updates -/

/-- `$push`, which needs an array. -/
def push (name : String) (v : Value ω) (doc : Fields ω) : Option (Fields ω) :=
  match get name doc with
  | none => some (set name (.array [v]) doc)
  | some (.array vs) => some (set name (.array (vs ++ [v])) doc)
  | some _ => none

/-- The text is among the values. -/
def hasText (text : String) (vs : List (Value ω)) : Bool :=
  vs.any fun
    | .utf8 t => t == text
    | _ => false

/-- `$addToSet` with `$each`, for texts. -/
def addToSet (name : String) (texts : List String) (doc : Fields ω) : Option (Fields ω) :=
  let add := texts.foldl fun vs text => if hasText text vs then vs else vs ++ [.utf8 text]
  match get name doc with
  | none => some (set name (.array (add [])) doc)
  | some (.array vs) => some (set name (.array (add vs)) doc)
  | some _ => none

/-- A whole number, in 32 bits if it fits. -/
def number (k : ℤ) : Value ω := if -2 ^ 31 ≤ k ∧ k < 2 ^ 31 then .int32 k else .int64 k

/-- `$inc`. -/
def inc (name : String) (n : ℤ) (doc : Fields ω) : Option (Fields ω) :=
  match get name doc with
  | none => some (set name (number n) doc)
  | some (.int32 k) => some (set name (number (k + n)) doc)
  | some (.int64 k) =>
      if -2 ^ 63 ≤ k + n ∧ k + n < 2 ^ 63 then some (set name (.int64 (k + n)) doc) else none
  | some _ => none

/-- The element of the array is a document that matches. -/
def matchesElement (p : Fields ω → Bool) : Value ω → Bool
  | .document fields => p fields
  | _ => false

/-- The array has an element that matches. -/
def hasElement (name : String) (p : Fields ω → Bool) (doc : Fields ω) : Bool :=
  match get name doc with
  | some (.array vs) => vs.any (matchesElement p)
  | _ => false

/-- `$set` of the element that has matched: the positional operator. -/
def setMatched (name : String) (p : Fields ω → Bool) (v : Value ω) (doc : Fields ω) :
    Option (Fields ω) :=
  match get name doc with
  | some (.array vs) =>
      some (set name (.array (Documents.updateOne (matchesElement p) (fun _ => v) vs)) doc)
  | _ => none

/-- `$set` of a field of the element that has matched. -/
def setInMatched (name : String) (p : Fields ω → Bool) (field : String) (v : Value ω)
    (doc : Fields ω) : Option (Fields ω) :=
  let setIn : Value ω → Value ω
    | .document fields => .document (set field v fields)
    | element => element
  match get name doc with
  | some (.array vs) =>
      some (set name (.array (Documents.updateOne (matchesElement p) setIn vs)) doc)
  | _ => none

/-- The fields are these texts, in this order. -/
def hasTexts : List (String × String) → Fields ω → Bool
  | [], [] => true
  | text :: texts, (name, .utf8 value) :: fields =>
      text.1 == name && text.2 == value && hasTexts texts fields
  | _, _ => false

/-- A document of texts. -/
def textFields (texts : List (String × String)) : Fields ω :=
  texts.map fun text => (text.1, .utf8 text.2)

/-- A document of texts is the document of exactly these texts. -/
theorem hasTexts_iff {texts : List (String × String)} {fields : Fields ω} :
    hasTexts texts fields = true ↔ fields = textFields texts := by
  rw [textFields]
  induction texts generalizing fields with
  | nil => cases fields <;> simp [hasTexts]
  | cons text texts ih =>
      cases fields with
      | nil => simp [hasTexts]
      | cons field fields =>
          obtain ⟨name, value⟩ := field
          cases value with
          | utf8 value =>
              simp only [hasTexts, Bool.and_eq_true, beq_iff_eq, ih, List.map_cons,
                List.cons.injEq, Prod.mk.injEq, Value.utf8.injEq]
              rw [eq_comm (a := name), eq_comm (a := value)]
          | _ => simp [hasTexts]

/-- `$addToSet` of a document of texts. -/
def addDocument (name : String) (texts : List (String × String)) (doc : Fields ω) :
    Option (Fields ω) :=
  match get name doc with
  | none => some (set name (.array [.document (textFields texts)]) doc)
  | some (.array vs) =>
      if vs.any (matchesElement (hasTexts texts)) then some doc
      else some (set name (.array (vs ++ [.document (textFields texts)])) doc)
  | some _ => none

/-- **A document of texts** is added to an array that does not have it. -/
theorem addDocument_array {name : String} {texts : List (String × String)} {doc : Fields ω}
    {vs : List (Value ω)} (h : get name doc = some (.array vs)) :
    (.document (textFields texts) ∈ vs ∧ addDocument name texts doc = some doc) ∨
      (.document (textFields texts) ∉ vs ∧ addDocument name texts doc =
        some (set name (.array (vs ++ [.document (textFields texts)])) doc)) := by
  have hany : vs.any (matchesElement (hasTexts texts)) = true ↔
      .document (textFields texts) ∈ vs := by
    rw [List.any_eq_true]
    constructor
    · rintro ⟨v, hv, hmatch⟩
      cases v with
      | document fields => exact hasTexts_iff.mp hmatch ▸ hv
      | _ => cases hmatch
    · exact fun hv => ⟨_, hv, hasTexts_iff.mpr rfl⟩
  rw [addDocument, h, ← hany]
  by_cases hv : vs.any (matchesElement (hasTexts texts)) = true
  · exact .inl ⟨hv, if_pos hv⟩
  · exact .inr ⟨hv, if_neg hv⟩

/-- `$push` leaves the other fields alone. -/
theorem get_of_push {name other : String} (h : name ≠ other) {v : Value ω} {doc doc' : Fields ω}
    (hdoc : push name v doc = some doc') : get other doc' = get other doc := by
  rw [push] at hdoc
  split at hdoc
  · obtain rfl := Option.some.inj hdoc
    exact get_set_of_ne h _ _
  · obtain rfl := Option.some.inj hdoc
    exact get_set_of_ne h _ _
  · cases hdoc

/-- `$addToSet` leaves the other fields alone. -/
theorem get_of_addToSet {name other : String} (h : name ≠ other) {texts : List String}
    {doc doc' : Fields ω} (hdoc : addToSet name texts doc = some doc') :
    get other doc' = get other doc := by
  rw [addToSet] at hdoc
  split at hdoc
  · obtain rfl := Option.some.inj hdoc
    exact get_set_of_ne h _ _
  · obtain rfl := Option.some.inj hdoc
    exact get_set_of_ne h _ _
  · cases hdoc

/-- `$inc` leaves the other fields alone. -/
theorem get_of_inc {name other : String} (h : name ≠ other) {n : ℤ} {doc doc' : Fields ω}
    (hdoc : inc name n doc = some doc') : get other doc' = get other doc := by
  rw [inc] at hdoc
  split at hdoc
  · obtain rfl := Option.some.inj hdoc
    exact get_set_of_ne h _ _
  · obtain rfl := Option.some.inj hdoc
    exact get_set_of_ne h _ _
  · split at hdoc
    · obtain rfl := Option.some.inj hdoc
      exact get_set_of_ne h _ _
    · cases hdoc
  · cases hdoc

/-- The positional `$set` leaves the other fields alone. -/
theorem get_of_setMatched {name other : String} (h : name ≠ other) {p : Fields ω → Bool}
    {v : Value ω} {doc doc' : Fields ω} (hdoc : setMatched name p v doc = some doc') :
    get other doc' = get other doc := by
  rw [setMatched] at hdoc
  split at hdoc
  · obtain rfl := Option.some.inj hdoc
    exact get_set_of_ne h _ _
  · cases hdoc

/-! ### Filters -/

/-- The text in a field. -/
def textOf (name : String) (doc : Fields ω) : Option String :=
  match get name doc with
  | some (.utf8 text) => some text
  | _ => none

/-- The field has the text. -/
def isText (name text : String) (doc : Fields ω) : Bool :=
  decide (textOf name doc = some text)

/-- A field with a text has that text and no other. -/
theorem isText_of_get {name text : String} {doc : Fields ω} (h : get name doc = some (.utf8 text))
    (text' : String) : isText name text' doc = (text == text') := by
  rw [isText, textOf, h, Bool.eq_iff_iff, decide_eq_true_iff, beq_iff_eq, Option.some.injEq]

/-- The number in a field. -/
def numberOf (name : String) (doc : Fields ω) : Option ℤ :=
  match get name doc with
  | some (.int32 k) => some k
  | some (.int64 k) => some k
  | _ => none

/-- The field has the number. -/
def isNumber (name : String) (k : ℤ) (doc : Fields ω) : Bool :=
  decide (numberOf name doc = some k)

/-- The field has the truth value. -/
def isBool (name : String) (b : Bool) (doc : Fields ω) : Bool :=
  match get name doc with
  | some (.bool b') => b' == b
  | _ => false

/-- The object id in a field. -/
def oidOf (name : String) (doc : Fields ω) : Option ω :=
  match get name doc with
  | some (.oid id) => some id
  | _ => none

/-- The field has the object id. -/
def isOid [DecidableEq ω] (name : String) (id : ω) (doc : Fields ω) : Bool :=
  decide (oidOf name doc = some id)

/-! ### Reading -/

/-- What reading an element throws. -/
inductive ElementError
  | unset_element
  | need_element_type

/-- Read a text. -/
def getUtf8 (name : String) (doc : Fields ω) : Except ElementError String :=
  match get name doc with
  | none => .error .unset_element
  | some (.utf8 text) => .ok text
  | some _ => .error .need_element_type

/-- Read a number of 32 bits. -/
def getInt32 (name : String) (doc : Fields ω) : Except ElementError ℤ :=
  match get name doc with
  | none => .error .unset_element
  | some (.int32 k) => .ok k
  | some _ => .error .need_element_type

/-- Read a truth value. -/
def getBool (name : String) (doc : Fields ω) : Except ElementError Bool :=
  match get name doc with
  | none => .error .unset_element
  | some (.bool b) => .ok b
  | some _ => .error .need_element_type

/-- Read an object id. -/
def getOid (name : String) (doc : Fields ω) : Except ElementError ω :=
  match get name doc with
  | none => .error .unset_element
  | some (.oid id) => .ok id
  | some _ => .error .need_element_type

/-- Read an array. -/
def getArray (name : String) (doc : Fields ω) : Except ElementError (List (Value ω)) :=
  match get name doc with
  | none => .error .unset_element
  | some (.array vs) => .ok vs
  | some _ => .error .need_element_type

/-- A text as an element of an array. -/
def elementUtf8 : Value ω → Except ElementError String
  | .utf8 text => .ok text
  | _ => .error .need_element_type

/-- A document as an element of an array. -/
def elementDocument : Value ω → Except ElementError (Fields ω)
  | .document fields => .ok fields
  | _ => .error .need_element_type

/-- A text that can be read is the one that a filter compares. -/
theorem textOf_of_getUtf8 {name text : String} {doc : Fields ω} (h : getUtf8 name doc = .ok text) :
    textOf name doc = some text := by
  rw [getUtf8] at h
  rw [textOf]
  split at h
  · cases h
  · rename_i hget
    rw [hget, Except.ok.inj h]
  · cases h

/-- A number of 32 bits that can be read is stored as such. -/
theorem get_of_getInt32 {name : String} {k : ℤ} {doc : Fields ω} (h : getInt32 name doc = .ok k) :
    get name doc = some (.int32 k) := by
  rw [getInt32] at h
  split at h
  · cases h
  · rename_i hget
    rw [hget, Except.ok.inj h]
  · cases h

/-- A number of 32 bits that can be read is the one that a filter compares. -/
theorem numberOf_of_getInt32 {name : String} {k : ℤ} {doc : Fields ω}
    (h : getInt32 name doc = .ok k) : numberOf name doc = some k := by
  rw [numberOf, get_of_getInt32 h]

/-- A number is compared by its value, in either of its two types. -/
theorem numberOf_number {name : String} {k : ℤ} {doc : Fields ω}
    (h : get name doc = some (number k)) : numberOf name doc = some k := by
  rw [numberOf, h, number]
  split_ifs
  · rfl
  · rfl

/-- A number that is set is compared by its value. -/
theorem numberOf_set_number (name : String) (k : ℤ) (doc : Fields ω) :
    numberOf name (set name (number k) doc) = some k :=
  numberOf_number (get_set_self name _ doc)

/-- The number after `$inc`, in 32 bits or in 64. -/
theorem numberOf_of_inc {name : String} {n k : ℤ} {doc doc' : Fields ω}
    (h : numberOf name doc = some k) (hdoc : inc name n doc = some doc') :
    numberOf name doc' = some (k + n) := by
  rw [numberOf] at h
  rw [inc] at hdoc
  split at h
  · rename_i hget
    obtain rfl := Option.some.inj h
    rw [hget] at hdoc
    obtain rfl := Option.some.inj hdoc
    exact numberOf_set_number _ _ _
  · rename_i hget
    obtain rfl := Option.some.inj h
    rw [hget] at hdoc
    simp only at hdoc
    split at hdoc
    · obtain rfl := Option.some.inj hdoc
      rw [numberOf, get_set_self]
    · cases hdoc
  · cases h

/-- **Counting up** a field that holds a count, as long as the sum fits. -/
theorem inc_number {name : String} {c : ℕ} {doc : Fields ω} (h : get name doc = some (number c)) :
    inc name 1 doc =
      if (c : ℤ) + 1 < 2 ^ 63 then some (set name (number ((c : ℤ) + 1)) doc) else none := by
  rw [inc, h, number]
  by_cases hc : (c : ℤ) < 2 ^ 31
  · have hfits : (c : ℤ) + 1 < 2 ^ 63 := by omega
    rw [if_pos ⟨by omega, hc⟩, if_pos hfits]
  · have hwide : number ((c : ℤ) + 1) = (.int64 ((c : ℤ) + 1) : Value ω) :=
      if_neg fun hn => hc (by omega)
    rw [if_neg fun hn => hc hn.2, hwide]
    by_cases hfits : (c : ℤ) + 1 < 2 ^ 63
    · rw [if_pos hfits]
      exact if_pos ⟨by omega, hfits⟩
    · rw [if_neg hfits]
      exact if_neg fun hn => hfits hn.2

/-- A count is read as a number of 32 bits if and only if it fits. -/
theorem getInt32_number {name : String} {c : ℕ} {doc : Fields ω}
    (h : get name doc = some (number c)) :
    getInt32 name doc = if (c : ℤ) < 2 ^ 31 then .ok (c : ℤ) else .error .need_element_type := by
  rw [getInt32, h, number]
  by_cases hc : (c : ℤ) < 2 ^ 31
  · rw [if_pos ⟨by omega, hc⟩, if_pos hc]
  · rw [if_neg fun hn => hc hn.2, if_neg hc]

/-- An object id that can be read is the one that a filter compares. -/
theorem oidOf_of_getOid {name : String} {id : ω} {doc : Fields ω} (h : getOid name doc = .ok id) :
    oidOf name doc = some id := by
  rw [getOid] at h
  rw [oidOf]
  split at h
  · cases h
  · rename_i hget
    rw [hget, Except.ok.inj h]
  · cases h

/-- Read an array, element by element. -/
def readArray {α : Type*} (f : Value ω → Except ElementError α) (name : String)
    (doc : Fields ω) : Except ElementError (List α) :=
  match getArray name doc with
  | .error e => .error e
  | .ok vs => vs.mapM f

/-- Read the rows that a query has found, up to the first that cannot be read. -/
def readRows {α : Type*} (f : Fields ω → Except ElementError α) :
    List (Fields ω) → List α × Option ElementError
  | [] => ([], none)
  | row :: rows =>
      match f row with
      | .error e => ([], some e)
      | .ok a =>
          let (as, e) := readRows f rows
          (a :: as, e)

section Reading

variable {α ε : Type*}

/-- Reading the elements of a list. -/
theorem mapM_eq_ok_iff {β : Type*} {f : β → Except ε α} {vs : List β} {as : List α} :
    vs.mapM f = .ok as ↔ List.Forall₂ (fun v a => f v = .ok a) vs as := by
  induction vs generalizing as with
  | nil =>
      rw [List.mapM_nil, List.forall₂_nil_left_iff]
      exact ⟨fun h => (Except.ok.inj h).symm, fun h => h ▸ rfl⟩
  | cons v vs ih =>
      rw [List.mapM_cons, List.forall₂_cons_left_iff]
      cases hv : f v with
      | error e => exact iff_of_false (fun h => nomatch h) fun ⟨_, _, h, _⟩ => nomatch h
      | ok a =>
          cases hvs : vs.mapM f with
          | error e =>
              refine iff_of_false (fun h => nomatch h) ?_
              rintro ⟨_, as', -, htail, -⟩
              cases hvs.symm.trans (ih.mpr htail)
          | ok as' =>
              constructor
              · intro h
                exact ⟨a, as', rfl, ih.mp hvs, (Except.ok.inj h).symm⟩
              · rintro ⟨a', as'', ha, htail, rfl⟩
                obtain rfl := Except.ok.inj ha
                obtain rfl := Except.ok.inj (hvs.symm.trans (ih.mpr htail))
                rfl

/-- Elements that can all be read. -/
theorem mapM_ok_of_forall {β : Type*} {f : β → Except ε α} {vs : List β}
    (h : ∀ v ∈ vs, ∃ a, f v = .ok a) :
    ∃ as, vs.mapM f = .ok as ∧ ∀ v ∈ vs, ∀ a, f v = .ok a → a ∈ as := by
  induction vs with
  | nil => exact ⟨[], rfl, fun _ hv => nomatch hv⟩
  | cons v vs ih =>
      obtain ⟨a, ha⟩ := h v List.mem_cons_self
      obtain ⟨as, has, hmem⟩ := ih fun v' hv' => h v' (List.mem_cons_of_mem v hv')
      refine ⟨a :: as, mapM_eq_ok_iff.mpr (.cons ha (mapM_eq_ok_iff.mp has)), ?_⟩
      intro v' hv' a' ha'
      rcases List.mem_cons.mp hv' with rfl | hv'
      · exact Except.ok.inj (ha'.symm.trans ha) ▸ List.mem_cons_self
      · exact List.mem_cons_of_mem a (hmem v' hv' a' ha')

/-- Every element that is read has been one. -/
theorem exists_of_mem_mapM {β : Type*} {f : β → Except ε α} {vs : List β} {as : List α}
    (h : vs.mapM f = .ok as) {a : α} (ha : a ∈ as) : ∃ v ∈ vs, f v = .ok a := by
  obtain ⟨i, hi, rfl⟩ := List.mem_iff_getElem.mp ha
  obtain ⟨hlength, hget⟩ := List.forall₂_iff_get.mp (mapM_eq_ok_iff.mp h)
  exact ⟨_, List.getElem_mem (hlength ▸ hi), hget i (hlength ▸ hi) hi⟩

/-- An array is read if each of its elements is. -/
theorem readArray_eq_ok_iff {f : Value ω → Except ElementError α} {name : String}
    {doc : Fields ω} {as : List α} :
    readArray f name doc = .ok as ↔
      ∃ vs, get name doc = some (.array vs) ∧ List.Forall₂ (fun v a => f v = .ok a) vs as := by
  rw [readArray, getArray]
  split
  · rename_i hget
    split at hget
    · rename_i hnone
      exact iff_of_false (fun h => nomatch h) fun ⟨_, h, _⟩ => nomatch hnone.symm.trans h
    · cases hget
    · rename_i hne hsome
      exact iff_of_false (fun h => nomatch h) fun ⟨vs, h, _⟩ =>
        hne vs (Option.some.inj (hsome.symm.trans h))
  · rename_i vs hget
    split at hget
    · cases hget
    · rename_i hsome
      obtain rfl := Except.ok.inj hget
      rw [mapM_eq_ok_iff]
      constructor
      · exact fun h => ⟨_, hsome, h⟩
      · rintro ⟨vs', h, hall⟩
        obtain rfl := Value.array.inj (Option.some.inj (hsome.symm.trans h))
        exact hall
    · cases hget

/-- Reading an array of values that are read back. -/
theorem readArray_map {f : Value ω → Except ElementError α} {g : α → Value ω} {name : String}
    {doc : Fields ω} {as : List α} (h : get name doc = some (.array (as.map g)))
    (hg : ∀ a, f (g a) = .ok a) : readArray f name doc = .ok as := by
  refine readArray_eq_ok_iff.mpr ⟨_, h, ?_⟩
  rw [List.forall₂_map_left_iff]
  exact List.forall₂_same.mpr fun a _ => hg a

/-- Rows that can all be read. -/
theorem readRows_of_forall₂ {f : Fields ω → Except ElementError α} {rows : List (Fields ω)}
    {as : List α} (h : List.Forall₂ (fun row a => f row = .ok a) rows as) :
    readRows f rows = (as, none) := by
  induction h with
  | nil => rfl
  | cons hrow _ ih => rw [readRows, hrow, ih]

/-- Reading an array after `$push`. -/
theorem readArray_push {f : Value ω → Except ElementError α} {name : String} {doc : Fields ω}
    {as : List α} {v : Value ω} {a : α} (h : readArray f name doc = .ok as) (hv : f v = .ok a) :
    ∃ doc', push name v doc = some doc' ∧ readArray f name doc' = .ok (as ++ [a]) ∧
      ∀ other, name ≠ other → get other doc' = get other doc := by
  obtain ⟨vs, hget, hall⟩ := readArray_eq_ok_iff.mp h
  refine ⟨set name (.array (vs ++ [v])) doc, ?_, ?_, fun other hne => get_set_of_ne hne _ _⟩
  · rw [push, hget]
  · refine readArray_eq_ok_iff.mpr ⟨_, get_set_self _ _ _, ?_⟩
    exact List.rel_append hall (.cons hv .nil)

/-- The elements that match, and what they are read as. -/
theorem hasElement_eq_any {f : Value ω → Except ElementError α} {name : String}
    {doc : Fields ω} {as : List α} {p : Fields ω → Bool} {q : α → Bool}
    (h : readArray f name doc = .ok as) (hp : ∀ v a, f v = .ok a → matchesElement p v = q a) :
    hasElement name p doc = as.any q := by
  obtain ⟨vs, hget, hall⟩ := readArray_eq_ok_iff.mp h
  rw [hasElement, hget]
  clear hget h
  induction hall with
  | nil => rfl
  | cons hv _ ih => exact congrArg₂ (· || ·) (hp _ _ hv) ih

/-- Reading an array after an update of the first element that matches. -/
theorem readArray_setMatched {f : Value ω → Except ElementError α} {name : String}
    {doc : Fields ω} {as : List α} {p : Fields ω → Bool} {q : α → Bool} {v : Value ω} {a : α}
    (h : readArray f name doc = .ok as) (hp : ∀ v a, f v = .ok a → matchesElement p v = q a)
    (hv : f v = .ok a) :
    ∃ doc', setMatched name p v doc = some doc' ∧
      readArray f name doc' = .ok (Documents.updateOne q (fun _ => a) as) ∧
      ∀ other, name ≠ other → get other doc' = get other doc := by
  obtain ⟨vs, hget, hall⟩ := readArray_eq_ok_iff.mp h
  refine ⟨_, by rw [setMatched, hget], ?_, fun other hne => get_set_of_ne hne _ _⟩
  exact readArray_eq_ok_iff.mpr ⟨_, get_set_self _ _ _,
    (Documents.forall₂_updateOne_iff hall hp).mpr fun _ _ _ _ _ => hv⟩

end Reading

end Bson

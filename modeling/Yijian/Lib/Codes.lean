import Mathlib.Data.List.Basic

/-!
# Self-Delimiting Codes

A code writes every value of `α` as a list. It is self-delimiting when the value can be
read off the beginning of a list, whatever follows (`SelfDelimiting`). Codes of one length
are (`of_length_eq`), codes put behind each other are (`append`), and so is a list behind
a code of its length (`lengthPrefixed`). A list of values is then determined by the codes
of its elements put in a row (`flatMap_injective`).

That a list of values is determined by its code is more than that each value is: two lists of
codes could still be the same list of bytes, cut at other places. A code that is self-delimiting
leaves no choice of where to cut, and the proof goes by induction over the values, with the rest
of the bytes as what follows. The notion is about the writer alone. That some reader finds the end
of a code without looking too far is a statement about that reader, and is not made here.
-/

namespace Codes

variable {α β γ : Type*}

/-- The value is determined by any list that starts with its code. -/
def SelfDelimiting (c : α → List β) : Prop :=
  ∀ ⦃a b : α⦄ ⦃x y : List β⦄, c a ++ x = c b ++ y → a = b

/-- What follows the code is determined as well. -/
theorem SelfDelimiting.rest_eq {c : α → List β} (hc : SelfDelimiting c) {a b : α}
    {x y : List β} (h : c a ++ x = c b ++ y) : x = y := by
  obtain rfl := hc h
  exact List.append_cancel_left h

/-- An injective code of one length. -/
theorem selfDelimiting_of_length_eq {c : α → List β} {n : ℕ}
    (hlen : ∀ a, (c a).length = n) (hinj : Function.Injective c) : SelfDelimiting c := by
  intro a b x y h
  obtain ⟨hab, -⟩ := List.append_inj h (by rw [hlen, hlen])
  exact hinj hab

/-- One code behind another. -/
theorem SelfDelimiting.append {c : α → List β} {d : γ → List β} (hc : SelfDelimiting c)
    (hd : SelfDelimiting d) : SelfDelimiting fun p : α × γ => c p.1 ++ d p.2 := by
  rintro ⟨a, a'⟩ ⟨b, b'⟩ x y h
  simp only [List.append_assoc] at h
  obtain rfl := hd (hc.rest_eq h)
  obtain rfl := hc h
  rfl

/-- A list behind a code of its length. -/
theorem SelfDelimiting.lengthPrefixed {c : ℕ → List β} (hc : SelfDelimiting c) :
    SelfDelimiting fun xs : List β => c xs.length ++ xs := by
  intro xs ys x y h
  simp only [List.append_assoc] at h
  have hlen : xs.length = ys.length := hc h
  exact (List.append_inj (hc.rest_eq h) hlen).1

/-- **Unique decodability.** A list of values can be read off the codes of its elements
put in a row. -/
theorem SelfDelimiting.flatMap_injective {c : α → List β} (hc : SelfDelimiting c)
    (hne : ∀ a, c a ≠ []) : Function.Injective fun as : List α => as.flatMap c := by
  intro as bs h
  simp only at h
  induction as generalizing bs with
  | nil =>
      cases bs with
      | nil => rfl
      | cons b bs =>
          rw [List.flatMap_nil, List.flatMap_cons] at h
          exact absurd (List.append_eq_nil_iff.mp h.symm).1 (hne b)
  | cons a as ih =>
      cases bs with
      | nil =>
          rw [List.flatMap_nil, List.flatMap_cons] at h
          exact absurd (List.append_eq_nil_iff.mp h).1 (hne a)
      | cons b bs =>
          rw [List.flatMap_cons, List.flatMap_cons] at h
          rw [hc h, ih (hc.rest_eq h)]

end Codes

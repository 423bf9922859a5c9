/-!
# Named entries

Entries are values under names, in the order in which the names were first
used.
-/

namespace ChatFlow

abbrev Entries (α : Type) := List (String × α)

namespace Entries

variable {α : Type}

/-- Puts a value under a name, in place of the one that is there. -/
def put (name : String) (value : α) : Entries α → Entries α
  | [] => [(name, value)]
  | (other, old) :: rest =>
      if other = name then (name, value) :: rest else (other, old) :: put name value rest

theorem lookup_put_self (name : String) (value : α) (entries : Entries α) :
    (put name value entries).lookup name = some value := by
  induction entries with
  | nil => simp [put]
  | cons entry rest ih =>
      obtain ⟨other, old⟩ := entry
      by_cases hother : other = name
      · simp [put, hother]
      · rw [put, if_neg hother, List.lookup_cons,
          beq_eq_false_iff_ne.mpr (Ne.symm hother)]
        exact ih

theorem lookup_put_of_ne {name asked : String} (hne : asked ≠ name) (value : α)
    (entries : Entries α) :
    (put name value entries).lookup asked = entries.lookup asked := by
  induction entries with
  | nil => simp [put, List.lookup_cons, beq_eq_false_iff_ne.mpr hne]
  | cons entry rest ih =>
      obtain ⟨other, old⟩ := entry
      by_cases hother : other = name
      · subst hother
        simp [put, List.lookup_cons, beq_eq_false_iff_ne.mpr hne]
      · rw [put, if_neg hother, List.lookup_cons, List.lookup_cons, ih]

end Entries

end ChatFlow

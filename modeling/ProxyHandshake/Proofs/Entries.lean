/-!
# Entries under keys

A list of entries is searched for the first entry under a key.  After the entries under one key are
removed, or replaced by a new one, the others are found as before.
-/

namespace ProxyHandshake

variable {α β : Type} [BEq α] [LawfulBEq α] [DecidableEq α]

theorem lookup_filter_ne (entries : List (α × β)) (key other : α) :
    (entries.filter fun entry => entry.1 ≠ key).lookup other =
      if other = key then none else entries.lookup other := by
  induction entries with
  | nil => simp
  | cons entry entries ih =>
      obtain ⟨name, value⟩ := entry
      by_cases hname : name = key
      · subst hname
        by_cases hother : other = name
        · subst hother
          simpa using ih
        · have hbeq : (other == name) = false := beq_eq_false_iff_ne.mpr hother
          simpa [List.lookup_cons, hbeq, hother] using ih
      · by_cases hother : other = name
        · subst hother
          simp [hname]
        · have hbeq : (other == name) = false := beq_eq_false_iff_ne.mpr hother
          simpa [List.lookup_cons, hname, hbeq] using ih

theorem lookup_cons_filter_ne (entries : List (α × β)) (key other : α) (value : β) :
    ((key, value) :: entries.filter fun entry => entry.1 ≠ key).lookup other =
      if other = key then some value else entries.lookup other := by
  by_cases hother : other = key
  · subst hother
    simp
  · have hbeq : (other == key) = false := beq_eq_false_iff_ne.mpr hother
    rw [List.lookup_cons, hbeq, lookup_filter_ne, if_neg hother, if_neg hother]

end ProxyHandshake

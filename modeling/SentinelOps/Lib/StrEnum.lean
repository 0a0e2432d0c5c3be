import Mathlib.Data.List.Nodup

/-!
# Enumerations with a string value

A `StrEnum` is a closed enumeration whose members are written as pairwise different strings.
`StrEnum.parse` is the constructor call on a string; `parse_str` says that what a member is written
as is read back as that member, so a table that stores the strings loses nothing.
-/

namespace SentinelOps

/-- A closed enumeration, its members in order of declaration, each with its string value. -/
class StrEnum (α : Type*) where
  members : List α
  str : α → String
  complete : ∀ a, a ∈ members
  distinct : (members.map str).Nodup

export StrEnum (str)

namespace StrEnum

variable {α : Type*} [StrEnum α]

/-- `E(s)`: the member with the given value. -/
def parse (s : String) : Option α := members.find? fun a => decide (str a = s)

/-- Members with the same value are the same member. -/
lemma str_injective {a b : α} (h : str a = str b) : a = b :=
  List.inj_on_of_nodup_map distinct (complete a) (complete b) h

/-- Reading back what a member is written as. -/
@[simp] lemma parse_str {a : α} : parse (str a) = some a := by
  unfold parse
  rw [List.find?_eq_some_iff_append]
  obtain ⟨xs, ys, e⟩ := List.append_of_mem (complete a)
  refine ⟨by simp, xs, ys, e, ?_⟩
  intro b hb
  have nd : ((members : List α).map str).Nodup := distinct
  rw [e, List.map_append, List.map_cons, List.nodup_append] at nd
  have ne := nd.2.2 (str b) (List.mem_map_of_mem hb) (str a) (by simp)
  simpa using ne

/-- The values of two members agree exactly when the members do. -/
@[simp] lemma str_inj {a b : α} : str a = str b ↔ a = b :=
  ⟨str_injective, fun h => h ▸ rfl⟩

end StrEnum

end SentinelOps

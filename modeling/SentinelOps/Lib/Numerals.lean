import Mathlib.Data.Nat.Init

/-!
# Numerals of an ordered field

A numeral of a field carries a proof that it is at least two. These are such proofs under names of
their own, for the definitions that share numerals across modules.
-/

namespace SentinelOps.Numerals

scoped instance two : Nat.AtLeastTwo 2 := ⟨by decide⟩

scoped instance three : Nat.AtLeastTwo 3 := ⟨by decide⟩

scoped instance four : Nat.AtLeastTwo 4 := ⟨by decide⟩

scoped instance ten : Nat.AtLeastTwo 10 := ⟨by decide⟩

scoped instance twenty : Nat.AtLeastTwo 20 := ⟨by decide⟩

scoped instance hundred : Nat.AtLeastTwo 100 := ⟨by decide⟩

end SentinelOps.Numerals

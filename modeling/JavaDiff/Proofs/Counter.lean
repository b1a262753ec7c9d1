/-!
# Counting in words of 32 bits

Lines and changes are counted in words of 32 bits, where zero comes behind the largest word.  So a
count is the number of what was counted as long as that fits into a word, and holds its lowest bits
beyond.
-/

namespace JavaDiff

/-- Whether counting up to a number ends at a word. -/
structure CountsTo (word : UInt32) (number : Nat) : Prop where
  eq_ofNat : word = UInt32.ofNat number
  toNat_eq : number < Nat.pow 2 32 → word.toNat = number

theorem countsTo_ofNat (number : Nat) : CountsTo (UInt32.ofNat number) number :=
  ⟨rfl, UInt32.toNat_ofNat_of_lt'⟩

theorem CountsTo.toNat_le {word : UInt32} {number : Nat} (hcount : CountsTo word number) :
    word.toNat ≤ number := by
  rw [hcount.eq_ofNat, UInt32.toNat_ofNat']
  exact Nat.mod_le ..

/-- Words are added as numbers as long as the sum fits into a word. -/
theorem toNat_ofNat_add {number : Nat} {word : UInt32} (hsum : number + word.toNat < Nat.pow 2 32) :
    (UInt32.ofNat number + word).toNat = number + word.toNat := by
  have hnumber : number < Nat.pow 2 32 := Nat.lt_of_le_of_lt (Nat.le_add_right ..) hsum
  rw [UInt32.toNat_add, UInt32.toNat_ofNat_of_lt' hnumber]
  exact Nat.mod_eq_of_lt hsum

end JavaDiff

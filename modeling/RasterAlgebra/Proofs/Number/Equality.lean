import RasterAlgebra.Proofs.Number.Packing

/-!
# Equality and order of operands

Two floats compare as equal if they are one number, or both are zero, whose sign does not count
(`unpacked_beq_iff`). What is no number differs even from itself. So this equality is symmetric, and a float
that is not equal to itself is no number (`Sample.agrees_refl`).

Sums and products are the same floats in either order of the operands (`Sample.add_comm`,
`Sample.mul_comm`, `Scalar.add_comm`, `Scalar.mul_comm`).
-/

namespace RasterAlgebra

open Float.Model (Format UnpackedFloat)
open Float.Model.UnpackedFloat (Sign)

variable {u v : UnpackedFloat} {s t : Sign}

/-! ## Unpacked floats -/

theorem sign_mul_comm (s t : Sign) : s * t = t * s := by
  cases s <;> cases t <;> rfl

/-- Sums are rounded once, so the order of the operands does not count. -/
theorem unpacked_add_comm (spec : Format) (u v : UnpackedFloat) :
    UnpackedFloat.add spec u v = UnpackedFloat.add spec v u := by
  cases u with
  | notANumber => cases v <;> rfl
  | infinity s =>
    cases v with
    | infinity t => cases s <;> cases t <;> rfl
    | notANumber | zero | finite => rfl
  | zero s =>
    cases v with
    | zero t => cases s <;> cases t <;> rfl
    | notANumber | infinity | finite => rfl
  | finite s m e hm =>
    cases v with
    | notANumber | infinity | zero => rfl
    | finite t n f hn =>
      -- both are scaled to the smaller exponent, and added as whole numbers
      simp only [UnpackedFloat.add]
      rw [Int.add_comm, Int.min_comm]

theorem unpacked_mul_comm (spec : Format) (u v : UnpackedFloat) :
    UnpackedFloat.mul spec u v = UnpackedFloat.mul spec v u := by
  cases u <;> cases v <;> simp only [UnpackedFloat.mul, sign_mul_comm, Nat.mul_comm, Int.add_comm]

theorem infinity_beq_iff :
    (UnpackedFloat.infinity s).beq (.infinity t) ↔ s = t := by
  cases s <;> cases t
  case negative.negative | positive.positive => exact iff_of_true rfl rfl
  all_goals exact iff_of_false Bool.false_ne_true (fun h => Sign.noConfusion h)

/-- Finite floats that compare as equal have the same parts. -/
theorem finite_beq_iff {m n : ℕ} {e f : ℤ} {hm : 0 < m} {hn : 0 < n} :
    (UnpackedFloat.finite s m e hm).beq (.finite t n f hn) ↔ s = t ∧ m = n ∧ e = f := by
  cases s <;> cases t
  case negative.positive | positive.negative =>
    exact iff_of_false Bool.false_ne_true (fun h => Sign.noConfusion h.1)
  all_goals
    simp only [UnpackedFloat.beq, UnpackedFloat.compare, beq_iff_eq, Option.some.injEq,
      Ordering.swap_eq_eq, Ordering.then_eq_eq, Int.compare_eq_eq, Nat.compare_eq_eq, true_and]
    exact and_comm

/-- Two numbers are equal if they are the same and are numbers, or if both are zero. -/
theorem unpacked_beq_iff :
    u.beq v ↔ u = v ∧ u.isNaN = false ∨ ∃ s t, u = .zero s ∧ v = .zero t := by
  cases u with
  | notANumber => cases v <;> simp [UnpackedFloat.beq, UnpackedFloat.compare, UnpackedFloat.isNaN]
  | infinity s =>
    cases v with
    | infinity t => simp [infinity_beq_iff, UnpackedFloat.isNaN]
    | notANumber | zero | finite => cases s <;> simp [UnpackedFloat.beq, UnpackedFloat.compare]
  | zero s =>
    cases v with
    | notANumber | zero => simp [UnpackedFloat.beq, UnpackedFloat.compare, UnpackedFloat.isNaN]
    | infinity t | finite t => cases t <;> simp [UnpackedFloat.beq, UnpackedFloat.compare]
  | finite s m e hm =>
    cases v with
    | notANumber => simp [UnpackedFloat.beq, UnpackedFloat.compare]
    | zero => cases s <;> simp [UnpackedFloat.beq, UnpackedFloat.compare]
    | infinity t => cases s <;> cases t <;> simp [UnpackedFloat.beq, UnpackedFloat.compare]
    | finite t n f hn => simp [finite_beq_iff, UnpackedFloat.isNaN]

/-- Equality is symmetric. -/
theorem unpacked_beq_comm (u v : UnpackedFloat) : u.beq v = v.beq u := by
  rw [Bool.eq_iff_iff, unpacked_beq_iff, unpacked_beq_iff]
  constructor
  · rintro (⟨rfl, h⟩ | ⟨s, t, hu, hv⟩)
    · exact .inl ⟨rfl, h⟩
    · exact .inr ⟨t, s, hv, hu⟩
  · rintro (⟨rfl, h⟩ | ⟨s, t, hv, hu⟩)
    · exact .inl ⟨rfl, h⟩
    · exact .inr ⟨t, s, hu, hv⟩

/-- What is a number equals itself. -/
theorem unpacked_beq_refl (h : u.isNaN = false) : u.beq u := unpacked_beq_iff.mpr (.inl ⟨rfl, h⟩)

/-! ## Scalars -/

namespace Scalar

theorem add_comm (x y : Scalar) : x + y = y + x :=
  congrArg (fun u => Float.ofModel (.pack u)) (unpacked_add_comm .binary64 _ _)

theorem mul_comm (x y : Scalar) : x * y = y * x :=
  congrArg (fun u => Float.ofModel (.pack u)) (unpacked_mul_comm .binary64 _ _)

theorem beq_comm (x y : Scalar) : (x == y) = (y == x) := unpacked_beq_comm _ _

theorem beq_refl {x : Scalar} (h : x.isNaN = false) : x == x := unpacked_beq_refl h

end Scalar

/-! ## Samples -/

namespace Sample

/-- A sample is what its parts pack to. -/
theorem ofModel_pack_unpack (c : Sample) : Float32.ofModel (.pack c.toModel.unpack) = c := by
  obtain ⟨⟨bits, hvalid⟩⟩ := c
  have hbits := pack_unpack (by decide) hvalid
  rw [Float32.Model.pack, Float32.Model.unpack]
  simp only [hbits]

theorem add_comm (c d : Sample) : c + d = d + c :=
  congrArg (fun u => Float32.ofModel (.pack u)) (unpacked_add_comm .binary32 _ _)

theorem mul_comm (c d : Sample) : c * d = d * c :=
  congrArg (fun u => Float32.ofModel (.pack u)) (unpacked_mul_comm .binary32 _ _)

/-- What compares as equal to one is one. -/
theorem beq_one_iff (c : Sample) : c == 1 ↔ c = 1 := by
  have hone : (1 : Sample).toModel.unpack = .finite .positive (2 ^ 23) (-23) (by decide) := rfl
  have hbeq : (c == 1) = c.toModel.unpack.beq (1 : Sample).toModel.unpack := rfl
  rw [hbeq, unpacked_beq_iff]
  constructor
  · rintro (⟨h, -⟩ | ⟨s, t, -, ht⟩)
    · rw [← c.ofModel_pack_unpack, h, ofModel_pack_unpack]
    · rw [hone] at ht
      cases ht
  · rintro rfl
    exact .inl ⟨rfl, rfl⟩

/-- Every sample is equal to itself or no number. -/
theorem agrees_refl (c : Sample) : c.agrees c := by
  rw [agrees, Bool.or_eq_true]
  cases h : c.isNaN with
  | true => exact .inr rfl
  | false => exact .inl (unpacked_beq_refl h)

end Sample

end RasterAlgebra

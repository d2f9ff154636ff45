import RasterAlgebra.ArrayFile.ElementType
import RasterAlgebra.Sample
/-!
# Elements of array files

An element is stored as bits, and the bits as bytes in either order. `sampleOf` gives the sample that is
nearest to an element; it depends on the bits alone, not on how they are stored.
-/

namespace RasterAlgebra.ArrayFile

/-! ## Bytes -/

/-- The number that bytes write, the least significant one first. -/
def natOfBytes : List UInt8 → Nat
  | [] => 0
  | b :: rest => b.toNat + 256 * natOfBytes rest

/-- The lowest `count` bytes of a number, the least significant one first. -/
def bytesOfNat : (count : Nat) → Nat → List UInt8
  | 0, _ => []
  | count + 1, n => n.toUInt8 :: bytesOfNat count (n / 256)

/-- As many bytes are written as are asked for. -/
theorem length_bytesOfNat (count n : Nat) : (bytesOfNat count n).length = count := by
  induction count generalizing n with
  | zero => rfl
  | succ count ih => simp [bytesOfNat, ih]

/-! ## Elements -/

/-- The number that the bits of a half-precision number stand for. -/
def ofHalf (bits : Nat) : Sample :=
  let sign := if bits / 32768 % 2 = 1 then Float.Model.UnpackedFloat.Sign.negative else .positive
  let exponent : Nat := bits / 1024 % 32
  let fraction : Nat := bits % 1024
  if exponent = 31 then
    .ofUnpacked (if fraction = 0 then .infinity sign else .notANumber)
  else
    let (m, e) : Nat × Int :=
      if exponent = 0 then (fraction, -24) else (1024 + fraction, (exponent : Int) - 25)
    if h : 0 < m then .ofUnpacked (.finite sign m e h) else .ofUnpacked (.zero sign)

/-- The sample nearest to the extended-precision number that bits stand for. Its leading digit is stored; a
number that lacks it is none, unless it is among the smallest. -/
def ofExtended (bits : Nat) : Sample :=
  let sign := if bits / Nat.pow 2 79 % 2 = 1 then Float.Model.UnpackedFloat.Sign.negative else .positive
  let exponent : Nat := bits / Nat.pow 2 64 % 32768
  let digits : Nat := bits % Nat.pow 2 64
  let leading : Nat := Nat.pow 2 63
  if exponent = 32767 then
    .ofUnpacked (if digits = leading then .infinity sign else .notANumber)
  else if 0 < exponent ∧ digits < leading then .ofUnpacked .notANumber
  else if h : 0 < digits then
    .ofUnpacked (.finite sign digits ((max exponent 1 : Nat) - 16446) h)
  else .ofUnpacked (.zero sign)

/-- The signed number with the given bits. -/
def signedOf (size bits : Nat) : Int := Int.bmod bits (Nat.pow 256 size)

/-- The sample nearest to an element of a kind, given the element's bits. Spans of time that are no time
are no numbers. -/
def sampleOf (kind : ElementType.Kind) (bits : Nat) : Sample :=
  match kind with
  | .truth => .ofBool (bits != 0)
  | .signed size => .ofInt (signedOf size bits)
  | .unsigned _ => .ofInt bits
  | .real 2 => ofHalf bits
  | .real 4 => .ofBits bits.toUInt32
  | .real 8 => .ofScalar (.ofBits bits.toUInt64)
  | .real 16 => ofExtended bits
  | .span _ => if bits = Nat.pow 2 63 then 0 / 0 else .ofInt (signedOf 8 bits)
  | _ => 0 / 0

/-- The sample nearest to an element of a type, given its bytes. -/
def sampleOfBytes (type : ElementType) (bytes : List UInt8) : Sample :=
  sampleOf type.kind (natOfBytes (if type.bigEndian then bytes.reverse else bytes))

/-- The bytes of an element of a type, given its bits. -/
def bytesOfElement (type : ElementType) (bits : Nat) : List UInt8 :=
  let bytes := bytesOfNat type.kind.size bits
  if type.bigEndian then bytes.reverse else bytes

end RasterAlgebra.ArrayFile

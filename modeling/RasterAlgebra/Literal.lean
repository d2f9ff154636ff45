import RasterAlgebra.Decimal.Text
import RasterAlgebra.Sample
import RasterAlgebra.Text.Quoted
/-!
# Literals

Values that are written as source text: numbers, texts, truth values, and tuples, lists, sets and
dictionaries of values. Texts are kept as code points, because a literal can write surrogates.

The keys of a dictionary and the items of a set are values that cannot change; lists, sets and
dictionaries can. Two keys are the same if they are equal, and numbers are equal by what they count, so
that `1`, `1.0` and `True` are one key. Real numbers can be ordered, and so can texts; a number and a
text cannot.
-/

namespace RasterAlgebra

/-- A value that is written as source text. -/
inductive Literal where
  | nothing
  | ellipsis
  | truth (b : Bool)
  | whole (n : Int)
  | real (x : Scalar)
  | complex (re im : Scalar)
  | text (codes : List Nat)
  | bytes (bytes : List UInt8)
  | tuple (items : List Literal)
  | list (items : List Literal)
  | set (items : List Literal)
  | dictionary (entries : List (Literal × Literal))

namespace Literal

/-! ## Views -/

/-- Whether a value is a number on the real line; truth values are. -/
def isReal : Literal → Bool
  | truth _ | whole _ | real _ => true
  | _ => false

/-! ## Keys -/

mutual
/-- Whether a value cannot change, so that it can be a key. -/
def isKey : Literal → Bool
  | list _ | set _ | dictionary _ => false
  | tuple items => areKeys items
  | _ => true
/-- Whether none of the values can change. -/
def areKeys : List Literal → Bool
  | [] => true
  | item :: rest => item.isKey && areKeys rest
end

/-- A real number, counted exactly or rounded. -/
inductive Real where
  | whole (n : Int)
  | rounded (x : Scalar)

/-- Whether two real numbers are equal. -/
def Real.agrees : Real → Real → Bool
  | .whole m, .whole n => m == n
  | .whole n, .rounded x | .rounded x, .whole n => Decimal.whole? x == some n
  | .rounded x, .rounded y => x == y

/-- The real and the imaginary part of a number. -/
def parts? : Literal → Option (Real × Real)
  | truth b => some (.whole (if b then 1 else 0), .whole 0)
  | whole n => some (.whole n, .whole 0)
  | real x => some (.rounded x, .whole 0)
  | complex re im => some (.rounded re, .rounded im)
  | _ => none

mutual
/-- Whether two keys are the same. -/
def same : Literal → Literal → Bool
  | nothing, nothing => true
  | ellipsis, ellipsis => true
  | text a, text b => a == b
  | bytes a, bytes b => a == b
  | tuple a, tuple b => sameItems a b
  | a, b =>
    match a.parts?, b.parts? with
    | some (re, im), some (re', im') => re.agrees re' && im.agrees im'
    | _, _ => false
/-- Whether two lists hold the same keys in one order. -/
def sameItems : List Literal → List Literal → Bool
  | [], [] => true
  | a :: as, b :: bs => a.same b && sameItems as bs
  | _, _ => false
end

mutual
/-- Whether it can be told which of two keys comes first. -/
def isComparable : Literal → Literal → Bool
  | text _, text _ => true
  | bytes _, bytes _ => true
  | tuple a, tuple b => areComparable a b
  | a, b => a.isReal && b.isReal
/-- Whether it can be told of two lists which one comes first: the first items that differ decide. -/
def areComparable : List Literal → List Literal → Bool
  | a :: as, b :: bs => if a.same b then areComparable as bs else a.isComparable b
  | _, _ => true
end

/-- Whether keys that all differ can be put in order. -/
def areSortable : List Literal → Bool
  | [] => true
  | key :: rest => rest.all key.isComparable && areSortable rest

/-- Puts a value under a key of a dictionary, in place of the one that was there. -/
def put (entries : List (Literal × Literal)) (key item : Literal) : List (Literal × Literal) :=
  if entries.any fun entry => entry.1.same key then
    entries.map fun entry => if entry.1.same key then (entry.1, item) else entry
  else entries ++ [(key, item)]

/-- The value under a text in a dictionary. -/
def entry? (key : String) (entries : List (Literal × Literal)) : Option Literal :=
  (entries.find? fun entry => entry.1.same (text (key.toList.map Char.toNat))).map (·.2)

/-! ## Showing -/

/-- A number without the point behind a whole one. -/
def shownPart (x : Scalar) : String :=
  Decimal.renderWith ⟨-4, 16, ""⟩ Decimal.shortest x

/-- A complex number, its real part left out where it is zero. -/
def shownComplex (re im : Scalar) : String :=
  if re.toBits = 0 then shownPart im ++ "j"
  else
    let im := shownPart im
    let sign := if im.startsWith "-" then "" else "+"
    "(" ++ shownPart re ++ sign ++ im ++ "j)"

mutual
/-- A value as source text. -/
def shown : Literal → String
  | nothing => "None"
  | ellipsis => "Ellipsis"
  | truth b => if b then "True" else "False"
  | whole n => toString n
  | real x => Decimal.exact x
  | complex re im => shownComplex re im
  | text codes => Text.quotedCodes codes
  | bytes bs => "b" ++ Text.quotedAscii (String.ofList (bs.map fun b => Char.ofNat b.toNat))
  | tuple [item] => "(" ++ shown item ++ ",)"
  | tuple items => "(" ++ ", ".intercalate (shownItems items) ++ ")"
  | list items => "[" ++ ", ".intercalate (shownItems items) ++ "]"
  | set [] => "set()"
  | set items => "\x7b" ++ ", ".intercalate (shownItems items) ++ "\x7d"
  | dictionary entries => "\x7b" ++ ", ".intercalate (shownEntries entries) ++ "\x7d"
/-- Values as source text. -/
def shownItems : List Literal → List String
  | [] => []
  | item :: rest => shown item :: shownItems rest
/-- The entries of a dictionary as source text. -/
def shownEntries : List (Literal × Literal) → List String
  | [] => []
  | (key, item) :: rest => (shown key ++ ": " ++ shown item) :: shownEntries rest
end

end Literal

end RasterAlgebra

import RasterAlgebra.ArrayFile.Descriptor.Code
/-!
# Descriptors as literals

A header writes the descriptor of the elements as a value: a text is the code of a type, a pair is an array
of elements with its shape, and a list holds the fields of a record with their names. A field without a
name is a gap if it has no type. `Descriptor.ofLiteral` reads such a value.
-/

namespace RasterAlgebra.ArrayFile.Descriptor

/-- The descriptor whose code is a text. -/
def ofText (codes : List Nat) : Except Error Descriptor :=
  match codes.mapM Text.char? with
  | some code => ofCode code
  | none => .error .malformed

/-- The descriptor behind which something else than lengths may tell the size. -/
def sizedBy (d : Descriptor) : Literal → Except Error Descriptor
  | .text codes => do d.matching (← ofText codes)
  | .bytes bs => do d.matching (← ofText (bs.map UInt8.toNat))
  | .nothing => d.matching (.single (.ofKind (.real 8) false))
  | v => d.sized v

/-- What a value goes through item by item. -/
def itemsOf? : Literal → Option (List Literal)
  | .text codes => some (codes.map fun code => .text [code])
  | .bytes bs => some (bs.map fun b => .whole b.toNat)
  | .tuple items | .list items | .set items => some items
  | .dictionary entries => some (entries.map (·.1))
  | _ => none

/-- Whether a field without a name is a gap. -/
def isGap : Literal → Descriptor → Bool
  | .text [], .single type => match type.kind with
    | .raw _ => true
    | _ => false
  | .text [], .array _ _ => true
  | _, _ => false

/-- The name of a field, and its title if it has one. -/
def fieldName? : Literal → Option FieldName
  | .text name => some ⟨name, none⟩
  | .tuple [.nothing, .text name] => some ⟨name, none⟩
  | .tuple [title, .text name] => if title.isKey then some ⟨name, some title⟩ else none
  | _ => none

/-- A field of a record or a gap in it, and the bytes that it takes. -/
structure Slot where
  name : Literal
  descriptor : Descriptor

/-- The keys under which a field can be found. -/
def FieldName.keys (f : FieldName) : List (List Nat) :=
  match f.title with
  | some (.text title) => [f.name, title]
  | _ => [f.name]

/-- A record of fields and gaps in a row. No two names are the same, and no title is a name. -/
def ofSlots (slots : List Slot) : Except Error Descriptor := do
  let offsets := slots.scanl (fun offset slot => offset + slot.descriptor.size) 0
  let fields ← (slots.zip offsets).filterMapM fun (slot, offset) =>
    if isGap slot.name slot.descriptor then pure none
    else match fieldName? slot.name with
      | some f => pure (some (f, offset, slot.descriptor))
      | none => throw .malformed
  let keys := fields.flatMap fun (f, _) => FieldName.keys f
  if keys.eraseDups.length < keys.length then throw .malformed
  return .record fields (offsets.getLastD 0)

mutual
/-- The descriptor that a value tells. Values within it cost one unit of `fuel` each. -/
def ofLiteralWithin : (fuel : Nat) → Literal → Except Error Descriptor
  | 0, _ => .error .malformed
  | fuel + 1, v =>
    match v with
    | .text codes => ofText codes
    | .tuple [] => .error .tooShort
    | .tuple [base] => do
      let _ ← ofLiteralWithin fuel base
      throw .tooShort
    | .tuple (base :: shape :: _) => do (← ofLiteralWithin fuel base).sizedBy shape
    | v =>
      match itemsOf? v with
      | some items => do ofSlots (← slotsWithin fuel items)
      | none => .error .malformed
/-- The fields that values tell. -/
def slotsWithin : (fuel : Nat) → List Literal → Except Error (List Slot)
  | 0, _ => .error .malformed
  | _, [] => .ok []
  | fuel + 1, v :: rest => do
    let slot ← match itemsOf? v with
      | some [name, base] => pure ⟨name, ← ofLiteralWithin fuel base⟩
      | some [name, base, shape] => pure ⟨name, ← (← ofLiteralWithin fuel base).sizedBy shape⟩
      | _ => throw .malformed
    return slot :: (← slotsWithin fuel rest)
end

mutual
/-- Twice the count of the values and characters in a value, which is fuel enough to read it. -/
def extent : Literal → Nat
  | .text codes => 2 * codes.length + 2
  | .bytes bs => 2 * bs.length + 2
  | .tuple items | .list items | .set items => extentOfItems items + 2
  | .dictionary entries => extentOfEntries entries + 2
  | _ => 2
/-- The same for the items of a value. -/
def extentOfItems : List Literal → Nat
  | [] => 0
  | item :: rest => extent item + extentOfItems rest
/-- The same for the entries of a dictionary. -/
def extentOfEntries : List (Literal × Literal) → Nat
  | [] => 0
  | (key, item) :: rest => extent key + extent item + extentOfEntries rest
end

/-- The descriptor that a value tells. -/
def ofLiteral (v : Literal) : Except Error Descriptor := ofLiteralWithin (extent v) v

end RasterAlgebra.ArrayFile.Descriptor

import Mathlib.Data.Nat.Notation

/-!
# Texts of ASCII characters

The bytes of a text whose characters are all ASCII are the codes of the characters, so the characters can be
had from the bytes one by one (`map_ofNat_toUTF8`), as well as from all of them at once
(`fromUTF8?_toUTF8`).
-/

namespace RasterAlgebra.Text

variable {s : String}

theorem toList_loop_eq (bs : ByteArray) (i : ℕ) (r : List UInt8) :
    ByteArray.toList.loop bs i r = r.reverse ++ bs.data.toList.drop i := by
  fun_induction ByteArray.toList.loop bs i r with
  | case1 i r hi ih =>
    have hget : bs.get! i = bs.data.toList[i] := getElem!_pos bs.data i hi
    have hdrop : bs.data.toList.drop i = bs.data.toList[i] :: bs.data.toList.drop (i + 1) :=
      List.drop_eq_getElem_cons hi
    rw [ih, hdrop, hget, List.reverse_cons, List.append_assoc, List.singleton_append]
  | case2 i r hi =>
    have hdrop : bs.data.toList.drop i = [] := List.drop_eq_nil_of_le (Nat.not_lt.mp hi)
    rw [hdrop, List.append_nil]

theorem toList_eq_data (bs : ByteArray) : bs.toList = bs.data.toList := by
  rw [ByteArray.toList, toList_loop_eq, List.reverse_nil, List.nil_append, List.drop_zero]

theorem utf8EncodeChar_of_ascii {c : Char} (hc : c.toNat < 0x80) :
    String.utf8EncodeChar c = [c.toNat.toUInt8] := by
  have hsize : c.utf8Size = 1 := by
    rw [Char.utf8Size_eq_one_iff, UInt32.le_iff_toNat_le]
    exact Nat.le_of_lt_succ hc
  rw [String.utf8EncodeChar_eq_singleton hsize]
  rfl

/-- The bytes of a text are those of its characters. -/
theorem toUTF8_toList (s : String) : s.toUTF8.toList = s.toList.flatMap String.utf8EncodeChar := by
  rw [toList_eq_data, String.toUTF8_eq_toByteArray, ← String.utf8Encode_toList, List.utf8Encode,
    List.toList_data_toByteArray]

theorem toUTF8_of_ascii (hs : ∀ c ∈ s.toList, c.toNat < 0x80) :
    s.toUTF8.toList = s.toList.map fun c => c.toNat.toUInt8 := by
  rw [toUTF8_toList]
  generalize s.toList = chars at hs
  induction chars with
  | nil => rfl
  | cons c chars ih =>
    obtain ⟨hc, hchars⟩ := List.forall_mem_cons.mp hs
    rw [List.flatMap_cons, utf8EncodeChar_of_ascii hc, ih hchars, List.singleton_append, List.map_cons]

theorem map_ofNat_toUTF8 (hs : ∀ c ∈ s.toList, c.toNat < 0x80) :
    s.toUTF8.toList.map (fun b => Char.ofNat b.toNat) = s.toList := by
  rw [toUTF8_of_ascii hs, List.map_map]
  refine (List.map_congr_left fun c hc => ?_).trans (List.map_id _)
  have hbyte : c.toNat.toUInt8.toNat = c.toNat := by
    rw [Nat.toUInt8_eq, UInt8.toNat_ofNat']
    exact Nat.mod_eq_of_lt (Nat.lt_trans (hs c hc) (by decide))
  rw [Function.comp_apply, hbyte, Char.ofNat_toNat, id_eq]

theorem fromUTF8?_toUTF8 (s : String) : String.fromUTF8? s.toUTF8.toList.toByteArray = some s := by
  have hbytes : s.toUTF8.toList.toByteArray = s.toByteArray := by
    refine ByteArray.ext (Array.toList_inj.mp ?_)
    rw [List.toList_data_toByteArray, toList_eq_data, String.toUTF8_eq_toByteArray]
  rw [hbytes, String.fromUTF8?, dif_pos s.isValidUTF8]
  rfl

end RasterAlgebra.Text

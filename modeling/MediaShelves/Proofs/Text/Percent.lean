import Mathlib.Data.List.Basic
import MediaShelves.Text.Percent

/-!
# Percent decoding of texts

Decoding goes from the front to the back, and no character but the percent sign has the octet of one.
So a text without percent signs stays as it is, whatever stands behind it, and whether that can be
decoded or not (`percentDecoded_append`).
-/

namespace MediaShelves.Text

/-! ## Octets of a text -/

/-- What the loop has read is kept in reverse, in front of what it still has to read. -/
theorem toListLoop_eq (bs : ByteArray) (i : Nat) (seen : List UInt8) :
    ByteArray.toList.loop bs i seen = seen.reverse ++ bs.data.toList.drop i := by
  fun_induction ByteArray.toList.loop bs i seen with
  | case1 i seen hi ih =>
    -- One more octet is seen, and the rest is still to come.
    have hnext : bs.data.toList.drop i = bs.get! i :: bs.data.toList.drop (i + 1) := by
      rw [List.drop_eq_getElem_cons (by simpa using hi), ByteArray.get!, getElem!_pos bs.data i hi,
        Array.getElem_toList]
    rw [ih, hnext, List.reverse_cons, List.append_assoc, List.singleton_append]
  | case2 i seen hi =>
    have hend : bs.data.toList.length ≤ i := by
      simpa using hi
    rw [List.drop_eq_nil_of_le hend, List.append_nil]

theorem octets_eq_data (bs : ByteArray) : bs.toList = bs.data.toList := by
  rw [ByteArray.toList, toListLoop_eq, List.reverse_nil, List.nil_append, List.drop_zero]

/-- Octets put behind others, as lists. -/
theorem append_octets (bs : ByteArray) (octets : List UInt8) :
    bs ++ ByteArray.mk octets.toArray = ByteArray.mk (bs.toList ++ octets).toArray := by
  rw [octets_eq_data]
  apply ByteArray.ext
  simp

/-- The octets of a text are those of its characters, one after another. -/
theorem octets_toUTF8 (s : String) : s.toUTF8.toList = s.toList.flatMap String.utf8EncodeChar := by
  rw [octets_eq_data, String.toUTF8_eq_toByteArray, ← String.utf8Encode_toList, List.utf8Encode]
  simp

/-- Only a percent sign has the octet of one. -/
theorem not_mem_utf8EncodeChar {c : Char} (hc : c ≠ '%') : 37 ∉ String.utf8EncodeChar c := by
  have hval : c.val.toNat ≠ 37 := fun h => hc (Char.toNat_inj.1 h)
  have hother {n : Nat} (hne : n % 256 ≠ 37) : ¬ 37 = UInt8.ofNat n := by
    intro h
    have h := congrArg UInt8.toNat h
    rw [UInt8.toNat_ofNat'] at h
    exact hne h.symm
  simp only [String.utf8EncodeChar]
  -- The octets of a character that has several are greater than those of ASCII.
  split
  · rw [List.mem_singleton]
    exact hother (by omega)
  · split
    · simp only [List.mem_cons, List.not_mem_nil, or_false, not_or]
      exact ⟨hother (by omega), hother (by omega)⟩
    · split
      · simp only [List.mem_cons, List.not_mem_nil, or_false, not_or]
        exact ⟨hother (by omega), hother (by omega), hother (by omega)⟩
      · simp only [List.mem_cons, List.not_mem_nil, or_false, not_or]
        exact ⟨hother (by omega), hother (by omega), hother (by omega), hother (by omega)⟩

/-- A text without percent signs has no octet of one. -/
theorem not_mem_octets {s : List Char} (hs : '%' ∉ s) : 37 ∉ s.flatMap String.utf8EncodeChar := by
  intro hmem
  obtain ⟨c, hc, hmem⟩ := List.mem_flatMap.1 hmem
  exact not_mem_utf8EncodeChar (fun h => hs (h ▸ hc)) hmem

/-! ## Decoding octets -/

theorem percentDecodeOctets_cons {a : UInt8} (ha : a ≠ 37) (rest : List UInt8) :
    percentDecodeOctets (a :: rest) = a :: percentDecodeOctets rest := by
  match rest with
  | [] => rfl
  | [_] => rfl
  | b :: c :: rest => rw [percentDecodeOctets, if_neg ha]

/-- Octets before the first percent sign stay as they are. -/
theorem percentDecodeOctets_append {front : List UInt8} (hfront : 37 ∉ front) (rest : List UInt8) :
    percentDecodeOctets (front ++ rest) = front ++ percentDecodeOctets rest := by
  induction front with
  | nil => rfl
  | cons a front ih =>
    obtain ⟨ha, hfront⟩ := not_or.1 (mt List.mem_cons.2 hfront)
    rw [List.cons_append, percentDecodeOctets_cons (Ne.symm ha), ih hfront, List.cons_append]

/-! ## Decoding texts -/

/-- Octets behind those of a text are a text exactly if they are one by themselves. -/
theorem isValidUTF8_append_iff (s : List Char) (bs : ByteArray) :
    (s.utf8Encode ++ bs).IsValidUTF8 ↔ bs.IsValidUTF8 := by
  induction s with
  | nil => simp
  | cons c s ih =>
    rw [List.utf8Encode_cons, ByteArray.append_assoc,
      ByteArray.isValidUTF8_utf8Encode_singleton_append_iff, ih]

theorem fromUTF8?_append (s : String) (bs : ByteArray) :
    String.fromUTF8? (s.toUTF8 ++ bs) = (String.fromUTF8? bs).map (s ++ ·) := by
  have hvalid := isValidUTF8_append_iff s.toList bs
  rw [String.utf8Encode_toList, ← String.toUTF8_eq_toByteArray] at hvalid
  unfold String.fromUTF8?
  by_cases hbs : bs.IsValidUTF8
  · rw [dif_pos hbs, dif_pos (hvalid.2 hbs)]
    rfl
  · rw [dif_neg hbs, dif_neg (mt hvalid.1 hbs)]
    rfl

/-- Characters before the first percent sign stay as they are. -/
theorem percentDecode?_append {front : String} (hfront : '%' ∉ front.toList) (rest : String) :
    percentDecode? (front ++ rest) = (percentDecode? rest).map (front ++ ·) := by
  unfold percentDecode?
  rw [← fromUTF8?_append, octets_toUTF8, String.toList_append, List.flatMap_append,
    percentDecodeOctets_append (not_mem_octets hfront), ← octets_toUTF8, ← octets_toUTF8,
    append_octets]

/-- The decoded text, or the text itself where the decoded octets are no UTF-8. -/
def percentDecoded (s : String) : String :=
  (percentDecode? s).getD s

/-- What has no percent sign stays as it is, in front of what is decoded. -/
theorem percentDecoded_append {front : String} (hfront : '%' ∉ front.toList) (rest : String) :
    percentDecoded (front ++ rest) = front ++ percentDecoded rest := by
  rw [percentDecoded, percentDecoded, percentDecode?_append hfront]
  cases percentDecode? rest <;> rfl

end MediaShelves.Text

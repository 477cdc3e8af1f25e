/-
Texts and their bytes, those of ASCII characters above all.

* `Bytes.toString?_eq_some_iff`: a byte string reads as a text exactly when it is
  the encoding of this text;
* `Bytes.ofString_append`, `Bytes.ofString_ofList`: the bytes of a text, part by
  part and character by character;
* `asciiByte`: the byte of an ASCII character, by which it is told
  (`asciiByte_inj`);
* `Bytes.ofString_of_ascii`: each ASCII character is one byte;
* `Bytes.mem_ofString_of_ascii`: an ASCII character stands in a text exactly when
  its byte stands among the bytes of the text;
* `Bytes.exists_ofString_of_ascii`: ASCII bytes are always a text.
-/
import Mathlib.Tactic
import Vendoring.Text.Utf8

namespace Vendoring

/-- The byte of an ASCII character. -/
def asciiByte (c : Char) : UInt8 := UInt8.ofNat c.toNat

lemma toNat_asciiByte {c : Char} (h : c.toNat < 128) : (asciiByte c).toNat = c.toNat := by
  rw [asciiByte, UInt8.toNat_ofNat']
  omega

/-- An ASCII character is told by its byte. -/
lemma asciiByte_inj {c d : Char} (hc : c.toNat < 128) (hd : d.toNat < 128)
    (h : asciiByte c = asciiByte d) : c = d := by
  have hnat := congrArg UInt8.toNat h
  rw [toNat_asciiByte hc, toNat_asciiByte hd] at hnat
  exact Char.toNat_inj.mp hnat

lemma Utf8.toNat_ofNat {v : Nat} (h : v < 0xD800 ∨ 0xDFFF < v ∧ v < 0x110000) :
    (Char.ofNat v).toNat = v := by
  have hvalid : v.isValidChar := h
  rw [Char.ofNat, dif_pos hvalid]
  rfl

namespace Bytes

/-! ### Texts and their bytes -/

/-- Two texts with the same bytes are equal. -/
lemma ofString_inj {s t : String} : ofString s = ofString t ↔ s = t := by
  constructor
  · intro h
    refine String.toByteArray_inj.mp (ByteArray.ext ?_)
    simpa [ofString] using h
  · rintro rfl
    rfl

/-- A byte string reads as `s` exactly when it is the encoding of `s`. -/
lemma toString?_eq_some_iff {b : Bytes} {s : String} :
    toString? b = some s ↔ b = ofString s := by
  unfold toString? String.fromUTF8?
  constructor
  · intro h
    split at h
    · cases h
      simp [ofString, String.fromUTF8]
    · cases h
  · rintro rfl
    have hb : (⟨(ofString s).toArray⟩ : ByteArray) = s.toByteArray :=
      ByteArray.ext (by simp [ofString])
    rw [dif_pos (by rw [hb]; exact s.isValidUTF8)]
    refine congrArg some (String.toByteArray_inj.mp ?_)
    simpa [String.fromUTF8] using hb

/-- The encoding of a text reads back as the text. -/
@[simp] lemma toString?_ofString (s : String) : toString? (ofString s) = some s :=
  toString?_eq_some_iff.mpr rfl

/-- The bytes of two texts put together. -/
lemma ofString_append (s t : String) : ofString (s ++ t) = ofString s ++ ofString t := by
  rw [ofString, String.toByteArray_append]
  simp [ofString]

/-- The bytes of a text are those of its characters. -/
lemma ofString_ofList (cs : List Char) :
    ofString (String.ofList cs) = cs.flatMap String.utf8EncodeChar := by
  rw [ofString, String.toByteArray_ofList, List.utf8Encode]
  simp

/-! ### ASCII -/

/-- An ASCII character is one byte. -/
lemma utf8EncodeChar_of_ascii {c : Char} (h : c.toNat < 128) :
    String.utf8EncodeChar c = [asciiByte c] := by
  have hsize : c.utf8Size = 1 := by
    have hval : c.val.toNat < 128 := h
    rw [Char.utf8Size_eq_one_iff, UInt32.le_iff_toNat_le]
    simpa using Nat.le_of_lt_succ hval
  rw [String.utf8EncodeChar_eq_singleton hsize]
  rfl

/-- The bytes of an ASCII text are the numbers of its characters. -/
lemma ofString_of_ascii {cs : List Char} (h : ∀ c ∈ cs, c.toNat < 128) :
    ofString (String.ofList cs) = cs.map asciiByte := by
  rw [ofString_ofList]
  induction cs with
  | nil => rfl
  | cons c cs ih =>
      rw [List.forall_mem_cons] at h
      rw [List.flatMap_cons, List.map_cons, utf8EncodeChar_of_ascii h.1, ih h.2]
      rfl

/-- The bytes of a character that is not ASCII are no ASCII bytes. -/
lemma le_of_mem_utf8EncodeChar {c : Char} (hc : 128 ≤ c.toNat) {b : UInt8}
    (hb : b ∈ String.utf8EncodeChar c) : 128 ≤ b.toNat := by
  have hlow : ¬ c.val.toNat ≤ 127 := by
    have hval : 128 ≤ c.val.toNat := hc
    omega
  simp only [String.utf8EncodeChar, hlow, if_false] at hb
  split_ifs at hb
  all_goals
    simp only [List.mem_cons, List.not_mem_nil, or_false] at hb
    rcases hb with rfl | rfl | rfl | rfl
    all_goals
      rw [UInt8.toNat_ofNat']
      omega

/-- An ASCII character stands in a text exactly when its byte stands among the
bytes. -/
lemma mem_ofString_of_ascii {c : Char} (hc : c.toNat < 128) (s : String) :
    asciiByte c ∈ ofString s ↔ c ∈ s.toList := by
  rw [← String.ofList_toList (s := s), ofString_ofList, List.mem_flatMap, String.toList_ofList]
  constructor
  · rintro ⟨x, hx, hb⟩
    have hascii : x.toNat < 128 := by
      by_contra hlarge
      have hbyte := le_of_mem_utf8EncodeChar (by omega) hb
      rw [toNat_asciiByte hc] at hbyte
      omega
    rw [utf8EncodeChar_of_ascii hascii, List.mem_singleton] at hb
    rwa [asciiByte_inj hc hascii hb]
  · intro hx
    refine ⟨c, hx, ?_⟩
    rw [utf8EncodeChar_of_ascii hc]
    exact List.mem_singleton_self _

/-- ASCII bytes are a text. -/
lemma exists_ofString_of_ascii {bs : Bytes} (h : ∀ b ∈ bs, b.toNat < 128) :
    ∃ s, ofString s = bs := by
  have htoNat : ∀ b ∈ bs, (Char.ofNat b.toNat).toNat = b.toNat := by
    intro b hb
    have hsmall := h b hb
    exact Utf8.toNat_ofNat (by omega)
  refine ⟨String.ofList (bs.map fun b => Char.ofNat b.toNat), ?_⟩
  rw [ofString_of_ascii, List.map_map]
  · conv_rhs => rw [← List.map_id bs]
    refine List.map_congr_left fun b hb => ?_
    rw [Function.comp_apply, asciiByte, htoNat b hb, UInt8.ofNat_toNat, id_eq]
  · intro c hc
    obtain ⟨b, hb, rfl⟩ := List.mem_map.mp hc
    rw [htoNat b hb]
    exact h b hb

end Bytes

end Vendoring

/-
The UTF-8 encodings of characters.

* `utf8EncodeChar_append_inj`: no encoding is the beginning of another one, so
  that one text begins another exactly when its bytes do (`ofString_prefix_iff`);
* `utf8EncodeChar_cases`: the four lengths of an encoding;
* `IsTail`, `Follows`, `first_byte`, `second_byte`: which bytes stand where in an
  encoding;
* `encode_two`, `encode_three`, `encode_four`: bytes that stand where they may are
  the encoding of the character that their payloads make.
-/
import Mathlib.Tactic
import Vendoring.Proofs.Ascii

namespace Vendoring.Utf8

open String (utf8EncodeChar)

/-! ### Encodings one after another -/

/-- No encoding is the beginning of another one. -/
lemma utf8EncodeChar_append_inj {c d : Char} {x y : Bytes}
    (h : utf8EncodeChar c ++ x = utf8EncodeChar d ++ y) : c = d ∧ x = y := by
  have hdecode : ∀ (e : Char) (z : Bytes),
      ByteArray.utf8DecodeChar? (utf8EncodeChar e ++ z).toByteArray 0 = some e := by
    intro e z
    rw [List.toByteArray_append]
    exact ByteArray.utf8DecodeChar?_utf8EncodeChar_append
  have hcd : c = d := by
    have hc := hdecode c x
    rw [h, hdecode d y] at hc
    exact (Option.some.inj hc).symm
  subst hcd
  exact ⟨rfl, List.append_cancel_left h⟩

/-- The bytes of a text begin with those of its first character. -/
lemma ofString_cons (c : Char) (cs : List Char) :
    Bytes.ofString (String.ofList (c :: cs)) =
      utf8EncodeChar c ++ Bytes.ofString (String.ofList cs) := by
  rw [Bytes.ofString_ofList, Bytes.ofString_ofList, List.flatMap_cons]

/-- One text begins another exactly when its bytes do. -/
lemma ofString_prefix_iff (s t : String) :
    Bytes.ofString s <+: Bytes.ofString t ↔ s.toList <+: t.toList := by
  rw [← String.ofList_toList (s := s), ← String.ofList_toList (s := t), String.toList_ofList,
    String.toList_ofList]
  generalize s.toList = cs
  generalize t.toList = ds
  induction cs generalizing ds with
  | nil => simp [Bytes.ofString]
  | cons c cs ih =>
      constructor
      · rintro ⟨rest, hrest⟩
        cases ds with
        | nil =>
            rw [ofString_cons] at hrest
            simp [Bytes.ofString, String.utf8EncodeChar_ne_nil] at hrest
        | cons d ds =>
            rw [ofString_cons, ofString_cons, List.append_assoc] at hrest
            obtain ⟨rfl, htail⟩ := utf8EncodeChar_append_inj hrest
            exact List.cons_prefix_cons.mpr ⟨rfl, (ih ds).mp ⟨rest, htail⟩⟩
      · rintro ⟨rest, rfl⟩
        rw [Bytes.ofString_ofList, Bytes.ofString_ofList, List.flatMap_append]
        exact List.prefix_append _ _

/-! ### The bytes of an encoding -/

/-- The four lengths of an encoding, with the values that have them. -/
lemma utf8EncodeChar_cases (c : Char) :
    (c.toNat < 0x80 ∧ utf8EncodeChar c = [asciiByte c]) ∨
    (0x80 ≤ c.toNat ∧ c.toNat < 0x800 ∧
      utf8EncodeChar c = [UInt8.ofNat (c.toNat / 64 + 0xC0), UInt8.ofNat (c.toNat % 64 + 0x80)]) ∨
    (0x800 ≤ c.toNat ∧ c.toNat < 0x10000 ∧ (c.toNat < 0xD800 ∨ 0xDFFF < c.toNat) ∧
      utf8EncodeChar c = [UInt8.ofNat (c.toNat / 4096 + 0xE0),
        UInt8.ofNat (c.toNat / 64 % 64 + 0x80), UInt8.ofNat (c.toNat % 64 + 0x80)]) ∨
    (0x10000 ≤ c.toNat ∧ c.toNat < 0x110000 ∧
      utf8EncodeChar c = [UInt8.ofNat (c.toNat / 262144 + 0xF0),
        UInt8.ofNat (c.toNat / 4096 % 64 + 0x80), UInt8.ofNat (c.toNat / 64 % 64 + 0x80),
        UInt8.ofNat (c.toNat % 64 + 0x80)]) := by
  have hvalid : c.toNat < 0xD800 ∨ 0xDFFF < c.toNat ∧ c.toNat < 0x110000 := c.valid
  have hval : c.val.toNat = c.toNat := rfl
  by_cases h1 : c.toNat ≤ 0x7F
  · exact Or.inl ⟨by omega, Bytes.utf8EncodeChar_of_ascii (by omega)⟩
  simp only [utf8EncodeChar, hval]
  by_cases h2 : c.toNat ≤ 0x7FF
  · refine Or.inr (Or.inl ⟨by omega, by omega, ?_⟩)
    rw [if_neg h1, if_pos h2, Nat.mod_eq_of_lt (by omega)]
  by_cases h3 : c.toNat ≤ 0xFFFF
  · refine Or.inr (Or.inr (Or.inl ⟨by omega, by omega, by omega, ?_⟩))
    rw [if_neg h1, if_neg h2, if_pos h3, Nat.mod_eq_of_lt (by omega)]
  · refine Or.inr (Or.inr (Or.inr ⟨by omega, by omega, ?_⟩))
    rw [if_neg h1, if_neg h2, if_neg h3, Nat.mod_eq_of_lt (by omega)]

/-- A byte that is none of the first ones of an encoding. -/
def IsTail (b : UInt8) : Prop := 0x80 ≤ b.toNat ∧ b.toNat ≤ 0xBF

/-- The bytes behind the first one of an encoding. -/
lemma isTail_of_utf8EncodeChar {c : Char} {b : UInt8} {rest : Bytes}
    (h : utf8EncodeChar c = b :: rest) : ∀ y ∈ rest, IsTail y := by
  have htail : ∀ n : Nat, IsTail (UInt8.ofNat (n % 64 + 0x80)) := by
    intro n
    rw [IsTail, UInt8.toNat_ofNat']
    omega
  rcases utf8EncodeChar_cases c with ⟨_, hc⟩ | ⟨_, _, hc⟩ | ⟨_, _, _, hc⟩ | ⟨_, _, hc⟩
  all_goals
    rw [hc, List.cons.injEq] at h
    rw [← h.2]
    simp only [List.forall_mem_cons, htail, List.not_mem_nil, IsEmpty.forall_iff, implies_true,
      and_self]

/-- **The first byte** of an encoding. -/
lemma first_byte {c : Char} {b : UInt8} {rest : Bytes} (h : utf8EncodeChar c = b :: rest) :
    b.toNat < 0x80 ∨ 0xC2 ≤ b.toNat ∧ b.toNat ≤ 0xF4 := by
  rcases utf8EncodeChar_cases c with ⟨hlow, hc⟩ | ⟨_, _, hc⟩ | ⟨_, _, _, hc⟩ | ⟨_, _, hc⟩
  · rw [hc, List.cons.injEq] at h
    rw [← h.1, toNat_asciiByte hlow]
    exact Or.inl hlow
  all_goals
    rw [hc, List.cons.injEq] at h
    rw [← h.1, UInt8.toNat_ofNat']
    omega

/-- The first byte is no tail byte. -/
lemma exists_lead (c : Char) : ∃ lead more, utf8EncodeChar c = lead :: more ∧ ¬ IsTail lead := by
  obtain ⟨lead, more, hc⟩ := List.exists_cons_of_ne_nil (String.utf8EncodeChar_ne_nil (c := c))
  refine ⟨lead, more, hc, ?_⟩
  have := first_byte hc
  rw [IsTail]
  omega

/-- The byte `x` may stand behind the first byte `b`: the narrower ranges keep out
overlong forms, surrogates and values that are too large. -/
structure Follows (b x : UInt8) : Prop where
  isTail : IsTail x
  overlong : (b.toNat = 0xE0 → 0xA0 ≤ x.toNat) ∧ (b.toNat = 0xF0 → 0x90 ≤ x.toNat)
  surrogate : b.toNat = 0xED → x.toNat ≤ 0x9F
  large : b.toNat = 0xF4 → x.toNat ≤ 0x8F

/-- **The second byte** of an encoding follows the first. -/
lemma second_byte {c : Char} {b x : UInt8} {rest : Bytes}
    (h : utf8EncodeChar c = b :: x :: rest) : Follows b x := by
  have htail := isTail_of_utf8EncodeChar h x List.mem_cons_self
  rcases utf8EncodeChar_cases c with ⟨_, hc⟩ | ⟨_, _, hc⟩ | ⟨_, _, _, hc⟩ | ⟨_, _, hc⟩
  · rw [hc] at h
    cases h
  all_goals
    rw [hc, List.cons.injEq, List.cons.injEq] at h
    refine ⟨htail, ?_, ?_, ?_⟩
    all_goals
      rw [← h.1, ← h.2.1, UInt8.toNat_ofNat', UInt8.toNat_ofNat']
      omega

/-! ### Characters from bytes -/

/-- The value that the bytes behind a payload lead to. -/
def extend (payload : Nat) (bytes : Bytes) : Nat :=
  bytes.foldl (fun v b => v * 64 + (b.toNat - 0x80)) payload

lemma extend_cons (payload : Nat) (b : UInt8) (bytes : Bytes) :
    extend payload (b :: bytes) = extend (payload * 64 + (b.toNat - 0x80)) bytes := by
  rw [extend, List.foldl_cons, extend]

lemma ofNat_eq {n : Nat} {b : UInt8} (h : n = b.toNat) : UInt8.ofNat n = b := by
  rw [h, UInt8.ofNat_toNat]

lemma encode_two {b x : UInt8} (hb : 0xC2 ≤ b.toNat ∧ b.toNat ≤ 0xDF) (hx : Follows b x) :
    utf8EncodeChar (Char.ofNat (extend (b.toNat - 0xC0) [x])) = [b, x] := by
  obtain ⟨hlow, hhigh⟩ := hx.isTail
  have hvalue : (Char.ofNat (extend (b.toNat - 0xC0) [x])).toNat =
      (b.toNat - 0xC0) * 64 + (x.toNat - 0x80) := toNat_ofNat (by simp [extend]; omega)
  rcases utf8EncodeChar_cases (Char.ofNat (extend (b.toNat - 0xC0) [x])) with
    ⟨_, hc⟩ | ⟨_, _, hc⟩ | ⟨_, _, _, hc⟩ | ⟨_, _, hc⟩
  · omega
  · rw [hc, hvalue, ofNat_eq (b := b) (by omega), ofNat_eq (b := x) (by omega)]
  · omega
  · omega

lemma encode_three {b x y : UInt8} (hb : 0xE0 ≤ b.toNat ∧ b.toNat ≤ 0xEF) (hx : Follows b x)
    (hy : IsTail y) :
    utf8EncodeChar (Char.ofNat (extend (b.toNat - 0xE0) [x, y])) = [b, x, y] := by
  obtain ⟨⟨hlow, hhigh⟩, hoverlong, hsurrogate, _⟩ := hx
  obtain ⟨hlow', hhigh'⟩ := hy
  have hvalue : (Char.ofNat (extend (b.toNat - 0xE0) [x, y])).toNat =
      ((b.toNat - 0xE0) * 64 + (x.toNat - 0x80)) * 64 + (y.toNat - 0x80) :=
    toNat_ofNat (by simp [extend]; omega)
  rcases utf8EncodeChar_cases (Char.ofNat (extend (b.toNat - 0xE0) [x, y])) with
    ⟨_, hc⟩ | ⟨_, _, hc⟩ | ⟨_, _, _, hc⟩ | ⟨_, _, hc⟩
  · omega
  · omega
  · rw [hc, hvalue, ofNat_eq (b := b) (by omega), ofNat_eq (b := x) (by omega),
      ofNat_eq (b := y) (by omega)]
  · omega

lemma encode_four {b x y z : UInt8} (hb : 0xF0 ≤ b.toNat ∧ b.toNat ≤ 0xF4) (hx : Follows b x)
    (hy : IsTail y) (hz : IsTail z) :
    utf8EncodeChar (Char.ofNat (extend (b.toNat - 0xF0) [x, y, z])) = [b, x, y, z] := by
  obtain ⟨⟨hlow, hhigh⟩, hoverlong, _, hlarge⟩ := hx
  obtain ⟨hlow', hhigh'⟩ := hy
  obtain ⟨hlow'', hhigh''⟩ := hz
  have hvalue : (Char.ofNat (extend (b.toNat - 0xF0) [x, y, z])).toNat =
      (((b.toNat - 0xF0) * 64 + (x.toNat - 0x80)) * 64 + (y.toNat - 0x80)) * 64 +
        (z.toNat - 0x80) := toNat_ofNat (by simp [extend]; omega)
  rcases utf8EncodeChar_cases (Char.ofNat (extend (b.toNat - 0xF0) [x, y, z])) with
    ⟨_, hc⟩ | ⟨_, _, hc⟩ | ⟨_, _, _, hc⟩ | ⟨_, _, hc⟩
  · omega
  · omega
  · omega
  · rw [hc, hvalue, ofNat_eq (b := b) (by omega), ofNat_eq (b := x) (by omega),
      ofNat_eq (b := y) (by omega), ofNat_eq (b := z) (by omega)]

end Vendoring.Utf8

/-
Strings of documents, spelt out and read back.

* `HexDigit`, `HexSpelling`: the digits of a number in base 16;
* `CharSpelling`, `TextSpelling`: how a character and a text may be spelt between
  quotes. A character has up to four kinds of spellings, and a text may mix them;
* `basicBody_charSpelling`, `basicBody_textSpelling`: every spelling is read as the
  character and as the text it spells, up to the closing quote;
* `value_string`: a string at the end of a line is read as a value;
* `escaped_spelling`, `escaped_textSpelling`: what is written is one of the
  spellings.
-/
import Mathlib.Data.Nat.Digits.Defs
import Mathlib.Tactic
import Vendoring.Toml.Printer
import Vendoring.Toml.Reader

namespace Vendoring.Toml

/-! ### Spellings -/

/-- The character is the digit of `v` in base 16, in lower or upper case. -/
def HexDigit (d : Char) (v : Nat) : Prop :=
  v < 16 ∧ (d = Nat.digitChar v ∨ d = (Nat.digitChar v).toUpper)

/-- The digits spell the number in base 16, the first digit counting most. -/
def HexSpelling (ds : List Char) (n : Nat) : Prop :=
  ∃ vs, List.Forall₂ HexDigit ds vs ∧ n = Nat.ofDigits 16 vs.reverse

/-- The escapes of one letter, with the characters they stand for. -/
def escapeLetters : List (Char × Char) :=
  [('b', '\x08'), ('t', '\t'), ('n', '\n'), ('f', '\x0c'), ('r', '\r'), ('"', '"'),
    ('\\', '\\')]

/-- How a character may be spelt between quotes: as itself unless it is a quote, a
backslash or a control character other than the tab, by a letter if it has one, or
by its code point in four or eight digits. -/
inductive CharSpelling (c : Char) : List Char → Prop
  | plain (hquote : c ≠ '"') (hbackslash : c ≠ '\\') (hlow : 0x20 ≤ c.toNat ∨ c = '\t')
      (hdelete : c.toNat ≠ 0x7F) : CharSpelling c [c]
  | letter {e : Char} (h : (e, c) ∈ escapeLetters) : CharSpelling c ['\\', e]
  | short {ds : List Char} (hlength : ds.length = 4) (h : HexSpelling ds c.toNat) :
      CharSpelling c ('\\' :: 'u' :: ds)
  | long {ds : List Char} (hlength : ds.length = 8) (h : HexSpelling ds c.toNat) :
      CharSpelling c ('\\' :: 'U' :: ds)

/-- How a text may be spelt between quotes, one character after the other. -/
inductive TextSpelling : List Char → List Char → Prop
  | nil : TextSpelling [] []
  | cons {c : Char} {cs x xs : List Char} (hc : CharSpelling c x) (hcs : TextSpelling cs xs) :
      TextSpelling (c :: cs) (x ++ xs)

/-! ### Reading them back -/

@[simp] lemma scalar?_toNat (c : Char) : scalar? c.toNat = some c := by
  have hvalid : c.toNat.isValidChar := c.valid
  rw [scalar?, if_pos hvalid, Char.ofNat_toNat]

lemma HexDigit.hexDigit?_eq {d : Char} {v : Nat} (h : HexDigit d v) : hexDigit? d = some v := by
  have hlower : ∀ v < 16, hexDigit? (Nat.digitChar v) = some v := by decide
  have hupper : ∀ v < 16, hexDigit? (Nat.digitChar v).toUpper = some v := by decide
  obtain ⟨hv, rfl | rfl⟩ := h
  · exact hlower v hv
  · exact hupper v hv

lemma foldl_eq_ofDigits (vs : List Nat) :
    vs.foldl (fun n d => n * 16 + d) 0 = Nat.ofDigits 16 vs.reverse := by
  rw [Nat.ofDigits_eq_foldr, List.foldr_reverse]
  simp only [Nat.add_comm, Nat.mul_comm, Nat.cast_id]

/-- Digits of a code point are added to those before them; with the last one the
character is complete. -/
lemma basicBody_code {ds : List Char} {vs : List Nat} (h : List.Forall₂ HexDigit ds vs)
    (hne : ds ≠ []) {value : Nat} {c : Char}
    (hc : vs.foldl (fun n d => n * 16 + d) value = c.toNat) (rest : List Char) :
    basicBody (.code ds.length value) (ds ++ rest) = consRead c (basicBody .plain rest) := by
  induction h generalizing value with
  | nil => exact absurd rfl hne
  | @cons d v ds vs hd hds ih =>
      rw [List.cons_append, basicBody, hd.hexDigit?_eq]
      rw [List.foldl_cons] at hc
      cases hds with
      | nil =>
          rw [List.foldl_nil] at hc
          simp [hc]
      | @cons d' _ ds' _ hd' hds' =>
          have hmore : ¬ (d :: d' :: ds').length ≤ 1 := by simp
          simp only [hmore, if_false]
          exact ih (List.cons_ne_nil d' ds') hc

/-- Every spelling of a character is read as this character. -/
lemma basicBody_charSpelling {c : Char} {x : List Char} (h : CharSpelling c x)
    (rest : List Char) : basicBody .plain (x ++ rest) = consRead c (basicBody .plain rest) := by
  have hcode : ∀ {ds : List Char}, ds ≠ [] → HexSpelling ds c.toNat →
      basicBody (.code ds.length 0) (ds ++ rest) = consRead c (basicBody .plain rest) := by
    rintro ds hne ⟨vs, hvs, hvalue⟩
    exact basicBody_code hvs hne (by rw [foldl_eq_ofDigits, hvalue]) rest
  cases h with
  | plain hquote hbackslash hlow hdelete =>
      have hbasic : isBasicChar c = true := by
        have htext : isText c = true := by
          rcases hlow with hlow | rfl
          · simp only [isText, Bool.or_eq_true, Bool.and_eq_true, decide_eq_true_eq]
            omega
          · rfl
        simp [isBasicChar, htext, hquote, hbackslash]
      rw [List.singleton_append, basicBody, if_neg hquote, if_neg hbackslash, if_pos hbasic]
  | letter hletter =>
      have hshort : ∀ p ∈ escapeLetters, shortEscape? p.1 = some p.2 := by decide
      rw [List.cons_append, List.cons_append, List.nil_append, basicBody, if_neg (by decide),
        if_pos rfl, basicBody, hshort _ hletter]
  | short hlength hspelling =>
      have hread := hcode (List.ne_nil_of_length_pos (by omega)) hspelling
      rw [hlength] at hread
      exact hread
  | long hlength hspelling =>
      have hread := hcode (List.ne_nil_of_length_pos (by omega)) hspelling
      rw [hlength] at hread
      exact hread

/-- Every spelling of a text is read as this text, up to the closing quote. -/
lemma basicBody_textSpelling {cs x : List Char} (h : TextSpelling cs x) (rest : List Char) :
    basicBody .plain (x ++ '"' :: rest) = some (cs, rest) := by
  induction h with
  | nil => rfl
  | cons hc _ ih =>
      rw [List.append_assoc, basicBody_charSpelling hc, ih]
      rfl

/-- No spelling begins with the quote that closes the text. -/
lemma CharSpelling.append_ne_quote {c : Char} {x u v : List Char} (h : CharSpelling c x) :
    x ++ u ≠ '"' :: v := by
  intro heq
  cases h with
  | plain hquote => exact hquote (List.cons.inj heq).1
  | letter => exact absurd (List.cons.inj heq).1 (by decide)
  | short => exact absurd (List.cons.inj heq).1 (by decide)
  | long => exact absurd (List.cons.inj heq).1 (by decide)

/-- A string on one line is not taken for one between triple quotes: an empty one has
the line end behind its two quotes, and any other has no quote behind its first. -/
lemma string_textSpelling {s : String} {x : List Char} (h : TextSpelling s.toList x)
    (rest : List Char) : string ('"' :: x ++ '"' :: '\n' :: rest) = some (s, '\n' :: rest) := by
  have hread : (basicBody .plain (x ++ '"' :: '\n' :: rest)).map
      (fun y => (String.ofList y.1, y.2)) = some (s, '\n' :: rest) := by
    rw [basicBody_textSpelling h, Option.map_some, String.ofList_toList]
  rw [List.cons_append, string]
  · exact hread
  · intro rest' hquotes
    generalize s.toList = cs at h
    cases h with
    | nil => exact absurd (List.cons.inj (List.cons.inj hquotes).2).1 (by decide)
    | cons hc =>
        rw [List.append_assoc] at hquotes
        exact hc.append_ne_quote hquotes

/-- A string at the end of a line is read as a value. -/
lemma value_string {s : String} {x : List Char} (h : TextSpelling s.toList x)
    (rest : List Char) :
    value ('"' :: x ++ '"' :: '\n' :: rest) = some (.string s, '\n' :: rest) := by
  rw [value, List.cons_append, valueWithin, ← List.cons_append, string_textSpelling h]
  rfl

/-! ### The spellings that are written -/

/-- The two digits of a byte spell it. -/
lemma hexByte_spelling (b : UInt8) : HexSpelling ('0' :: '0' :: Text.hexByte b) b.toNat := by
  have hupper : ∀ k < 16, (if k < 10 then Char.ofNat (48 + k) else Char.ofNat (55 + k)) =
      (Nat.digitChar k).toUpper := by decide
  have hzero : HexDigit '0' 0 := ⟨by decide, .inl rfl⟩
  have hbyte := b.toNat_lt
  refine ⟨[0, 0, b.toNat / 16, b.toNat % 16], ?_, ?_⟩
  · refine .cons hzero (.cons hzero (.cons ?_ (.cons ?_ .nil)))
    · exact ⟨by omega, .inr (hupper _ (by omega))⟩
    · exact ⟨by omega, .inr (hupper _ (by omega))⟩
  · simp only [List.reverse_cons, List.reverse_nil, List.nil_append, List.cons_append,
      Nat.ofDigits_cons, Nat.ofDigits_nil]
    omega

/-- A quote and a backslash are written by their letters, a control character by its
code point, and any other character as itself. -/
lemma escaped_spelling (c : Char) : CharSpelling c (escaped c) := by
  rw [escaped]
  split_ifs with hmark hcontrol
  · refine .letter ?_
    rcases (by simpa using hmark : c = '"' ∨ c = '\\') with rfl | rfl <;> decide
  · have hlow : c.toNat < 0x20 ∨ c.toNat = 0x7F := by simpa using hcontrol
    have hbyte : c.toNat.toUInt8.toNat = c.toNat := by
      rw [Nat.toUInt8, UInt8.toNat_ofNat']
      omega
    have hspelling := hexByte_spelling c.toNat.toUInt8
    rw [hbyte] at hspelling
    exact .short rfl hspelling
  · have hplain : c ≠ '"' ∧ c ≠ '\\' := by simpa using hmark
    have hhigh : 0x20 ≤ c.toNat ∧ c.toNat ≠ 0x7F := by simpa using hcontrol
    exact .plain hplain.1 hplain.2 (.inl hhigh.1) hhigh.2

lemma escaped_textSpelling (cs : List Char) : TextSpelling cs (cs.flatMap escaped) := by
  induction cs with
  | nil => exact .nil
  | cons c cs ih =>
      rw [List.flatMap_cons]
      exact .cons (escaped_spelling c) ih

end Vendoring.Toml

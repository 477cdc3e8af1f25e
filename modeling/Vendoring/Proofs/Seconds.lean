/-
Numbers of seconds on the command line.

* `SpellsDecimal`: a text that spells a number in decimal, with a plus sign in
  front or without one;
* `spellsDecimal_iff`: what a text spells is what its bytes spell behind the plus
  sign;
* `numeral?_ofString_iff`: a numeral is read exactly when its text spells a number
  in range, and as that number;
* `pushDigit`, `wordNumeral?`, `numeral?_eq_wordNumeral?`: a word of 64 bits that
  takes the digits one after another, and stops where the next one does not fit,
  reads the same;
* `parse_timeout` (**no other number is read**): the argument is accepted exactly
  for these texts, and with exactly this number.
-/
import Mathlib.Data.Nat.Digits.Defs
import Mathlib.Tactic
import Vendoring.Proofs.CommandLine

namespace Vendoring

open Arguments

/-! ### Texts that spell numbers -/

/-- The number that a digit stands for. -/
def digitNumber (c : Char) : Nat := c.toNat - '0'.toNat

/-- The text is one or more ASCII digits, with at most a plus sign in front of
them, and `n` is their value. -/
def SpellsDecimal (text : String) (n : Nat) : Prop :=
  ∃ ds : List Char, ds ≠ [] ∧ (∀ c ∈ ds, c.isDigit) ∧
    (text.toList = ds ∨ text.toList = '+' :: ds) ∧
    n = Nat.ofDigits 10 (ds.reverse.map digitNumber)

/-- A text all of whose bytes are ASCII is made of ASCII characters. -/
lemma ascii_of_bytes {cs : List Char}
    (h : ∀ b ∈ Bytes.ofString (String.ofList cs), b.toNat < 128) : ∀ c ∈ cs, c.toNat < 128 := by
  intro c hc
  by_contra hlarge
  obtain ⟨b, rest, hb⟩ := List.exists_cons_of_ne_nil (String.utf8EncodeChar_ne_nil (c := c))
  have hmem : b ∈ String.utf8EncodeChar c := hb ▸ List.mem_cons_self
  have hlow := h b (by
    rw [Bytes.ofString_ofList]
    exact List.mem_flatMap.mpr ⟨c, hc, hmem⟩)
  have := Bytes.le_of_mem_utf8EncodeChar (by omega) hmem
  omega

/-- The bytes of a text of ASCII characters. -/
lemma ofString_eq_map {text : String} {cs : List Char} (htext : text.toList = cs)
    (hascii : ∀ c ∈ cs, c.toNat < 128) : Bytes.ofString text = cs.map asciiByte := by
  rw [← String.ofList_toList (s := text), htext]
  exact Bytes.ofString_of_ascii hascii

/-- A plus sign in front of digits does not count. -/
lemma unsigned_of_digits {text : String} {ds : List Char} (hne : ds ≠ [])
    (hdigits : ∀ c ∈ ds, c.isDigit) (htext : text.toList = ds ∨ text.toList = '+' :: ds) :
    unsigned (Bytes.ofString text) = ds.map asciiByte := by
  have hascii : ∀ c ∈ ds, c.toNat < 128 := fun c hc => lt_of_isDigit (hdigits c hc)
  rcases htext with htext | htext
  · obtain ⟨c, rest, rfl⟩ := List.exists_cons_of_ne_nil hne
    have hc : c.isDigit := hdigits c List.mem_cons_self
    have hplus : asciiByte c ≠ 0x2B := by
      intro heq
      obtain rfl : c = '+' := asciiByte_inj (lt_of_isDigit hc) (by decide) heq
      exact absurd hc (by decide)
    rw [ofString_eq_map htext hascii, List.map_cons, unsigned, if_neg hplus]
  · rw [ofString_eq_map htext (List.forall_mem_cons.mpr ⟨by decide, hascii⟩), List.map_cons,
      unsigned]
    exact if_pos rfl

/-- What is left of a text without its plus sign, if it is digits, is digits of the
text. -/
lemma exists_digits {text : String}
    (hall : ∀ b ∈ unsigned (Bytes.ofString text), isDigitByte b = true) :
    ∃ ds : List Char, (∀ c ∈ ds, c.isDigit) ∧
      (text.toList = ds ∨ text.toList = '+' :: ds) := by
  have hbytes : ∀ b ∈ Bytes.ofString (String.ofList text.toList), b.toNat < 128 := by
    rw [String.ofList_toList]
    have hdigit : ∀ b, isDigitByte b = true → b.toNat < 128 := by
      intro b hb
      have hrange := isDigitByte_iff.mp hb
      omega
    cases hb : Bytes.ofString text with
    | nil => simp
    | cons b rest =>
        rw [hb, unsigned] at hall
        split_ifs at hall with hplus
        · rw [hplus]
          exact List.forall_mem_cons.mpr ⟨by decide, fun x hx => hdigit x (hall x hx)⟩
        · exact fun x hx => hdigit x (hall x hx)
  have hascii := ascii_of_bytes hbytes
  have hdigits : ∀ ds : List Char, (∀ c ∈ ds, c.toNat < 128) →
      (∀ b ∈ ds.map asciiByte, isDigitByte b = true) → ∀ c ∈ ds, c.isDigit := by
    intro ds hds hbyte c hc
    exact (isDigitByte_asciiByte_iff (hds c hc)).mp (hbyte _ (List.mem_map_of_mem hc))
  rw [ofString_eq_map rfl hascii] at hall
  cases htext : text.toList with
  | nil => exact ⟨[], by simp, Or.inl rfl⟩
  | cons c rest =>
      rw [htext] at hall hascii
      rw [List.map_cons, unsigned] at hall
      split_ifs at hall with hplus
      · obtain rfl : c = '+' :=
          asciiByte_inj (hascii c List.mem_cons_self) (by decide) hplus
        exact ⟨rest, hdigits rest (fun x hx => hascii x (List.mem_cons_of_mem _ hx)) hall,
          Or.inr rfl⟩
      · exact ⟨c :: rest, hdigits _ hascii hall, Or.inl rfl⟩

/-- Digits read from the left have the value that their places give them. -/
lemma ofDigitBytes_map {ds : List Char} (h : ∀ c ∈ ds, c.isDigit) :
    ofDigitBytes (ds.map asciiByte) = Nat.ofDigits 10 (ds.reverse.map digitNumber) := by
  have hfold : ofDigitBytes (ds.map asciiByte) = Nat.ofDigitChars 10 ds 0 := foldl_digitBytes h 0
  rw [hfold]
  clear hfold h
  induction ds using List.reverseRecOn with
  | nil => rfl
  | append_singleton ds c ih =>
      rw [Nat.ofDigitChars_append, ih, Nat.ofDigitChars_cons, Nat.ofDigitChars_nil,
        List.reverse_append, List.reverse_singleton, List.singleton_append, List.map_cons,
        Nat.ofDigits_cons, Nat.add_comm]
      rfl

/-- **What a numeral spells** is what its bytes spell behind the plus sign. -/
lemma spellsDecimal_iff {text : String} {n : Nat} :
    SpellsDecimal text n ↔ unsigned (Bytes.ofString text) ≠ [] ∧
      (∀ b ∈ unsigned (Bytes.ofString text), isDigitByte b = true) ∧
      n = ofDigitBytes (unsigned (Bytes.ofString text)) := by
  constructor
  · rintro ⟨ds, hne, hdigits, htext, rfl⟩
    rw [unsigned_of_digits hne hdigits htext, ofDigitBytes_map hdigits]
    refine ⟨by simpa using hne, List.forall_mem_map.mpr fun c hc => ?_, rfl⟩
    exact (isDigitByte_asciiByte_iff (lt_of_isDigit (hdigits c hc))).mpr (hdigits c hc)
  · rintro ⟨hne, hall, rfl⟩
    obtain ⟨ds, hdigits, htext⟩ := exists_digits hall
    have hds : ds ≠ [] := by
      rintro rfl
      rcases htext with htext | htext
      · rw [ofString_eq_map htext (by simp)] at hne
        exact hne rfl
      · rw [ofString_eq_map htext (by simp)] at hne
        exact hne rfl
    refine ⟨ds, hds, hdigits, htext, ?_⟩
    rw [unsigned_of_digits hds hdigits htext, ofDigitBytes_map hdigits]

/-- A text spells one number at most. -/
lemma SpellsDecimal.unique {text : String} {n m : Nat} (hn : SpellsDecimal text n)
    (hm : SpellsDecimal text m) : n = m :=
  (spellsDecimal_iff.mp hn).2.2.trans (spellsDecimal_iff.mp hm).2.2.symm

/-- **A numeral is read** exactly when its text spells a number in range, and as
that number. -/
lemma numeral?_ofString_iff {text : String} {n : Nat} :
    numeral? (Bytes.ofString text) = some n ↔
      SpellsDecimal text n ∧ 1 ≤ n ∧ n ≤ maxSeconds := by
  rw [spellsDecimal_iff, numeral?]
  simp only [Option.ite_none_right_eq_some, Bool.and_eq_true, Bool.not_eq_true',
    List.isEmpty_eq_false_iff, List.all_eq_true, decide_eq_true_eq, Option.some.injEq]
  constructor
  · rintro ⟨⟨⟨⟨hne, hall⟩, hlow⟩, hhigh⟩, rfl⟩
    exact ⟨⟨hne, hall, rfl⟩, hlow, hhigh⟩
  · rintro ⟨⟨hne, hall, rfl⟩, hlow, hhigh⟩
    exact ⟨⟨⟨⟨hne, hall⟩, hlow⟩, hhigh⟩, rfl⟩

/-! ### Words of 64 bits -/

/-- A word with one digit more, unless the product or the sum goes over. -/
def pushDigit (n : UInt64) (b : UInt8) : Option UInt64 :=
  let d := b.toUInt64 - 0x30
  if !isDigitByte b || n.toBitVec.umulOverflow 10 || (n * 10).toBitVec.uaddOverflow d.toBitVec
  then none
  else some (n * 10 + d)

/-- The number of seconds that a word comes to which takes the digits one after
another. -/
def wordNumeral? (b : Bytes) : Option UInt64 :=
  if unsigned b = [] then none
  else ((unsigned b).foldlM pushDigit 0).filter fun n => 1 ≤ n

/-- One digit more is taken exactly when it fits, and then nothing is lost. -/
lemma pushDigit_eq_some_iff {n m : UInt64} {b : UInt8} :
    pushDigit n b = some m ↔
      isDigitByte b = true ∧ m.toNat = n.toNat * 10 + (b.toNat - 0x30) := by
  rw [pushDigit]
  by_cases hb : isDigitByte b = true
  · have hrange := isDigitByte_iff.mp hb
    have hdigit : (b.toUInt64 - 0x30).toNat = b.toNat - 0x30 := by
      rw [UInt64.toNat_sub_of_le _ _ ?_, UInt8.toNat_toUInt64]
      · rfl
      · rw [UInt64.le_iff_toNat_le, UInt8.toNat_toUInt64]
        exact hrange.1
    have hmul : n.toBitVec.umulOverflow 10 = decide (2 ^ 64 ≤ n.toNat * 10) := rfl
    have hadd : (n * 10).toBitVec.uaddOverflow (b.toUInt64 - 0x30).toBitVec =
        decide (2 ^ 64 ≤ (n * 10).toNat + (b.toUInt64 - 0x30).toNat) := rfl
    have hproduct : (n * 10).toNat = n.toNat * 10 % 2 ^ 64 := UInt64.toNat_mul n 10
    have hm := m.toNat_lt
    simp only [hb, hmul, hadd, hdigit, hproduct, Bool.not_true, Bool.false_or, Bool.or_eq_true,
      decide_eq_true_eq, Option.ite_none_left_eq_some, Option.some.injEq, true_and]
    rw [← UInt64.toNat_inj, UInt64.toNat_add, hdigit, hproduct]
    constructor
    · rintro ⟨hover, hm'⟩
      omega
    · intro hm'
      omega
  · simp [hb]

/-- A number only grows by further digits. -/
lemma le_foldl_digits (ds : Bytes) (n : Nat) :
    n ≤ ds.foldl (fun n d => n * 10 + (d.toNat - 0x30)) n := by
  induction ds generalizing n with
  | nil => rfl
  | cons d ds ih =>
      have := ih (n * 10 + (d.toNat - 0x30))
      rw [List.foldl_cons]
      omega

/-- **Digit by digit**: all digits are taken exactly when the number they spell
fits, and the word then holds that number.  If it ever went over, the number
itself would be too large, since later digits only make it larger. -/
lemma foldlM_pushDigit_iff {ds : Bytes} {n m : UInt64} :
    ds.foldlM pushDigit n = some m ↔ (∀ b ∈ ds, isDigitByte b = true) ∧
      m.toNat = ds.foldl (fun n d => n * 10 + (d.toNat - 0x30)) n.toNat := by
  induction ds generalizing n with
  | nil =>
      rw [List.foldlM_nil, List.foldl_nil, UInt64.toNat_inj]
      simp [pure, eq_comm (a := n)]
  | cons d ds ih =>
      rw [List.foldlM_cons, List.forall_mem_cons, List.foldl_cons, Option.bind_eq_bind,
        Option.bind_eq_some_iff]
      constructor
      · rintro ⟨k, hk, hrest⟩
        obtain ⟨hd, hvalue⟩ := pushDigit_eq_some_iff.mp hk
        rw [← hvalue]
        exact ⟨⟨hd, (ih.mp hrest).1⟩, (ih.mp hrest).2⟩
      · rintro ⟨⟨hd, hds⟩, hm⟩
        have hfits : n.toNat * 10 + (d.toNat - 0x30) < 2 ^ 64 :=
          (hm ▸ le_foldl_digits ds _).trans_lt m.toNat_lt
        have hk : (UInt64.ofNat (n.toNat * 10 + (d.toNat - 0x30))).toNat =
            n.toNat * 10 + (d.toNat - 0x30) := by
          rw [UInt64.toNat_ofNat', Nat.mod_eq_of_lt hfits]
        refine ⟨_, pushDigit_eq_some_iff.mpr ⟨hd, hk⟩, ih.mpr ⟨hds, ?_⟩⟩
        rw [hk]
        exact hm

/-- **64 bits are enough**: the word reads what the unbounded number is. -/
lemma numeral?_eq_wordNumeral? (b : Bytes) : numeral? b = (wordNumeral? b).map UInt64.toNat := by
  refine Option.ext fun n => ?_
  rw [numeral?, wordNumeral?]
  simp only [Option.ite_none_right_eq_some, Bool.and_eq_true, Bool.not_eq_true',
    List.isEmpty_eq_false_iff, List.all_eq_true, decide_eq_true_eq, Option.some.injEq,
    Option.map_eq_some_iff, Option.ite_none_left_eq_some, Option.filter_eq_some_iff,
    foldlM_pushDigit_iff, UInt64.le_iff_toNat_le]
  constructor
  · rintro ⟨⟨⟨⟨hne, hall⟩, hlow⟩, hhigh⟩, rfl⟩
    have hfits : ofDigitBytes (unsigned b) < 2 ^ 64 := Nat.lt_succ_of_le hhigh
    have hword : (UInt64.ofNat (ofDigitBytes (unsigned b))).toNat = ofDigitBytes (unsigned b) := by
      rw [UInt64.toNat_ofNat', Nat.mod_eq_of_lt hfits]
    refine ⟨_, ⟨hne, ⟨hall, hword⟩, ?_⟩, hword⟩
    rw [hword]
    exact hlow
  · rintro ⟨m, ⟨hne, ⟨hall, hvalue⟩, hlow⟩, rfl⟩
    have hm := m.toNat_lt
    have hvalue' : ofDigitBytes (unsigned b) = m.toNat := hvalue.symm
    rw [hvalue']
    exact ⟨⟨⟨⟨hne, hall⟩, hlow⟩, Nat.le_of_lt_succ hm⟩, rfl⟩

/-! ### The argument -/

/-- What becomes of the argument is decided by its numeral. -/
lemma parse_timeout_eq (text : String) :
    Arguments.parse [Bytes.ofString ("--timeout-secs=" ++ text)] =
      match numeral? (Bytes.ofString text) with
      | some n => .ok ⟨none, { timeout := some n }⟩
      | none => .error .valueValidation := by
  have hfront : Bytes.ofString "--timeout-secs=" = dashed Valued.timeout.word ++ [equals] := by
    decide
  have harg : Bytes.ofString ("--timeout-secs=" ++ text) =
      dashed Valued.timeout.word ++ equals :: Bytes.ofString text := by
    rw [Bytes.ofString_append, hfront, List.append_assoc]
    rfl
  have hshape := shape_of_joined Valued.timeout.equals_not_mem_word (Bytes.ofString text)
  rw [harg, Arguments.parse, scanBefore.eq_def]
  simp only [hshape, Progress.long, Valued.ofWord?_word]
  cases hn : numeral? (Bytes.ofString text) with
  | none => simp [Given.accept, Given.has, Progress.settle, Pending.settle, hn, bind, Except.bind]
  | some n =>
      simp [Given.accept, Given.has, Progress.settle, Pending.settle, hn, bind, Except.bind, pure,
        Except.pure, scanBefore]

/-- **No other number is read**: the argument is accepted exactly when its text is
an optional plus sign and ASCII digits that spell a number from 1 to `2 ^ 64 - 1`,
and the number of seconds is that number.  Every other text is refused, zero and
numbers from `2 ^ 64` on among them.  A word of 64 bits is enough to tell. -/
theorem parse_timeout (text : String) :
    let parsed := Arguments.parse [Bytes.ofString ("--timeout-secs=" ++ text)]
    (∀ n, parsed = .ok ⟨none, { timeout := some n }⟩ ↔
      SpellsDecimal text n ∧ 1 ≤ n ∧ n ≤ 2 ^ 64 - 1) ∧
    (∀ a, parsed = .ok a → ∃ n, a = ⟨none, { timeout := some n }⟩) ∧
    ((¬ ∃ n, SpellsDecimal text n ∧ 1 ≤ n ∧ n ≤ 2 ^ 64 - 1) →
      parsed = .error .valueValidation) ∧
    (∀ n, SpellsDecimal text n → n = 0 ∨ 2 ^ 64 ≤ n → parsed = .error .valueValidation) ∧
    parsed = match wordNumeral? (Bytes.ofString text) with
      | some n => .ok ⟨none, { timeout := some n.toNat }⟩
      | none => .error .valueValidation := by
  have hrange : ∀ n, numeral? (Bytes.ofString text) = some n ↔
      SpellsDecimal text n ∧ 1 ≤ n ∧ n ≤ 2 ^ 64 - 1 := fun n => numeral?_ofString_iff
  have hword := numeral?_eq_wordNumeral? (Bytes.ofString text)
  intro parsed
  have hparsed : parsed = _ := parse_timeout_eq text
  cases hn : numeral? (Bytes.ofString text) with
  | none =>
      rw [hn] at hparsed hword
      simp only [hn, reduceCtorEq, false_iff] at hrange
      rw [hparsed, Option.map_eq_none_iff.mp hword.symm]
      exact ⟨fun n => ⟨nofun, fun h => absurd h (hrange n)⟩, nofun, fun _ => rfl,
        fun _ _ _ => rfl, rfl⟩
  | some k =>
      rw [hn] at hparsed hword
      obtain ⟨m, hm, rfl⟩ := Option.map_eq_some_iff.mp hword.symm
      obtain ⟨hspells, hlow, hhigh⟩ := (hrange m.toNat).mp hn
      rw [hparsed, hm]
      refine ⟨fun n => ?_, ?_, fun hnone => absurd ⟨_, hspells, hlow, hhigh⟩ hnone,
        fun n hn' hout => ?_, rfl⟩
      · rw [← hrange n, hn]
        simp
      · rintro a ⟨⟩
        exact ⟨_, rfl⟩
      · obtain rfl := hspells.unique hn'
        omega

/-- The largest number with zeros in front is read; the next one, a sign alone, a
minus sign, nothing at all and digits of another script are not. -/
theorem parse_timeout_sample :
    Arguments.parse [Bytes.ofString "--timeout-secs=+00018446744073709551615"] =
      .ok ⟨none, { timeout := some 18446744073709551615 }⟩ ∧
    ∀ text ∈ ["18446744073709551616", "184467440737095516150", "000", "+", "-1", "", "٣"],
      Arguments.parse [Bytes.ofString ("--timeout-secs=" ++ text)] =
        .error .valueValidation := by
  constructor
  · have hdigits : ∀ c ∈ "00018446744073709551615".toList, c.isDigit :=
      List.all_eq_true.mp (by decide +kernel)
    refine ((parse_timeout "+00018446744073709551615").1 18446744073709551615).mpr
      ⟨⟨"00018446744073709551615".toList, ?_, hdigits, Or.inr ?_, ?_⟩, ?_⟩
    all_goals decide +kernel
  · have hnone : ∀ text ∈ ["18446744073709551616", "184467440737095516150", "000", "+", "-1", "",
        "٣"], wordNumeral? (Bytes.ofString text) = none := by decide +kernel
    intro text htext
    obtain ⟨_, _, _, _, hparsed⟩ := parse_timeout text
    rw [hparsed, hnone text htext]

end Vendoring

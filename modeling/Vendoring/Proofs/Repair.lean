/-
Decoding with replacement repairs a byte string.

* `Begins`, `MaximalSubpart`: beginnings of encodings, and the bytes that stand
  for no character and are replaced as one;
* `Repaired`: one byte string is the other with each maximal ill-formed subpart
  replaced and every character kept; there is one way to do this
  (`Repaired.unique`);
* `Pending.Valid`: what the unfinished sequence of the decoder stands for;
  `start_course` and `feed_course` say what one byte can come to, and
  `repaired_chunksFrom` what all bytes together come to;
* `repaired_iff` (**the decoder repairs**): decoding with replacement is the
  repair;
* `Repaired.append_text`: a text is kept wherever it stands, and
  `repaired_self_iff`: nothing but texts is kept as a whole;
* `Mended`, `mended_lossy`: what follows from this for the outcome of a repair.
-/
import Mathlib.Tactic
import Vendoring.Proofs.Encoding

namespace Vendoring.Utf8

open String (utf8EncodeChar)

/-! ### Reading one byte -/

/-- The bytes are the beginning of the encoding of some character. -/
def Begins (part : Bytes) : Prop := ∃ c, part <+: utf8EncodeChar c

/-- A sequence that is being read stands for the characters whose encodings go on
like this: with a byte of its range, then with any tail bytes. -/
structure Pending.Valid (p : Pending) : Prop where
  ne_nil : p.seen ≠ []
  missing_pos : 0 < p.missing
  low_le : p.low ≤ p.high
  /-- With the missing bytes, the sequence is the encoding of a character. -/
  complete : ∀ x tail, p.low ≤ x ∧ x ≤ p.high → (∀ y ∈ tail, IsTail y) →
    tail.length + 1 = p.missing →
      utf8EncodeChar (Char.ofNat (extend p.payload (x :: tail))) = p.seen ++ x :: tail
  /-- With any other byte, it begins no encoding. -/
  stuck : ∀ x, ¬ (p.low ≤ x ∧ x ≤ p.high) → ¬ Begins (p.seen ++ [x])

/-- The least and the greatest byte that may stand behind a first one. -/
def lowAfter (b : UInt8) : UInt8 := if b = 0xE0 then 0xA0 else if b = 0xF0 then 0x90 else 0x80
@[inherit_doc lowAfter]
def highAfter (b : UInt8) : UInt8 := if b = 0xED then 0x9F else if b = 0xF4 then 0x8F else 0xBF

/-- The range behind a first byte is that of the second bytes of encodings. -/
lemma range_iff (b x : UInt8) : lowAfter b ≤ x ∧ x ≤ highAfter b ↔ Follows b x := by
  rw [UInt8.le_iff_toNat_le, UInt8.le_iff_toNat_le, lowAfter, highAfter]
  simp only [← UInt8.toNat_inj, apply_ite UInt8.toNat, UInt8.toNat_ofNat]
  constructor
  · intro hx
    refine ⟨⟨?_, ?_⟩, ⟨?_, ?_⟩, ?_, ?_⟩
    all_goals
      split_ifs at hx <;> omega
  · rintro ⟨⟨htail, htail'⟩, ⟨hoverlong, hoverlong'⟩, hsurrogate, hlarge⟩
    split_ifs <;> omega

/-- The first byte of a sequence that is `missing` bytes longer. -/
def opening (b : UInt8) (base missing : Nat) : Pending :=
  ⟨[b], b.toNat - base, missing, lowAfter b, highAfter b⟩

/-- A first byte opens a sequence if every byte that may follow it, and tail bytes
behind that, make a character. -/
lemma valid_opening {b : UInt8} {base missing : Nat} (hmissing : 0 < missing)
    (hcomplete : ∀ x tail, Follows b x → (∀ y ∈ tail, IsTail y) → tail.length + 1 = missing →
      utf8EncodeChar (Char.ofNat (extend (b.toNat - base) (x :: tail))) = b :: x :: tail) :
    (opening b base missing).Valid where
  ne_nil := List.cons_ne_nil b []
  missing_pos := hmissing
  low_le := by
    change lowAfter b ≤ highAfter b
    rw [UInt8.le_iff_toNat_le, lowAfter, highAfter]
    simp only [← UInt8.toNat_inj, apply_ite UInt8.toNat, UInt8.toNat_ofNat]
    split_ifs <;> omega
  complete x tail hx := hcomplete x tail ((range_iff b x).mp hx)
  stuck x hx := by
    rintro ⟨c, rest, hc⟩
    exact hx ((range_iff b x).mpr (second_byte hc.symm))

lemma valid_opening_two {b : UInt8} (hb : 0xC2 ≤ b.toNat ∧ b.toNat ≤ 0xDF) :
    (opening b 0xC0 1).Valid := by
  refine valid_opening (by decide) fun x tail hx _ hlength => ?_
  obtain rfl : tail = [] := List.length_eq_zero_iff.mp (by omega)
  exact encode_two hb hx

lemma valid_opening_three {b : UInt8} (hb : 0xE0 ≤ b.toNat ∧ b.toNat ≤ 0xEF) :
    (opening b 0xE0 2).Valid := by
  refine valid_opening (by decide) fun x tail hx htail hlength => ?_
  obtain ⟨y, rfl⟩ := List.length_eq_one_iff.mp (by omega : tail.length = 1)
  exact encode_three hb hx (htail y List.mem_cons_self)

lemma valid_opening_four {b : UInt8} (hb : 0xF0 ≤ b.toNat ∧ b.toNat ≤ 0xF4) :
    (opening b 0xF0 3).Valid := by
  refine valid_opening (by decide) fun x tail hx htail hlength => ?_
  obtain ⟨y, z, rfl⟩ := List.length_eq_two.mp (by omega : tail.length = 2)
  rw [List.forall_mem_cons, List.forall_mem_singleton] at htail
  exact encode_four hb hx htail.1 htail.2

/-- The first byte of a sequence by the length that it announces. -/
def startByLength (b : UInt8) : List Chunk × Option Pending :=
  if b.toNat < 0x80 then ([.scalar (Char.ofNat b.toNat)], none)
  else if b.toNat < 0xC2 then ([.broken [b]], none)
  else if b.toNat < 0xE0 then ([], some (opening b 0xC0 1))
  else if b.toNat < 0xF0 then ([], some (opening b 0xE0 2))
  else if b.toNat < 0xF5 then ([], some (opening b 0xF0 3))
  else ([.broken [b]], none)

/-- The special cases among first bytes differ in the range behind them only. -/
lemma start_eq (b : UInt8) : start b = startByLength b := by
  have hall : ∀ n : Fin 256, start (.ofFin n) = startByLength (.ofFin n) := by decide +kernel
  exact hall b.toFin

/-- What the first byte of a sequence can come to. -/
inductive StartCourse (b : UInt8) : List Chunk × Option Pending → Prop
  /-- It is a character. -/
  | whole (c : Char) (h : utf8EncodeChar c = [b]) : StartCourse b ([.scalar c], none)
  /-- No character begins with it. -/
  | stray (h : ¬ Begins [b]) : StartCourse b ([.broken [b]], none)
  /-- It opens a sequence. -/
  | opened (p : Pending) (hseen : p.seen = [b]) (hp : p.Valid) : StartCourse b ([], some p)

lemma start_course (b : UInt8) : StartCourse b (start b) := by
  have hstray : ¬ (b.toNat < 0x80 ∨ 0xC2 ≤ b.toNat ∧ b.toNat ≤ 0xF4) → ¬ Begins [b] := by
    rintro hb ⟨c, rest, hc⟩
    exact hb (first_byte hc.symm)
  rw [start_eq, startByLength]
  split_ifs with h1 h2 h3 h4 h5
  · have hvalue : (Char.ofNat b.toNat).toNat = b.toNat := toNat_ofNat (by omega)
    refine .whole _ ?_
    rw [Bytes.utf8EncodeChar_of_ascii (by omega), asciiByte, hvalue, UInt8.ofNat_toNat]
  · exact .stray (hstray (by omega))
  · exact .opened _ rfl (valid_opening_two (by omega))
  · exact .opened _ rfl (valid_opening_three (by omega))
  · exact .opened _ rfl (valid_opening_four (by omega))
  · exact .stray (hstray (by omega))

/-- What the next byte of a sequence can come to. -/
inductive FeedCourse (p : Pending) (b : UInt8) : List Chunk × Option Pending → Prop
  /-- It completes a character. -/
  | completed (c : Char) (h : utf8EncodeChar c = p.seen ++ [b]) : FeedCourse p b ([.scalar c], none)
  /-- The sequence goes on. -/
  | continued (p' : Pending) (hseen : p'.seen = p.seen ++ [b]) (hp : p'.Valid) :
      FeedCourse p b ([], some p')
  /-- The sequence breaks off in front of it. -/
  | broken (h : ¬ Begins (p.seen ++ [b])) :
      FeedCourse p b (.broken p.seen :: (start b).1, (start b).2)

/-- Behind the first byte of an encoding, only tail bytes stand. -/
lemma isTail_of_begins {part : Bytes} {b : UInt8} (hpart : part ≠ []) (h : Begins (part ++ [b])) :
    IsTail b := by
  obtain ⟨c, rest, hc⟩ := h
  obtain ⟨a, part, rfl⟩ := List.exists_cons_of_ne_nil hpart
  refine isTail_of_utf8EncodeChar hc.symm b ?_
  simp

/-- A sequence that goes on waits for any tail byte. -/
lemma Pending.Valid.next {p : Pending} (hp : p.Valid) {b : UInt8} (hb : p.low ≤ b ∧ b ≤ p.high)
    (hmissing : 1 < p.missing) :
    Pending.Valid
      ⟨p.seen ++ [b], p.payload * 64 + (b.toNat - 0x80), p.missing - 1, 0x80, 0xBF⟩ := by
  have hrange : ∀ x : UInt8, 0x80 ≤ x ∧ x ≤ 0xBF ↔ IsTail x := by
    intro x
    rw [UInt8.le_iff_toNat_le, UInt8.le_iff_toNat_le]
    rfl
  refine ⟨by simp, Nat.sub_pos_of_lt hmissing, (by decide : (0x80 : UInt8) ≤ 0xBF),
    fun x tail hx htail hlength => ?_, fun x hx hbegins => ?_⟩
  · have hlength' : (x :: tail).length + 1 = p.missing := by
      have : tail.length + 1 = p.missing - 1 := hlength
      rw [List.length_cons]
      omega
    have hc := hp.complete b (x :: tail) hb (List.forall_mem_cons.mpr ⟨(hrange x).mp hx, htail⟩)
      hlength'
    rw [extend_cons] at hc
    simp only [List.append_assoc]
    exact hc
  · exact hx ((hrange x).mpr (isTail_of_begins (by simp) hbegins))

lemma feed_course {p : Pending} (hp : p.Valid) (b : UInt8) : FeedCourse p b (feed (some p) b) := by
  rw [feed]
  by_cases hrange : p.low ≤ b ∧ b ≤ p.high
  · simp only [if_pos hrange]
    split_ifs with hmissing
    · have hone : p.missing = 1 := le_antisymm hmissing hp.missing_pos
      exact .completed _ (hp.complete b [] hrange (by simp) hone.symm)
    · exact .continued _ rfl (hp.next hrange (by omega))
  · rw [if_neg hrange]
    exact .broken (hp.stuck b hrange)

/-! ### Maximal subparts -/

/-- The bytes `part` are a maximal ill-formed subpart in front of `rest`: no
character can be read there, and they are the longest that begin one, or a single
byte. -/
structure MaximalSubpart (part rest : Bytes) : Prop where
  ne_nil : part ≠ []
  unreadable : ∀ c, ¬ utf8EncodeChar c <+: part ++ rest
  begins : part.length = 1 ∨ Begins part
  longest : ∀ longer, longer <+: part ++ rest → part.length < longer.length → ¬ Begins longer

lemma Begins.of_prefix {part whole : Bytes} (h : Begins whole) (hpart : part <+: whole) :
    Begins part := by
  obtain ⟨c, hc⟩ := h
  exact ⟨c, hpart.trans hc⟩

/-- What is longer than a beginning of a byte string has one more byte of it. -/
lemma exists_snoc_prefix {part rest longer : Bytes} (h : longer <+: part ++ rest)
    (hlength : part.length < longer.length) :
    ∃ x rest', rest = x :: rest' ∧ part ++ [x] <+: longer := by
  have hpart : part <+: longer :=
    List.prefix_of_prefix_length_le (List.prefix_append part rest) h hlength.le
  obtain ⟨more, rfl⟩ := hpart
  obtain ⟨x, more, rfl⟩ := List.exists_cons_of_ne_nil (l := more) (by
    rintro rfl
    simp at hlength)
  rw [List.prefix_append_right_inj] at h
  obtain ⟨rest', hrest⟩ := h
  exact ⟨x, more ++ rest', hrest.symm, by simp⟩

/-- A byte that begins no character is a subpart of its own. -/
lemma maximalSubpart_singleton {b : UInt8} (h : ¬ Begins [b]) (rest : Bytes) :
    MaximalSubpart [b] rest := by
  have hfront : ∀ whole, whole ≠ [] → whole <+: [b] ++ rest → ¬ Begins whole := by
    intro whole hne hwhole hbegins
    obtain ⟨a, whole, rfl⟩ := List.exists_cons_of_ne_nil hne
    obtain ⟨rfl, _⟩ := List.cons_prefix_cons.mp hwhole
    exact h (hbegins.of_prefix (by simp))
  refine ⟨by simp, fun c hc => ?_, Or.inl rfl, fun longer hlonger hlength => ?_⟩
  · exact hfront _ String.utf8EncodeChar_ne_nil hc ⟨c, List.prefix_rfl⟩
  · refine hfront longer ?_ hlonger
    rintro rfl
    simp at hlength

/-- A sequence that nothing continues is a maximal subpart. -/
lemma Pending.Valid.maximalSubpart {p : Pending} (hp : p.Valid) {rest : Bytes}
    (hstuck : ∀ x rest', rest = x :: rest' → ¬ Begins (p.seen ++ [x])) :
    MaximalSubpart p.seen rest := by
  -- the sequence is the beginning of a character, and not all of it
  obtain ⟨c, more, hmore, hc⟩ : ∃ c more, more ≠ [] ∧ utf8EncodeChar c = p.seen ++ more := by
    refine ⟨_, p.low :: List.replicate (p.missing - 1) 0x80, by simp,
      hp.complete p.low (List.replicate (p.missing - 1) 0x80) ⟨by simp, hp.low_le⟩ ?_ ?_⟩
    · intro y hy
      rw [List.eq_of_mem_replicate hy, IsTail]
      decide
    · have := hp.missing_pos
      rw [List.length_replicate]
      omega
  have hlongest : ∀ longer, longer <+: p.seen ++ rest → p.seen.length < longer.length →
      ¬ Begins longer := by
    intro longer hlonger hlength hbegins
    obtain ⟨x, rest', hrest, hx⟩ := exists_snoc_prefix hlonger hlength
    exact hstuck x rest' hrest (hbegins.of_prefix hx)
  refine ⟨hp.ne_nil, fun d hd => ?_, Or.inr ⟨c, more, hc.symm⟩, hlongest⟩
  by_cases hlength : p.seen.length < (utf8EncodeChar d).length
  · exact hlongest _ hd hlength ⟨d, List.prefix_rfl⟩
  · obtain ⟨tail, htail⟩ := List.prefix_of_prefix_length_le hd
      (List.prefix_append p.seen rest) (not_lt.mp hlength)
    have hcd : utf8EncodeChar c ++ [] = utf8EncodeChar d ++ (tail ++ more) := by
      rw [List.append_nil, hc, ← htail, List.append_assoc]
    have hnil := (utf8EncodeChar_append_inj hcd).2
    exact hmore (List.append_eq_nil_iff.mp hnil.symm).2

/-! ### Repair -/

/-- The second byte string is the first one with each maximal ill-formed subpart
replaced by the three bytes of U+FFFD, and all characters kept. -/
inductive Repaired : Bytes → Bytes → Prop
  | nil : Repaired [] []
  | kept (c : Char) {rest out : Bytes} (h : Repaired rest out) :
      Repaired (utf8EncodeChar c ++ rest) (utf8EncodeChar c ++ out)
  | replaced {part rest out : Bytes} (hpart : MaximalSubpart part rest) (h : Repaired rest out) :
      Repaired (part ++ rest) ([0xEF, 0xBF, 0xBD] ++ out)

/-- The bytes of chunks as they are shown. -/
def spell (cs : List Chunk) : Bytes := cs.flatMap fun x => utf8EncodeChar x.shown

lemma ofString_lossy (b : Bytes) : Bytes.ofString (lossy b) = spell (chunksFrom none b) := by
  rw [lossy, Bytes.ofString_ofList, List.flatMap_map]
  rfl

lemma spell_scalar (c : Char) (cs : List Chunk) :
    spell (.scalar c :: cs) = utf8EncodeChar c ++ spell cs := rfl

lemma spell_broken (part : Bytes) (cs : List Chunk) :
    spell (.broken part :: cs) = [0xEF, 0xBF, 0xBD] ++ spell cs := by
  have hreplacement : utf8EncodeChar replacement = [0xEF, 0xBF, 0xBD] := by decide
  rw [← hreplacement]
  rfl

/-- **The machine repairs**: the bytes still to come, with those of the pending
sequence in front of them. -/
lemma repaired_chunksFrom (b : Bytes) :
    Repaired b (spell (chunksFrom none b)) ∧
      ∀ p : Pending, p.Valid → Repaired (p.seen ++ b) (spell (chunksFrom (some p) b)) := by
  induction b with
  | nil =>
      refine ⟨.nil, fun p hp => ?_⟩
      rw [chunksFrom, spell_broken]
      exact .replaced (hp.maximalSubpart (by simp)) .nil
  | cons x rest ih =>
      obtain ⟨ihnone, ihsome⟩ := ih
      have hnone : Repaired (x :: rest) (spell (chunksFrom none (x :: rest))) := by
        have hcourse := start_course x
        rw [chunksFrom, feed]
        generalize start x = result at hcourse ⊢
        cases hcourse with
        | whole c h =>
            have hx : x :: rest = utf8EncodeChar c ++ rest := by rw [h, List.singleton_append]
            rw [hx, List.singleton_append, spell_scalar]
            exact .kept c ihnone
        | stray h =>
            rw [List.singleton_append, spell_broken]
            exact .replaced (maximalSubpart_singleton h rest) ihnone
        | opened p hseen hp =>
            have hx : x :: rest = p.seen ++ rest := by rw [hseen, List.singleton_append]
            rw [hx]
            exact ihsome p hp
      refine ⟨hnone, fun p hp => ?_⟩
      have hcourse := feed_course hp x
      have hx : p.seen ++ x :: rest = (p.seen ++ [x]) ++ rest := by simp
      rw [chunksFrom]
      generalize hresult : feed (some p) x = result at hcourse ⊢
      cases hcourse with
      | completed c h =>
          rw [hx, ← h, List.singleton_append, spell_scalar]
          exact .kept c ihnone
      | continued p' hseen hp' =>
          rw [hx, ← hseen]
          exact ihsome p' hp'
      | broken h =>
          -- the byte that breaks the sequence off is read again, as a first one
          rw [chunksFrom, feed] at hnone
          rw [List.cons_append, spell_broken]
          refine .replaced (hp.maximalSubpart ?_) hnone
          intro y rest' hrest
          rw [List.cons.injEq] at hrest
          rw [← hrest.1]
          exact h

/-- A maximal subpart is told by the bytes it stands in front of. -/
lemma MaximalSubpart.unique {part rest part' rest' : Bytes} (h : MaximalSubpart part rest)
    (h' : MaximalSubpart part' rest') (heq : part ++ rest = part' ++ rest') :
    part = part' ∧ rest = rest' := by
  have hlongest : ∀ {part rest part' rest' : Bytes}, MaximalSubpart part rest →
      MaximalSubpart part' rest' → part ++ rest = part' ++ rest' →
        part'.length ≤ part.length := by
    intro part rest part' rest' h h' heq
    by_contra hlt
    have hprefix : part' <+: part ++ rest := by
      rw [heq]
      exact List.prefix_append part' rest'
    have hbegins : Begins part' := by
      have hpos := List.length_pos_iff.mpr h.ne_nil
      rcases h'.begins with hone | hbegins
      · omega
      · exact hbegins
    exact h.longest part' hprefix (by omega) hbegins
  exact List.append_inj heq (le_antisymm (hlongest h' h heq.symm) (hlongest h h' heq))

/-- There is one way to repair a byte string. -/
lemma Repaired.unique {b out out' : Bytes} (h : Repaired b out) (h' : Repaired b out') :
    out = out' := by
  induction h generalizing out' with
  | nil =>
      generalize hb : ([] : Bytes) = b at h'
      cases h' with
      | nil => rfl
      | kept c h' => exact absurd hb.symm (by simp [String.utf8EncodeChar_ne_nil])
      | replaced hpart h' => exact absurd hb.symm (by simp [hpart.ne_nil])
  | @kept c rest out h ih =>
      generalize hb : utf8EncodeChar c ++ rest = b at h'
      cases h' with
      | nil => exact absurd hb (by simp [String.utf8EncodeChar_ne_nil])
      | kept d h' =>
          obtain ⟨rfl, rfl⟩ := utf8EncodeChar_append_inj hb
          rw [ih h']
      | replaced hpart h' => exact absurd (hb ▸ List.prefix_append _ _) (hpart.unreadable c)
  | @replaced part rest out hpart h ih =>
      generalize hb : part ++ rest = b at h'
      cases h' with
      | nil => exact absurd hb (by simp [hpart.ne_nil])
      | kept d h' => exact absurd (hb ▸ List.prefix_append _ _) (hpart.unreadable d)
      | replaced hpart' h' =>
          obtain ⟨rfl, rfl⟩ := hpart.unique hpart' hb
          rw [ih h']

/-- **The decoder repairs**, and nothing else is a repair. -/
theorem repaired_iff {b out : Bytes} : Repaired b out ↔ out = Bytes.ofString (lossy b) := by
  have hlossy : Repaired b (Bytes.ofString (lossy b)) := by
    rw [ofString_lossy]
    exact (repaired_chunksFrom b).1
  constructor
  · intro h
    exact h.unique hlossy
  · rintro rfl
    exact hlossy

/-! ### Texts -/

/-- A text in front is kept. -/
lemma Repaired.text_append (s : String) {b out : Bytes} (h : Repaired b out) :
    Repaired (Bytes.ofString s ++ b) (Bytes.ofString s ++ out) := by
  rw [← String.ofList_toList (s := s)]
  induction s.toList with
  | nil => simpa [Bytes.ofString] using h
  | cons c cs ih =>
      rw [ofString_cons, List.append_assoc, List.append_assoc]
      exact .kept c ih

/-- A text is kept. -/
lemma repaired_ofString (s : String) : Repaired (Bytes.ofString s) (Bytes.ofString s) := by
  have h := Repaired.nil.text_append s
  rwa [List.append_nil] at h

/-- What begins a character ends in front of the next first byte. -/
lemma Begins.prefix_of_lead {longer front rest : Bytes} {lead : UInt8} (hbegins : Begins longer)
    (hlead : ¬ IsTail lead) (hfront : front ≠ []) (h : longer <+: front ++ lead :: rest) :
    longer <+: front := by
  by_cases hlength : front.length < longer.length
  · obtain ⟨x, rest', hx, hprefix⟩ := exists_snoc_prefix h hlength
    rw [List.cons.injEq] at hx
    rw [← hx.1] at hprefix
    exact absurd (isTail_of_begins hfront (hbegins.of_prefix hprefix)) hlead
  · exact List.prefix_of_prefix_length_le h (List.prefix_append _ _) (not_lt.mp hlength)

/-- A maximal subpart stays one in front of a first byte. -/
lemma MaximalSubpart.append_lead {part rest : Bytes} (h : MaximalSubpart part rest) {lead : UInt8}
    (hlead : ¬ IsTail lead) (more : Bytes) : MaximalSubpart part (rest ++ lead :: more) := by
  have hwithin : ∀ longer, Begins longer → longer <+: part ++ (rest ++ lead :: more) →
      longer <+: part ++ rest := by
    intro longer hbegins hlonger
    rw [← List.append_assoc] at hlonger
    exact hbegins.prefix_of_lead hlead (by simp [h.ne_nil]) hlonger
  refine ⟨h.ne_nil, fun c hc => ?_, h.begins, fun longer hlonger hlength hbegins => ?_⟩
  · exact h.unreadable c (hwithin _ ⟨c, List.prefix_rfl⟩ hc)
  · exact h.longest longer (hwithin longer hbegins hlonger) hlength hbegins

/-- **A text anywhere is kept**, and what stands before it and behind it is repaired
on its own. -/
theorem Repaired.append_text {x out y out' : Bytes} (h : Repaired x out) {s : String} (hs : s ≠ "")
    (h' : Repaired y out') :
    Repaired (x ++ Bytes.ofString s ++ y) (out ++ Bytes.ofString s ++ out') := by
  induction h with
  | nil => exact h'.text_append s
  | kept c h ih =>
      simp only [List.append_assoc] at ih ⊢
      exact .kept c ih
  | @replaced part rest out hpart h ih =>
      obtain ⟨lead, more, hbytes, hlead⟩ :
          ∃ lead more, Bytes.ofString s = lead :: more ∧ ¬ IsTail lead := by
        obtain ⟨c, cs, hcs⟩ := List.exists_cons_of_ne_nil (l := s.toList) (by simpa using hs)
        obtain ⟨lead, more, hc, hlead⟩ := exists_lead c
        refine ⟨lead, more ++ Bytes.ofString (String.ofList cs), ?_, hlead⟩
        rw [← String.ofList_toList (s := s), hcs, ofString_cons, hc, List.cons_append]
      simp only [List.append_assoc] at ih ⊢
      refine .replaced ?_ ih
      rw [hbytes]
      exact hpart.append_lead hlead (more ++ y)

/-- Only texts are kept as they are. -/
lemma repaired_self_iff {b : Bytes} : Repaired b b ↔ (Bytes.toString? b).isSome := by
  constructor
  · intro h
    rw [repaired_iff] at h
    rw [h, Bytes.toString?_ofString]
    rfl
  · intro h
    obtain ⟨s, hs⟩ := Option.isSome_iff_exists.mp h
    rw [Bytes.toString?_eq_some_iff.mp hs]
    exact repaired_ofString s

/-! ### What a repair comes to -/

/-- The bytes `out` are what a repair makes of `b`. -/
structure Mended (b out : Bytes) : Prop where
  repaired : Repaired b out
  unique : ∀ other, Repaired b other → other = out
  isText : (Bytes.toString? out).isSome
  eq_iff : out = b ↔ (Bytes.toString? b).isSome
  /-- Nothing is left to repair. -/
  again : Repaired out out
  /-- A text inside is kept in its place. -/
  stretch : ∀ before s after, s ≠ "" → b = before ++ Bytes.ofString s ++ after →
    ∃ x y, Repaired before x ∧ Repaired after y ∧ out = x ++ Bytes.ofString s ++ y
  /-- So is a byte order mark in front. -/
  mark : ∀ after, b = [0xEF, 0xBB, 0xBF] ++ after →
    ∃ y, Repaired after y ∧ out = [0xEF, 0xBB, 0xBF] ++ y

/-- **Decoding mends** every byte string. -/
theorem mended_lossy (b : Bytes) : Mended b (Bytes.ofString (lossy b)) := by
  have hrepaired : ∀ b, Repaired b (Bytes.ofString (lossy b)) := fun b => repaired_iff.mpr rfl
  have hmark : Bytes.ofString "\uFEFF" = [0xEF, 0xBB, 0xBF] := by decide
  have hself := repaired_self_iff (b := b)
  refine ⟨hrepaired b, fun other => repaired_iff.mp, by simp, ?_, repaired_ofString _, ?_, ?_⟩
  · rw [← hself, repaired_iff, eq_comm]
  · rintro before s after hs rfl
    exact ⟨_, _, hrepaired before, hrepaired after,
      (hrepaired _).unique ((hrepaired before).append_text hs (hrepaired after))⟩
  · rintro after rfl
    refine ⟨_, hrepaired after, (hrepaired _).unique ?_⟩
    rw [← hmark]
    exact (hrepaired after).text_append _

end Vendoring.Utf8

/-
Messages about local names can be told apart.

* `Text.mem_hexDigits`, `Text.hexDigits_injective`: the digits of a code point tell
  the code point, and a closing brace is none of them;
* `Text.EscapeForm`, `Text.escape_form`: the three forms of an escaped character,
  and `Text.EscapeForm.append_inj` for telling it from whatever follows it;
* `Text.quote_append_inj` (**quoting is prefix-free**): a quoted text is told by the
  front of a message, whatever text follows it;
* `Text.IsControl`, `Text.not_isControl_quote`: no control character is quoted as
  it is;
* `NameTest`, `ConfigError.blamed?`: the test that failed and the name that failed
  it, with `Config.message_of_blamed` and `Config.fails_of_blamed` for what they say
  of the message and of the configuration;
* `messages_unambiguous` (**messages are unambiguous**): with one naming convention,
  equal messages are about equal names and the same test.
-/
import Mathlib.Tactic
import Vendoring.Failure
import Vendoring.Proofs.Verdict

namespace Vendoring

namespace Text

/-! ### Digits of code points -/

/-- A digit in base 16 tells its value. -/
lemma digitChar_inj : ∀ d < 16, ∀ e < 16, Nat.digitChar d = Nat.digitChar e → d = e := by decide

/-- Every digit is the digit of a number below 16. -/
lemma mem_hexDigits {n : Nat} {c : Char} (h : c ∈ hexDigits n) :
    ∃ d < 16, c = Nat.digitChar d := by
  rw [hexDigits] at h
  induction n using Nat.strong_induction_on with
  | _ n ih =>
      rw [Nat.toDigits_eq_if (by decide)] at h
      split_ifs at h with hn
      · exact ⟨n, hn, List.mem_singleton.mp h⟩
      · rcases List.mem_append.mp h with h | h
        · exact ih (n / 16) (by omega) h
        · exact ⟨n % 16, by omega, List.mem_singleton.mp h⟩

/-- The digits tell the number: the last one is its remainder, and those before it
are the digits of the quotient. -/
lemma hexDigits_injective : Function.Injective hexDigits := by
  intro n
  induction n using Nat.strong_induction_on with
  | _ n ih =>
      intro m h
      rw [hexDigits, hexDigits, Nat.toDigits_eq_if (by decide),
        Nat.toDigits_eq_if (n := m) (by decide)] at h
      split_ifs at h with hn hm hm
      · exact digitChar_inj n hn m hm (List.singleton_inj.mp h)
      · exact absurd (List.append_eq_singleton_iff.mp h.symm) (by simp [Nat.toDigits_ne_nil])
      · exact absurd (List.append_eq_singleton_iff.mp h) (by simp [Nat.toDigits_ne_nil])
      · obtain ⟨hquotient, hremainder⟩ := List.append_inj' h rfl
        have hq : n / 16 = m / 16 := ih (n / 16) (by omega) hquotient
        have hr : n % 16 = m % 16 :=
          digitChar_inj _ (by omega) _ (by omega) (List.singleton_inj.mp hremainder)
        omega

/-! ### Quoted characters -/

/-- The characters that have an escape of one letter, with the letters. -/
def shortEscapes : List (Char × Char) :=
  [('"', '"'), ('\\', '\\'), ('\t', 't'), ('\n', 'n'), ('\r', 'r'), ('\x00', '0')]

/-- How a character stands between quotes: behind a backslash as one letter, as
itself, or as its code point. -/
inductive EscapeForm (c : Char) : List Char → Prop
  | short {letter : Char} (h : (c, letter) ∈ shortEscapes) : EscapeForm c ['\\', letter]
  | plain (hquote : c ≠ '"') (hbackslash : c ≠ '\\') (h : isPlain c = true) : EscapeForm c [c]
  | code : EscapeForm c ('\\' :: 'u' :: '\x7b' :: (hexDigits c.toNat ++ ['\x7d']))

lemma escape_form (c : Char) : EscapeForm c (escape c) := by
  unfold escape
  split
  next => exact .short (by decide)
  next => exact .short (by decide)
  next => exact .short (by decide)
  next => exact .short (by decide)
  next => exact .short (by decide)
  next => exact .short (by decide)
  next hquote hbackslash _ _ _ _ =>
    split_ifs with h
    · exact .plain hquote hbackslash h
    · exact .code

/-- A letter of a short escape tells the character, and does not begin a code
point. -/
lemma shortEscapes_inj : ∀ x ∈ shortEscapes, x.2 ≠ 'u' ∧
    ∀ y ∈ shortEscapes, x.2 = y.2 → x.1 = y.1 := by decide

/-- What stands before the first mark, and what stands behind it, is told by the
whole. -/
lemma append_mark_inj {mark : Char} {x y u v : List Char} (hx : mark ∉ x) (hy : mark ∉ y)
    (h : x ++ mark :: u = y ++ mark :: v) : x = y ∧ u = v := by
  rcases List.append_eq_append_iff.mp h with ⟨l, rfl, hl⟩ | ⟨l, rfl, hl⟩
  all_goals
    cases l with
    | nil => simpa [eq_comm] using hl
    | cons d l =>
        obtain ⟨rfl, -⟩ := List.cons.inj hl
        simp at hx hy

/-- A code point ends at the first closing brace. -/
lemma hexDigits_append_inj {n m : Nat} {u v : List Char}
    (h : hexDigits n ++ '\x7d' :: u = hexDigits m ++ '\x7d' :: v) : n = m ∧ u = v := by
  have hbrace : ∀ d < 16, Nat.digitChar d ≠ '\x7d' := by decide
  have hnot : ∀ k, '\x7d' ∉ hexDigits k := by
    intro k hmem
    obtain ⟨d, hd, heq⟩ := mem_hexDigits hmem
    exact hbrace d hd heq.symm
  obtain ⟨hdigits, hrest⟩ := append_mark_inj (hnot n) (hnot m) h
  exact ⟨hexDigits_injective hdigits, hrest⟩

/-- **One character is told**, whatever follows it: a backslash tells a short escape
or a code point from a plain character, and the letter behind it tells these two
apart. -/
lemma EscapeForm.append_inj {a b : Char} {x y u v : List Char} (hx : EscapeForm a x)
    (hy : EscapeForm b y) (h : x ++ u = y ++ v) : a = b ∧ u = v := by
  cases hx with
  | short hshort =>
      obtain ⟨hletter, hsame⟩ := shortEscapes_inj _ hshort
      cases hy with
      | short hshort' =>
          simp only [List.cons_append, List.nil_append, List.cons.injEq, true_and] at h
          exact ⟨hsame _ hshort' h.1, h.2⟩
      | plain _ hbackslash => exact absurd (List.cons.inj h).1.symm hbackslash
      | code =>
          simp only [List.cons_append, List.nil_append, List.cons.injEq, true_and] at h
          exact absurd h.1 hletter
  | plain _ hbackslash =>
      cases hy with
      | short => exact absurd (List.cons.inj h).1 hbackslash
      | plain => exact List.cons.inj h
      | code => exact absurd (List.cons.inj h).1 hbackslash
  | code =>
      cases hy with
      | short hshort' =>
          obtain ⟨hletter, -⟩ := shortEscapes_inj _ hshort'
          simp only [List.cons_append, List.nil_append, List.cons.injEq, true_and] at h
          exact absurd h.1.symm hletter
      | plain _ hbackslash => exact absurd (List.cons.inj h).1.symm hbackslash
      | code =>
          simp only [List.cons_append, List.cons.injEq, List.append_assoc, List.nil_append,
            true_and] at h
          obtain ⟨hcode, hrest⟩ := hexDigits_append_inj h
          exact ⟨Char.toNat_inj.mp hcode, hrest⟩

/-- No escaped character begins with the quote that closes the text. -/
lemma EscapeForm.append_ne_quote {c : Char} {x u v : List Char} (hx : EscapeForm c x) :
    x ++ u ≠ '"' :: v := by
  intro h
  cases hx with
  | short => exact absurd (List.cons.inj h).1 (by decide)
  | plain hquote => exact hquote (List.cons.inj h).1
  | code => exact absurd (List.cons.inj h).1 (by decide)

/-- The escaped characters of a text are told up to the closing quote, one at a
time. -/
lemma escaped_append_inj {s t u v : List Char}
    (h : s.flatMap escape ++ '"' :: u = t.flatMap escape ++ '"' :: v) : s = t ∧ u = v := by
  induction s generalizing t with
  | nil =>
      cases t with
      | nil => exact ⟨rfl, (List.cons.inj h).2⟩
      | cons b t =>
          rw [List.flatMap_cons, List.append_assoc] at h
          exact absurd h.symm (escape_form b).append_ne_quote
  | cons a s ih =>
      rw [List.flatMap_cons, List.append_assoc] at h
      cases t with
      | nil => exact absurd h (escape_form a).append_ne_quote
      | cons b t =>
          rw [List.flatMap_cons, List.append_assoc] at h
          obtain ⟨rfl, hrest⟩ := (escape_form a).append_inj (escape_form b) h
          obtain ⟨rfl, hafter⟩ := ih hrest
          exact ⟨rfl, hafter⟩

/-- **Quoting is prefix-free**: a quoted text is told by the front of a message,
whatever text follows it. -/
lemma quote_append_inj {s t u v : String} (h : quote s ++ u = quote t ++ v) : s = t ∧ u = v := by
  have hlist := congrArg String.toList h
  simp only [quote, String.toList_append, String.toList_ofList, List.cons_append,
    List.append_assoc, List.nil_append, List.cons.injEq, true_and] at hlist
  obtain ⟨hs, hu⟩ := escaped_append_inj hlist
  exact ⟨String.toList_inj.mp hs, String.toList_inj.mp hu⟩

/-! ### Control characters -/

/-- A control character, of the first 32, DEL or one of the second set. -/
def IsControl (c : Char) : Prop := c.toNat < 0x20 ∨ 0x7F ≤ c.toNat ∧ c.toNat ≤ 0x9F

instance (c : Char) : Decidable (IsControl c) := inferInstanceAs (Decidable (_ ∨ _))

/-- The second set is the first range of what has no visible form. -/
lemma not_isControl_of_isPlain {c : Char} (h : isPlain c = true) : ¬ IsControl c := by
  rintro (hlow | ⟨hdel, hhigh⟩)
  · rw [isPlain, if_pos (by omega), decide_eq_true_eq] at h
    omega
  · have hrange : inRanges unprintable c.toNat = true := by
      rw [inRanges, List.any_eq_true]
      refine ⟨(0x7F, 0xA0), List.mem_cons_self, ?_⟩
      simp only [Bool.and_eq_true, decide_eq_true_eq]
      omega
    rw [isPlain, if_neg (by omega), hrange] at h
    simp at h

lemma not_isControl_hexDigits {n : Nat} {d : Char} (h : d ∈ hexDigits n) : ¬ IsControl d := by
  have hdigit : ∀ k < 16, ¬ IsControl (Nat.digitChar k) := by decide
  obtain ⟨k, hk, rfl⟩ := mem_hexDigits h
  exact hdigit k hk

lemma EscapeForm.not_isControl {c : Char} {x : List Char} (hx : EscapeForm c x) :
    ∀ d ∈ x, ¬ IsControl d := by
  have hletters : ∀ p ∈ shortEscapes, ¬ IsControl p.2 := by decide
  cases hx with
  | short hshort => simpa using ⟨by decide, hletters _ hshort⟩
  | plain _ _ hplain => simpa using not_isControl_of_isPlain hplain
  | code =>
      simp only [List.mem_cons, List.mem_append, List.not_mem_nil, or_false, forall_eq_or_imp]
      refine ⟨by decide, by decide, by decide, ?_⟩
      rintro d (hdigit | rfl)
      · exact not_isControl_hexDigits hdigit
      · decide

/-- No control character is quoted as it is. -/
lemma not_isControl_quote (s : String) : ∀ d ∈ (quote s).toList, ¬ IsControl d := by
  intro d hd
  rw [quote, String.toList_ofList, List.mem_append, List.mem_cons, List.mem_flatMap,
    List.mem_singleton] at hd
  rcases hd with (rfl | ⟨c, -, hescape⟩) | rfl
  · decide
  · exact (escape_form c).not_isControl d hescape
  · decide

end Text

/-! ### What a message is about -/

/-- The tests of a local name, in their order: that it has no separator, that it
follows the convention, and that no artifact before has it. -/
inductive NameTest where
  | bare
  | convention
  | unused
deriving DecidableEq, Repr

namespace NameTest

/-- The name of the artifact of index `i` fails the test. -/
def Fails (c : Config) (i : Nat) (name : String) : NameTest → Prop
  | bare => Config.HasSeparator name
  | convention => c.generated.accepts (Bytes.ofString name) = false
  | unused => Config.UsedBefore c i name

/-- What a message says behind the name. -/
def complaint (rule : Rule) : NameTest → String
  | bare => " must be a bare file name"
  | convention => " does not match the generated file convention (" ++ rule.pattern ++ ")"
  | unused => " is used by more than one artifact"

lemma complaint_convention (rule : Rule) : complaint rule .convention =
    " does not match the generated file convention (" ++ rule.pattern ++ ")" := rfl

/-- The first letter of a complaint, behind a blank. -/
def initial : NameTest → Char
  | bare => 'm'
  | convention => 'd'
  | unused => 'i'

lemma initial_injective : ∀ t t' : NameTest, t.initial = t'.initial → t = t' := by
  rintro (_ | _ | _) (_ | _ | _) <;> decide

lemma getElem?_complaint (rule : Rule) (t : NameTest) :
    (t.complaint rule).toList[1]? = some t.initial := by
  cases t with
  | bare =>
      change " must be a bare file name".toList[1]? = some 'm'
      decide
  | convention =>
      rw [complaint_convention, String.append_assoc, String.toList_append]
      rfl
  | unused =>
      change " is used by more than one artifact".toList[1]? = some 'i'
      decide

/-- A complaint tells the test, whatever pattern the convention prints. -/
lemma complaint_injective (rule : Rule) : Function.Injective (complaint rule) := by
  intro t t' h
  refine initial_injective t t' (Option.some_inj.mp ?_)
  rw [← getElem?_complaint rule t, h, getElem?_complaint]

end NameTest

lemma ConfigError.message_offConvention (name : String) (rule : Rule) :
    (offConvention name rule).message = "local name " ++ Text.quote name ++
      " does not match the generated file convention (" ++ rule.pattern ++ ")" := rfl

/-- The name that is at fault and the first test that it fails. -/
def ConfigError.blamed? : ConfigError → Option (NameTest × String)
  | noArtifacts => none
  | notBare name => some (.bare, name)
  | offConvention name _ => some (.convention, name)
  | repeated name => some (.unused, name)

namespace Config

variable {c : Config} {e : ConfigError} {t : NameTest} {name : String}

/-- A message about a name has the name between quotes, then the complaint. -/
lemma message_of_blamed (h : c.validate = .error e) (hblamed : e.blamed? = some (t, name)) :
    e.message = "local name " ++ Text.quote name ++ t.complaint c.generated := by
  rcases validate_eq_error_iff.mp h with ⟨-, rfl⟩ | ⟨i, hfault, -⟩
  · cases hblamed
  · cases hfault <;> cases hblamed
    · rfl
    · rw [ConfigError.message_offConvention, NameTest.complaint_convention]
      simp only [String.append_assoc]
    · rfl

/-- The name at fault is the name of an artifact, and the test is the first that it
fails. -/
lemma fails_of_blamed (h : c.validate = .error e) (hblamed : e.blamed? = some (t, name)) :
    ∃ i a, c.artifacts[i]? = some a ∧ a.localName = name ∧ t.Fails c i name ∧
      (t ≠ .bare → ¬ NameTest.bare.Fails c i name) ∧
      (t = .unused → ¬ NameTest.convention.Fails c i name) := by
  rcases validate_eq_error_iff.mp h with ⟨-, rfl⟩ | ⟨i, hfault, -⟩
  · cases hblamed
  · cases hfault with
    | notBare ha hsep =>
        cases hblamed
        exact ⟨i, _, ha, rfl, hsep, by simp, by simp⟩
    | offConvention ha hsep haccepts =>
        cases hblamed
        exact ⟨i, _, ha, rfl, haccepts, fun _ => hsep, by simp⟩
    | repeated ha hsep haccepts hused =>
        cases hblamed
        refine ⟨i, _, ha, rfl, hused, fun _ => hsep, fun _ hfails => ?_⟩
        rw [NameTest.Fails, ← Artifact.name, haccepts] at hfails
        cases hfails

end Config

lemma Failure.message_config (e : ConfigError) :
    (Failure.config e).message = "invalid configuration: " ++ e.message := rfl

/-- **Messages are unambiguous.**  Of two configurations with one naming convention
that are rejected for a local name, the messages are equal exactly when the names
are and the first test that each of them fails is the same.  The names are those of
artifacts that fail the tests, and stand in the messages between quotes, with no
control character among what is quoted. -/
theorem messages_unambiguous (rule : Rule) (c c' : Config) (hc : c.generated = rule)
    (hc' : c'.generated = rule) (e e' : ConfigError) (h : c.validate = .error e)
    (h' : c'.validate = .error e') (t t' : NameTest) (name name' : String)
    (hblamed : e.blamed? = some (t, name)) (hblamed' : e'.blamed? = some (t', name')) :
    (e.message = e'.message ↔ name = name' ∧ t = t') ∧
    ((Failure.config e).message = (Failure.config e').message ↔ name = name' ∧ t = t') ∧
    (∃ i a, c.artifacts[i]? = some a ∧ a.localName = name ∧ t.Fails c i name ∧
      (t ≠ .bare → ¬ NameTest.bare.Fails c i name) ∧
      (t = .unused → ¬ NameTest.convention.Fails c i name)) ∧
    e.message = "local name " ++ Text.quote name ++ t.complaint rule ∧
    ∀ d ∈ (Text.quote name).toList, ¬ Text.IsControl d := by
  have hmessage := Config.message_of_blamed h hblamed
  have hmessage' := Config.message_of_blamed h' hblamed'
  rw [hc] at hmessage
  rw [hc'] at hmessage'
  have hiff : e.message = e'.message ↔ name = name' ∧ t = t' := by
    rw [hmessage, hmessage', String.append_assoc, String.append_assoc]
    constructor
    · intro heq
      obtain ⟨hname, hcomplaint⟩ := Text.quote_append_inj (String.append_right_inj _ |>.mp heq)
      exact ⟨hname, NameTest.complaint_injective rule hcomplaint⟩
    · rintro ⟨rfl, rfl⟩
      rfl
  refine ⟨hiff, ?_, Config.fails_of_blamed h hblamed, hmessage, Text.not_isControl_quote name⟩
  rw [Failure.message_config, Failure.message_config, String.append_right_inj, hiff]

namespace Sample

/-- One artifact with the given name. -/
def naming (name : String) : Config := { Config.standard with artifacts := [⟨"a", name⟩] }

/-- A name that spells out the escape of an accent, a quote and a complaint. -/
def imitating : String := "/\\u\x7b301\x7d\" must be a bare\nfile name"

/-- The same name with the accent itself. -/
def accented : String := "/\u0301\" must be a bare\nfile name"

end Sample

theorem messages_unambiguous_sample :
    (Sample.naming Sample.imitating).validate = .error (.notBare Sample.imitating) ∧
    (Sample.naming Sample.accented).validate = .error (.notBare Sample.accented) ∧
    (ConfigError.notBare Sample.imitating).message ≠
      (ConfigError.notBare Sample.accented).message ∧
    ∀ d ∈ (Text.quote Sample.imitating).toList, ¬ Text.IsControl d := by
  have himitating :
      (Sample.naming Sample.imitating).validate = .error (.notBare Sample.imitating) := by decide
  have haccented :
      (Sample.naming Sample.accented).validate = .error (.notBare Sample.accented) := by decide
  obtain ⟨hmessages, -, -, -, hcontrol⟩ :=
    messages_unambiguous .standard _ _ rfl rfl _ _ himitating haccented .bare .bare _ _ rfl rfl
  refine ⟨himitating, haccented, fun heq => ?_, hcontrol⟩
  exact absurd (hmessages.mp heq).1 (by decide)

end Vendoring

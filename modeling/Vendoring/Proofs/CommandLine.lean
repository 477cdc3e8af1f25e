/-
Command lines read back.

* `numeral?_toString`: a number of seconds is read from its decimal digits;
* `Reads`: arguments that lead from one state of reading to another on either
  side of the command, whatever follows them;
* `reads_item`, `reads_side`: what one option and a whole side lead to;
* `parse_line`: a line is read as what it means;
* `given_root`, `given_config`, `given_timeout`, `given_permissive`: what a
  side means, option by option;
* `parse_render`: the result, with the command that a line without one stands
  for.
-/
import Mathlib.Data.List.TakeWhile
import Mathlib.Tactic
import Vendoring.Arguments.Printer
import Vendoring.Program
import Vendoring.Proofs.Ascii

namespace Vendoring

open Arguments

/-! ### Numerals -/

lemma lt_of_isDigit {c : Char} (h : c.isDigit) : c.toNat < 128 := by
  have hrange := Char.isDigit_iff_toNat.mp h
  have hnine : ('9' : Char).toNat = 57 := rfl
  omega

lemma isDigitByte_iff {b : UInt8} : isDigitByte b = true ↔ 48 ≤ b.toNat ∧ b.toNat ≤ 57 := by
  rw [isDigitByte, Bool.and_eq_true, decide_eq_true_iff, decide_eq_true_iff,
    UInt8.le_iff_toNat_le, UInt8.le_iff_toNat_le]
  rfl

/-- The byte of an ASCII character is a digit's exactly when the character is a
digit. -/
lemma isDigitByte_asciiByte_iff {c : Char} (hc : c.toNat < 128) :
    isDigitByte (asciiByte c) = true ↔ c.isDigit = true := by
  rw [isDigitByte_iff, toNat_asciiByte hc, Char.isDigit_iff_toNat]
  rfl

/-- Digits spell the same number as bytes and as characters. -/
lemma foldl_digitBytes {cs : List Char} (h : ∀ c ∈ cs, c.isDigit) (n : Nat) :
    (cs.map asciiByte).foldl (fun n d => n * 10 + (d.toNat - 0x30)) n =
      Nat.ofDigitChars 10 cs n := by
  induction cs generalizing n with
  | nil => rfl
  | cons c cs ih =>
      rw [List.forall_mem_cons] at h
      rw [List.map_cons, List.foldl_cons, ih h.2, Nat.ofDigitChars_cons,
        toNat_asciiByte (lt_of_isDigit h.1), Nat.mul_comm]
      rfl

lemma isDigit_of_mem_toDigits {n : Nat} {c : Char} (h : c ∈ Nat.toDigits 10 n) : c.isDigit :=
  Nat.isDigit_of_mem_toDigits (by omega) (by omega) h

/-- The bytes of a number are those of its decimal digits. -/
lemma ofString_toString_nat (n : Nat) :
    Bytes.ofString (toString n) = (Nat.toDigits 10 n).map asciiByte := by
  rw [Nat.toString_eq_ofList_toDigits]
  exact Bytes.ofString_of_ascii fun c hc => lt_of_isDigit (isDigit_of_mem_toDigits hc)

/-- They are bytes of digits. -/
lemma all_isDigitByte_toString (n : Nat) : (Bytes.ofString (toString n)).all isDigitByte := by
  rw [ofString_toString_nat, List.all_map, List.all_eq_true]
  intro c hc
  have hdigit := isDigit_of_mem_toDigits hc
  exact (isDigitByte_asciiByte_iff (lt_of_isDigit hdigit)).mpr hdigit

/-- A number begins with a digit. -/
lemma numeral_eq_cons (n : Nat) :
    ∃ b rest, Bytes.ofString (toString n) = b :: rest ∧ isDigitByte b := by
  have hall := all_isDigitByte_toString n
  cases hb : Bytes.ofString (toString n) with
  | nil =>
      rw [ofString_toString_nat, List.map_eq_nil_iff] at hb
      exact absurd hb Nat.toDigits_ne_nil
  | cons b rest =>
      rw [hb, List.all_cons, Bool.and_eq_true] at hall
      exact ⟨b, rest, rfl, hall.1⟩

/-- A number of seconds is read from its decimal digits. -/
lemma numeral?_toString {n : Nat} (h : 1 ≤ n ∧ n ≤ maxSeconds) :
    numeral? (Bytes.ofString (toString n)) = some n := by
  obtain ⟨b, rest, hb, hdigit⟩ := numeral_eq_cons n
  have hunsigned : unsigned (Bytes.ofString (toString n)) = Bytes.ofString (toString n) := by
    have hplus : b ≠ 0x2B := by
      rintro rfl
      exact absurd hdigit (by decide)
    rw [hb, unsigned, if_neg hplus]
  have hvalue : ofDigitBytes (Bytes.ofString (toString n)) = n := by
    rw [ofDigitBytes, ofString_toString_nat,
      foldl_digitBytes fun c hc => isDigit_of_mem_toDigits hc, Nat.ofDigitChars_ten_toDigits]
  have hne : (Bytes.ofString (toString n)).isEmpty = false := by
    rw [hb]
    rfl
  rw [numeral?, hunsigned, hvalue]
  exact if_pos (by simp only [hne, all_isDigitByte_toString, h.1, h.2, Bool.not_false,
    decide_true, Bool.and_self])

/-! ### Shapes of arguments -/

/-- A name with no equals sign in it has no value. -/
lemma splitEquals_of_not_mem {b : Bytes} (h : equals ∉ b) : splitEquals b = (b, none) := by
  have hdrop : b.dropWhile (· ≠ equals) = [] := by
    rw [List.dropWhile_eq_nil_iff]
    intro x hx
    simpa using ne_of_mem_of_not_mem hx h
  rw [splitEquals, hdrop]

/-- The value begins after the first equals sign. -/
lemma splitEquals_append {name value : Bytes} (h : equals ∉ name) :
    splitEquals (name ++ equals :: value) = (name, some value) := by
  have hname : ∀ x ∈ name, decide (x ≠ equals) = true := by
    intro x hx
    simpa using ne_of_mem_of_not_mem hx h
  have hdrop : (name ++ equals :: value).dropWhile (· ≠ equals) = equals :: value := by
    rw [List.dropWhile_append_of_pos hname, List.dropWhile_cons_of_neg (by simp)]
  have htake : (name ++ equals :: value).takeWhile (· ≠ equals) = name := by
    rw [List.takeWhile_append_of_pos hname, List.takeWhile_cons_of_neg (by simp), List.append_nil]
  rw [splitEquals, hdrop, htake]

/-- Two dashes with something after them are an option. -/
lemma shape_of_dashes {b : Bytes} (h : b ≠ []) :
    Shape.of (dash :: dash :: b) = .long (splitEquals b).1 (splitEquals b).2 := by
  cases b with
  | nil => exact absurd rfl h
  | cons x b => rfl

/-- The bytes of a name with its dashes. -/
lemma dashed_eq (word : String) : dashed word = dash :: dash :: Bytes.ofString word := by
  have hdashes : Bytes.ofString "--" = [dash, dash] := by decide
  rw [dashed, Bytes.ofString_append, hdashes]
  rfl

/-- An option by its name alone. -/
lemma shape_of_dashed {word : String} (hne : Bytes.ofString word ≠ [])
    (heq : equals ∉ Bytes.ofString word) :
    Shape.of (dashed word) = .long (Bytes.ofString word) none := by
  rw [dashed_eq, shape_of_dashes hne, splitEquals_of_not_mem heq]

/-- An option with its value in the same argument, whatever the value holds. -/
lemma shape_of_joined {word : String} (heq : equals ∉ Bytes.ofString word) (value : Bytes) :
    Shape.of (dashed word ++ equals :: value) = .long (Bytes.ofString word) (some value) := by
  have hne : Bytes.ofString word ++ equals :: value ≠ [] := by simp
  rw [dashed_eq, List.cons_append, List.cons_append, shape_of_dashes hne, splitEquals_append heq]

/-- A value that can stand alone looks like no option. -/
lemma shape_of_standsAlone {value : Bytes} (h : Item.standsAlone value) :
    Shape.of value = .plain := by
  rw [Item.standsAlone, Bool.or_eq_true, beq_iff_eq, bne_iff_ne] at h
  rcases h with rfl | h
  · rfl
  · cases value with
    | nil => rfl
    | cons x rest =>
        have hx : x ≠ dash := by simpa using h
        simp only [Shape.of, if_neg hx]

/-- A number can stand alone. -/
lemma standsAlone_numeral (n : Nat) : Item.standsAlone (Bytes.ofString (toString n)) := by
  obtain ⟨b, rest, hb, hdigit⟩ := numeral_eq_cons n
  have hdash : b ≠ dash := by
    rintro rfl
    exact absurd hdigit (by decide)
  rw [Item.standsAlone, hb]
  simp [hdash]

/-- The names of options hold no equals sign. -/
lemma Valued.equals_not_mem_word (o : Valued) : equals ∉ Bytes.ofString o.word := by
  cases o <;> decide

lemma Valued.word_ne_nil (o : Valued) : Bytes.ofString o.word ≠ [] := by
  cases o <;> decide

/-- A name stands for its option. -/
lemma Valued.ofWord?_word (o : Valued) : Valued.ofWord? (Bytes.ofString o.word) = some o := by
  cases o <;> decide

/-- A word stands for its command. -/
lemma Command.ofWord?_word (c : Command) : Command.ofWord? (Bytes.ofString c.word) = some c := by
  cases c <;> decide

lemma Command.shape_of_word (c : Command) : Shape.of (Bytes.ofString c.word) = .plain := by
  cases c <;> decide

/-! ### Reading step by step -/

/-- Arguments that lead from one state of reading to another, on either side
of the command and whatever follows them. -/
structure Reads (p : Progress) (args : List Bytes) (q : Progress) : Prop where
  before : ∀ rest, scanBefore p (args ++ rest) = scanBefore q rest
  after : ∀ rest, scanAfter p (args ++ rest) = scanAfter q rest

lemma Reads.refl (p : Progress) : Reads p [] p := ⟨fun _ => rfl, fun _ => rfl⟩

/-- Readings follow one another. -/
lemma Reads.trans {p q r : Progress} {as bs : List Bytes} (h₁ : Reads p as q)
    (h₂ : Reads q bs r) : Reads p (as ++ bs) r where
  before rest := by rw [List.append_assoc, h₁.before, h₂.before]
  after rest := by rw [List.append_assoc, h₁.after, h₂.after]

/-- An option by its name. -/
lemma reads_long {p q : Progress} {a name : Bytes} {value : Option Bytes}
    (hshape : Shape.of a = .long name value) (h : p.long name value = .ok q) :
    Reads p [a] q where
  before rest := by
    rw [List.singleton_append, scanBefore.eq_def]
    simp only [hshape, h]
    rfl
  after rest := by
    rw [List.singleton_append, scanAfter.eq_def]
    simp only [hshape, h]
    rfl

/-- The value of an option that waits for one. It may be the word for a
command. -/
lemma reads_value {g : Given} {o : Valued} {a : Bytes} (hshape : Shape.of a = .plain) :
    Reads ⟨g, .awaiting o⟩ [a] ⟨g, .holding o a⟩ where
  before rest := by
    rw [List.singleton_append, scanBefore.eq_def]
    simp only [hshape]
  after rest := by
    rw [List.singleton_append, scanAfter.eq_def]
    simp only [hshape]

/-- An option that takes a value, with an admissible one in either spelling. -/
lemma reads_written {p : Progress} {g g' : Given} {o : Valued} {value : Bytes} {apart : Bool}
    (hp : p.settle = .ok g) (hvalue : g.accept o value = .ok g')
    (hapart : apart → Item.standsAlone value) :
    ∃ q, Reads p (written o value apart) q ∧ q.settle = .ok g' := by
  cases apart with
  | false =>
      have hlong : p.long (Bytes.ofString o.word) (some value) = .ok ⟨g', .nothing⟩ := by
        simp [Progress.long, Valued.ofWord?_word, hp, hvalue, bind, Except.bind, pure,
          Except.pure]
      exact ⟨_, reads_long (shape_of_joined o.equals_not_mem_word value) hlong, rfl⟩
  | true =>
      have hlong : p.long (Bytes.ofString o.word) none = .ok ⟨g, .awaiting o⟩ := by
        simp [Progress.long, Valued.ofWord?_word, hp, bind, Except.bind]
      have hname := reads_long (shape_of_dashed o.word_ne_nil o.equals_not_mem_word) hlong
      exact ⟨_, hname.trans (reads_value (shape_of_standsAlone (hapart rfl))), hvalue⟩

/-- The option that takes no value. -/
lemma reads_permissive {p : Progress} {g : Given} (hp : p.settle = .ok g)
    (hg : g.permissive = false) :
    Reads p [dashed permissiveWord] ⟨{ g with permissive := true }, .nothing⟩ := by
  have hshape := shape_of_dashed (by decide) (by decide : equals ∉ Bytes.ofString permissiveWord)
  refine reads_long hshape ?_
  have hvalued : Valued.ofWord? (Bytes.ofString permissiveWord) = none := by decide
  simp [Progress.long, hvalued, hp, hg, bind, Except.bind]

/-! ### Reading a side -/

/-- An option that has not been given yet. -/
def Arguments.Item.Open (g : Given) : Item → Prop
  | .root .. => g.root = none
  | .config .. => g.config = none
  | .timeout .. => g.timeout = none
  | .permissive => g.permissive = false

/-- Giving one option leaves the others open. -/
lemma Arguments.Item.Open.addTo {g : Given} {i j : Item} (h : j.Open g) (hne : i.word ≠ j.word) :
    j.Open (Item.addTo g i) := by
  cases i <;> cases j <;> simp_all [Item.Open, Item.addTo, Item.word]

/-- Reading a valid option that is still open gives it. -/
lemma reads_item {p : Progress} {g : Given} {i : Item} (hp : p.settle = .ok g)
    (hvalid : i.IsValid) (hopen : i.Open g) :
    ∃ q, Reads p i.render q ∧ q.settle = .ok (Item.addTo g i) := by
  cases i with
  | root path apart =>
      obtain ⟨hne, hapart⟩ := hvalid
      have hroot : g.root = none := hopen
      refine reads_written hp ?_ hapart
      simp [Given.accept, Given.has, hroot, hne, Item.value, Item.addTo]
  | config path apart =>
      obtain ⟨hne, hapart⟩ := hvalid
      have hconfig : g.config = none := hopen
      refine reads_written hp ?_ hapart
      simp [Given.accept, Given.has, hconfig, hne, Item.value, Item.addTo]
  | timeout seconds apart =>
      have htimeout : g.timeout = none := hopen
      refine reads_written hp ?_ fun _ => standsAlone_numeral seconds
      rw [Item.value, Given.accept, Bytes.toString?_ofString, numeral?_toString hvalid]
      simp [Given.has, htimeout, Item.addTo]
  | permissive => exact ⟨_, reads_permissive hp hopen, rfl⟩

/-- Reading a side gives its options one after the other. -/
lemma reads_side {s : Side} {p : Progress} {g : Given} (hp : p.settle = .ok g)
    (hvalid : s.IsValid) (hopen : ∀ i ∈ s, i.Open g) :
    ∃ q, Reads p s.render q ∧ q.settle = .ok (s.foldl Item.addTo g) := by
  induction s generalizing p g with
  | nil => exact ⟨p, Reads.refl p, hp⟩
  | cons i s ih =>
      obtain ⟨hwords, hitems⟩ := hvalid
      rw [List.map_cons, List.nodup_cons] at hwords
      rw [List.forall_mem_cons] at hitems hopen
      obtain ⟨q, hreads, hq⟩ := reads_item hp hitems.1 hopen.1
      -- What stands after `i` has another name, so it is still open.
      have hrest : ∀ j ∈ s, j.Open (Item.addTo g i) := by
        intro j hj
        refine (hopen.2 j hj).addTo fun hword => hwords.1 ?_
        exact hword ▸ List.mem_map_of_mem hj
      obtain ⟨r, hreads', hr⟩ := ih hq ⟨hwords.2, hitems.2⟩ hrest
      exact ⟨r, hreads.trans hreads', hr⟩

/-- A valid side is read from the start as what it gives. -/
lemma reads_side_given {s : Side} (hvalid : s.IsValid) :
    ∃ q, Reads {} s.render q ∧ q.settle = .ok s.given := by
  refine reads_side rfl hvalid fun i _ => ?_
  cases i <;> rfl

/-! ### Reading a line -/

/-- A command ends the options before it. -/
lemma scanBefore_command {p : Progress} {g : Given} (hp : p.settle = .ok g) (c : Command)
    {rest : List Bytes} {after : Given} (hafter : scanAfter {} rest = .ok after) :
    scanBefore p (Bytes.ofString c.word :: rest) = .ok ⟨some c, g.override after⟩ := by
  obtain ⟨given, pending⟩ := p
  rw [scanBefore.eq_def]
  simp only [c.shape_of_word, c.ofWord?_word, hafter]
  cases pending with
  | awaiting o => cases hp
  | nothing =>
      simp only [hp]
      rfl
  | holding o value =>
      simp only [hp]
      rfl

/-- A valid line is read as what it means. -/
lemma parse_line {l : Line} (h : l.IsValid) : Arguments.parse l.render = .ok l.meaning := by
  obtain ⟨before, command⟩ := l
  obtain ⟨hbefore, hafter⟩ := h
  obtain ⟨q, hreads, hq⟩ := reads_side_given hbefore
  rw [Arguments.parse, Line.render, hreads.before]
  cases command with
  | none =>
      simp [scanBefore, hq, Line.meaning, bind, Except.bind, pure, Except.pure]
  | some command =>
      obtain ⟨c, after⟩ := command
      obtain ⟨r, hreads', hr⟩ := reads_side_given (hafter c after rfl)
      have hscan : scanAfter {} after.render = .ok after.given := by
        have hend := hreads'.after []
        rw [List.append_nil] at hend
        rw [hend, scanAfter, hr]
      exact scanBefore_command hq c hscan

/-! ### What a side gives -/

namespace Arguments.Item

/-- The root an option gives. -/
def root? : Item → Option Path
  | root path _ => some path
  | _ => none

/-- The configuration's file that an option gives. -/
def config? : Item → Option Path
  | config path _ => some path
  | _ => none

/-- The number of seconds an option gives. -/
def seconds? : Item → Option Nat
  | timeout seconds _ => some seconds
  | _ => none

end Arguments.Item

/-- A field that only the options of one name give has the value of the one
that is there. -/
lemma foldl_addTo {α : Type} (field : Given → Option α) (view : Item → Option α) (word : String)
    (hadd : ∀ g i, field (Item.addTo g i) = (view i).or (field g))
    (hword : ∀ i a, view i = some a → i.word = word) {s : Side} (hs : (s.map Item.word).Nodup)
    (g : Given) : field (s.foldl Item.addTo g) = (s.findSome? view).or (field g) := by
  induction s generalizing g with
  | nil => rfl
  | cons i s ih =>
      rw [List.map_cons, List.nodup_cons] at hs
      rw [List.foldl_cons, ih hs.2, hadd, List.findSome?_cons]
      cases hi : view i with
      | none => rfl
      | some a =>
          have hnone : s.findSome? view = none := by
            rw [List.findSome?_eq_none_iff]
            intro j hj
            refine Option.eq_none_iff_forall_ne_some.mpr fun b hb => hs.1 ?_
            rw [hword i a hi, ← hword j b hb]
            exact List.mem_map_of_mem hj
          rw [hnone]
          rfl

lemma given_root {s : Side} (hs : s.IsValid) : s.given.root = s.findSome? Item.root? := by
  have hroot := foldl_addTo Given.root Item.root? Valued.root.word
    (fun g i => by cases i <;> rfl) (fun | .root .., _, _ => rfl) hs.1 {}
  rwa [Option.or_none] at hroot

lemma given_config {s : Side} (hs : s.IsValid) : s.given.config = s.findSome? Item.config? := by
  have hconfig := foldl_addTo Given.config Item.config? Valued.config.word
    (fun g i => by cases i <;> rfl) (fun | .config .., _, _ => rfl) hs.1 {}
  rwa [Option.or_none] at hconfig

lemma given_timeout {s : Side} (hs : s.IsValid) : s.given.timeout = s.findSome? Item.seconds? := by
  have htimeout := foldl_addTo Given.timeout Item.seconds? Valued.timeout.word
    (fun g i => by cases i <;> rfl) (fun | .timeout .., _, _ => rfl) hs.1 {}
  rwa [Option.or_none] at htimeout

lemma foldl_addTo_permissive (s : Side) (g : Given) :
    (s.foldl Item.addTo g).permissive = (g.permissive || decide (.permissive ∈ s)) := by
  induction s generalizing g with
  | nil => simp
  | cons i s ih =>
      rw [List.foldl_cons, ih]
      cases i <;> simp [Item.addTo]

lemma given_permissive (s : Side) : s.given.permissive = decide (.permissive ∈ s) := by
  rw [Side.given, foldl_addTo_permissive, Bool.false_or]

/-! ### The result -/

/-- The options after the command of a line, none if it has no command. -/
def Arguments.Line.after (l : Line) : Side := (l.command.map Prod.snd).getD []

/-- The side after the command wins, and one without options changes nothing. -/
lemma Given.override_empty (g : Given) : g.override {} = g := by
  simp [Given.override]

lemma meaning_eq (l : Line) :
    l.meaning = ⟨l.command.map Prod.fst, l.before.given.override l.after.given⟩ := by
  obtain ⟨before, command⟩ := l
  cases command with
  | none => exact congrArg (Arguments.mk none) before.given.override_empty.symm
  | some command => rfl

lemma isValid_after {l : Line} (h : l.IsValid) : l.after.IsValid := by
  obtain ⟨before, command⟩ := l
  cases command with
  | none => exact ⟨List.nodup_nil, by simp [Line.after]⟩
  | some command => exact h.2 command.1 command.2 rfl

/-- A line without a command is carried out like one that ends in `sync`. -/
lemma perform_default {l : Line} (h : l.IsValid) (hnone : l.command = none)
    (fetch : Option Nat → Fetcher) (w : Workspace) :
    perform fetch (l.render ++ [Bytes.ofString Command.sync.word]) w =
      perform fetch l.render w := by
  obtain ⟨before, command⟩ := l
  obtain rfl : command = none := hnone
  have hvalid : (Line.mk before (some (.sync, []))).IsValid := by
    refine ⟨h.1, ?_⟩
    rintro c after ⟨⟩
    exact ⟨List.nodup_nil, by simp⟩
  have hparse := parse_line h
  have hparse' := parse_line hvalid
  rw [meaning_eq] at hparse hparse'
  have hrender : (Line.mk before none).render ++ [Bytes.ofString Command.sync.word] =
      (Line.mk before (some (.sync, []))).render := by
    simp [Line.render, Side.render]
  rw [hrender, perform, perform, hparse, hparse']
  rfl

/-- **Argument round trip.** A valid command line is read as exactly its
command and, for every option that takes a value, the value given after the
command, else the one given before it; it is permissive if either side says
so. Without a command it is carried out as if `sync` stood at its end. -/
theorem parse_render (l : Line) (h : l.IsValid) :
    Arguments.parse l.render = .ok
      { command := l.command.map Prod.fst
        options :=
          { root := (l.after.findSome? Item.root?).or (l.before.findSome? Item.root?)
            config := (l.after.findSome? Item.config?).or (l.before.findSome? Item.config?)
            timeout := (l.after.findSome? Item.seconds?).or (l.before.findSome? Item.seconds?)
            permissive := decide (.permissive ∈ l.before ∨ .permissive ∈ l.after) } } ∧
    (l.command = none → ∀ fetch w,
      perform fetch (l.render ++ [Bytes.ofString Command.sync.word]) w =
        perform fetch l.render w) := by
  refine ⟨?_, perform_default h⟩
  have hafter := isValid_after h
  rw [parse_line h, meaning_eq, Given.override, given_root h.1, given_root hafter,
    given_config h.1, given_config hafter, given_timeout h.1, given_timeout hafter,
    given_permissive, given_permissive, Bool.decide_or]

namespace Sample

/-- Options on both sides of a command: values that look like a command and
like an option, and the largest number of seconds. -/
def crossed : Line where
  before := [.root ⟨Bytes.ofString "clean"⟩ true, .timeout 30 true, .permissive]
  command := some (.plan,
    [.timeout maxSeconds false, .config ⟨Bytes.ofString "--x=y"⟩ false, .root ⟨[dash]⟩ true])

/-- The same options before the command alone. -/
def commandless : Line where
  before := crossed.before
  command := none

end Sample

/-- Two readings: of options on both sides, and of a line without a
command. -/
theorem parse_render_sample :
    Arguments.parse (["--root", "clean", "--timeout-secs", "30", "--permissive", "plan",
        "--timeout-secs=18446744073709551615", "--config=--x=y", "--root", "-"].map
          Bytes.ofString) =
      .ok ⟨some .plan,
        { root := some (Path.ofString "-")
          config := some (Path.ofString "--x=y")
          timeout := some 18446744073709551615
          permissive := true }⟩ ∧
    ∀ fetch w, perform fetch (["--root", "clean", "--timeout-secs", "30", "--permissive",
        "sync"].map Bytes.ofString) w =
      perform fetch (["--root", "clean", "--timeout-secs", "30", "--permissive"].map
        Bytes.ofString) w := by
  have hbefore : Sample.crossed.before.IsValid := by decide +kernel
  have hafter : ∀ c after, Sample.crossed.command = some (c, after) → after.IsValid := by
    rintro c after ⟨⟩
    decide +kernel
  have hrender : Sample.crossed.render = ["--root", "clean", "--timeout-secs", "30",
      "--permissive", "plan", "--timeout-secs=18446744073709551615", "--config=--x=y", "--root",
      "-"].map Bytes.ofString := by decide +kernel
  have hcrossed := (parse_render Sample.crossed ⟨hbefore, hafter⟩).1
  have hcommandless := (parse_render Sample.commandless ⟨hbefore, nofun⟩).2 rfl
  rw [hrender] at hcrossed
  refine ⟨hcrossed, fun fetch w => ?_⟩
  have hrender' : Sample.commandless.render =
      ["--root", "clean", "--timeout-secs", "30", "--permissive"].map Bytes.ofString := by
    decide +kernel
  rw [hrender'] at hcommandless
  exact hcommandless fetch w

end Vendoring

/-
Lines of documents, and what they do to a draft.

* `IsWord`, `key_word`: keys that need no quotes;
* `Leads`: lines that lead from one draft to another, whatever follows them, with
  `Leads.append` for lines after lines and `Leads.lines_eq` for a whole document;
* `TextLine`, `leads_setting`, `leads_textLine`, `leads_tableLine`,
  `leads_elementLine`: the lines of a document;
* `assign?_root`, `assign?_table`, `openTable?_new`: what they change where the key
  is new;
* `withElements`, `openElement?_withElements`, `assign?_withElements`: the tables of
  double brackets under one key, of which the last one grows.
-/
import Mathlib.Tactic
import Vendoring.Proofs.Spelling
import Vendoring.Toml.Document

namespace Vendoring.Toml

/-! ### Keys without quotes -/

/-- A key that needs no quotes. -/
def IsWord (word : String) : Prop := word.toList ≠ [] ∧ word.toList.all isWordChar = true

instance (word : String) : Decidable (IsWord word) := inferInstanceAs (Decidable (_ ∧ _))

/-- A character of a word is none of those that a word cannot have. -/
lemma ne_of_isWordChar {c d : Char} (hc : isWordChar c = true) (hd : isWordChar d = false) :
    c ≠ d := by
  rintro rfl
  rw [hc] at hd
  cases hd

lemma IsWord.exists_cons {word : String} (h : IsWord word) :
    ∃ c cs, word.toList = c :: cs ∧ isWordChar c = true := by
  obtain ⟨c, cs, hcons⟩ := List.exists_cons_of_ne_nil h.1
  have hmem : c ∈ word.toList := by
    rw [hcons]
    exact List.mem_cons_self
  exact ⟨c, cs, hcons, List.all_eq_true.mp h.2 c hmem⟩

lemma skipBlanks_cons {c : Char} (h : isBlank c = false) (s : List Char) :
    skipBlanks (c :: s) = c :: s := by
  rw [skipBlanks, List.dropWhile_cons_of_neg (by simp [h])]

lemma isBlank_of_isWordChar {c : Char} (h : isWordChar c = true) : isBlank c = false := by
  have hspace := ne_of_isWordChar h (d := ' ') (by decide)
  have htab := ne_of_isWordChar h (d := '\t') (by decide)
  simp [isBlank, hspace, htab]

lemma IsWord.skipBlanks {word : String} (h : IsWord word) (s : List Char) :
    skipBlanks (word.toList ++ s) = word.toList ++ s := by
  obtain ⟨c, cs, hcons, hc⟩ := h.exists_cons
  rw [hcons, List.cons_append, skipBlanks_cons (isBlank_of_isWordChar hc)]

lemma keyPart_word {word : String} (h : IsWord word) {stop : Char}
    (hstop : isWordChar stop = false) (rest : List Char) :
    keyPart (word.toList ++ stop :: rest) = some (word, stop :: rest) := by
  obtain ⟨c, cs, hcons, hc⟩ := h.exists_cons
  have hall := List.all_eq_true.mp h.2
  have htake : (word.toList ++ stop :: rest).takeWhile isWordChar = word.toList := by
    rw [List.takeWhile_append_of_pos hall, List.takeWhile_cons_of_neg (by simp [hstop]),
      List.append_nil]
  have hdrop : (word.toList ++ stop :: rest).dropWhile isWordChar = stop :: rest := by
    rw [List.dropWhile_append_of_pos hall, List.dropWhile_cons_of_neg (by simp [hstop])]
  have hquote := ne_of_isWordChar hc (d := '"') (by decide)
  have happostrophe := ne_of_isWordChar hc (d := '\'') (by decide)
  rw [keyPart]
  · rw [htake, hdrop, hcons]
    simp only [← hcons, String.ofList_toList]
  · rw [hcons]
    intro rest' heq
    exact hquote (List.cons.inj heq).1
  · rw [hcons]
    intro rest' heq
    exact happostrophe (List.cons.inj heq).1

/-- A word is read as a key of one part, with the blanks behind it. -/
lemma key_word {word : String} (h : IsWord word) {stop mark : Char}
    (hstop : isWordChar stop = false) (hmark : mark ≠ '.') {rest after : List Char}
    (hafter : Toml.skipBlanks (stop :: rest) = mark :: after) :
    key (word.toList ++ stop :: rest) = some (⟨[], word⟩, mark :: after) := by
  have hparts : keyParts (depthLimit - 1) (word.toList ++ stop :: rest) =
      some ([word], mark :: after) := by
    rw [show depthLimit - 1 = 78 + 1 from rfl, keyParts, h.skipBlanks,
      keyPart_word h hstop]
    simp only [Option.bind_eq_bind, Option.bind_some, hafter]
    split
    next heq => exact absurd (List.cons.inj heq).1 hmark
    next => rfl
  rw [key, hparts]
  rfl

/-! ### Lines -/

/-- The lines lead from one draft to another, whatever follows them. -/
def Leads (d : Draft) (text : List Char) (d' : Draft) : Prop :=
  ∀ fuel rest, (text ++ rest).length < fuel →
    ∃ fuel', rest.length < fuel' ∧ lines fuel d (text ++ rest) = lines fuel' d' rest

lemma Leads.nil (d : Draft) : Leads d [] d := fun fuel _ h => ⟨fuel, h, rfl⟩

lemma Leads.append {d d' d'' : Draft} {x y : List Char} (hx : Leads d x d')
    (hy : Leads d' y d'') : Leads d (x ++ y) d'' := by
  intro fuel rest hfuel
  rw [List.append_assoc] at hfuel ⊢
  obtain ⟨fuel', hfuel', hlines⟩ := hx fuel (y ++ rest) hfuel
  obtain ⟨fuel'', hfuel'', hlines'⟩ := hy fuel' rest hfuel'
  exact ⟨fuel'', hfuel'', hlines.trans hlines'⟩

/-- One line, which does not begin with a blank. -/
lemma Leads.line {d d' : Draft} {c : Char} {x : List Char} (hc : isBlank c = false)
    (h : ∀ rest, Toml.line d (c :: x ++ rest) = some (d', rest)) : Leads d (c :: x) d' := by
  intro fuel rest hfuel
  cases fuel with
  | zero => exact absurd hfuel (Nat.not_lt_zero _)
  | succ fuel =>
      refine ⟨fuel, by simp at hfuel; omega, ?_⟩
      have hline := h rest
      rw [List.cons_append] at hline ⊢
      rw [lines, skipBlanks_cons hc]
      simp only [hline, Option.bind_eq_bind, Option.bind_some]

/-- Where the text ends, its draft is the document. -/
lemma Leads.lines_eq {d d' : Draft} {x : List Char} (h : Leads d x d') :
    lines (x.length + 1) d x = some d' := by
  obtain ⟨fuel, hfuel, hlines⟩ := h (x.length + 1) [] (by simp)
  rw [List.append_nil] at hlines
  cases fuel with
  | zero => exact absurd hfuel (Nat.not_lt_zero _)
  | succ fuel =>
      rw [hlines]
      rfl

/-- An empty line changes nothing. -/
lemma leads_newline (d : Draft) : Leads d ['\n'] d := Leads.line (by decide) fun _ => rfl

/-- A line that gives a word a text, spelt in some way. -/
def TextLine (word value : String) (x : List Char) : Prop :=
  ∃ body, TextSpelling value.toList body ∧
    x = word.toList ++ ' ' :: '=' :: ' ' :: ('"' :: body ++ ['"', '\n'])

lemma lineEnd?_newline (rest : List Char) : lineEnd? ('\n' :: rest) = some rest := rfl

/-- A line that begins with a word assigns a value. -/
lemma line_word {d : Draft} {word : String} (h : IsWord word) (s : List Char) :
    line d (word.toList ++ s) = assignment d (word.toList ++ s) := by
  obtain ⟨c, cs, hcons, hc⟩ := h.exists_cons
  have hne : ∀ {mark : Char} {x y : List Char}, isWordChar mark = false →
      word.toList ++ x ≠ mark :: y := by
    intro mark x y hmark heq
    rw [hcons] at heq
    exact ne_of_isWordChar hc hmark (List.cons.inj heq).1
  rw [line, h.skipBlanks]
  split
  next heq => exact absurd heq (hne (by decide))
  next heq => exact absurd heq (hne (by decide))
  next heq => exact absurd heq (hne (by decide))
  next heq => exact absurd heq (hne (by decide))
  next heq => exact absurd heq (hne (by decide))
  next => rfl

variable {t : List String} {es es' : Entries}

/-- A line that gives a word a value. -/
lemma leads_setting {word : String} (hword : IsWord word) {x : List Char} {v : Value}
    (hx : ∀ rest, value (skipBlanks (x ++ '\n' :: rest)) = some (v, '\n' :: rest))
    (h : assign? t ⟨[], word⟩ v es = some es') :
    Leads ⟨t, es⟩ (word.toList ++ ' ' :: '=' :: (x ++ ['\n'])) ⟨t, es'⟩ := by
  have hline : ∀ rest, line ⟨t, es⟩ (word.toList ++ ' ' :: '=' :: (x ++ ['\n']) ++ rest) =
      some (⟨t, es'⟩, rest) := by
    intro rest
    have hkey : key (word.toList ++ ' ' :: '=' :: (x ++ '\n' :: rest)) =
        some (⟨[], word⟩, '=' :: (x ++ '\n' :: rest)) :=
      key_word hword (by decide) (by decide) rfl
    rw [List.append_assoc, line_word hword, assignment]
    simp only [List.append_assoc, List.cons_append, List.nil_append, hkey, char?, if_true, hx,
      lineEnd?_newline, h, Option.bind_eq_bind, Option.bind_some]
  obtain ⟨c, cs, hcons, hc⟩ := hword.exists_cons
  rw [hcons] at hline ⊢
  exact Leads.line (isBlank_of_isWordChar hc) hline

/-- A line that gives a word a text. -/
lemma leads_textLine {word s : String} (hword : IsWord word) {x : List Char}
    (hx : TextLine word s x) (h : assign? t ⟨[], word⟩ (.string s) es = some es') :
    Leads ⟨t, es⟩ x ⟨t, es'⟩ := by
  obtain ⟨body, hbody, rfl⟩ := hx
  have hvalue : ∀ rest, value (skipBlanks (' ' :: '"' :: body ++ ['"'] ++ '\n' :: rest)) =
      some (.string s, '\n' :: rest) := by
    intro rest
    have hread := value_string hbody rest
    simpa [skipBlanks, isBlank] using hread
  have hleads := leads_setting hword hvalue h
  simpa using hleads

/-- A header in single brackets, behind an empty line. -/
lemma leads_tableLine {word : String} (hword : IsWord word)
    (h : openTable? ⟨[], word⟩ es = some es') :
    Leads ⟨t, es⟩ ('\n' :: '[' :: (word.toList ++ [']', '\n'])) ⟨[word], es'⟩ := by
  refine (leads_newline ⟨t, es⟩).append (Leads.line (by decide) fun rest => ?_)
  have hkey : key (word.toList ++ ']' :: '\n' :: rest) = some (⟨[], word⟩, ']' :: '\n' :: rest) :=
    key_word hword (by decide) (by decide) rfl
  have hheader : tableHeader ⟨t, es⟩ (word.toList ++ ']' :: '\n' :: rest) =
      some (⟨[word], es'⟩, rest) := by
    rw [tableHeader]
    simp only [hkey, char?, if_true, lineEnd?_newline, h, List.nil_append, Option.bind_eq_bind,
      Option.bind_some]
  rw [← hheader, line, List.cons_append, skipBlanks_cons (by decide), List.append_assoc]
  obtain ⟨c, cs, hcons, hc⟩ := hword.exists_cons
  rw [hcons]
  split
  next heq => exact absurd (List.cons.inj heq).1 (by decide)
  next heq => exact absurd (List.cons.inj heq).1 (by decide)
  next heq => exact absurd (List.cons.inj heq).1 (by decide)
  next heq =>
    obtain ⟨-, htail⟩ := List.cons.inj heq
    exact absurd (List.cons.inj htail).1 (ne_of_isWordChar hc (by decide))
  next heq =>
    obtain ⟨-, rfl⟩ := List.cons.inj heq
    rfl
  next hbracket => exact absurd rfl (hbracket _)

/-- A header in double brackets, behind an empty line. -/
lemma leads_elementLine {word : String} (hword : IsWord word)
    (h : openElement? ⟨[], word⟩ es = some es') :
    Leads ⟨t, es⟩ ('\n' :: '[' :: '[' :: (word.toList ++ [']', ']', '\n'])) ⟨[word], es'⟩ := by
  refine (leads_newline ⟨t, es⟩).append (Leads.line (by decide) fun rest => ?_)
  have hkey : key (word.toList ++ ']' :: ']' :: '\n' :: rest) =
      some (⟨[], word⟩, ']' :: ']' :: '\n' :: rest) :=
    key_word hword (by decide) (by decide) rfl
  have hheader : elementHeader ⟨t, es⟩ (word.toList ++ ']' :: ']' :: '\n' :: rest) =
      some (⟨[word], es'⟩, rest) := by
    rw [elementHeader]
    simp only [hkey, char?, if_true, lineEnd?_newline, h, List.nil_append, Option.bind_eq_bind,
      Option.bind_some]
  rw [← hheader, line, List.cons_append, List.cons_append, skipBlanks_cons (by decide),
    List.append_assoc]
  rfl

/-! ### Drafts -/

lemma lookup_sealEntries (es : Entries) (k : String) :
    (sealEntries es).lookup k = (es.lookup k).map Node.seal := by
  induction es with
  | nil => rfl
  | cons e es ih =>
      obtain ⟨name, n⟩ := e
      rw [sealEntries, List.lookup_cons, List.lookup_cons, ih]
      cases k == name <;> rfl

lemma lookup_snoc {es : Entries} {k : String} (h : es.lookup k = none) (n : Node) :
    (es ++ [(k, n)]).lookup k = some n := by
  rw [List.lookup_append, h, Option.none_or, List.lookup_cons_self]

lemma replace_snoc {es : Entries} {k : String} (h : es.lookup k = none) (n n' : Node) :
    Entries.replace k n' (es ++ [(k, n)]) = es ++ [(k, n')] := by
  have hkeep : ∀ e ∈ es, (if e.1 = k then (k, n') else e) = e := by
    intro e he
    have hne := List.lookup_eq_none_iff.mp h e he
    rw [if_neg fun heq => by simp [heq] at hne]
  rw [Entries.replace, List.map_append, List.map_congr_left hkeep, List.map_id']
  simp

lemma mapLast?_snoc {α : Type} (f : α → Option α) (xs : List α) (x : α) :
    mapLast? f (xs ++ [x]) = (f x).map fun y => xs ++ [y] := by
  induction xs with
  | nil => rfl
  | cons a xs ih =>
      rw [List.cons_append, mapLast?, ih, Option.map_map]
      · rfl
      · simp

/-- A value for a key that the open table does not have yet. -/
lemma assign?_root {es : Entries} {k : String} (h : es.lookup k = none) (v : Value) :
    assign? [] ⟨[], k⟩ v es = some (es ++ [(k, .value v)]) := by
  rw [assign?, within?, insertDotted?, h]
  rfl

lemma assign?_table {es : Entries} {name k : String} (hname : es.lookup name = none)
    (sub : Entries) (h : sub.lookup k = none) (v : Value) :
    assign? [name] ⟨[], k⟩ v (es ++ [(name, .table .header sub)]) =
      some (es ++ [(name, .table .header (sub ++ [(k, .value v)]))]) := by
  rw [assign?, within?, lookup_snoc hname]
  simp only [within?, insertDotted?, h, Option.isSome_none, Bool.false_eq_true, if_false,
    Option.map_some, replace_snoc hname]

lemma openTable?_new {es : Entries} {name : String} (h : es.lookup name = none) :
    openTable? ⟨[], name⟩ es = some (es ++ [(name, .table .header [])]) := by
  rw [openTable?, within?, h]

/-- The entries with the tables of double brackets under a key, which is not
mentioned before the first of them. -/
def withElements (name : String) (es : Entries) (els : List Entries) : Entries :=
  if els.isEmpty then es else es ++ [(name, .tables els)]

lemma withElements_snoc (name : String) (es : Entries) (els : List Entries) (el : Entries) :
    withElements name es (els ++ [el]) = es ++ [(name, .tables (els ++ [el]))] := by
  rw [withElements, if_neg (by simp)]

lemma lookup_withElements {es : Entries} {k : String} {n : Node} (h : es.lookup k = some n)
    (name : String) (els : List Entries) : (withElements name es els).lookup k = some n := by
  rw [withElements]
  split_ifs
  · exact h
  · rw [List.lookup_append, h, Option.some_or]

/-- A value for a key that the last of these tables does not have yet. -/
lemma assign?_withElements {es : Entries} {name k : String} (hname : es.lookup name = none)
    (els : List Entries) (sub : Entries) (h : sub.lookup k = none) (v : Value) :
    assign? [name] ⟨[], k⟩ v (withElements name es (els ++ [sub])) =
      some (withElements name es (els ++ [sub ++ [(k, .value v)]])) := by
  rw [withElements_snoc, withElements_snoc, assign?, within?, lookup_snoc hname]
  simp only [within?, insertDotted?, h, Option.isSome_none, Bool.false_eq_true, if_false,
    Option.map_some, replace_snoc hname, mapLast?_snoc]

lemma openElement?_withElements {es : Entries} {name : String} (h : es.lookup name = none)
    (els : List Entries) :
    openElement? ⟨[], name⟩ (withElements name es els) =
      some (withElements name es (els ++ [[]])) := by
  rw [withElements_snoc, openElement?, within?, withElements]
  cases els with
  | nil => simp [h]
  | cons el els => simp [lookup_snoc h, replace_snoc h]

end Vendoring.Toml

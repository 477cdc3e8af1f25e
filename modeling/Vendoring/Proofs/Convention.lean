/-
Which texts follow a naming convention.

* `counting`, `lastPart?`: the parts of a name between separators that count, and
  the last of them, said of texts;
* `Path.components_eq`, `Path.fileName?_eq_some_iff`: the components of a path are
  its parts that count, behind the root if it is absolute;
* `Path.splitLastDot_eq_some_iff`, `Path.extension?_eq_some_iff`: what an extension
  is, in terms of these;
* `splitSlashes_ofString`, `getLast?_counting_ofString`: cutting a text and cutting
  its bytes come to the same;
* `Rule.accepts_iff` (**the convention, text by text**);
* `Rule.conforms`: with it, which rules mark nothing at all, and which mark exactly
  the names that their printed form describes.
-/
import Mathlib.Tactic
import Vendoring.Proofs.Clean
import Vendoring.Proofs.Encoding
import Vendoring.Proofs.Validation

namespace Vendoring

/-! ### Parts that count -/

section Counting

variable {α β : Type} [DecidableEq α] [DecidableEq β]

/-- The parts that count: empty ones do not, nor do those that stay in place, but
for the first. -/
def counting (here : List α) : List (List α) → List (List α)
  | [] => []
  | first :: rest =>
    (if first = [] then [] else [first]) ++ rest.filter fun part => part ≠ [] ∧ part ≠ here

/-- Nothing but parts counts. -/
lemma mem_of_mem_counting {here part : List α} {parts : List (List α)}
    (h : part ∈ counting here parts) : part ∈ parts := by
  cases parts with
  | nil => exact h
  | cons first rest =>
      rw [counting, List.mem_append] at h
      rcases h with hfirst | hrest
      · split_ifs at hfirst
        · cases hfirst
        · exact List.mem_cons.mpr (Or.inl (List.mem_singleton.mp hfirst))
      · exact List.mem_cons_of_mem _ (List.mem_filter.mp hrest).1

/-- The same parts count however they are spelled. -/
lemma counting_map {f : List α → List β} (hf : Function.Injective f) (hnil : f [] = [])
    (here : List α) (parts : List (List α)) :
    counting (f here) (parts.map f) = (counting here parts).map f := by
  have hempty : ∀ part, f part = [] ↔ part = [] := by
    intro part
    rw [← hnil, hf.eq_iff]
  cases parts with
  | nil => rfl
  | cons first rest =>
      have hcounts : (fun part => decide (part ≠ [] ∧ part ≠ f here)) ∘ f =
          fun part => decide (part ≠ [] ∧ part ≠ here) := by
        funext part
        simp [hempty, hf.eq_iff]
      rw [List.map_cons, counting, counting, List.map_append, List.filter_map, hcounts]
      by_cases hfirst : first = []
      · simp [hfirst, hnil]
      · simp [hfirst, hempty]

end Counting

/-- The last part of a name that counts. -/
def lastPart? (name : String) : Option String :=
  (counting ['.'] (name.toList.splitOn '/')).getLast?.map String.ofList

/-! ### Components and extensions -/

namespace Path

lemma ofPart_eq_here_iff {n : Name} : Component.ofPart n = .here ↔ n = Name.here := by
  rw [Component.ofPart]
  split_ifs <;> simp_all

/-- **The components** of a path are its parts that count. -/
lemma components_eq (p : Path) :
    p.components = (if p.isAbsolute then [.root] else []) ++
      (counting Name.here (splitSlashes p.bytes)).map Component.ofPart := by
  have hfilter : ∀ parts : List Name,
      ((parts.filter (!·.isEmpty)).map Component.ofPart).filter (· ≠ .here) =
        (parts.filter fun part => part ≠ [] ∧ part ≠ Name.here).map Component.ofPart := by
    intro parts
    rw [List.filter_map, List.filter_filter]
    congr 1
    refine List.filter_congr fun part _ => ?_
    rw [Bool.eq_iff_iff]
    simp [ofPart_eq_here_iff, and_comm]
  rw [components, parts]
  cases hb : p.bytes with
  | nil =>
      rw [isAbsolute, hb]
      rfl
  | cons x rest =>
      rw [isAbsolute, hb]
      by_cases hx : x = slash
      · simp only [splitSlashes, hx, List.head?_cons, beq_self_eq_true, if_true, counting,
          List.filter_cons, List.isEmpty_nil, Bool.not_true, Bool.false_eq_true, if_false]
        rw [hfilter]
        rfl
      · cases hrest : splitSlashes rest with
        | nil => exact absurd hrest (splitSlashes_ne_nil rest)
        | cons part parts =>
            -- the first part counts whatever it is
            have hrelative : (some x == some slash) = false := by simpa using hx
            simp only [splitSlashes, hx, if_false, hrest, List.head?_cons, hrelative,
              Bool.false_eq_true, counting, List.cons_ne_nil, List.filter_cons,
              List.isEmpty_cons, Bool.not_false, if_true, List.map_cons, List.nil_append,
              List.singleton_append]
            rw [← hfilter]
            cases Component.ofPart (x :: part) <;> simp

/-- **The file name** is the last part that counts, if it stands for an entry. -/
lemma fileName?_eq_some_iff {p : Path} {n : Name} :
    p.fileName? = some n ↔
      (counting Name.here (splitSlashes p.bytes)).getLast? = some n ∧
        n ≠ Name.here ∧ n ≠ Name.up := by
  have hnormal : ∀ m : Name, Component.ofPart m = .normal n ↔
      m = n ∧ n ≠ Name.here ∧ n ≠ Name.up := by
    intro m
    rw [Component.ofPart]
    split_ifs <;> grind
  have hname : p.fileName? = some n ↔ p.components.getLast? = some (.normal n) := by
    rw [fileName?]
    split <;> simp_all
  rw [hname, components_eq]
  cases hparts : counting Name.here (splitSlashes p.bytes) using List.reverseRecOn with
  | nil => split_ifs <;> simp
  | append_singleton parts last =>
      rw [List.map_append, ← List.append_assoc, List.map_singleton, List.getLast?_concat,
        List.getLast?_concat, Option.some.injEq, Option.some.injEq, hnormal]

/-- A name is cut at its last dot. -/
lemma splitLastDot_eq_some_iff {n stem extension : Bytes} :
    splitLastDot n = some (stem, extension) ↔ n = stem ++ dot :: extension ∧ dot ∉ extension := by
  have hback : n.reverse.takeWhile (· ≠ dot) ++ n.reverse.dropWhile (· ≠ dot) = n.reverse :=
    List.takeWhile_append_dropWhile
  constructor
  · intro h
    simp only [splitLastDot] at h
    split at h
    · cases h
    · next x rest hdrop =>
      obtain ⟨rfl, rfl⟩ := Prod.mk.inj (Option.some.inj h)
      have hx : x = dot := by
        have hhead := List.head?_dropWhile_not (fun b => b ≠ dot) n.reverse
        rw [hdrop] at hhead
        simpa using hhead
      rw [hdrop, hx] at hback
      refine ⟨?_, fun hmem => ?_⟩
      · have hn := congrArg List.reverse hback
        rw [List.reverse_append, List.reverse_cons, List.append_assoc, List.reverse_reverse] at hn
        exact hn.symm
      · have htail := List.all_eq_true.mp List.all_takeWhile dot (List.mem_reverse.mp hmem)
        simp at htail
  · rintro ⟨rfl, hdot⟩
    have hall : ∀ b ∈ extension.reverse, (fun b => decide (b ≠ dot)) b = true := by
      intro b hb
      have hne : b ≠ dot := by
        rintro rfl
        exact hdot (List.mem_reverse.mp hb)
      simpa using hne
    have hreverse : (stem ++ dot :: extension).reverse =
        extension.reverse ++ dot :: stem.reverse := by
      simp
    simp only [splitLastDot, hreverse, List.takeWhile_append_of_pos hall,
      List.dropWhile_append_of_pos hall]
    simp

/-- **The extension** is what follows the last dot of the file name, if something
stands before that dot. -/
lemma extension?_eq_some_iff {p : Path} {extension : Bytes} :
    p.extension? = some extension ↔
      ∃ stem, stem ≠ [] ∧ p.fileName? = some (stem ++ dot :: extension) ∧ dot ∉ extension := by
  have hcut : p.extension? = some extension ↔
      ∃ stem n, stem ≠ [] ∧ p.fileName? = some n ∧ splitLastDot n = some (stem, extension) := by
    rw [extension?]
    cases p.fileName? with
    | none => simp
    | some n =>
        rw [Option.bind_some]
        rcases hn : splitLastDot n with _ | ⟨_ | ⟨x, stem⟩, tail⟩ <;> simp [hn]
  rw [hcut]
  simp only [splitLastDot_eq_some_iff]
  constructor
  · rintro ⟨stem, _, hstem, hname, rfl, hdot⟩
    exact ⟨stem, hstem, hname, hdot⟩
  · rintro ⟨stem, hstem, hname, hdot⟩
    exact ⟨stem, _, hstem, hname, rfl, hdot⟩

/-- An extension has no separator. -/
lemma slash_notMem_of_extension? {p : Path} {extension : Bytes}
    (h : p.extension? = some extension) : slash ∉ extension := by
  obtain ⟨stem, _, hname, _⟩ := extension?_eq_some_iff.mp h
  have hpart := mem_of_mem_counting (List.mem_of_getLast? (fileName?_eq_some_iff.mp hname).1)
  intro hslash
  exact (mem_of_mem_splitSlashes hpart (by simp [hslash])).2 rfl

end Path

/-! ### Texts cut at separators and dots -/

/-- What stands in front of the first separator goes to the first part. -/
lemma splitSlashes_append_bare {a : Bytes} (h : slash ∉ a) (b : Bytes) :
    splitSlashes (a ++ b) = (splitSlashes b).modifyHead (a ++ ·) := by
  induction a with
  | nil =>
      rw [List.nil_append]
      cases splitSlashes b <;> rfl
  | cons x rest ih =>
      rw [List.mem_cons, not_or] at h
      rw [List.cons_append, splitSlashes, if_neg (Ne.symm h.1), ih h.2]
      cases hb : splitSlashes b with
      | nil => exact absurd hb (splitSlashes_ne_nil b)
      | cons part parts => rfl

/-- The bytes of a character other than the separator have no separator. -/
lemma slash_notMem_utf8EncodeChar {c : Char} (hc : c ≠ '/') :
    slash ∉ String.utf8EncodeChar c := by
  have hmem := Bytes.mem_ofString_of_ascii (c := '/') (by decide) (String.ofList [c])
  rw [Bytes.ofString_ofList, List.flatMap_singleton, String.toList_ofList,
    List.mem_singleton] at hmem
  exact fun h => hc (hmem.mp h).symm

/-- **A text is cut** at its separators as its bytes are. -/
lemma splitSlashes_ofString (cs : List Char) :
    splitSlashes (Bytes.ofString (String.ofList cs)) =
      (cs.splitOn '/').map fun part => Bytes.ofString (String.ofList part) := by
  induction cs with
  | nil => rfl
  | cons c cs ih =>
      rw [Utf8.ofString_cons, List.splitOn_cons_eq_if_modifyHead]
      by_cases hc : c = '/'
      · have hslash : String.utf8EncodeChar '/' = [slash] := by decide
        rw [hc, hslash, List.singleton_append, splitSlashes, if_pos rfl, ih]
        rfl
      · have hne : (c == '/') = false := by simpa using hc
        rw [splitSlashes_append_bare (slash_notMem_utf8EncodeChar hc), ih]
        simp only [hne, Bool.false_eq_true, if_false]
        cases cs.splitOn '/' with
        | nil => rfl
        | cons part parts => rw [List.map_cons, List.modifyHead_cons, List.modifyHead_cons,
            List.map_cons, Utf8.ofString_cons]

/-- The last part of a text that counts is that of its bytes. -/
lemma getLast?_counting_ofString (name : String) :
    (counting Name.here (splitSlashes (Bytes.ofString name))).getLast? =
      (lastPart? name).map Bytes.ofString := by
  have hinj : Function.Injective fun cs : List Char => Bytes.ofString (String.ofList cs) := by
    intro cs ds h
    exact String.ofList_injective (Bytes.ofString_inj.mp h)
  have hhere : Name.here = Bytes.ofString (String.ofList ['.']) := by decide
  rw [← String.ofList_toList (s := name), splitSlashes_ofString, hhere,
    counting_map hinj rfl, List.getLast?_map, lastPart?, String.toList_ofList, Option.map_map]
  rfl

/-- A text with a dot is cut at its last one. -/
lemma exists_last_dot {s : String} (h : '.' ∈ s.toList) :
    ∃ stem extension, s = stem ++ "." ++ extension ∧ '.' ∉ extension.toList := by
  obtain ⟨back, front, hreverse, hback⟩ := List.eq_append_cons_of_mem (List.mem_reverse.mpr h)
  refine ⟨String.ofList front.reverse, String.ofList back.reverse, ?_, by simpa using hback⟩
  have hs := congrArg List.reverse hreverse
  rw [List.reverse_reverse] at hs
  rw [← String.toList_inj]
  simp [hs]

lemma ofString_dotted (stem extension : String) :
    Bytes.ofString (stem ++ "." ++ extension) =
      Bytes.ofString stem ++ dot :: Bytes.ofString extension := by
  have hdot : Bytes.ofString "." = [dot] := by decide
  rw [Bytes.ofString_append, Bytes.ofString_append, hdot, List.append_assoc]
  rfl

lemma dot_mem_ofString_iff (s : String) : dot ∈ Bytes.ofString s ↔ '.' ∈ s.toList :=
  Bytes.mem_ofString_of_ascii (c := '.') (by decide) s

/-- **The extension of a text.** -/
lemma extension?_ofString_iff {name extension : String} :
    Path.extension? ⟨Bytes.ofString name⟩ = some (Bytes.ofString extension) ↔
      '.' ∉ extension.toList ∧ ∃ last, lastPart? name = some last ∧ last ≠ ".." ∧
        ∃ stem, stem ≠ "" ∧ last = stem ++ "." ++ extension := by
  have hup : Name.up = Bytes.ofString ".." := by decide
  rw [Path.extension?_eq_some_iff]
  simp only [Path.fileName?_eq_some_iff, getLast?_counting_ofString, Option.map_eq_some_iff,
    dot_mem_ofString_iff]
  constructor
  · rintro ⟨stem, hstem, ⟨⟨last, hlast, hbytes⟩, _, hne⟩, hdot⟩
    have hmem : '.' ∈ last.toList := by
      rw [← dot_mem_ofString_iff, hbytes]
      simp
    -- the text is cut where its bytes are
    obtain ⟨front, back, rfl, hback⟩ := exists_last_dot hmem
    have hsplit := Path.splitLastDot_eq_some_iff.mpr
      ⟨ofString_dotted front back, mt (dot_mem_ofString_iff back).mp hback⟩
    have hsplit' := Path.splitLastDot_eq_some_iff.mpr
      ⟨hbytes, mt (dot_mem_ofString_iff extension).mp hdot⟩
    rw [hsplit, Option.some.injEq, Prod.mk.injEq, Bytes.ofString_inj] at hsplit'
    obtain ⟨rfl, rfl⟩ := hsplit'
    refine ⟨hdot, _, hlast, ?_, front, ?_, rfl⟩
    · rintro heq
      rw [← hbytes, heq] at hne
      exact hne hup.symm
    · rintro rfl
      exact hstem rfl
  · rintro ⟨hdot, last, hlast, hne, stem, hstem, rfl⟩
    have hnil : Bytes.ofString stem ≠ [] := fun h => hstem (Bytes.ofString_inj.mp h)
    refine ⟨Bytes.ofString stem, hnil, ⟨⟨_, hlast, ofString_dotted stem extension⟩, ?_, ?_⟩, hdot⟩
    · intro h
      have hlength := congrArg List.length h
      have := List.length_pos_iff.mpr hnil
      simp [Name.here] at hlength
      omega
    · rw [← ofString_dotted, hup, Ne, Bytes.ofString_inj]
      exact hne

/-- A name without a separator is its own last part. -/
lemma lastPart?_of_bare {name : String} (hne : name ≠ "") (hbare : '/' ∉ name.toList) :
    lastPart? name = some name := by
  have hnil : name.toList ≠ [] := by simpa using hne
  rw [lastPart?, List.splitOn_eq_singleton hbare, counting, if_neg hnil]
  simp

/-! ### Rules -/

namespace Rule

variable {r : Rule}

/-- **The convention, text by text**: a name begins with the stem, and its last
part is something, a dot and the extension. -/
lemma accepts_iff {name : String} :
    r.accepts (Bytes.ofString name) = true ↔
      (∃ rest, name = r.stem ++ rest) ∧ '.' ∉ r.extension.toList ∧
        ∃ last, lastPart? name = some last ∧ last ≠ ".." ∧
          ∃ stem, stem ≠ "" ∧ last = stem ++ "." ++ r.extension := by
  have hstem : Bytes.ofString r.stem <+: Bytes.ofString name ↔ ∃ rest, name = r.stem ++ rest := by
    rw [Utf8.ofString_prefix_iff]
    constructor
    · rintro ⟨rest, hrest⟩
      refine ⟨String.ofList rest, ?_⟩
      rw [← String.toList_inj, String.toList_append, String.toList_ofList, hrest]
    · rintro ⟨rest, rfl⟩
      rw [String.toList_append]
      exact List.prefix_append _ _
  rw [accepts, Bool.and_eq_true, List.isPrefixOf_iff_prefix, beq_iff_eq, hstem,
    extension?_ofString_iff]

/-- An extension with a dot or a separator is no name's extension. -/
lemma accepts_eq_false (h : '.' ∈ r.extension.toList ∨ '/' ∈ r.extension.toList) (name : Bytes) :
    r.accepts name = false := by
  rw [Bool.eq_false_iff]
  intro haccepts
  rw [accepts, Bool.and_eq_true, beq_iff_eq] at haccepts
  rcases h with hdot | hslash
  · obtain ⟨_, _, _, hnot⟩ := Path.extension?_eq_some_iff.mp haccepts.2
    exact hnot ((dot_mem_ofString_iff _).mpr hdot)
  · exact Path.slash_notMem_of_extension? haccepts.2
      ((Bytes.mem_ofString_of_ascii (c := '/') (by decide) _).mpr hslash)

/-- Where nothing is accepted, nothing is removed. -/
lemma clean_of_accepts_nothing (h : ∀ name, r.accepts name = false) (w : Workspace) (dir : Path) :
    (clean w dir r).workspace = w ∧ (clean w dir r).trace = [] ∧
      ∀ removed, (clean w dir r).result = .ok removed → removed = [] := by
  have hmarked : ∀ names, markedPaths dir r names = [] := by
    intro names
    have hfilter : names.filter r.marks = [] := List.filter_eq_nil_iff.mpr fun n _ => by
      simp [marks, h]
    rw [markedPaths, hfilter, List.map_nil, List.mergeSort_nil]
  rw [clean]
  cases hlist : w.list dir with
  | error e => exact ⟨rfl, rfl, fun removed hremoved => by cases hremoved⟩
  | ok names =>
      simp only [cleanListed, hmarked]
      exact ⟨rfl, rfl, fun removed hremoved => (Except.ok.inj hremoved).symm⟩

/-- The name that the convention makes of a text. -/
def filled (r : Rule) (text : String) : String := r.stem ++ text ++ "." ++ r.extension

lemma pattern_eq (r : Rule) : r.pattern = r.filled "*" := by
  have hstar : "*." = "*" ++ "." := rfl
  simp only [pattern, filled, hstar, String.append_assoc]

/-- A dot that stands behind what has none stands behind all of it. -/
lemma exists_middle {stem front back rest : String} (hstem : '.' ∉ stem.toList)
    (h : stem ++ rest = front ++ "." ++ back) : ∃ middle, front = stem ++ middle := by
  have hlist : stem.toList ++ rest.toList = front.toList ++ '.' :: back.toList := by
    have := congrArg String.toList h
    simpa using this
  rcases List.append_eq_append_iff.mp hlist with ⟨middle, hfront, _⟩ | ⟨middle, hlong, hrest⟩
  · refine ⟨String.ofList middle, ?_⟩
    rw [← String.toList_inj]
    simp [hfront]
  · cases middle with
    | nil =>
        refine ⟨"", ?_⟩
        rw [← String.toList_inj]
        simp [hlong]
    | cons c middle =>
        rw [List.cons_append, List.cons.injEq] at hrest
        rw [hlong, ← hrest.1] at hstem
        simp at hstem

/-- **Names in a directory** follow a plain convention exactly when they are made
of it. -/
lemma accepts_iff_filled (hne : r.stem ≠ "") (hstem : '.' ∉ r.stem.toList)
    (hextension : '.' ∉ r.extension.toList) {name : String} (hbare : '/' ∉ name.toList) :
    r.accepts (Bytes.ofString name) = true ↔ ∃ text, name = r.filled text := by
  rw [accepts_iff]
  constructor
  · rintro ⟨⟨rest, hname⟩, _, last, hlast, _, front, _, hfront⟩
    have hnonempty : name ≠ "" := by
      rintro rfl
      have hempty := congrArg String.toList hname
      simp [hne] at hempty
    rw [lastPart?_of_bare hnonempty hbare, Option.some.injEq] at hlast
    obtain ⟨middle, hmiddle⟩ := exists_middle hstem (hname ▸ hlast ▸ hfront)
    exact ⟨middle, by rw [hlast, hfront, hmiddle, filled]⟩
  · rintro ⟨text, rfl⟩
    obtain ⟨c, cs, hcs⟩ := List.exists_cons_of_ne_nil (l := r.stem.toList) (by simpa using hne)
    have hfirst : (r.filled text).toList =
        c :: (cs ++ text.toList ++ '.' :: r.extension.toList) := by
      simp [filled, hcs]
    refine ⟨⟨text ++ "." ++ r.extension, ?_⟩, hextension, _, lastPart?_of_bare ?_ hbare, ?_,
      r.stem ++ text, ?_, rfl⟩
    · rw [filled, String.append_assoc, String.append_assoc, String.append_assoc]
    · rw [Ne, ← String.toList_inj, hfirst]
      simp
    · -- two dots begin with a dot
      intro hup
      rw [hup] at hfirst
      have hc : '.' = c := (List.cons.inj hfirst).1
      rw [hcs, hc] at hstem
      simp at hstem
    · intro hempty
      have := congrArg String.toList hempty
      simp [hcs] at this

/-- **What a convention describes**: which texts follow it.  A rule whose extension
has a dot or a separator is followed by no name, so that no artifact list is valid
under it and nothing is ever removed.  Under a plain rule, the names without a
separator that follow it are those of its printed form, with any text for the
star. -/
theorem conforms (r : Rule) :
    (∀ name, r.accepts (Bytes.ofString name) = true ↔
      (∃ rest, name = r.stem ++ rest) ∧ '.' ∉ r.extension.toList ∧
        ∃ last, lastPart? name = some last ∧ last ≠ ".." ∧
          ∃ stem, stem ≠ "" ∧ last = stem ++ "." ++ r.extension) ∧
    ('.' ∈ r.extension.toList ∨ '/' ∈ r.extension.toList →
      (∀ name, r.accepts name = false) ∧
      (∀ c : Config, c.generated = r → ∃ e, c.validate = .error e) ∧
      ∀ w dir, (clean w dir r).workspace = w ∧ (clean w dir r).trace = [] ∧
        ∀ removed, (clean w dir r).result = .ok removed → removed = []) ∧
    (r.stem ≠ "" → ('.' ∉ r.stem.toList ∧ '/' ∉ r.stem.toList) →
      ('.' ∉ r.extension.toList ∧ '/' ∉ r.extension.toList) →
      r.pattern = r.filled "*" ∧ ∀ name, '/' ∉ name.toList →
        (r.accepts (Bytes.ofString name) = true ↔ ∃ text, name = r.filled text)) := by
  refine ⟨fun name => accepts_iff, fun h => ?_, fun hne hstem hextension =>
    ⟨r.pattern_eq, fun name hbare => accepts_iff_filled hne hstem.1 hextension.1 hbare⟩⟩
  have hnothing := accepts_eq_false h
  refine ⟨hnothing, fun c hc => ?_, clean_of_accepts_nothing hnothing⟩
  cases hvalid : c.validate with
  | error e => exact ⟨e, rfl⟩
  | ok u =>
      have hc' := Config.validate_eq_ok_iff.mp hvalid
      obtain ⟨a, ha⟩ := List.exists_mem_of_ne_nil _ hc'.ne_nil
      have haccepts := hc'.accepts a ha
      rw [hc, hnothing] at haccepts
      cases haccepts

theorem conforms_sample :
    (∀ c : Config, c.generated = ⟨"generated_", "tar.gz"⟩ → ∃ e, c.validate = .error e) ∧
      ∃ text, "generated_v1.pb.go" = standard.filled text := by
  obtain ⟨_, hnothing, _⟩ := conforms ⟨"generated_", "tar.gz"⟩
  obtain ⟨_, _, hplain⟩ := conforms standard
  obtain ⟨_, hfilled⟩ := hplain (by decide) (by decide) (by decide)
  exact ⟨(hnothing (by decide)).2.1,
    (hfilled "generated_v1.pb.go" (by decide)).mp (by decide)⟩

end Rule

end Vendoring

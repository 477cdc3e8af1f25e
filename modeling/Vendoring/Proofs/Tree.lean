/-
The entries of a file tree, one by one.

* `get?_erase`, `get?_eraseAll`, `get?_insert`: what is found at each location
  after entries are taken away or put in;
* `mem_names`: a directory lists the names under which an entry is found, those
  of the locations directly inside it (`mem_names_iff_listed`);
* `nodup_names`: it lists none of them twice.
-/
import Mathlib.Tactic
import Vendoring.FileTree.Basic

namespace Vendoring

namespace FileTree

variable {t : FileTree} {l dir : Location} {n : Name}

@[simp] lemma get?_root (t : FileTree) : t.get? [] = some .directory := rfl

/-! ### Entries put in and taken away -/

/-- What a filter of the keys keeps is found as before, and nothing else is. -/
lemma lookup_filter (kept : Location → Bool) (es : List (Location × Entry)) (k : Location) :
    (es.filter fun x => kept x.1).lookup k = if kept k then es.lookup k else none := by
  induction es with
  | nil => simp
  | cons x es ih =>
      obtain ⟨a, e⟩ := x
      rw [List.filter_cons, List.lookup_cons]
      by_cases hk : k = a
      · subst hk
        cases ha : kept k with
        | false => simp [ih, ha]
        | true => simp
      · have hne : (k == a) = false := beq_eq_false_iff_ne.mpr hk
        cases ha : kept a with
        | false => simp [ih, hne]
        | true => simp [List.lookup_cons, ih, hne]

/-- Erasing an entry hides it and nothing else. -/
lemma get?_erase (h : l ≠ []) (k : Location) :
    (t.erase l).get? k = if k = l then none else t.get? k := by
  rw [get?, get?, erase, lookup_filter fun k => k ≠ l]
  by_cases hk : k = []
  · simp [hk, Ne.symm h]
  · by_cases hl : k = l <;> simp [hk, hl, h]

/-- Erasing all from a location on hides what is there and nothing else. -/
lemma get?_eraseAll (h : l ≠ []) (k : Location) :
    (t.eraseAll l).get? k = if l.isPrefixOf k then none else t.get? k := by
  rw [get?, get?, eraseAll, lookup_filter fun k => !l.isPrefixOf k]
  by_cases hk : k = []
  · simp [hk, h]
  · cases hl : l.isPrefixOf k <;> simp [hk]

/-- An inserted entry is found, and every other one is as before. -/
lemma get?_insert {e : Entry} (h : l ≠ []) (k : Location) :
    (t.insert l e).get? k = if k = l then some e else t.get? k := by
  by_cases hk : k = []
  · simp [hk, Ne.symm h]
  · by_cases hl : k = l
    · simp [get?, insert, hl, h]
    · have herase := get?_erase (t := t) h k
      rw [get?, if_neg hk, if_neg hl] at herase
      rw [get?, if_neg hk, if_neg hl, insert, List.lookup_cons, beq_eq_false_iff_ne.mpr hl, herase]

/-! ### The names in a directory -/

/-- The name of a location directly inside `dir`. -/
def nameIn? (dir l : Location) : Option Name :=
  match l.getLast? with
  | some n => if l = dir ++ [n] then some n else none
  | none => none

lemma nameIn?_eq_some_iff : nameIn? dir l = some n ↔ l = dir ++ [n] := by
  rw [nameIn?]
  constructor
  · intro h
    split at h
    · split_ifs at h with hl
      cases h
      exact hl
    · cases h
  · rintro rfl
    simp

/-- The names in a directory are read off the locations of the tree. -/
lemma names_eq (t : FileTree) (dir : Location) :
    t.names dir = (t.entries.map Prod.fst).filterMap (nameIn? dir) := by
  rw [List.filterMap_map]
  rfl

lemma isSome_get?_iff (h : l ≠ []) : (t.get? l).isSome ↔ l ∈ t.entries.map Prod.fst := by
  rw [get?, if_neg h, List.lookup_isSome_iff]
  simp

lemma mem_names_iff_listed : n ∈ t.names dir ↔ dir ++ [n] ∈ t.entries.map Prod.fst := by
  rw [names_eq, List.mem_filterMap]
  simp only [nameIn?_eq_some_iff, exists_eq_right]

/-- The names in a directory are those under which an entry is found. -/
lemma mem_names : n ∈ t.names dir ↔ (t.get? (dir ++ [n])).isSome := by
  rw [mem_names_iff_listed, isSome_get?_iff (by simp)]

/-- No name occurs twice in a directory. -/
lemma nodup_names (t : FileTree) (dir : Location) : (t.names dir).Nodup := by
  rw [names_eq]
  refine t.nodup.filterMap fun l l' n hn hn' => ?_
  rw [nameIn?_eq_some_iff.mp hn, nameIn?_eq_some_iff.mp hn']

end FileTree

end Vendoring

import Mathlib.Data.List.Nodup
import TenantAccess.LabelMap

/-!
# Labelled entries are all there is to a map

The entries of a `LabelMap` stand in the order of their labels, so a map is determined by which
entries it holds (`LabelMap.eq_of_mem_iff`), and nothing is left in it of how it was filled. Filling
a map with entries under different labels puts them beside the entries whose labels they do not take
(`LabelMap.mem_insertAll_iff`). So they may be put in any order (`LabelMap.insertAll_perm`), and a
map that is filled with the entries of another is the other (`LabelMap.ofList_entries`).
`LabelMap.relabel` gives a map other labels, under which the entries may stand in another order.
-/

namespace TenantAccess.LabelMap

variable {α : Type} {m m' : LabelMap α} {label : String} {value : α} {e e' : String × α}
  {added added' : List (String × α)}

/-- An entry of a map is known by its label. -/
theorem entry_inj (he : e ∈ m.entries) (he' : e' ∈ m.entries) (hlabel : e.1 = e'.1) : e = e' := by
  have hne : ∀ {a b : String × α}, a.1 < b.1 → a.1 ≠ b.1 :=
    fun hlt heq => String.lt_irrefl _ (heq ▸ hlt)
  have hpair : m.entries.Pairwise fun a b => a.1 = b.1 → a = b :=
    m.ascending.imp fun hlt heq => absurd heq (hne hlt)
  have hflip : m.entries.Pairwise fun a b => b.1 = a.1 → b = a :=
    m.ascending.imp fun hlt heq => absurd heq.symm (hne hlt)
  exact hpair.forall_of_forall_of_flip (fun _ _ _ => rfl) hflip he he' hlabel

/-- No label stands over two entries. -/
theorem nodup_labels (m : LabelMap α) : (m.entries.map Prod.fst).Nodup := by
  refine List.pairwise_map.2 (m.ascending.imp fun hlt heq => ?_)
  exact String.lt_irrefl _ (heq ▸ hlt)

/-- The entries in front of one are those with lesser labels. -/
theorem mem_before_iff {before later : List (String × α)} (h : m.entries = before ++ e :: later)
    (he' : e' ∈ m.entries) : e' ∈ before ↔ e'.1 < e.1 := by
  have hasc := m.ascending
  rw [h] at hasc he'
  obtain ⟨-, hrest, hbefore⟩ := List.pairwise_append.1 hasc
  constructor
  · intro hmem
    exact hbefore e' hmem e List.mem_cons_self
  · intro hlt
    rcases List.mem_append.1 he' with hmem | hmem
    · exact hmem
    rcases List.mem_cons.1 hmem with rfl | hmem
    · exact absurd hlt (String.lt_irrefl _)
    · exact absurd (String.lt_trans hlt ((List.pairwise_cons.1 hrest).1 e' hmem))
        (String.lt_irrefl _)

/-- Maps that hold the same entries are equal. -/
theorem eq_of_mem_iff (h : ∀ e, e ∈ m.entries ↔ e ∈ m'.entries) : m = m' := by
  have hperm : m.entries.Perm m'.entries :=
    (List.perm_ext_iff_of_nodup (List.Nodup.of_map _ m.nodup_labels)
      (List.Nodup.of_map _ m'.nodup_labels)).2 h
  refine LabelMap.ext (List.Perm.eq_of_pairwise (fun a b _ _ hab hba => ?_) m.ascending m'.ascending
    hperm)
  exact absurd (String.lt_trans hab hba) (String.lt_irrefl _)

/-! ## Filling a map -/

/-- An insertion takes the place of the entry under its label and leaves the others. -/
theorem mem_insertEntry_iff {entries : List (String × α)}
    (h : entries.Pairwise fun a b => a.1 < b.1) :
    e ∈ insertEntry label value entries ↔ e = (label, value) ∨ e ∈ entries ∧ e.1 ≠ label := by
  induction entries with
  | nil => simp [insertEntry]
  | cons first rest ih =>
    obtain ⟨l, v⟩ := first
    obtain ⟨hfirst, hrest⟩ := List.pairwise_cons.1 h
    rw [insertEntry]
    split_ifs with hlt heq
    · -- all labels are greater, so no entry gives way
      have hother : ∀ e' ∈ (l, v) :: rest, e'.1 ≠ label := by
        intro e' he' heq
        rcases List.mem_cons.1 he' with rfl | he'
        · exact String.lt_irrefl _ (heq ▸ hlt)
        · exact String.lt_irrefl _ (String.lt_trans hlt (heq ▸ hfirst e' he'))
      rw [List.mem_cons]
      exact or_congr_right ⟨fun he => ⟨he, hother e he⟩, And.left⟩
    · subst heq
      have hother : ∀ e' ∈ rest, e'.1 ≠ label := fun e' he' heq =>
        String.lt_irrefl _ (heq ▸ hfirst e' he')
      simp only [List.mem_cons]
      grind
    · simp only [List.mem_cons, ih hrest]
      grind

theorem mem_insert_iff : e ∈ (m.insert label value).entries ↔
    e = (label, value) ∨ e ∈ m.entries ∧ e.1 ≠ label :=
  mem_insertEntry_iff m.ascending

/-- The map with entries put under their labels, one after the other. -/
def insertAll (m : LabelMap α) (added : List (String × α)) : LabelMap α :=
  added.foldl (fun m e => m.insert e.1 e.2) m

/-- Entries with different labels are all there, and those under other labels have stayed. -/
theorem mem_insertAll_iff (h : (added.map Prod.fst).Nodup) :
    e ∈ (m.insertAll added).entries ↔ e ∈ added ∨ e ∈ m.entries ∧ e.1 ∉ added.map Prod.fst := by
  induction added generalizing m with
  | nil => simp [insertAll]
  | cons first rest ih =>
    obtain ⟨hfresh, hrest⟩ := List.nodup_cons.1 h
    have hfirst : ∀ e' ∈ rest, e'.1 ≠ first.1 := fun e' he' heq =>
      hfresh (heq ▸ List.mem_map_of_mem he')
    rw [insertAll, List.foldl_cons, ← insertAll, ih hrest, mem_insert_iff]
    simp only [List.map_cons, List.mem_cons, not_or]
    grind

/-- Entries with different labels may be put in any order. -/
theorem insertAll_perm (h : added.Perm added') (hnodup : (added.map Prod.fst).Nodup) :
    m.insertAll added = m.insertAll added' := by
  refine eq_of_mem_iff fun e => ?_
  rw [mem_insertAll_iff hnodup, mem_insertAll_iff ((h.map _).nodup_iff.1 hnodup), h.mem_iff,
    (h.map Prod.fst).mem_iff]

/-- A map of entries with different labels holds these entries. -/
theorem mem_ofList_iff (h : (added.map Prod.fst).Nodup) : e ∈ (ofList added).entries ↔ e ∈ added :=
  (mem_insertAll_iff h).trans (or_iff_left fun he => List.not_mem_nil he.1)

/-- A map that is filled with the entries of another is the other. -/
theorem ofList_entries (m : LabelMap α) : ofList m.entries = m :=
  eq_of_mem_iff fun _ => mem_ofList_iff m.nodup_labels

/-! ## Other labels -/

/-- The map with other labels; of entries that get one label the last stays. -/
def relabel (f : String → String) (m : LabelMap α) : LabelMap α :=
  ofList (m.entries.map fun e => (f e.1, e.2))

/-- If no two labels become one, the entries stay and stand under the new labels. -/
theorem relabel_entries_perm {f : String → String}
    (hf : ∀ e ∈ m.entries, ∀ e' ∈ m.entries, f e.1 = f e'.1 → e.1 = e'.1) :
    (m.relabel f).entries.Perm (m.entries.map fun e => (f e.1, e.2)) := by
  have hentries : m.entries.Nodup := .of_map _ m.nodup_labels
  have hnodup : ((m.entries.map fun e => (f e.1, e.2)).map Prod.fst).Nodup := by
    rw [List.map_map]
    refine hentries.map_on fun e he e' he' heq => ?_
    exact entry_inj he he' (hf e he e' he' heq)
  refine (List.perm_ext_iff_of_nodup (.of_map _ (m.relabel f).nodup_labels) (.of_map _ hnodup)).2 ?_
  intro e
  exact mem_ofList_iff hnodup

/-- So the map holds the same values. -/
theorem values_relabel_perm {f : String → String}
    (hf : ∀ e ∈ m.entries, ∀ e' ∈ m.entries, f e.1 = f e'.1 → e.1 = e'.1) :
    (m.relabel f).values.Perm m.values := by
  have hperm := (relabel_entries_perm hf).map Prod.snd
  rwa [List.map_map] at hperm

end TenantAccess.LabelMap

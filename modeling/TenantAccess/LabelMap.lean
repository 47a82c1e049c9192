/-!
# Labelled entries

A `LabelMap` holds entries under labels, each label once, from the least label to the greatest by
code point. The order is part of the type, so two maps with the same entries are equal however they
were filled.
-/

namespace TenantAccess

variable {α : Type}

/-- Entries under labels, in ascending order of the labels. -/
@[ext] structure LabelMap (α : Type) where
  /-- The labels with their entries. -/
  entries : List (String × α) := []
  ascending : entries.Pairwise (fun a b => a.1 < b.1) := by exact .nil

namespace LabelMap

instance [DecidableEq α] : DecidableEq (LabelMap α) := fun a b =>
  if h : a.entries = b.entries then .isTrue (LabelMap.ext h)
  else .isFalse fun hab => h (congrArg entries hab)

instance : EmptyCollection (LabelMap α) := ⟨{}⟩

/-- Puts an entry at its place in an ascending list; an entry under the same label gives way. -/
def insertEntry (label : String) (value : α) : List (String × α) → List (String × α)
  | [] => [(label, value)]
  | (l, v) :: rest =>
    if label < l then (label, value) :: (l, v) :: rest
    else if label = l then (label, value) :: rest
    else (l, v) :: insertEntry label value rest

theorem mem_insertEntry {label : String} {value : α} {e : String × α} :
    ∀ {entries : List (String × α)}, e ∈ insertEntry label value entries →
      e = (label, value) ∨ e ∈ entries
  | [], h => by simpa [insertEntry] using h
  | (l, v) :: rest, h => by
    simp only [insertEntry] at h
    split at h
    · simpa using h
    split at h
    · rcases List.mem_cons.1 h with h | h
      · exact .inl h
      · exact .inr (List.mem_cons_of_mem _ h)
    rcases List.mem_cons.1 h with h | h
    · exact .inr (h ▸ List.mem_cons_self)
    · exact (mem_insertEntry h).imp id (List.mem_cons_of_mem _)

theorem ascending_insertEntry {label : String} {value : α} :
    ∀ {entries : List (String × α)}, entries.Pairwise (fun a b => a.1 < b.1) →
      (insertEntry label value entries).Pairwise (fun a b => a.1 < b.1)
  | [], _ => by simp [insertEntry]
  | (l, v) :: rest, h => by
    have hh := List.pairwise_cons.1 h
    simp only [insertEntry]
    split
    · rename_i hlt
      refine List.pairwise_cons.2 ⟨fun e he => ?_, h⟩
      rcases List.mem_cons.1 he with rfl | he
      · exact hlt
      · exact String.lt_trans hlt (hh.1 e he)
    split
    · rename_i heq
      exact List.pairwise_cons.2 ⟨fun e he => heq ▸ hh.1 e he, hh.2⟩
    · rename_i hlt heq
      refine List.pairwise_cons.2 ⟨fun e he => ?_, ascending_insertEntry hh.2⟩
      rcases mem_insertEntry he with rfl | he
      · grind
      · exact hh.1 e he

/-- The map with an entry under a label; what stood there before gives way. -/
def insert (m : LabelMap α) (label : String) (value : α) : LabelMap α where
  entries := insertEntry label value m.entries
  ascending := ascending_insertEntry m.ascending

/-- The map of a list of entries; of entries under one label the last stays. -/
def ofList (entries : List (String × α)) : LabelMap α :=
  entries.foldl (fun m e => m.insert e.1 e.2) ∅

/-- The entries in the order of their labels. -/
def values (m : LabelMap α) : List α := m.entries.map Prod.snd

end LabelMap

end TenantAccess

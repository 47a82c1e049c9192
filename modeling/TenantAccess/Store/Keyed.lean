/-!
# Finite maps

A `Keyed` map holds values under keys, each key once. It is seen through `get?`: what stands under a
key after a value is put under a key (`get?_insert`), and after the keys that fail a test are dropped
(`get?_keep`). The order of the entries is the order in which the keys came in; nothing that the
library answers depends on it.
-/

namespace TenantAccess

variable {κ ν : Type}

/-- Values under keys, each key once. -/
structure Keyed (κ ν : Type) where
  entries : List (κ × ν) := []
  nodup_keys : (entries.map Prod.fst).Nodup := by exact .nil

namespace Keyed

instance : EmptyCollection (Keyed κ ν) := ⟨{}⟩

section
variable [DecidableEq κ]

/-- The value under a key in a list of entries. -/
def lookupEntry (k : κ) : List (κ × ν) → Option ν
  | [] => none
  | (k', v) :: rest => if k' = k then some v else lookupEntry k rest

/-- The value under a key. -/
def get? (m : Keyed κ ν) (k : κ) : Option ν := lookupEntry k m.entries

/-- Puts a value under a key: in the place of the value that stands there, or at the end. -/
def insertEntry (k : κ) (v : ν) : List (κ × ν) → List (κ × ν)
  | [] => [(k, v)]
  | (k', v') :: rest => if k' = k then (k, v) :: rest else (k', v') :: insertEntry k v rest

theorem mem_map_fst_insertEntry {k j : κ} {v : ν} : ∀ {entries : List (κ × ν)},
    j ∈ (insertEntry k v entries).map Prod.fst ↔ j = k ∨ j ∈ entries.map Prod.fst
  | [] => by simp [insertEntry]
  | (k', v') :: rest => by
    simp only [insertEntry]
    split
    · rename_i h
      subst h
      simp
    · simp only [List.map_cons, List.mem_cons, mem_map_fst_insertEntry]
      exact ⟨fun h => by grind, fun h => by grind⟩

theorem nodup_insertEntry {k : κ} {v : ν} : ∀ {entries : List (κ × ν)},
    (entries.map Prod.fst).Nodup → ((insertEntry k v entries).map Prod.fst).Nodup
  | [], _ => by simp [insertEntry]
  | (k', v') :: rest, h => by
    simp only [List.map_cons, List.nodup_cons] at h
    simp only [insertEntry]
    split
    · rename_i hk
      subst hk
      exact List.nodup_cons.2 h
    · rename_i hk
      refine List.nodup_cons.2 ⟨fun hm => ?_, nodup_insertEntry h.2⟩
      exact (mem_map_fst_insertEntry.1 hm).elim hk h.1

theorem lookupEntry_insertEntry {k j : κ} {v : ν} : ∀ {entries : List (κ × ν)},
    lookupEntry j (insertEntry k v entries) = if k = j then some v else lookupEntry j entries
  | [] => by simp [insertEntry, lookupEntry]
  | (k', v') :: rest => by
    simp only [insertEntry]
    split
    · rename_i h
      subst h
      simp only [lookupEntry]
      split <;> rfl
    · rename_i h
      simp only [lookupEntry, lookupEntry_insertEntry]
      grind

/-- The map with a value under a key; what stood there gives way. -/
def insert (m : Keyed κ ν) (k : κ) (v : ν) : Keyed κ ν where
  entries := insertEntry k v m.entries
  nodup_keys := nodup_insertEntry m.nodup_keys

theorem get?_insert (m : Keyed κ ν) (k j : κ) (v : ν) :
    (m.insert k v).get? j = if k = j then some v else m.get? j :=
  lookupEntry_insertEntry

end

/-- The entries whose keys pass a test. -/
def keep (m : Keyed κ ν) (p : κ → Bool) : Keyed κ ν where
  entries := m.entries.filter fun e => p e.1
  nodup_keys := m.nodup_keys.sublist ((List.filter_sublist).map _)

theorem get?_keep [DecidableEq κ] (m : Keyed κ ν) (p : κ → Bool) (k : κ) :
    (m.keep p).get? k = if p k then m.get? k else none := by
  simp only [get?, keep]
  induction m.entries with
  | nil => simp [lookupEntry]
  | cons e rest ih =>
    obtain ⟨k', v⟩ := e
    by_cases hp : p k' <;> by_cases hk : k' = k <;>
      simp_all [lookupEntry]

/-- The values, in the order in which their keys came in. -/
def values (m : Keyed κ ν) : List ν := m.entries.map Prod.snd

/-- How many keys there are. -/
def size (m : Keyed κ ν) : Nat := m.entries.length

end Keyed

end TenantAccess

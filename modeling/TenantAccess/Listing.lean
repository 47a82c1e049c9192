/-!
# Listings

Answers are lists without repetition in a fixed order. `distinctBy` keeps the first of the entries
that share a key, `sortBy` puts a list in the order of a comparison, and `ascending` does both for a
list of keys. Where entries are gathered in an unordered collection first, an `Arrangement` says in
which order they come out of it.
-/

namespace TenantAccess

variable {α κ : Type}

/-- The entries that are the first with their key, in their order. -/
def distinctBy [DecidableEq κ] (key : α → κ) : List α → List α
  | [] => []
  | a :: rest => a :: (distinctBy key rest).filter fun b => key b ≠ key a

/-- The order in which the members of an unordered collection come out of it: some rearrangement of
the order in which they went in. -/
structure Arrangement (α : Type) where
  arrange : List α → List α := id
  perm : ∀ xs, (arrange xs).Perm xs := by exact fun _ => .refl _

/-- The list in the order of a comparison; entries that compare equal keep their order. -/
def sortBy (cmp : α → α → Ordering) (xs : List α) : List α :=
  xs.mergeSort fun a b => (cmp a b).isLE

/-- The members of a list, each once, from the least to the greatest. -/
def ascending [DecidableEq α] [Ord α] (xs : List α) : List α :=
  sortBy compare (distinctBy id xs)

/-- A list is strictly sorted when every entry comes before all that follow it. -/
def StrictlySorted (cmp : α → α → Ordering) (xs : List α) : Prop :=
  xs.Pairwise fun a b => cmp a b = .lt

@[simp] theorem distinctBy_nil [DecidableEq κ] (key : α → κ) : distinctBy key [] = [] := rfl

theorem distinctBy_sublist [DecidableEq κ] (key : α → κ) (xs : List α) :
    (distinctBy key xs).Sublist xs := by
  induction xs with
  | nil => exact .slnil
  | cons a rest ih => exact ((List.filter_sublist).trans ih).cons_cons a

theorem mem_sortBy {cmp : α → α → Ordering} {xs : List α} {a : α} : a ∈ sortBy cmp xs ↔ a ∈ xs :=
  List.mem_mergeSort

end TenantAccess

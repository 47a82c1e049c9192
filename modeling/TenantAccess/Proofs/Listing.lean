import TenantAccess.Directory
import TenantAccess.Listing
import TenantAccess.Menu
import TenantAccess.Role

/-!
# Listings are determined by their members

An answer is made by `distinctBy`, an arrangement and `sortBy`, one after the other. `IsListing`
says what comes of it without them: a list that is strictly sorted and holds exactly the entries
with a property. There is at most one such list (`IsListing.unique`), so what an answer is depends
neither on the order in which a store replied nor on the arrangement. `isListing_sortBy` is the one
place where the three functions are looked into; it asks that entries which compare equal share
their key, which `Role.id_eq_of_listingOrder` and its siblings give for the orders of the library.
-/

namespace TenantAccess

variable {α κ : Type}

/-- A list is the listing of the entries with a property: it is strictly sorted and holds them and
nothing else. -/
structure IsListing (cmp : α → α → Ordering) (P : α → Prop) (xs : List α) : Prop where
  sorted : StrictlySorted cmp xs
  mem_iff : ∀ a, a ∈ xs ↔ P a

/-! ## The first entries of each key -/

section
variable [DecidableEq κ] (key : α → κ) {xs : List α}

/-- No two of the entries that `distinctBy` keeps share a key. -/
theorem pairwise_distinctBy (xs : List α) :
    (distinctBy key xs).Pairwise fun a b => key a ≠ key b := by
  induction xs with
  | nil => exact .nil
  | cons a rest ih =>
    refine List.pairwise_cons.2 ⟨fun b hb hab => ?_, ih.sublist List.filter_sublist⟩
    exact of_decide_eq_true (List.mem_filter.1 hb).2 hab.symm

/-- Every key of a list is the key of an entry that `distinctBy` keeps. -/
theorem exists_mem_distinctBy {a : α} (ha : a ∈ xs) : ∃ b ∈ distinctBy key xs, key b = key a := by
  induction xs with
  | nil => cases ha
  | cons c rest ih =>
    by_cases hac : key a = key c
    · exact ⟨c, List.mem_cons_self, hac.symm⟩
    · rcases List.mem_cons.1 ha with rfl | ha
      · exact absurd rfl hac
      obtain ⟨b, hb, hba⟩ := ih ha
      refine ⟨b, List.mem_cons_of_mem _ (List.mem_filter.2 ⟨hb, ?_⟩), hba⟩
      simpa [hba] using hac

/-- The keys of the entries that `distinctBy` keeps are all keys of the list, each once. -/
theorem nodup_map_distinctBy (xs : List α) : ((distinctBy key xs).map key).Nodup :=
  List.pairwise_map.2 (pairwise_distinctBy key xs)

/-- Where the key tells the entries of a list apart, `distinctBy` loses none of them. -/
theorem mem_distinctBy (hkey : ∀ a ∈ xs, ∀ b ∈ xs, key a = key b → a = b) {a : α} :
    a ∈ distinctBy key xs ↔ a ∈ xs := by
  refine ⟨fun h => (distinctBy_sublist key xs).subset h, fun ha => ?_⟩
  obtain ⟨b, hb, hba⟩ := exists_mem_distinctBy key ha
  have hab : b = a := hkey b ((distinctBy_sublist key xs).subset hb) a ha hba
  exact hab ▸ hb

end

/-! ## Sorting -/

section
variable {cmp : α → α → Ordering} [Std.TransCmp cmp] {xs ys : List α}

/-- Of two entries one does not come after the other. -/
theorem isLE_or_isLE (a b : α) : ((cmp a b).isLE || (cmp b a).isLE) = true := by
  have hswap : cmp b a = (cmp a b).swap := Std.OrientedCmp.eq_swap
  rw [hswap]
  cases cmp a b <;> rfl

omit [Std.TransCmp cmp] in
/-- A sorted list in which no two entries compare equal is strictly sorted. -/
theorem StrictlySorted.of_isLE (hle : xs.Pairwise fun a b => (cmp a b).isLE)
    (hne : xs.Pairwise fun a b => cmp a b ≠ .eq) : StrictlySorted cmp xs := by
  refine (hle.and hne).imp ?_
  rintro a b ⟨h₁, h₂⟩
  cases hab : cmp a b <;> simp_all

omit [Std.TransCmp cmp] in
/-- A list that is sorted stays as it is. -/
theorem sortBy_of_pairwise (h : xs.Pairwise fun a b => (cmp a b).isLE) : sortBy cmp xs = xs :=
  List.mergeSort_of_pairwise h

/-- Sorting a list in which no two entries compare equal sorts it strictly. -/
theorem strictlySorted_sortBy (h : xs.Pairwise fun a b => cmp a b ≠ .eq) :
    StrictlySorted cmp (sortBy cmp xs) := by
  refine .of_isLE (List.pairwise_mergeSort (fun _ _ _ => Std.TransCmp.isLE_trans) isLE_or_isLE xs) ?_
  exact h.perm (List.mergeSort_perm xs _).symm fun hab hba => hab (Std.OrientedCmp.eq_symm hba)

/-- A strictly sorted list has no repetition. -/
theorem StrictlySorted.nodup (h : StrictlySorted cmp xs) : xs.Nodup := by
  refine h.imp ?_
  rintro a _ hab rfl
  have hrefl : cmp a a = .eq := Std.ReflCmp.compare_self
  rw [hrefl] at hab
  cases hab

/-- A strictly sorted list is determined by its members. -/
theorem StrictlySorted.eq_of_mem_iff (hx : StrictlySorted cmp xs) (hy : StrictlySorted cmp ys)
    (h : ∀ a, a ∈ xs ↔ a ∈ ys) : xs = ys := by
  refine List.Perm.eq_of_pairwise (fun a b _ _ hab hba => ?_) hx hy
    ((List.perm_ext_iff_of_nodup hx.nodup hy.nodup).2 h)
  have hswap : cmp a b = (cmp b a).swap := Std.OrientedCmp.eq_swap
  rw [hab, hba] at hswap
  cases hswap

/-- A strictly sorted list whose members are all members of another one is a part of it, in the same
order. -/
theorem StrictlySorted.sublist_of_subset (hx : StrictlySorted cmp xs) (hy : StrictlySorted cmp ys)
    (h : xs ⊆ ys) : xs.Sublist ys := by
  classical
  have hpart : (ys.filter (· ∈ xs)).Sublist ys := List.filter_sublist
  have heq : xs = ys.filter (· ∈ xs) := by
    refine hx.eq_of_mem_iff (List.Pairwise.sublist hpart hy) fun a => ?_
    rw [List.mem_filter, decide_eq_true_iff]
    exact (and_iff_right_of_imp (@h a)).symm
  rwa [← heq] at hpart

/-- There is at most one listing of the entries with a property. -/
theorem IsListing.unique {P : α → Prop} (hx : IsListing cmp P xs) (hy : IsListing cmp P ys) :
    xs = ys :=
  hx.sorted.eq_of_mem_iff hy.sorted fun a => (hx.mem_iff a).trans (hy.mem_iff a).symm

/-- The listing of the entries with a property is a part of the listing of those with a weaker
one. -/
theorem IsListing.sublist {P Q : α → Prop} (hx : IsListing cmp P xs) (hy : IsListing cmp Q ys)
    (h : ∀ a, P a → Q a) : xs.Sublist ys :=
  hx.sorted.sublist_of_subset hy.sorted fun a ha => (hy.mem_iff a).2 (h a ((hx.mem_iff a).1 ha))

/-- Two listings of which no entries compare equal are merged into the listing of the entries of
both. -/
theorem IsListing.merge {P Q : α → Prop} (hx : IsListing cmp P xs) (hy : IsListing cmp Q ys)
    (hne : ∀ a b, P a → Q b → cmp a b ≠ .eq) :
    IsListing cmp (fun a => P a ∨ Q a) (xs.merge ys fun a b => (cmp a b).isLE) where
  sorted := by
    have hle : ∀ {zs : List α}, StrictlySorted cmp zs → zs.Pairwise fun a b => (cmp a b).isLE :=
      fun hzs => hzs.imp fun hab => by rw [hab]; rfl
    have hlt : ∀ {zs : List α}, StrictlySorted cmp zs → zs.Pairwise fun a b => cmp a b ≠ .eq :=
      fun hzs => hzs.imp fun hab => by rw [hab]; nofun
    have happend : (xs ++ ys).Pairwise fun a b => cmp a b ≠ .eq :=
      List.pairwise_append.2 ⟨hlt hx.sorted, hlt hy.sorted,
        fun a ha b hb => hne a b ((hx.mem_iff a).1 ha) ((hy.mem_iff b).1 hb)⟩
    refine .of_isLE (List.pairwise_merge (fun _ _ _ => Std.TransCmp.isLE_trans) isLE_or_isLE xs ys
      (hle hx.sorted) (hle hy.sorted)) ?_
    exact happend.perm (List.merge_perm_append _).symm
      fun hab hba => hab (Std.OrientedCmp.eq_symm hba)
  mem_iff a := by rw [List.mem_merge, hx.mem_iff, hy.mem_iff]

omit [Std.TransCmp cmp] in
/-- The entries of a listing that pass a test are listed in its order. -/
theorem IsListing.filter {P : α → Prop} (hx : IsListing cmp P xs) (p : α → Bool) :
    IsListing cmp (fun a => P a ∧ p a) (xs.filter p) where
  sorted := List.Pairwise.sublist List.filter_sublist hx.sorted
  mem_iff a := by rw [List.mem_filter, hx.mem_iff]

omit [Std.TransCmp cmp] in
/-- An answer has no other entries than the rows it was made from. -/
theorem sortBy_distinctBy_subset [DecidableEq κ] {key : α → κ}
    (hperm : ys.Perm (distinctBy key xs)) : sortBy cmp ys ⊆ xs := fun _ ha =>
  (distinctBy_sublist key xs).subset (hperm.subset (mem_sortBy.1 ha))

/-- Sorting the entries that `distinctBy` keeps, in whatever order they came out of their collection,
sorts them strictly when those that compare equal share their key. -/
theorem strictlySorted_sortBy_distinctBy [DecidableEq κ] {key : α → κ}
    (hcmp : ∀ a ∈ xs, ∀ b ∈ xs, cmp a b = .eq → key a = key b)
    (hperm : ys.Perm (distinctBy key xs)) : StrictlySorted cmp (sortBy cmp ys) := by
  have hmem : ys ⊆ xs := fun a ha => (distinctBy_sublist key xs).subset (hperm.subset ha)
  have hne : ys.Pairwise fun a b => key a ≠ key b :=
    (pairwise_distinctBy key xs).perm hperm.symm fun hab hba => hab hba.symm
  exact strictlySorted_sortBy (hne.imp_of_mem fun ha hb hab h =>
    hab (hcmp _ (hmem ha) _ (hmem hb) h))

/-- In which order the entries came out of their collection does not show once they are sorted. -/
theorem sortBy_eq_of_perm [DecidableEq κ] {key : α → κ} {ys' : List α}
    (hcmp : ∀ a ∈ xs, ∀ b ∈ xs, cmp a b = .eq → key a = key b)
    (hperm : ys.Perm (distinctBy key xs)) (hperm' : ys'.Perm (distinctBy key xs)) :
    sortBy cmp ys = sortBy cmp ys' := by
  refine (strictlySorted_sortBy_distinctBy hcmp hperm).eq_of_mem_iff
    (strictlySorted_sortBy_distinctBy hcmp hperm') fun a => ?_
  rw [mem_sortBy, mem_sortBy, hperm.mem_iff, hperm'.mem_iff]

/-- An answer is the listing of the rows it was made from, in whatever order they came out of their
collection, when no two of these rows share a key or compare equal without sharing one. -/
theorem isListing_sortBy [DecidableEq κ] {key : α → κ} {P : α → Prop}
    (hmem : ∀ a, a ∈ xs ↔ P a) (hkey : ∀ a b, P a → P b → key a = key b → a = b)
    (hcmp : ∀ a b, P a → P b → cmp a b = .eq → key a = key b)
    (hperm : ys.Perm (distinctBy key xs)) : IsListing cmp P (sortBy cmp ys) where
  sorted := strictlySorted_sortBy_distinctBy
    (fun a ha b hb => hcmp a b ((hmem a).1 ha) ((hmem b).1 hb)) hperm
  mem_iff a := by
    have hxs : ∀ a ∈ xs, ∀ b ∈ xs, key a = key b → a = b :=
      fun a ha b hb => hkey a b ((hmem a).1 ha) ((hmem b).1 hb)
    rw [mem_sortBy, hperm.mem_iff, mem_distinctBy key hxs, hmem]

/-- Lists with the same members, told apart by their keys, are made into the same listing, in
whatever order the members came out of their collections. -/
theorem sortBy_eq_of_mem_iff [DecidableEq κ] {key : α → κ} {xs' ys' : List α}
    (hmem : ∀ a, a ∈ xs ↔ a ∈ xs') (hkey : ∀ a ∈ xs, ∀ b ∈ xs, key a = key b → a = b)
    (hcmp : ∀ a ∈ xs, ∀ b ∈ xs, cmp a b = .eq → key a = key b)
    (hperm : ys.Perm (distinctBy key xs)) (hperm' : ys'.Perm (distinctBy key xs')) :
    sortBy cmp ys = sortBy cmp ys' := by
  have hx : IsListing cmp (· ∈ xs) (sortBy cmp ys) :=
    isListing_sortBy (fun _ => Iff.rfl) (fun a b ha => hkey a ha b)
      (fun a b ha => hcmp a ha b) hperm
  have hx' : IsListing cmp (· ∈ xs) (sortBy cmp ys') :=
    isListing_sortBy (fun a => (hmem a).symm) (fun a b ha => hkey a ha b)
      (fun a b ha => hcmp a ha b) hperm'
  exact hx.unique hx'

end

/-- `ascending` keeps the members of a list. -/
theorem mem_ascending [DecidableEq α] [Ord α] {xs : List α} {a : α} :
    a ∈ ascending xs ↔ a ∈ xs := by
  rw [ascending, mem_sortBy, mem_distinctBy id fun _ _ _ _ h => h]

/-- `ascending` leaves no repetition. -/
theorem nodup_ascending [DecidableEq α] [Ord α] (xs : List α) : (ascending xs).Nodup :=
  (List.mergeSort_perm _ _).nodup_iff.2 (pairwise_distinctBy id xs)

/-- `ascending` puts the members from the least to the greatest. -/
theorem strictlySorted_ascending [DecidableEq α] [Ord α] [Std.TransOrd α] [Std.LawfulEqOrd α]
    (xs : List α) : StrictlySorted compare (ascending xs) :=
  strictlySorted_sortBy ((pairwise_distinctBy id xs).imp fun hne heq =>
    hne (Std.LawfulEqOrd.eq_of_compare heq))

/-- `ascending` makes the same list of all lists with the same members. -/
theorem ascending_eq_of_mem_iff [DecidableEq α] [Ord α] [Std.TransOrd α] [Std.LawfulEqOrd α]
    {xs ys : List α} (h : ∀ a, a ∈ xs ↔ a ∈ ys) : ascending xs = ascending ys :=
  sortBy_eq_of_mem_iff h (fun _ _ _ _ heq => heq)
    (fun _ _ _ _ heq => Std.LawfulEqOrd.eq_of_compare heq) (.refl _) (.refl _)

/-! ## The orders of the library -/

instance : Std.TransCmp Permission.listingOrder :=
  inferInstanceAs (Std.TransCmp (compareLex _ _))

instance : Std.TransCmp Role.listingOrder :=
  inferInstanceAs (Std.TransCmp (compareLex _ _))

instance : Std.TransCmp RoleRange.listingOrder :=
  inferInstanceAs (Std.TransCmp (compareLex _ (compareLex _ (compareLex _ _))))

instance : Std.TransCmp Menu.listingOrder :=
  inferInstanceAs (Std.TransCmp (compareLex _ (compareLex _ _)))

instance : Std.TransCmp Application.listingOrder :=
  inferInstanceAs (Std.TransCmp (compareLex _ _))

/-- Permissions that compare equal share their id. -/
theorem Permission.id_eq_of_listingOrder {p q : Permission} (h : listingOrder p q = .eq) :
    p.id = q.id :=
  Std.LawfulEqOrd.eq_of_compare (compareLex_eq_eq.1 h).2

/-- Roles that compare equal share their id. -/
theorem Role.id_eq_of_listingOrder {r r' : Role} (h : listingOrder r r' = .eq) : r.id = r'.id :=
  Std.LawfulEqOrd.eq_of_compare (compareLex_eq_eq.1 h).2

/-- Menus that compare equal share their id. -/
theorem Menu.id_eq_of_listingOrder {m m' : Menu} (h : listingOrder m m' = .eq) : m.id = m'.id :=
  Std.LawfulEqOrd.eq_of_compare (compareLex_eq_eq.1 (compareLex_eq_eq.1 h).2).2

/-- Applications that compare equal share their id. -/
theorem Application.id_eq_of_listingOrder {a b : Application} (h : listingOrder a b = .eq) :
    a.id = b.id :=
  Std.LawfulEqOrd.eq_of_compare (compareLex_eq_eq.1 h).2

/-- Ranges of one tenant that compare equal are equal. -/
theorem RoleRange.eq_of_listingOrder {r r' : RoleRange} (h : listingOrder r r' = .eq)
    (ht : r.tenant = r'.tenant) : r = r' := by
  obtain ⟨hrole, h⟩ := compareLex_eq_eq.1 h
  obtain ⟨hcategory, h⟩ := compareLex_eq_eq.1 h
  obtain ⟨htype, hdata⟩ := compareLex_eq_eq.1 h
  cases r; cases r'
  simp_all [compareOn]

end TenantAccess

import Mathlib.Data.List.Nodup
import TenantAccess.Json.Codec
import TenantAccess.Proofs.LabelMap

/-!
# Leaving out members

A reader lets some members of a record be absent and puts a value in their place. `Value.Omits` says
that a value came about by leaving such members out, at any depth; which member with which value may
go is left open. A codec `Restores` what it has written when it reads every value that came about
from it in this way, and reads the same from all of them. What a codec restores need not be what was
written, because some fields are never written.

For a record this is a matter of its fields. `Layout.Restores` puts it together field by field, as
the layout is put together (`Layout.Restores.field`, `Layout.Restores.hidden`,
`Layout.Restores.apply`), and the main statement, `Layout.Restores.codec`, is that a layout whose
fields have different names makes a codec that restores records.
-/

namespace TenantAccess.Json

variable {ρ α β : Type} {spare : String → Value → Prop}

/-! ## The relation -/

mutual

/-- The second value is the first without some members that may be left out. -/
inductive Value.Omits (spare : String → Value → Prop) : Value → Value → Prop
  | null : Value.Omits spare .null .null
  | bool (b : Bool) : Value.Omits spare (.bool b) (.bool b)
  | integer (n : Int) : Value.Omits spare (.integer n) (.integer n)
  | text (s : String) : Value.Omits spare (.text s) (.text s)
  | array {items items' : List Value} (h : ItemsOmit spare items items') :
      Value.Omits spare (.array items) (.array items')
  | object {members members' : List (String × Value)} (h : MembersOmit spare members members') :
      Value.Omits spare (.object members) (.object members')

/-- Members were left out of the items of an array. -/
inductive ItemsOmit (spare : String → Value → Prop) : List Value → List Value → Prop
  | nil : ItemsOmit spare [] []
  | cons {v v' : Value} {items items' : List Value} (hv : Value.Omits spare v v')
      (h : ItemsOmit spare items items') : ItemsOmit spare (v :: items) (v' :: items')

/-- Members were left out of the members of an object or of their values. -/
inductive MembersOmit (spare : String → Value → Prop) :
    List (String × Value) → List (String × Value) → Prop
  | nil : MembersOmit spare [] []
  | keep {name : String} {v v' : Value} {members members' : List (String × Value)}
      (hv : Value.Omits spare v v') (h : MembersOmit spare members members') :
      MembersOmit spare ((name, v) :: members) ((name, v') :: members')
  | leave {name : String} {v : Value} {members members' : List (String × Value)}
      (hv : spare name v) (h : MembersOmit spare members members') :
      MembersOmit spare ((name, v) :: members) members'

end

mutual

/-- No member need be left out. -/
theorem Value.Omits.refl : ∀ v : Value, v.Omits spare v
  | .null => .null
  | .bool b => .bool b
  | .integer n => .integer n
  | .text s => .text s
  | .array items => .array (ItemsOmit.refl items)
  | .object members => .object (MembersOmit.refl members)

theorem ItemsOmit.refl : ∀ items : List Value, ItemsOmit spare items items
  | [] => .nil
  | v :: rest => .cons (Value.Omits.refl v) (ItemsOmit.refl rest)

theorem MembersOmit.refl : ∀ members : List (String × Value), MembersOmit spare members members
  | [] => .nil
  | (_, v) :: rest => .keep (Value.Omits.refl v) (MembersOmit.refl rest)

end

/-- A codec reads what it has written of `a` as `f a`, whichever members were left out. -/
def Codec.Restores (spare : String → Value → Prop) (c : Codec α) (f : α → α) : Prop :=
  ∀ a v, (c.write a).Omits spare v → c.read v.toDoc = .ok (f a)

/-- A codec that restores what it has written does not write two things alike. -/
theorem Codec.Restores.write_injective {c : Codec α} (h : c.Restores spare fun a => a) :
    Function.Injective c.write := by
  intro a b hab
  have ha := h a _ (.refl _)
  have hb := h b _ (.refl _)
  rw [hab] at ha
  exact Except.ok.inj (ha.symm.trans hb)

/-! ## Values that are no records -/

/-- The value of an integer that fits 64 bits is the integer. -/
theorem Numeral.value_ofInt {n : Int} (hlow : -(wordLimit / 2 : Nat) ≤ n) (hhigh : n < wordLimit) :
    (ofInt n).value = .ok (.integer n) := by
  rw [value, ofInt]
  by_cases hneg : n < 0
  · obtain ⟨m, rfl⟩ : ∃ m : Nat, n = -m := ⟨n.natAbs, by omega⟩
    have hfits : 0 < m ∧ m ≤ wordLimit / 2 := by omega
    simp [hfits]
  · obtain ⟨m, rfl⟩ : ∃ m : Nat, n = m := ⟨n.natAbs, by omega⟩
    have hfits : m < wordLimit := by omega
    simp [hfits]

namespace Codec.Restores

theorem text : Codec.text.Restores spare fun s => s := by
  rintro s _ ⟨⟩
  rfl

theorem bool : Codec.bool.Restores spare fun b => b := by
  rintro b _ ⟨⟩
  rfl

theorem int32 : Codec.int32.Restores spare fun n => n := by
  rintro n _ ⟨⟩
  have hlow := n.le_toInt
  have hhigh := n.toInt_lt
  have hrange : Int32.minValue.toInt ≤ n.toInt ∧ n.toInt ≤ Int32.maxValue.toInt := by
    rw [Int32.toInt_minValue, Int32.toInt_maxValue]
    omega
  have hvalue : (Numeral.ofInt n.toInt).value = .ok (.integer n.toInt) :=
    Numeral.value_ofInt (by rw [Numeral.wordLimit]; omega) (by rw [Numeral.wordLimit]; omega)
  show Reader.int32 (.number (.ofInt n.toInt)) = .ok n
  simp only [Reader.int32, hvalue]
  rw [if_pos hrange, Int32.ofInt_toInt]

theorem iso {c : Codec α} {ofValue : α → β} {toValue : β → α} {f : α → α}
    (h : c.Restores spare f) : (c.iso ofValue toValue).Restores spare fun b =>
      ofValue (f (toValue b)) := by
  intro b v hv
  exact congrArg (Except.map ofValue) (h (toValue b) v hv)

/-- A value that may be absent is restored if its own text is never null. -/
theorem option {c : Codec α} {f : α → α} (h : c.Restores spare f) (hnull : ∀ a, c.write a ≠ .null) :
    c.option.Restores spare (Option.map f) := by
  rintro (_ | a) v hv
  · cases hv
    rfl
  · have hread := h a v hv
    have hne : v ≠ .null := by
      rintro rfl
      have homits : (c.write a).Omits spare .null := hv
      generalize hw : c.write a = w at homits
      cases homits
      exact hnull a hw
    cases v with
    | null => exact absurd rfl hne
    | _ => exact congrArg (Except.map some) hread

theorem list {c : Codec α} {f : α → α} (h : c.Restores spare f) :
    c.list.Restores spare (List.map f) := by
  have hitems : ∀ (as : List α) (items : List Value), ItemsOmit spare (as.map c.write) items →
      (Value.docsOfItems items).mapM c.read = .ok (as.map f) := by
    intro as
    induction as with
    | nil =>
      rintro _ ⟨⟩
      rfl
    | cons a as ih =>
      rintro _ (_ | ⟨hv, hrest⟩)
      rw [Value.docsOfItems, List.mapM_cons, h a _ hv, ih _ hrest]
      rfl
  intro as v hv
  have homits : (Value.array (as.map c.write)).Omits spare v := hv
  cases homits with
  | array h =>
    show Reader.list c.read (.array _ .closed) = _
    rw [Reader.list, hitems as _ h]
    rfl

/-- Labelled entries are restored as they were if none of them may be left out, whatever its label. -/
theorem labelMap {c : Codec α} (h : c.Restores spare fun a => a)
    (hkeep : ∀ label a, ¬ spare label (c.write a)) : c.labelMap.Restores spare fun m => m := by
  have hentries : ∀ (entries : List (String × α)) (members : List (String × Value)),
      MembersOmit spare (entries.map fun e => (e.1, c.write e.2)) members →
      Reader.members c.read (Value.docsOfMembers members) = .ok entries := by
    intro entries
    induction entries with
    | nil =>
      intro members homits
      cases homits
      rfl
    | cons e rest ih =>
      intro members homits
      cases homits with
      | keep hv hrest =>
        rw [Value.docsOfMembers, Reader.members, h _ _ hv, ih _ hrest]
        rfl
      | leave hspare => exact absurd hspare (hkeep _ _)
  intro m v hv
  have homits : (Value.object (m.entries.map fun e => (e.1, c.write e.2))).Omits spare v := hv
  cases homits with
  | @object _ members hmembers =>
    have hread : Reader.map c.read (.object (Value.docsOfMembers members) .closed) =
        .ok m.entries := by
      rw [Reader.map, hentries _ _ hmembers]
      rfl
    show (Reader.map c.read (.object _ .closed)).map LabelMap.ofList = .ok m
    rw [hread]
    exact congrArg Except.ok m.ofList_entries

/-- A value that is written as its name is restored if it is found under the name. -/
theorem named {name : α → String} {all : List α}
    (h : ∀ a, (all.map fun a => (name a, a)).lookup (name a) = some a) :
    (Codec.named name all).Restores spare fun a => a := by
  rintro a _ ⟨⟩
  show Reader.ofName (all.map fun a => (name a, a)) (name a) = .ok a
  rw [Reader.ofName, h a]

end Codec.Restores

/-! ## Records -/

namespace Layout

/-- Under a name a record without some of its members shows the value of the member, itself with
members left out, or nothing if the member may be left out. -/
def Finds (spare : String → Value → Prop) (members : List (String × Value))
    (find : String → Option Doc) (name : String) : Prop :=
  (∃ v v', (name, v) ∈ members ∧ v.Omits spare v' ∧ find name = some v'.toDoc) ∨
    (find name = none ∧ ∀ v, (name, v) ∈ members → spare name v)

section
variable {xs ys : List (String × Value)} {find : String → Option Doc} {name : String}

/-- What is shown under a name that only the first members have is shown of them. -/
theorem Finds.of_append_left (h : Finds spare (xs ++ ys) find name) (hys : ∀ v, (name, v) ∉ ys) :
    Finds spare xs find name := by
  obtain ⟨v, v', hmem, hv, hfind⟩ | ⟨hfind, hspare⟩ := h
  · exact .inl ⟨v, v', (List.mem_append.1 hmem).resolve_right (hys v), hv, hfind⟩
  · exact .inr ⟨hfind, fun v hmem => hspare v (List.mem_append_left _ hmem)⟩

/-- What is shown under a name that only the last members have is shown of them. -/
theorem Finds.of_append_right (h : Finds spare (xs ++ ys) find name) (hxs : ∀ v, (name, v) ∉ xs) :
    Finds spare ys find name := by
  obtain ⟨v, v', hmem, hv, hfind⟩ | ⟨hfind, hspare⟩ := h
  · exact .inl ⟨v, v', (List.mem_append.1 hmem).resolve_left (hxs v), hv, hfind⟩
  · exact .inr ⟨hfind, fun v hmem => hspare v (List.mem_append_right _ hmem)⟩

/-- What is shown does not change with a member of another name in front, nor with one that may be
left out. -/
theorem Finds.cons (h : Finds spare xs find name) {first : String} {v : Value}
    (hv : name = first → spare first v) : Finds spare ((first, v) :: xs) find name := by
  obtain ⟨w, w', hmem, hw, hfind⟩ | ⟨hfind, hspare⟩ := h
  · exact .inl ⟨w, w', List.mem_cons_of_mem _ hmem, hw, hfind⟩
  · refine .inr ⟨hfind, fun w hmem => ?_⟩
    obtain heq | hmem := List.mem_cons.1 hmem
    · obtain ⟨rfl, rfl⟩ := Prod.mk.inj heq
      exact hv rfl
    · exact hspare w hmem

theorem Finds.congr {find' : String → Option Doc} (h : Finds spare xs find name)
    (heq : find' name = find name) : Finds spare xs find' name := by
  rwa [Finds, heq]

end

/-- From what was written of a record, whichever members were left out, a layout gets `f` of it. -/
structure Restores (spare : String → Value → Prop) (l : Layout ρ α) (f : ρ → α) : Prop where
  /-- The written fields are among the fields, in their order. -/
  names : ∀ r, ((l.members r).map Prod.fst).Sublist (l.fields.map Prod.fst)
  /-- What was written passes the check of its field. -/
  check : ∀ r, ∀ m ∈ l.members r, ∀ v, m.2.Omits spare v →
    ∃ check, (m.1, check) ∈ l.fields ∧ check v.toDoc = .ok ()
  build : ∀ r find absent, (l.fields.map Prod.fst).Nodup →
    (∀ name ∈ l.fields.map Prod.fst, Finds spare (l.members r) find name) →
    l.build find absent = .ok (f r)

namespace Restores

theorem constant (a : α) : (Layout.constant a : Layout ρ α).Restores spare fun _ => a where
  names _ := .slnil
  check _ _ hm := nomatch hm
  build _ _ _ _ _ := rfl

/-- A field is restored if its value is, and if whatever may be left out is what stands in for
it. -/
theorem field {name : String} {c : Codec α} {get : ρ → α} {standIn : Option α} {f : α → α}
    (h : c.Restores spare f) (hspare : ∀ a, spare name (c.write a) → standIn = some (f a)) :
    (Layout.field name c get standIn).Restores spare fun r => f (get r) where
  names _ := .refl _
  check r m hm v hv := by
    obtain rfl := List.mem_singleton.1 hm
    exact ⟨_, List.mem_singleton_self _, by rw [h _ _ hv]; rfl⟩
  build r find absent _ hfinds := by
    rw [Layout.field]
    dsimp only
    obtain ⟨v, v', hmem, hv, hfind⟩ | ⟨hfind, hspares⟩ := hfinds name (List.mem_singleton_self _)
    · obtain ⟨-, rfl⟩ := Prod.mk.inj (List.mem_singleton.1 hmem)
      rw [hfind]
      exact h _ _ hv
    · rw [hfind, hspare _ (hspares _ (List.mem_singleton_self _))]

/-- A field that is never written gets what stands in for it. -/
theorem hidden {name : String} {c : Codec α} {standIn : α} :
    (Layout.hidden name c standIn : Layout ρ α).Restores spare fun _ => standIn where
  names _ := List.nil_sublist _
  check _ _ hm := nomatch hm
  build r find absent _ hfinds := by
    obtain ⟨v, v', hmem, -⟩ | ⟨hfind, -⟩ := hfinds name (List.mem_singleton_self _)
    · exact nomatch hmem
    · rw [Layout.hidden]
      dsimp only
      rw [hfind]

/-- Layouts that have no field in common are restored one after the other. -/
theorem apply {l : Layout ρ (α → β)} {x : Layout ρ α} {f : ρ → α → β} {g : ρ → α}
    (hl : l.Restores spare f) (hx : x.Restores spare g) :
    (l.apply x).Restores spare fun r => f r (g r) where
  names r := by
    simp only [Layout.apply, List.map_append]
    exact (hl.names r).append (hx.names r)
  check r m hm v hv := by
    obtain hm | hm := List.mem_append.1 hm
    · obtain ⟨check, hcheck, hok⟩ := hl.check r m hm v hv
      exact ⟨check, List.mem_append_left _ hcheck, hok⟩
    · obtain ⟨check, hcheck, hok⟩ := hx.check r m hm v hv
      exact ⟨check, List.mem_append_right _ hcheck, hok⟩
  build r find absent hnodup hfinds := by
    simp only [Layout.apply, List.map_append] at hnodup hfinds ⊢
    obtain ⟨hnodupl, hnodupx, hdisjoint⟩ := List.nodup_append.1 hnodup
    have hbuild := hl.build r find absent hnodupl fun name hname => by
      refine (hfinds name (List.mem_append_left _ hname)).of_append_left fun v hmem => ?_
      have hother : name ∈ x.fields.map Prod.fst := (hx.names r).subset (List.mem_map_of_mem hmem)
      exact hdisjoint name hname name hother rfl
    have hbuildx := hx.build r find (fun place => absent (l.fields.length + place)) hnodupx
      fun name hname => by
        refine (hfinds name (List.mem_append_right _ hname)).of_append_right fun v hmem => ?_
        have hother : name ∈ l.fields.map Prod.fst := (hl.names r).subset (List.mem_map_of_mem hmem)
        exact hdisjoint name hother name hname rfl
    rw [hbuild, hbuildx]
    rfl

theorem seq {l : Layout ρ (α → β)} {x : Layout ρ α} {f : ρ → α → β} {g : ρ → α}
    (hl : l.Restores spare f) (hx : x.Restores spare g) :
    (l <*> x).Restores spare fun r => f r (g r) :=
  hl.apply hx

theorem map {x : Layout ρ α} {g : ρ → α} (f : α → β) (hx : x.Restores spare g) :
    (f <$> x).Restores spare fun r => f (g r) :=
  (constant f).apply hx

end Restores

/-! ## Reading a record -/

/-- Under different names every entry is found. -/
theorem lookup_eq_some_of_mem {κ ν : Type} [BEq κ] [LawfulBEq κ] {entries : List (κ × ν)} {k : κ}
    {v : ν} (hnodup : (entries.map Prod.fst).Nodup) (hmem : (k, v) ∈ entries) :
    entries.lookup k = some v := by
  obtain ⟨before, later, rfl⟩ := List.append_of_mem hmem
  refine List.lookup_eq_some_iff.2 ⟨before, later, rfl, fun e he => ?_⟩
  simp only [List.map_append, List.map_cons] at hnodup
  have hne := (List.nodup_append.1 hnodup).2.2 e.1 (List.mem_map_of_mem he) k List.mem_cons_self
  simpa using Ne.symm hne

section
variable {members members' : List (String × Value)}

/-- Among members of different names, the first member with a name is the one with the name. -/
theorem finds_find? (h : MembersOmit spare members members')
    (hnodup : (members.map Prod.fst).Nodup) (name : String) :
    Finds spare members (find? (Value.docsOfMembers members')) name := by
  induction members generalizing members' with
  | nil =>
    cases h
    exact .inr ⟨rfl, nofun⟩
  | cons m rest ih =>
    obtain ⟨first, v⟩ := m
    have hrest : (rest.map Prod.fst).Nodup := (List.nodup_cons.1 hnodup).2
    cases h with
    | @keep _ _ v' _ rest' hv h =>
      by_cases hname : name = first
      · subst hname
        exact .inl ⟨v, v', List.mem_cons_self, hv, by simp [find?, Value.docsOfMembers]⟩
      · have hskip : find? (Value.docsOfMembers ((first, v') :: rest')) name =
            find? (Value.docsOfMembers rest') name := by
          simp [find?, Value.docsOfMembers, Ne.symm hname]
        exact ((ih h hrest).congr hskip).cons fun heq => absurd heq hname
    | leave hv h => exact (ih h hrest).cons fun _ => hv

/-- A member under the name of a field that was not seen is accepted if it passes the check. -/
theorem checkMembers_cons_of_field {fields : List (String × (Doc → Except DecodeFault Unit))}
    {seen : List String} {name : String} {check : Doc → Except DecodeFault Unit} {d : Doc}
    {rest : List Member} (hfield : fields.lookup name = some check) (hnew : name ∉ seen)
    (hok : check d = .ok ()) :
    checkMembers fields seen ((.ok name, d) :: rest) = checkMembers fields (name :: seen) rest := by
  simp [checkMembers, Except.mapError, bind, Except.bind, hfield, hnew, hok]

/-- Members that pass the checks of their fields, and have different names that were not seen, are
accepted. -/
theorem checkMembers_eq_ok {fields : List (String × (Doc → Except DecodeFault Unit))}
    {seen : List String} (h : MembersOmit spare members members')
    (hfields : (fields.map Prod.fst).Nodup) (hnodup : (members.map Prod.fst).Nodup)
    (hseen : ∀ m ∈ members, m.1 ∉ seen)
    (hcheck : ∀ m ∈ members, ∀ v, m.2.Omits spare v →
      ∃ check, (m.1, check) ∈ fields ∧ check v.toDoc = .ok ()) :
    checkMembers fields seen (Value.docsOfMembers members') = .ok () := by
  induction members generalizing members' seen with
  | nil =>
    cases h
    rfl
  | cons m rest ih =>
    obtain ⟨name, v⟩ := m
    obtain ⟨hfresh, hrest⟩ := List.nodup_cons.1 hnodup
    obtain ⟨hnew, hseen⟩ := List.forall_mem_cons.1 hseen
    obtain ⟨hfirst, hcheck⟩ := List.forall_mem_cons.1 hcheck
    cases h with
    | @keep _ _ v' _ rest' hv h =>
      obtain ⟨check, hmem, hok⟩ := hfirst v' hv
      have hunseen : ∀ m ∈ rest, m.1 ∉ name :: seen := fun m hm hmem => by
        obtain heq | hmem := List.mem_cons.1 hmem
        · exact hfresh (List.mem_map.2 ⟨m, hm, heq⟩)
        · exact hseen m hm hmem
      rw [Value.docsOfMembers,
        checkMembers_cons_of_field (lookup_eq_some_of_mem hfields hmem) hnew hok]
      exact ih h hrest hunseen hcheck
    | leave hv h => exact ih h hrest hseen hcheck

end

/-- A layout whose fields have different names makes a codec that restores records. -/
theorem Restores.codec {l : Layout ρ ρ} {f : ρ → ρ} (h : l.Restores spare f) (record : String)
    (hnodup : (l.fields.map Prod.fst).Nodup) : (l.codec record).Restores spare f := by
  intro r v hv
  have homits : (Value.object (l.members r)).Omits spare v := hv
  cases homits with
  | object hmembers =>
    have hnames : ((l.members r).map Prod.fst).Nodup := hnodup.sublist (h.names r)
    have hcheck := checkMembers_eq_ok hmembers hnodup hnames (fun _ _ => List.not_mem_nil)
      (h.check r)
    have hbuild := h.build r _ (fun _ name => .misshapen (.missingField name)) hnodup
      fun name _ => finds_find? hmembers hnames name
    show l.read record (.object _ .closed) = .ok (f r)
    rw [Layout.read, hcheck]
    exact hbuild

end Layout

end TenantAccess.Json

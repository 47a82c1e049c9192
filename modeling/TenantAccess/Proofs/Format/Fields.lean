import TenantAccess.Format.Rows
import TenantAccess.Proofs.Json.Omission

/-!
# Fields that something stands in for

Which members of a written record may be left out is said by a list of names, each with the value
that stands in for it (`Spares`). A field is restored when the reader, if it finds nothing, takes
what is written as the value of the list; there is one lemma for each kind of field that the records
of the library have.
-/

namespace TenantAccess

open Json

/-- A member may be left out when it has the value that stands in for it. -/
def Spares (defaults : List (String × Value)) (name : String) (v : Value) : Prop :=
  defaults.lookup name = some v

section
variable {ρ α : Type} {defaults : List (String × Value)} {name : String}

/-- A field that nothing stands in for. -/
theorem restores_required {c : Codec α} {get : ρ → α} {f : α → α}
    (h : c.Restores (Spares defaults) f) (hname : defaults.lookup name = none) :
    (Layout.field name c get).Restores (Spares defaults) fun r => f (get r) :=
  .field h fun a hspare => by
    rw [Spares, hname] at hspare
    cases hspare

/-- A field that something stands in for, which is what its value is read as when it is written
alike. -/
theorem restores_default {c : Codec α} {get : ρ → α} {f : α → α} {standIn : α} {v : Value}
    (h : c.Restores (Spares defaults) f) (hname : defaults.lookup name = some v)
    (hv : ∀ a, c.write a = v → f a = standIn) :
    (Layout.field name c get (some standIn)).Restores (Spares defaults) fun r => f (get r) :=
  .field h fun a hspare => by
    rw [Spares, hname] at hspare
    rw [hv a (Option.some.inj hspare).symm]

/-- A field whose value is restored as it was, when the list says of the field what is written of its
stand-in. -/
theorem restores_standIn {c : Codec α} {get : ρ → α} {standIn : α}
    (h : c.Restores (Spares defaults) fun a => a)
    (hname : defaults.lookup name = some (c.write standIn)) :
    (Layout.field name c get (some standIn)).Restores (Spares defaults) get :=
  restores_default h hname fun _ hv => h.write_injective hv

/-- A value that may be absent and is then null. -/
theorem restores_optional {c : Codec α} {get : ρ → Option α}
    (h : c.Restores (Spares defaults) fun a => a) (hnull : ∀ a, c.write a ≠ .null)
    (hname : defaults.lookup name = some .null) :
    (Layout.field name (.option c) get (some none)).Restores (Spares defaults) get := by
  have hoption := h.option hnull
  rw [Option.map_id_fun'] at hoption
  exact restores_standIn hoption hname

/-- A list that is empty unless it says otherwise. -/
theorem restores_list {c : Codec α} {get : ρ → List α} {f : α → α}
    (h : c.Restores (Spares defaults) f)
    (hname : defaults.lookup name = some (.array [])) :
    (Layout.field name (.list c) get (some [])).Restores (Spares defaults) fun r =>
      (get r).map f :=
  restores_default h.list hname fun as hv => by
    cases as with
    | nil => rfl
    | cons a as => cases hv

/-- A list whose items are restored as they were. -/
theorem restores_plainList {c : Codec α} {get : ρ → List α}
    (h : c.Restores (Spares defaults) fun a => a)
    (hname : defaults.lookup name = some (.array [])) :
    (Layout.field name (.list c) get (some [])).Restores (Spares defaults) get := by
  have hlist := h.list
  rw [List.map_id_fun'] at hlist
  exact restores_standIn hlist hname

end

theorem Identifier.restores {kind : IdKind} {spare : String → Value → Prop} :
    (Identifier.codec : Codec (Identifier kind)).Restores spare fun id => id :=
  Codec.Restores.text.iso

end TenantAccess

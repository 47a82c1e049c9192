import TenantAccess.CommandLine.Execution
import TenantAccess.Proofs.Isolation
import TenantAccess.Proofs.Redundancy

/-!
# Secrets stay secret

The secret of an application is taken in with a dataset and compared with what somebody claims it to
be; beyond that nothing depends on it. Two datasets that are equal but for their secrets are written
in the same way (`Dataset.write_withoutSecrets`), and the stores built from them hold the same rows
but for their secrets (`Dataset.image_current`). Their replies may stand in each other's place when
the applications are looked at without their secrets, so by `Resolver.ask_coupled` every command but
the one for credentials comes to the same (`Command.execute_eq_of_image_eq`). Credentials are held
against the application that the directory has under the code, which is the last one of the dataset
with its id (`Dataset.Registers`); the directory need not have every code of the dataset. The main
statement is `execute_eq_of_withoutSecrets_eq`.
-/

namespace TenantAccess

open Json CommandLine

variable {σ σ₁ σ₂ : Type} {rows rows₁ rows₂ : Set Row}

/-! ## Without secrets -/

/-- The application with a blank in place of its secret. -/
def Application.withoutSecret (a : Application) : Application := { a with secret := "" }

/-- The row with a blank in place of the secret, if it is an application. -/
def Row.withoutSecret : Row → Row
  | .application a => .application a.withoutSecret
  | row => row

/-- The dataset with blanks in place of the secrets. -/
def Dataset.withoutSecrets (d : Dataset) : Dataset :=
  { d with applications := d.applications.map Application.withoutSecret }

theorem Application.overview_withoutSecret : Overview Application.withoutSecret :=
  ⟨fun _ => rfl, fun _ => rfl, fun _ => rfl⟩

@[simp] theorem Row.place_withoutSecret (row : Row) : row.withoutSecret.place = row.place := by
  cases row <;> rfl

/-- An application is written without its secret. -/
theorem Application.write_withoutSecret (a : Application) :
    Application.codec.write a.withoutSecret = Application.codec.write a := rfl

/-- So are the applications of a list, -/
theorem Application.map_write_withoutSecret (as : List Application) :
    (as.map Application.withoutSecret).map Application.codec.write =
      as.map Application.codec.write := by
  rw [List.map_map]
  exact List.map_congr_left fun a _ => a.write_withoutSecret

/-- and those of a dataset. -/
theorem Dataset.write_withoutSecrets (d : Dataset) :
    Dataset.codec.write d.withoutSecrets = Dataset.codec.write d := by
  simp [Dataset.codec, rows, withoutSecrets, Application.write_withoutSecret]

/-- An answer is written without secrets. -/
theorem Question.toValue_look (tenant : TenantCode) (time : String) (q : Question)
    (answer : q.Answer) :
    q.toValue tenant time (q.look Application.withoutSecret answer) =
      q.toValue tenant time answer := by
  cases q with
  | applications account menuType =>
    exact congrArg Value.array (Application.map_write_withoutSecret answer)
  | _ => rfl

/-! ## The rows of a dataset -/

/-- The entry is the last of a list with its key. -/
def LastBy {α κ : Type} (key : α → κ) (xs : List α) (x : α) : Prop :=
  ∃ before later, xs = before ++ x :: later ∧ ∀ y ∈ later, key y ≠ key x

/-- The last entries of a list that was mapped come from the last entries of the list. -/
theorem lastBy_map_iff {α β κ : Type} {key : β → κ} {f : α → β} {xs : List α} {y : β} :
    LastBy key (xs.map f) y ↔ ∃ x, LastBy (fun x => key (f x)) xs x ∧ f x = y := by
  constructor
  · rintro ⟨before, later, heq, hlater⟩
    obtain ⟨before, rest, rfl, rfl, hrest⟩ := List.map_eq_append_iff.1 heq
    obtain ⟨x, later, rfl, rfl, rfl⟩ := List.map_eq_cons_iff.1 hrest
    exact ⟨x, ⟨before, later, rfl, fun z hz => hlater _ (List.mem_map_of_mem hz)⟩, rfl⟩
  · rintro ⟨x, ⟨before, later, rfl, hlater⟩, rfl⟩
    refine ⟨before.map f, later.map f, by simp, fun y hy => ?_⟩
    obtain ⟨z, hz, rfl⟩ := List.mem_map.1 hy
    exact hlater z hz

/-- Of rows that are put one after the other the last at each place is stored. -/
theorem mem_current_map_put {rs : List Row} {row : Row} :
    row ∈ Current (rs.map .put) ↔ LastBy Row.place rs row := by
  constructor
  · rintro ⟨before, later, heq, hlater⟩
    obtain ⟨before, rest, rfl, rfl, hrest⟩ := List.map_eq_append_iff.1 heq
    obtain ⟨first, later, rfl, hfirst, rfl⟩ := List.map_eq_cons_iff.1 hrest
    obtain rfl := Write.put.inj hfirst
    exact ⟨before, later, rfl, fun other hother => hlater _ (List.mem_map_of_mem hother)⟩
  · rintro ⟨before, later, rfl, hlater⟩
    refine ⟨before.map .put, later.map .put, by simp, fun w hw => ?_⟩
    obtain ⟨other, hother, rfl⟩ := List.mem_map.1 hw
    exact hlater other hother

namespace Dataset

variable {d d₁ d₂ : Dataset} {a : Application}

/-- The rows that the store built from a dataset holds. -/
def current (d : Dataset) : Set Row := Current (d.toRows.map .put)

/-- The store built from a dataset. -/
theorem exists_toStore (d : Dataset) :
    ∃ store, d.toStore = .ok store ∧ store.Represents d.current :=
  MemoryStore.exists_writeAll _

/-- Without secrets, the store built from a dataset holds what the store built from the dataset
without secrets does. -/
theorem image_current (d : Dataset) :
    Row.withoutSecret '' d.current = d.withoutSecrets.current := by
  have hrows : d.withoutSecrets.toRows = d.toRows.map Row.withoutSecret := by
    simp [toRows, withoutSecrets, Row.withoutSecret, Function.comp_def]
  ext row
  rw [current, current, hrows, mem_current_map_put, lastBy_map_iff]
  simp only [Row.place_withoutSecret, Set.mem_image, mem_current_map_put]

/-- The application is the last of the dataset with its id, so it is the one that the directory has
under the id. -/
def Registers (d : Dataset) (a : Application) : Prop := LastBy Application.id d.applications a

theorem mem_current_application_iff : .application a ∈ d.current ↔ d.Registers a := by
  -- all other writes may be left out, and among applications the place is the id
  have hdis : ∀ w : Write, w.Displaces (.application a) → w.putsApplication :=
    fun _ => Write.putsApplication_of_displaces rfl
  have hfilter : (d.toRows.map Write.put).filter Write.putsApplication =
      (d.applications.map Row.application).map Write.put := by
    simp [toRows, List.filter_map, Function.comp_def, Write.putsApplication, Row.place,
      Place.isApplication]
  rw [current, ← mem_current_filter hdis, hfilter, mem_current_map_put, lastBy_map_iff, Registers]
  simp only [LastBy, Row.place, ne_eq, Place.application.injEq, Row.application.injEq,
    exists_eq_right]

end Dataset

/-! ## Commands -/

section
variable {server₁ : Query.Server σ₁} {server₂ : Query.Server σ₂} {store₁ store₂ : MemoryStore}
  {R₁ R₂ : Resolver}

/-- The applications of rows without their secrets. -/
theorem application_mem_image_withoutSecret_iff {b : Application} :
    .application b ∈ Row.withoutSecret '' rows ↔
      ∃ a, .application a ∈ rows ∧ a.withoutSecret = b := by
  constructor
  · rintro ⟨row, hrow, heq⟩
    cases row with
    | application a => exact ⟨a, hrow, Row.application.inj heq⟩
    | _ => cases heq
  · rintro ⟨a, ha, rfl⟩
    exact ⟨_, ha, rfl⟩

/-- All other rows are left as they are. -/
theorem mem_image_withoutSecret_iff {row : Row} (hrow : row.place.isApplication = false) :
    row ∈ Row.withoutSecret '' rows ↔ row ∈ rows := by
  have hself : ∀ {row : Row}, row.place.isApplication = false → row.withoutSecret = row := by
    intro row hrow
    cases row with
    | application => cases hrow
    | _ => rfl
  constructor
  · rintro ⟨other, hother, rfl⟩
    rw [Row.place_withoutSecret] at hrow
    rwa [hself hrow]
  · exact fun h => ⟨row, h, hself hrow⟩

/-- Stores that hold the same rows but for the secrets reply alike. -/
theorem Query.Server.Serves.widens (hserver₁ : server₁.Serves store₁)
    (hserver₂ : server₂.Serves store₂) (hrep₁ : store₁.Represents rows₁)
    (hrep₂ : store₂.Represents rows₂)
    (himage : Row.withoutSecret '' rows₁ = Row.withoutSecret '' rows₂) (tenant : TenantCode) :
    server₁.Widens Application.withoutSecret tenant (fun _ _ => True) server₂ := by
  intro r hr s₁ s₂ _
  obtain ⟨x, hx, hxfits⟩ := hserver₁.exists_reply hrep₁ r s₁
  obtain ⟨y, hy, hyfits⟩ := hserver₂.exists_reply hrep₂ r s₂
  rw [hx, hy]
  refine ⟨.ok (hxfits.widens Application.overview_withoutSecret hr (fun row hrow => ?_)
    (fun b => ?_) hyfits), trivial⟩
  · have happ : row.place.isApplication = false := by
      cases row with
      | application => cases hrow
      | _ => rfl
    rw [← mem_image_withoutSecret_iff happ, himage, mem_image_withoutSecret_iff happ]
  · rw [← application_mem_image_withoutSecret_iff, himage, application_mem_image_withoutSecret_iff]

/-- Against stores that hold the same rows but for the secrets, every question but the one for
credentials is answered alike. -/
theorem Resolver.ask_like_of_image_eq (hserver₁ : server₁.Serves store₁)
    (hserver₂ : server₂.Serves store₂) (hrep₁ : store₁.Represents rows₁)
    (hrep₂ : store₂.Represents rows₂)
    (himage : Row.withoutSecret '' rows₁ = Row.withoutSecret '' rows₂)
    (hsettings : R₁.settings = R₂.settings) (hlevels₁ : store₁.levels ≤ R₁.levels)
    (hlevels₂ : store₂.levels ≤ R₂.levels) (tenant : TenantCode) (q : Question)
    (hq : ∀ code secret, q ≠ .credentials code secret) (s₁ : σ₁) (s₂ : σ₂) :
    ((R₁.ask tenant q).serve server₁ s₁).1.Like
      (fun a b => q.look Application.withoutSecret a = q.look Application.withoutSecret b)
      ((R₂.ask tenant q).serve server₂ s₂).1 := by
  -- both walks are given as many levels as either takes, so that they are coupled level by level
  rw [← Resolver.ask_with_levels hserver₁ hrep₁ hlevels₁
      (hlevels₁.trans (le_max_left R₁.levels R₂.levels)) q hq,
    ← Resolver.ask_with_levels hserver₂ hrep₂ hlevels₂
      (hlevels₂.trans (le_max_right R₁.levels R₂.levels)) q hq]
  have hwidens := hserver₁.widens hserver₂ hrep₁ hrep₂ himage tenant
  refine Query.Coupled.serve_of_serves ?_ hrep₁ hserver₁ hwidens trivial
  refine Resolver.ask_coupled Application.overview_withoutSecret ?_ ?_ q hq
  · exact hsettings
  · rfl

namespace CommandLine

/-- Only the command for credentials asks for credentials. -/
theorem Command.question_ne_credentials {command : Command} {q : Question}
    (hcommand : ∀ code secret, command ≠ .credentials code secret) (h : command.question = .ok q)
    (code secret : String) : q ≠ .credentials code secret := by
  rintro rfl
  cases command with
  | credentials code secret => exact hcommand code secret rfl
  | permissions | roles | ranges | menus | explain | applications | validate =>
    obtain ⟨_, -, h⟩ := bind_eq_ok_iff.1 h
    cases h
  | authorize =>
    obtain ⟨_, -, h⟩ := bind_eq_ok_iff.1 h
    obtain ⟨_, -, h⟩ := bind_eq_ok_iff.1 h
    cases h

/-- Against stores that hold the same rows but for the secrets, every command but the one for
credentials comes to the same. -/
theorem Command.execute_eq_of_image_eq (hserver₁ : server₁.Serves store₁)
    (hserver₂ : server₂.Serves store₂) (hrep₁ : store₁.Represents rows₁)
    (hrep₂ : store₂.Represents rows₂)
    (himage : Row.withoutSecret '' rows₁ = Row.withoutSecret '' rows₂)
    (hsettings : R₁.settings = R₂.settings) (hlevels₁ : store₁.levels ≤ R₁.levels)
    (hlevels₂ : store₂.levels ≤ R₂.levels) {command : Command}
    (hcommand : ∀ code secret, command ≠ .credentials code secret) (tenant : TenantCode)
    (time : String) (s₁ : σ₁) (s₂ : σ₂) :
    command.execute R₁ tenant time server₁ s₁ = command.execute R₂ tenant time server₂ s₂ := by
  rw [execute, execute]
  cases hquestion : command.question with
  | error => rfl
  | ok q =>
    have hq := Command.question_ne_credentials hcommand hquestion
    have hlike := Resolver.ask_like_of_image_eq hserver₁ hserver₂ hrep₁ hrep₂ himage hsettings
      hlevels₁ hlevels₂ tenant q hq s₁ s₂
    refine congrArg Report.ofOutcome (hlike.map_eq fun a b hab => ?_)
    rw [← q.toValue_look, hab, q.toValue_look]

end CommandLine

end

/-! ## Credentials -/

section
variable {d d₁ d₂ : Dataset} {a b : Application} {server : Query.Server σ} {store : MemoryStore}
  {code secret : String}

namespace Dataset

/-- The secret is the one of an application of the dataset with the code. -/
def Unlocks (d : Dataset) (code secret : String) : Prop :=
  ∃ a ∈ d.applications, a.code = code ∧ a.secret = secret

theorem Registers.mem (h : d.Registers a) : a ∈ d.applications := by
  obtain ⟨before, later, heq, -⟩ := h
  rw [heq]
  exact List.mem_append_right _ List.mem_cons_self

theorem registers_withoutSecrets_iff :
    d.withoutSecrets.Registers b ↔ ∃ a, d.Registers a ∧ a.withoutSecret = b :=
  lastBy_map_iff

/-- Of datasets that are equal but for their secrets the directory has the same applications, but
for their secrets. -/
theorem Registers.of_withoutSecrets_eq (ha : d₁.Registers a)
    (hsecrets : d₁.withoutSecrets = d₂.withoutSecrets) :
    ∃ b, d₂.Registers b ∧ b.code = a.code ∧ b.withoutSecret = a.withoutSecret := by
  have hblank : d₂.withoutSecrets.Registers a.withoutSecret :=
    hsecrets ▸ registers_withoutSecrets_iff.2 ⟨a, ha, rfl⟩
  obtain ⟨b, hb, hba⟩ := registers_withoutSecrets_iff.1 hblank
  exact ⟨b, hb, (Application.mk.inj hba).2.1, hba⟩

/-- The codes of a dataset do not depend on its secrets. -/
theorem map_code_withoutSecrets (d : Dataset) :
    d.withoutSecrets.applications.map Application.code = d.applications.map Application.code := by
  rw [withoutSecrets, List.map_map]
  rfl

/-- Where codes are not repeated, the secret of an application is the only one that unlocks its
code. -/
theorem unlocks_iff (hcodes : (d.applications.map Application.code).Nodup)
    (ha : a ∈ d.applications) : d.Unlocks a.code secret ↔ a.secret = secret := by
  constructor
  · rintro ⟨b, hb, hcode, rfl⟩
    rw [List.inj_on_of_nodup_map hcodes hb ha hcode]
  · exact fun h => ⟨a, ha, rfl, h⟩

end Dataset

namespace CommandLine

section
variable (hserver : server.Serves store) (hrep : store.Represents d.current) (R : Resolver)
  (tenant : TenantCode) (time : String) (s : σ)
include hserver hrep

/-- Credentials with the code of an application of the directory are good with its secret, and bad
otherwise. -/
theorem Command.execute_credentials_of_registers
    (hcodes : (d.applications.map Application.code).Nodup) (ha : d.Registers a)
    (secret : String) : (Command.credentials a.code secret).execute R tenant time server s =
      .ok (if a.secret = secret then .answer (Application.codec.write a.withoutSecret)
        else .ofError (.badCredentials a.code)) := by
  obtain ⟨reply, hreply, hsome, hnone⟩ := hserver.exists_reply hrep (.applicationByCode a.code) s
  -- the walk over the directory may meet any application with the code first; there is only one
  have hfound : reply = some a := by
    cases reply with
    | none => exact absurd rfl (hnone rfl a (Dataset.mem_current_application_iff.2 ha))
    | some b =>
      obtain ⟨hb, hcode⟩ := hsome b rfl
      have hmem := (Dataset.mem_current_application_iff.1 hb).mem
      rw [List.inj_on_of_nodup_map hcodes hmem ha.mem hcode]
  show Report.ofOutcome (((applicationByCredentials a.code secret).serve server s).1.map _) = _
  rw [applicationByCredentials_serve, hreply, hfound]
  by_cases hsecret : a.secret = secret
  · simp only [if_pos hsecret]
    rfl
  · simp only [if_neg hsecret]
    rfl

/-- Where the directory has no application with the code, whatever the secret is, the directory is
reported not to be filled. -/
theorem Command.execute_credentials_of_not_registers (hnone : ∀ a, d.Registers a → a.code ≠ code)
    (secret : String) : (Command.credentials code secret).execute R tenant time server s =
      .ok (.ofError (.serviceUnavailable
        s!"application '{code}' is not known to the directory")) := by
  obtain ⟨reply, hreply, hsome, -⟩ := hserver.exists_reply hrep (.applicationByCode code) s
  have hfound : reply = none := by
    cases reply with
    | none => rfl
    | some a =>
      obtain ⟨ha, hcode⟩ := hsome a rfl
      exact absurd hcode (hnone a (Dataset.mem_current_application_iff.1 ha))
  show Report.ofOutcome (((applicationByCredentials code secret).serve server s).1.map _) = _
  rw [applicationByCredentials_serve, hreply, hfound]
  rfl

end

/-- Credentials come to the same against datasets that are equal but for their secrets, when the
secret that was supplied unlocks the code in both or in neither. -/
theorem Command.execute_credentials_eq {server₁ : Query.Server σ₁} {server₂ : Query.Server σ₂}
    {store₁ store₂ : MemoryStore} (hserver₁ : server₁.Serves store₁)
    (hserver₂ : server₂.Serves store₂) (hrep₁ : store₁.Represents d₁.current)
    (hrep₂ : store₂.Represents d₂.current) (hsecrets : d₁.withoutSecrets = d₂.withoutSecrets)
    (hcodes₁ : (d₁.applications.map Application.code).Nodup)
    (hcodes₂ : (d₂.applications.map Application.code).Nodup)
    (hunlocks : d₁.Unlocks code secret ↔ d₂.Unlocks code secret) (R₁ R₂ : Resolver)
    (tenant : TenantCode) (time : String) (s₁ : σ₁) (s₂ : σ₂) :
    (Command.credentials code secret).execute R₁ tenant time server₁ s₁ =
      (Command.credentials code secret).execute R₂ tenant time server₂ s₂ := by
  by_cases hfound : ∃ a, d₁.Registers a ∧ a.code = code
  · obtain ⟨a, ha, rfl⟩ := hfound
    obtain ⟨b, hb, hcode, hba⟩ := ha.of_withoutSecrets_eq hsecrets
    have hsecret : a.secret = secret ↔ b.secret = secret := by
      rw [← Dataset.unlocks_iff hcodes₁ ha.mem, hunlocks, ← hcode,
        Dataset.unlocks_iff hcodes₂ hb.mem]
    have hexecute₂ := execute_credentials_of_registers hserver₂ hrep₂ R₂ tenant time s₂ hcodes₂ hb
      secret
    rw [hcode, hba] at hexecute₂
    rw [execute_credentials_of_registers hserver₁ hrep₁ R₁ tenant time s₁ hcodes₁ ha, hexecute₂]
    simp only [hsecret]
  · have hnone₁ : ∀ a, d₁.Registers a → a.code ≠ code := fun a ha hcode => hfound ⟨a, ha, hcode⟩
    have hnone₂ : ∀ b, d₂.Registers b → b.code ≠ code := by
      intro b hb hcode
      obtain ⟨a, ha, hab, -⟩ := hb.of_withoutSecrets_eq hsecrets.symm
      exact hnone₁ a ha (hab.trans hcode)
    rw [execute_credentials_of_not_registers hserver₁ hrep₁ R₁ tenant time s₁ hnone₁,
      execute_credentials_of_not_registers hserver₂ hrep₂ R₂ tenant time s₂ hnone₂]

end CommandLine

/-- Datasets that are equal but for their secrets, and whose applications have different codes, are
not told apart: they are written in the same way, and against the stores built from them, in
whatever order these are walked, every command but the one for credentials comes to the same. So
does the one for credentials when the secret that was supplied unlocks the code in both datasets or
in neither. The application that the directory has under the code is answered, without its secret,
to its secret, and every other secret is bad; where the directory has none, because no application
has the code or a later one with the same id took its place, the directory is reported not to be
filled. -/
theorem execute_eq_of_withoutSecrets_eq (hsecrets : d₁.withoutSecrets = d₂.withoutSecrets)
    (hcodes : (d₁.applications.map Application.code).Nodup) :
    Dataset.codec.write d₁ = Dataset.codec.write d₂ ∧
    ∃ store₁ store₂, d₁.toStore = .ok store₁ ∧ d₂.toStore = .ok store₂ ∧
      ∀ {σ₁ σ₂ : Type} (server₁ : Query.Server σ₁) (server₂ : Query.Server σ₂),
        server₁.Serves store₁ → server₂.Serves store₂ →
      ∀ R₁ R₂ : Resolver, R₁.settings = R₂.settings →
        store₁.levels ≤ R₁.levels → store₂.levels ≤ R₂.levels →
      ∀ (tenant : TenantCode) (time : String) (s₁ : σ₁) (s₂ : σ₂),
        (∀ command : Command, (∀ code secret, command ≠ .credentials code secret) →
          command.execute R₁ tenant time server₁ s₁ =
            command.execute R₂ tenant time server₂ s₂) ∧
        ∀ code secret,
          ((d₁.Unlocks code secret ↔ d₂.Unlocks code secret) →
            (Command.credentials code secret).execute R₁ tenant time server₁ s₁ =
              (Command.credentials code secret).execute R₂ tenant time server₂ s₂) ∧
          (∀ a, d₁.Registers a → a.code = code →
            (Command.credentials code secret).execute R₁ tenant time server₁ s₁ =
              .ok (if a.secret = secret then .answer (Application.codec.write a.withoutSecret)
                else .ofError (.badCredentials code))) ∧
          ((∀ a, d₁.Registers a → a.code ≠ code) →
            (Command.credentials code secret).execute R₁ tenant time server₁ s₁ =
              .ok (.ofError (.serviceUnavailable
                s!"application '{code}' is not known to the directory"))) := by
  have hcodes₂ : (d₂.applications.map Application.code).Nodup := by
    rwa [← d₂.map_code_withoutSecrets, ← hsecrets, d₁.map_code_withoutSecrets]
  have himage : Row.withoutSecret '' d₁.current = Row.withoutSecret '' d₂.current := by
    rw [Dataset.image_current, hsecrets, Dataset.image_current]
  obtain ⟨store₁, hstore₁, hrep₁⟩ := d₁.exists_toStore
  obtain ⟨store₂, hstore₂, hrep₂⟩ := d₂.exists_toStore
  refine ⟨?_, store₁, store₂, hstore₁, hstore₂, ?_⟩
  · rw [← Dataset.write_withoutSecrets, hsecrets, Dataset.write_withoutSecrets]
  intro σ₁ σ₂ server₁ server₂ hserver₁ hserver₂ R₁ R₂ hsettings hlevels₁ hlevels₂ tenant time s₁ s₂
  refine ⟨fun command hcommand => ?_, fun code secret => ⟨fun hunlocks => ?_, ?_, fun hnone => ?_⟩⟩
  · exact Command.execute_eq_of_image_eq hserver₁ hserver₂ hrep₁ hrep₂ himage hsettings hlevels₁
      hlevels₂ hcommand tenant time s₁ s₂
  · exact Command.execute_credentials_eq hserver₁ hserver₂ hrep₁ hrep₂ hsecrets hcodes hcodes₂
      hunlocks R₁ R₂ tenant time s₁ s₂
  · rintro a ha rfl
    exact Command.execute_credentials_of_registers hserver₁ hrep₁ R₁ tenant time s₁ hcodes ha secret
  · exact Command.execute_credentials_of_not_registers hserver₁ hrep₁ R₁ tenant time s₁ hnone secret

end

/-- The wiki with a secret, and Ann, who reads its pages. -/
def Wiki.locked (secret : String) : Dataset :=
  { Wiki.stock with
    applications := [{ id := ⟨"wiki"⟩, code := "wiki", name := "Wiki", secret }] }

/-- Ann is told of the wiki alike whatever its secret is, and the secret opens the wiki and is not
told again. -/
theorem execute_eq_of_withoutSecrets_eq_locked :
    (Wiki.locked "pw").withoutSecrets = (Wiki.locked "other").withoutSecrets ∧
    ((Wiki.locked "pw").applications.map Application.code).Nodup ∧
    ∃ store₁ store₂, (Wiki.locked "pw").toStore = .ok store₁ ∧
      (Wiki.locked "other").toStore = .ok store₂ ∧
      (Command.applications "ann" "page").execute { settings := {}, levels := store₁.levels }
        ⟨"acme"⟩ "now" (store₁.reply.toServer : Query.Server Unit) () =
      (Command.applications "ann" "page").execute { settings := {}, levels := store₂.levels }
        ⟨"acme"⟩ "now" (store₂.reply.toServer : Query.Server Unit) () ∧
      (Command.credentials "wiki" "pw").execute { settings := {}, levels := store₁.levels }
        ⟨"acme"⟩ "now" (store₁.reply.toServer : Query.Server Unit) () =
      .ok (.answer
        (Application.codec.write { id := ⟨"wiki"⟩, code := "wiki", name := "Wiki" })) := by
  have hsecrets : (Wiki.locked "pw").withoutSecrets = (Wiki.locked "other").withoutSecrets := rfl
  have hcodes : ((Wiki.locked "pw").applications.map Application.code).Nodup := by decide
  obtain ⟨-, store₁, store₂, hstore₁, hstore₂, hexecute⟩ :=
    execute_eq_of_withoutSecrets_eq hsecrets hcodes
  obtain ⟨hcommands, hcredentials⟩ := hexecute store₁.reply.toServer store₂.reply.toServer
    store₁.serves_reply store₂.serves_reply { settings := {}, levels := store₁.levels }
    { settings := {}, levels := store₂.levels } rfl le_rfl le_rfl ⟨"acme"⟩ "now" () ()
  obtain ⟨-, hfound, -⟩ := hcredentials "wiki" "pw"
  refine ⟨hsecrets, hcodes, store₁, store₂, hstore₁, hstore₂, hcommands _ nofun, ?_⟩
  exact (hfound _ ⟨[], [], rfl, nofun⟩ rfl).trans rfl

/-- A dataset in which a second application takes the place of the wiki, which has the same id and
another code. -/
def Wiki.displaced : Dataset where
  applications := [{ id := ⟨"wiki"⟩, code := "wiki", name := "Wiki", secret := "pw" },
    { id := ⟨"wiki"⟩, code := "wiki2", name := "Wiki 2", secret := "pw2" }]

/-- The codes of a dataset do not all reach the directory: a wrong secret for the wiki is not
reported to be bad where another application took the wiki's place. -/
theorem credentials_of_displaced :
    (Wiki.displaced.applications.map Application.code).Nodup ∧
    (∃ a ∈ Wiki.displaced.applications, a.code = "wiki" ∧ a.secret ≠ "wrong") ∧
    ∃ store, Wiki.displaced.toStore = .ok store ∧
      (Command.credentials "wiki" "wrong").execute { settings := {}, levels := store.levels }
        ⟨"acme"⟩ "now" (store.reply.toServer : Query.Server Unit) () =
      .ok (.ofError (.serviceUnavailable "application 'wiki' is not known to the directory")) ∧
      (Command.credentials "wiki" "wrong").execute { settings := {}, levels := store.levels }
        ⟨"acme"⟩ "now" (store.reply.toServer : Query.Server Unit) () ≠
      .ok (.ofError (.badCredentials "wiki")) := by
  refine ⟨by decide, by decide, ?_⟩
  obtain ⟨store, hstore, hrep⟩ := Wiki.displaced.exists_toStore
  refine ⟨store, hstore, ?_⟩
  have hnone : ∀ a, Wiki.displaced.Registers a → a.code ≠ "wiki" := by
    rintro a ⟨before, later, heq, hlater⟩ hcode
    cases before with
    | nil =>
      obtain ⟨rfl, rfl⟩ := List.cons.inj heq
      exact hlater _ List.mem_cons_self rfl
    | cons first before =>
      have hmem : a ∈ before ++ a :: later := List.mem_append_right _ List.mem_cons_self
      have htail := (List.cons.inj heq).2
      rw [← List.append_eq, ← htail, List.mem_singleton] at hmem
      rw [hmem] at hcode
      exact absurd hcode (by decide)
  have hexecute := Command.execute_credentials_of_not_registers (store.serves_reply (σ := Unit))
    hrep { settings := {}, levels := store.levels } ⟨"acme"⟩ "now" () hnone "wrong"
  refine ⟨hexecute, ?_⟩
  rw [hexecute]
  simp [Report.ofError, AccessError.status]

end TenantAccess

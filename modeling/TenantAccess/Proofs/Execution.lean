import TenantAccess.CommandLine.Execution
import TenantAccess.Proofs.Discipline
import TenantAccess.Proofs.Json.Document
import TenantAccess.Proofs.Reliance
import TenantAccess.Proofs.Secrecy
import TenantAccess.Proofs.Superset

/-!
# What a run comes to

A command line is `Invocation.Accepted` when its files are read and understood, its settings break
no rule, and no id that was typed is blank. The main statement is `exit_of_run`: an accepted command
line always comes to one JSON document on the standard output, the answer to its question or what
the question was refused for, and every other one fails without output. This holds of every
`Traversal`, whoever serves the store and in whatever order. What is in the dataset cannot make a run
fail, because a store that was filled from a dataset never is the reason for a refusal, and ends
every walk (`Query.Server.Serves.ask_settles`).

A run goes through steps that may fail. For each of them there are two lemmas: when it succeeds, and
within which contexts it fails (`FailsIn`).
-/

namespace TenantAccess

/-! ## Steps that may fail -/

section
variable {ε ε' α β : Type} {contexts : List String}

theorem ok_bind (a : α) (f : α → Except ε β) : .ok a >>= f = f a := rfl

theorem mapError_eq_ok_iff {x : Except ε α} {f : ε → ε'} {a : α} :
    x.mapError f = .ok a ↔ x = .ok a := by
  cases x <;> simp [Except.mapError]

theorem map_eq_ok_iff {x : Except ε α} {f : α → β} {b : β} :
    f <$> x = .ok b ↔ ∃ a, x = .ok a ∧ b = f a := by
  cases x <;> simp [Functor.map, Except.map, eq_comm]

/-- A step that, if it fails, does so within one of some contexts. -/
def FailsIn (contexts : List String) (x : Except Failure α) : Prop :=
  ∀ failure, x = .error failure → ∃ context ∈ contexts, failure.contexts.head? = some context

theorem FailsIn.ok (a : α) : FailsIn contexts (.ok a) := nofun

/-- Of two steps the second is only taken with what the first has given. -/
theorem FailsIn.bind {x : Except Failure α} {f : α → Except Failure β} (hx : FailsIn contexts x)
    (hf : ∀ a, x = .ok a → FailsIn contexts (f a)) : FailsIn contexts (x >>= f) := by
  cases x with
  | ok a => exact hf a rfl
  | error failure =>
    rintro _ ⟨⟩
    exact hx failure rfl

theorem FailsIn.mono {more : List String} {x : Except Failure α} (h : FailsIn contexts x)
    (hmore : ∀ context ∈ contexts, context ∈ more) : FailsIn more x := fun failure hfailure =>
  have ⟨context, hmem, hhead⟩ := h failure hfailure
  ⟨context, hmore context hmem, hhead⟩

/-- A step whose errors are put into a context. -/
theorem FailsIn.mapError {x : Except ε α} {f : ε → Failure}
    (h : ∀ e, ∃ context ∈ contexts, (f e).contexts.head? = some context) :
    FailsIn contexts (x.mapError f) := by
  cases x with
  | ok a => exact .ok a
  | error e =>
    rintro _ ⟨⟩
    exact h e

end

/-! ## Files -/

section
variable {files : Files} {path : String}

/-- A file is read within one context and understood within another. -/
theorem failsIn_load {α : Type} {unread invalid : String} (x : Except ReadFault String)
    (ofText : String → Except Failure α) : FailsIn [unread, invalid] (do
      let text ← x.mapError fun fault => { contexts := [unread], cause := .unreadable fault }
      (ofText text).mapError (Failure.within invalid)) := by
  refine .bind (.mapError fun _ => ⟨_, List.mem_cons_self, rfl⟩) fun text _ => ?_
  exact .mapError fun _ => ⟨_, List.mem_cons_of_mem _ List.mem_cons_self, rfl⟩

/-- A text is taken for a configuration if it is read as one and its settings break no rule. -/
theorem Configuration.ofText_eq_ok_iff {c : Configuration} {text : String} :
    Configuration.ofText text = .ok c ↔
      Configuration.codec.read.ofText text = .ok c ∧ c.admin.validate = .ok () := by
  simp only [ofText, bind_eq_ok_iff, mapError_eq_ok_iff]
  constructor
  · rintro ⟨c', hread, ⟨⟩, hvalid, ⟨⟩⟩
    exact ⟨hread, hvalid⟩
  · rintro ⟨hread, hvalid⟩
    exact ⟨c, hread, (), hvalid, rfl⟩

/-- A configuration is loaded if its file is read and understood and its settings break no rule. -/
theorem Configuration.load_eq_ok_iff {c : Configuration} : Configuration.load files path = .ok c ↔
    (∃ text, files.read path = .ok text ∧ Configuration.codec.read.ofText text = .ok c) ∧
      c.admin.validate = .ok () := by
  simp only [load, bind_eq_ok_iff, mapError_eq_ok_iff, ofText_eq_ok_iff]
  constructor
  · rintro ⟨text, htext, hread, hvalid⟩
    exact ⟨⟨text, htext, hread⟩, hvalid⟩
  · rintro ⟨⟨text, htext, hread⟩, hvalid⟩
    exact ⟨text, htext, hread, hvalid⟩

theorem Configuration.load_failsIn :
    FailsIn [s!"failed to read config at {path}", s!"invalid config at {path}"]
      (Configuration.load files path) := failsIn_load _ _

/-- A dataset is loaded if its file is read and understood. -/
theorem Dataset.load_eq_ok_iff {d : Dataset} : Dataset.load files path = .ok d ↔
    ∃ text, files.read path = .ok text ∧ Dataset.codec.read.ofText text = .ok d := by
  simp only [load, ofText, bind_eq_ok_iff, mapError_eq_ok_iff]

theorem Dataset.load_failsIn :
    FailsIn [s!"failed to read dataset at {path}", s!"invalid dataset at {path}"]
      (Dataset.load files path) := failsIn_load _ _

end

namespace CommandLine

open Json

/-! ## Typed ids -/

/-- The contexts in which an id of a command is refused. -/
def idContexts : List String := ["invalid application id", "invalid account id"]

section
variable {kind : IdKind} {context text : String}

/-- A typed id is taken in if it is not blank, without the white space around it. -/
theorem typedId_eq_ok_iff {id : Identifier kind} :
    typedId context text = .ok id ↔ ¬ Text.isBlank text ∧ id = ⟨Text.trim text⟩ := by
  rw [typedId, mapError_eq_ok_iff, Identifier.parse_eq_ok_iff]

theorem typedId_failsIn {contexts : List String} (h : context ∈ contexts) :
    FailsIn contexts (typedId context text : Except Failure (Identifier kind)) :=
  .mapError fun _ => ⟨context, h, rfl⟩

end

namespace AccountScope

/-- The ids of a scope, as they were typed. -/
def ids (s : AccountScope) : List String := s.account :: s.application.toList

/-- The account and the application of a scope, without the white space around them. -/
def trimmed (s : AccountScope) : AccountId × Option ApplicationId :=
  (⟨Text.trim s.account⟩, s.application.map fun text => ⟨Text.trim text⟩)

theorem typed_eq_ok_iff {s : AccountScope} {p : AccountId × Option ApplicationId} :
    s.typed = .ok p ↔ (∀ text ∈ s.ids, ¬ Text.isBlank text) ∧ p = s.trimmed := by
  obtain ⟨account, _ | application⟩ := s
  · simp [typed, typedAccount, typedId_eq_ok_iff, ids, trimmed, map_eq_ok_iff]
  · simp [typed, typedAccount, typedApplication, bind_eq_ok_iff, typedId_eq_ok_iff, ids, trimmed,
      map_eq_ok_iff, and_left_comm, and_assoc]

/-- A question about a scope is put if no id of the scope is blank. -/
theorem question_eq_ok_iff (s : AccountScope) (g : AccountId → Option ApplicationId → Question)
    {q : Question} : (do let (account, scope) ← s.typed; return g account scope) = .ok q ↔
      (∀ text ∈ s.ids, ¬ Text.isBlank text) ∧ q = g s.trimmed.1 s.trimmed.2 := by
  rw [bind_eq_ok_iff]
  constructor
  · rintro ⟨p, htyped, ⟨⟩⟩
    obtain ⟨hids, rfl⟩ := typed_eq_ok_iff.1 htyped
    exact ⟨hids, rfl⟩
  · rintro ⟨hids, rfl⟩
    exact ⟨s.trimmed, typed_eq_ok_iff.2 ⟨hids, rfl⟩, rfl⟩

theorem typed_failsIn (s : AccountScope) : FailsIn idContexts s.typed := by
  have haccount (application : Option ApplicationId) :
      FailsIn idContexts (do return (← typedAccount s.account, application)) :=
    .bind (typedId_failsIn (by decide)) fun account _ => .ok _
  obtain ⟨account, _ | application⟩ := s
  · exact haccount none
  · refine .bind (.bind (typedId_failsIn (by decide)) fun application _ => .ok _) ?_
    exact fun application _ => haccount application

end AccountScope

namespace Command

/-- The ids that a command names, as they were typed. -/
def ids : Command → List String
  | .permissions s | .roles s | .ranges s | .menus s _ | .explain s _ => s.ids
  | .applications account _ => [account]
  | .validate application => [application]
  | .authorize account application _ => [account, application]
  | .credentials .. => []

/-- The question of a command, about its ids without the white space around them. -/
def trimmed : Command → Question
  | .permissions s => .permissions s.trimmed.1 s.trimmed.2
  | .roles s => .roles s.trimmed.1 s.trimmed.2
  | .ranges s => .ranges s.trimmed.1 s.trimmed.2
  | .menus s menuType => .menus s.trimmed.1 menuType s.trimmed.2
  | .applications account menuType => .applications ⟨Text.trim account⟩ menuType
  | .validate application => .validate ⟨Text.trim application⟩
  | .authorize account application permission =>
    .authorize ⟨Text.trim account⟩ ⟨Text.trim application⟩ permission
  | .explain s permission => .explain s.trimmed.1 s.trimmed.2 permission
  | .credentials code secret => .credentials code secret

/-- A command puts its question if no id that it names is blank. -/
theorem question_eq_ok_iff {command : Command} {q : Question} :
    command.question = .ok q ↔
      (∀ text ∈ command.ids, ¬ Text.isBlank text) ∧ q = command.trimmed := by
  cases command with
  | permissions s => exact s.question_eq_ok_iff .permissions
  | roles s => exact s.question_eq_ok_iff .roles
  | ranges s => exact s.question_eq_ok_iff .ranges
  | menus s menuType => exact s.question_eq_ok_iff fun account => .menus account menuType
  | explain s permission =>
    exact s.question_eq_ok_iff fun account scope => .explain account scope permission
  | applications | validate =>
    simp [question, typedAccount, typedApplication, typedId_eq_ok_iff, ids, trimmed, map_eq_ok_iff]
  | authorize =>
    simp [question, typedAccount, typedApplication, bind_eq_ok_iff, typedId_eq_ok_iff, ids, trimmed,
      map_eq_ok_iff, and_assoc]
  | credentials code secret =>
    simp only [question, ids, trimmed]
    constructor
    · rintro ⟨⟩
      exact ⟨List.forall_mem_nil _, rfl⟩
    · rintro ⟨-, rfl⟩
      rfl

theorem question_failsIn (command : Command) : FailsIn idContexts command.question := by
  cases command with
  | permissions | roles | ranges | menus | explain =>
    exact .bind (AccountScope.typed_failsIn _) fun _ _ => .ok _
  | applications | validate => exact .bind (typedId_failsIn (by decide)) fun _ _ => .ok _
  | authorize =>
    refine .bind (typedId_failsIn (by decide)) fun _ _ => ?_
    exact .bind (typedId_failsIn (by decide)) fun _ _ => .ok _
  | credentials => exact .ok _

end Command

/-! ## Runs -/

/-- An error that is no fault of the store is reported as a refusal. -/
theorem Report.ofOutcome_refused {e : AccessError} (h : ∀ fault, e ≠ .store fault) :
    ofOutcome (.refused e) = .ok (ofError e) := by
  cases e with
  | store fault => exact absurd rfl (h fault)
  | notFound | disabled | badCredentials | serviceUnavailable | forbidden => rfl

/-- A report is one document. -/
theorem Report.ofText_stdout (r : Report) :
    Doc.ofText r.stdout = (r.document.sorted.toDoc, false) := Doc.ofText_pretty r.document

/-- Only three commands demand something. -/
theorem Command.of_not_isLookup {command : Command} (h : command.trimmed.isLookup = false) :
    (∃ application, command = .validate application) ∨
      (∃ account application permission, command = .authorize account application permission) ∨
      ∃ code secret, command = .credentials code secret := by
  cases command with
  | permissions | roles | ranges | menus | applications | explain => cases h
  | validate application => exact .inl ⟨application, rfl⟩
  | authorize account application permission =>
    exact .inr (.inl ⟨account, application, permission, rfl⟩)
  | credentials code secret => exact .inr (.inr ⟨code, secret, rfl⟩)

namespace Invocation

/-- The path of the configuration: the one on the command line, or else the one that the environment
variable names. -/
def configPath (i : Invocation) (configVariable : Option String) : Option String :=
  i.config.or (Configuration.pathOfVariable configVariable)

/-- Loads the configuration; without a path there are no settings to load. -/
def configuration (i : Invocation) (files : Files) (configVariable : Option String) :
    Except Failure Configuration :=
  match i.configPath configVariable with
  | some path => Configuration.load files path
  | none => .ok {}

/-- The configuration of a command line: what its file holds, or the one without any settings when
no file is named. Its settings break no rule. -/
def Configures (i : Invocation) (files : Files) (configVariable : Option String)
    (c : Configuration) : Prop :=
  (match i.configPath configVariable with
    | some path => ∃ text, files.read path = .ok text ∧ Configuration.codec.read.ofText text = .ok c
    | none => c = {}) ∧ c.admin.validate = .ok ()

/-- All that a command line needs is in order; it brings in a configuration and a dataset. -/
structure Accepted (i : Invocation) (files : Files) (configVariable : Option String)
    (c : Configuration) (d : Dataset) : Prop where
  configures : i.Configures files configVariable c
  tenant : ¬ Text.isBlank i.tenant
  dataset : ∃ text, files.read i.dataset = .ok text ∧ Dataset.codec.read.ofText text = .ok d
  ids : ∀ text ∈ i.command.ids, ¬ Text.isBlank text

/-- What comes of the question of a command line, about the ids and the tenant without the white
space around them, when it is put to a store. -/
def outcome {σ : Type} (i : Invocation) (walk : Traversal σ) (settings : AdminSettings)
    (store : MemoryStore) (s : σ) : Outcome i.command.trimmed.Answer :=
  (((walk.resolver settings store).ask ⟨Text.trim i.tenant⟩ i.command.trimmed).serve
    (walk.serve store) s).1

/-- The contexts in which a command line fails. Each of them names something that was brought in. -/
def contexts (i : Invocation) (configVariable : Option String) : List String :=
  (i.configPath configVariable).toList.flatMap
      (fun path => [s!"failed to read config at {path}", s!"invalid config at {path}"]) ++
    "invalid tenant code" :: s!"failed to read dataset at {i.dataset}" ::
      s!"invalid dataset at {i.dataset}" :: idContexts

section
variable {σ : Type} {i : Invocation} {walk : Traversal σ} {files : Files}
  {configVariable : Option String} {c : Configuration} {d : Dataset} {store : MemoryStore}

/-- The settings that are in force when no configuration is named break no rule. -/
theorem validate_default : ({} : Configuration).admin.validate = .ok () := by decide

theorem configuration_eq_ok_iff :
    i.configuration files configVariable = .ok c ↔ i.Configures files configVariable c := by
  rw [configuration, Configures]
  cases i.configPath configVariable with
  | some path => exact Configuration.load_eq_ok_iff
  | none =>
    constructor
    · rintro ⟨⟩
      exact ⟨rfl, validate_default⟩
    · rintro ⟨rfl, -⟩
      rfl

theorem configuration_failsIn (i : Invocation) (files : Files) (configVariable : Option String) :
    FailsIn (i.contexts configVariable) (i.configuration files configVariable) := by
  rw [configuration]
  cases hpath : i.configPath configVariable with
  | none => exact .ok _
  | some path =>
    refine Configuration.load_failsIn.mono fun context hcontext => List.mem_append_left _ ?_
    rw [hpath]
    simpa using hcontext

/-- The configuration is loaded first, wherever its path comes from. -/
theorem runWith_eq (i : Invocation) (walk : Traversal σ) (files : Files)
    (configVariable : Option String) (time : String) (st : σ) :
    i.runWith walk files configVariable time st = (do
      let c ← i.configuration files configVariable
      let tenant ← typedTenant i.tenant
      let d ← Dataset.load files i.dataset
      let store ← d.toStore.mapError fun fault =>
        { contexts := ["failed to populate the in-memory store"], cause := .store fault }
      i.command.execute (walk.resolver c.admin store) tenant time (walk.serve store) st) := by
  rw [runWith, configuration, configPath]
  cases i.config with
  | some path => rfl
  | none => rfl

/-- The question of a command line is answered, or it is refused with an error that is no fault of
the store. Only questions that demand something are refused. -/
theorem outcome_settles (i : Invocation) (hwalk : ∀ store, (walk.serve store).Serves store)
    (settings : AdminSettings) (hstore : d.toStore = .ok store) (st : σ) :
    (∃ a, i.outcome walk settings store st = .answered a) ∨
      ∃ e, i.outcome walk settings store st = .refused e ∧ (∀ fault, e ≠ .store fault) ∧
        i.command.trimmed.isLookup = false := by
  obtain ⟨filled, hfilled, hrep⟩ := d.exists_toStore
  obtain rfl : filled = store := Except.ok.inj (hfilled.symm.trans hstore)
  obtain ⟨hsound, hends⟩ := (hwalk filled).ask_settles hrep (walk.resolver settings filled)
    ⟨Text.trim i.tenant⟩ i.command.trimmed st
  cases houtcome : i.outcome walk settings filled st with
  | answered a => exact .inl ⟨a, rfl⟩
  | stalled => exact absurd houtcome (hends le_rfl)
  | refused e =>
    have hfault : ∀ fault, e ≠ .store fault := by
      rintro fault rfl
      exact hsound fault houtcome
    refine .inr ⟨e, rfl, hfault, ?_⟩
    -- a lookup refuses with faults of the store only, and there are none
    by_contra hlookup
    have hverdict := ((walk.resolver settings filled).ask_vetted ⟨Text.trim i.tenant⟩
      (by simpa using hlookup)).verdict (walk.serve filled) st
    rw [show (((walk.resolver settings filled).ask _ i.command.trimmed).serve
      (walk.serve filled) st).1 = _ from houtcome] at hverdict
    obtain ⟨fault, rfl⟩ := hverdict.eq_store
    exact hfault fault rfl

/-- What comes of the question of a command line is reported: its answer, or what it was refused
for. -/
theorem exists_report (i : Invocation) (hwalk : ∀ store, (walk.serve store).Serves store)
    (settings : AdminSettings) (hstore : d.toStore = .ok store) (time : String) (st : σ) :
    ∃ report, Report.ofOutcome ((i.outcome walk settings store st).map
        (i.command.trimmed.toValue ⟨Text.trim i.tenant⟩ time)) = .ok report ∧
      ((∃ a, i.outcome walk settings store st = .answered a ∧
          report = .answer (i.command.trimmed.toValue ⟨Text.trim i.tenant⟩ time a)) ∨
        ∃ e, i.outcome walk settings store st = .refused e ∧ (∀ fault, e ≠ .store fault) ∧
          i.command.trimmed.isLookup = false ∧ report = .ofError e) := by
  obtain ⟨a, ha⟩ | ⟨e, he, hfault, hlookup⟩ := i.outcome_settles hwalk settings hstore st
  · simp only [ha]
    exact ⟨_, rfl, .inl ⟨a, rfl, rfl⟩⟩
  · simp only [he]
    exact ⟨_, Report.ofOutcome_refused hfault, .inr ⟨e, rfl, hfault, hlookup, rfl⟩⟩

/-- An accepted command line comes to the report of what its question comes to. -/
theorem runWith_of_accepted (h : i.Accepted files configVariable c d)
    (hstore : d.toStore = .ok store) (walk : Traversal σ) (time : String) (st : σ) :
    i.runWith walk files configVariable time st =
      Report.ofOutcome ((i.outcome walk c.admin store st).map
        (i.command.trimmed.toValue ⟨Text.trim i.tenant⟩ time)) := by
  have htenant : typedTenant i.tenant = .ok ⟨Text.trim i.tenant⟩ :=
    typedId_eq_ok_iff.2 ⟨h.tenant, rfl⟩
  have hquestion : i.command.question = .ok i.command.trimmed :=
    Command.question_eq_ok_iff.2 ⟨h.ids, rfl⟩
  rw [runWith_eq, configuration_eq_ok_iff.2 h.configures, ok_bind, htenant, ok_bind,
    Dataset.load_eq_ok_iff.2 h.dataset, ok_bind, mapError_eq_ok_iff.2 hstore, ok_bind,
    Command.execute, hquestion, ok_bind, outcome]

/-- Only an accepted command line comes to a report. -/
theorem exists_accepted_of_runWith {time : String} {st : σ} {report : Report}
    (h : i.runWith walk files configVariable time st = .ok report) :
    ∃ c d, i.Accepted files configVariable c d := by
  simp only [runWith_eq, bind_eq_ok_iff] at h
  obtain ⟨c, hconfig, tenant, htenant, d, hdataset, store, -, hexecute⟩ := h
  obtain ⟨q, hquestion, -⟩ := bind_eq_ok_iff.1 hexecute
  exact ⟨c, d, {
    configures := configuration_eq_ok_iff.1 hconfig
    tenant := (typedId_eq_ok_iff.1 htenant).1
    dataset := Dataset.load_eq_ok_iff.1 hdataset
    ids := (Command.question_eq_ok_iff.1 hquestion).1 }⟩

/-- Whatever fails in a run, one of the things that were brought in is named for it. -/
theorem runWith_failsIn (i : Invocation) (hwalk : ∀ store, (walk.serve store).Serves store)
    (files : Files) (configVariable : Option String) (time : String) (st : σ) :
    FailsIn (i.contexts configVariable) (i.runWith walk files configVariable time st) := by
  have hrest (context : String) (h : context ∈ "invalid tenant code" ::
      s!"failed to read dataset at {i.dataset}" :: s!"invalid dataset at {i.dataset}" ::
        idContexts) : context ∈ i.contexts configVariable := List.mem_append_right _ h
  rw [runWith_eq]
  refine .bind (configuration_failsIn i files configVariable) fun c _ => ?_
  refine .bind (typedId_failsIn (hrest _ List.mem_cons_self)) fun tenant htenant => ?_
  refine .bind (Dataset.load_failsIn.mono fun context h => hrest _ ?_) fun d _ => ?_
  · exact List.mem_cons_of_mem _ (List.mem_append_left idContexts h)
  -- the store is filled whatever the dataset holds, so only the ids are left to be refused
  obtain ⟨store, hstore, -⟩ := d.exists_toStore
  rw [mapError_eq_ok_iff.2 hstore, ok_bind]
  refine .bind (i.command.question_failsIn.mono fun context h => hrest _ ?_) fun q hquestion => ?_
  · exact List.mem_cons_of_mem _ (List.mem_append_right [_, _] h)
  obtain ⟨-, rfl⟩ := typedId_eq_ok_iff.1 htenant
  obtain ⟨-, rfl⟩ := Command.question_eq_ok_iff.1 hquestion
  obtain ⟨report, hreport, -⟩ := i.exists_report hwalk c.admin hstore time st
  rintro failure hfailure
  cases hreport.symm.trans hfailure

end

/-- A text is no other that does not begin alike. -/
theorem append_ne {start rest text : String} (h : ¬ start.toList <+: text.toList) :
    start ++ rest ≠ text := by
  rintro rfl
  exact h (by simp)

/-- No context of a failure is one of the store. -/
theorem contexts_ne (i : Invocation) (configVariable : Option String) :
    ∀ context ∈ i.contexts configVariable,
      context ≠ "storage failure" ∧ context ≠ "failed to populate the in-memory store" := by
  have hnamed (start path : String) (hstorage : ¬ start.toList <+: "storage failure".toList)
      (hpopulate : ¬ start.toList <+: "failed to populate the in-memory store".toList) :
      start ++ path ≠ "storage failure" ∧
        start ++ path ≠ "failed to populate the in-memory store" :=
    ⟨append_ne hstorage, append_ne hpopulate⟩
  intro context hcontext
  obtain hconfig | hrest := List.mem_append.1 hcontext
  · obtain ⟨path, -, hpath⟩ := List.mem_flatMap.1 hconfig
    simp only [List.mem_cons, List.not_mem_nil, or_false] at hpath
    obtain rfl | rfl := hpath
    · exact hnamed "failed to read config at " path (by decide) (by decide)
    · exact hnamed "invalid config at " path (by decide) (by decide)
  · simp only [idContexts, List.mem_cons, List.not_mem_nil, or_false] at hrest
    obtain rfl | rfl | rfl | rfl | rfl := hrest
    · decide
    · exact hnamed "failed to read dataset at " i.dataset (by decide) (by decide)
    · exact hnamed "invalid dataset at " i.dataset (by decide) (by decide)
    · decide
    · decide

end Invocation

/-- Whatever was typed and whatever the files hold, and however the tables and collections are gone
through. If the command line is accepted, the run succeeds, and what it prints is one JSON document:
with the exit status 0 the answer to the question of the command, or with the status 2 what the
question was refused for. The status is 2 if and only if the question is refused, which only
`validate`, `authorize` and `credentials` can be. Every other run fails with the status 1 and prints
nothing. No failure is one of the store. -/
theorem exit_of_run {σ : Type} (i : Invocation) (walk : Traversal σ)
    (hwalk : ∀ store, (walk.serve store).Serves store) (files : Files)
    (configVariable : Option String) (time : String) (st : σ) :
    let result := i.runWith walk files configVariable time st
    let exit := Exit.ofResult result
    (∀ c d, i.Accepted files configVariable c d → ∃ store report v,
      d.toStore = .ok store ∧ result = .ok report ∧ (exit.status = 0 ∨ exit.status = 2) ∧
      exit.stdout = Value.pretty v ++ "\n" ∧ Doc.ofText exit.stdout = (v.sorted.toDoc, false) ∧
      ((∃ a, i.outcome walk c.admin store st = .answered a ∧ exit.status = 0 ∧
          v = i.command.trimmed.toValue ⟨Text.trim i.tenant⟩ time a) ∨
        ∃ e, i.outcome walk c.admin store st = .refused e ∧ exit.status = 2 ∧
          v = .object [("error", .text e.message), ("status", .integer e.status)]) ∧
      (exit.status = 2 ↔ ∃ e, i.outcome walk c.admin store st = .refused e ∧
        ∀ fault, e ≠ .store fault) ∧
      (exit.status = 2 → (∃ application, i.command = .validate application) ∨
        (∃ account application permission,
          i.command = .authorize account application permission) ∨
        ∃ code secret, i.command = .credentials code secret)) ∧
    ((∀ c d, ¬ i.Accepted files configVariable c d) →
      (∃ failure, result = .error failure) ∧ exit.status = 1 ∧ exit.stdout = "") ∧
    ∀ failure, result = .error failure → ∃ context ∈ i.contexts configVariable,
      failure.contexts.head? = some context ∧ context ≠ "storage failure" ∧
        context ≠ "failed to populate the in-memory store" := by
  intro result exit
  refine ⟨fun c d haccepted => ?_, fun hnone => ?_, fun failure hfailure => ?_⟩
  · obtain ⟨store, hstore, -⟩ := d.exists_toStore
    obtain ⟨report, hreport, hsettled⟩ := i.exists_report hwalk c.admin hstore time st
    have hresult : result = .ok report :=
      (i.runWith_of_accepted haccepted hstore walk time st).trans hreport
    have hexit : exit = { status := report.exitStatus, stdout := report.stdout } :=
      congrArg Exit.ofResult hresult
    rw [hexit]
    refine ⟨store, report, report.document, hstore, hresult, ?_⟩
    obtain ⟨a, ha, rfl⟩ | ⟨e, he, hfault, hlookup, rfl⟩ := hsettled
    · rw [ha]
      exact ⟨.inl rfl, rfl, Report.ofText_stdout _, .inl ⟨a, rfl, rfl, rfl⟩, ⟨nofun, nofun⟩, nofun⟩
    · rw [he]
      exact ⟨.inr rfl, rfl, Report.ofText_stdout _, .inr ⟨e, rfl, rfl, rfl⟩,
        ⟨fun _ => ⟨e, rfl, hfault⟩, fun _ => rfl⟩, fun _ => Command.of_not_isLookup hlookup⟩
  · cases hresult : result with
    | ok report =>
      obtain ⟨c, d, haccepted⟩ := Invocation.exists_accepted_of_runWith hresult
      exact absurd haccepted (hnone c d)
    | error failure =>
      have hexit : exit = { status := 1, stderr := s!"error: {failure.message}" } :=
        congrArg Exit.ofResult hresult
      rw [hexit]
      exact ⟨⟨failure, rfl⟩, rfl, rfl⟩
  · obtain ⟨context, hmem, hhead⟩ := i.runWith_failsIn hwalk files configVariable time st failure
      hfailure
    exact ⟨context, hmem, hhead, i.contexts_ne configVariable context hmem⟩

/-- Settings in which Olga is an officer, and the wiki with Ann as a reader, each in its file. -/
def wikiFiles : Files := fun path =>
  if path = "warden.json" then .ok (Configuration.codec.write { admin := Wiki.staffed }).compact
  else if path = "wiki.json" then .ok (Dataset.codec.write Wiki.stock).compact
  else .error .notFound

/-- A command about the wiki. -/
def askWiki (command : Command) : Invocation where
  dataset := "wiki.json"
  tenant := " acme "
  command := command

/-- What a command about the wiki leaves behind. The environment names the file of the settings. -/
def wikiExit (command : Command) : Exit :=
  .ofResult ((askWiki command).run wikiFiles (some " warden.json ") "now")

theorem accepted_askWiki (command : Command) (h : ∀ text ∈ command.ids, ¬ Text.isBlank text) :
    (askWiki command).Accepted wikiFiles (some " warden.json ") { admin := Wiki.staffed }
      Wiki.stock := by
  have hsettings : Configuration.codec.read (Configuration.codec.write
      { admin := Wiki.staffed }).toDoc = .ok { admin := Wiki.staffed } := by rfl
  have hwiki : Dataset.codec.read (Dataset.codec.write Wiki.stock).toDoc = .ok Wiki.stock := by
    rfl
  exact {
    configures := ⟨⟨_, show wikiFiles.read "warden.json" = _ by simp [Files.read, wikiFiles],
      Reader.ofText_eq_ok (Doc.ofText_compact _) hsettings⟩, by decide⟩
    tenant := show ¬ Text.isBlank " acme " by decide
    dataset := ⟨_, show wikiFiles.read "wiki.json" = _ by simp [Files.read, wikiFiles],
      Reader.ofText_eq_ok (Doc.ofText_compact _) hwiki⟩
    ids := h }

/-- Ann's menus are printed with the status 0: the page that she may read and the one above it. What
is printed for whoever brings a secret that is not the wiki's comes with the status 2. -/
theorem exit_of_run_wiki :
    (∀ store, (Traversal.inOrder.serve store).Serves store) ∧
    (askWiki (.menus { account := " ann " } none)).Accepted wikiFiles (some " warden.json ")
      { admin := Wiki.staffed } Wiki.stock ∧
    (askWiki (.credentials "wiki" "guess")).Accepted wikiFiles (some " warden.json ")
      { admin := Wiki.staffed } Wiki.stock ∧
    (wikiExit (.menus { account := " ann " } none)).status = 0 ∧
    (wikiExit (.menus { account := " ann " } none)).stdout =
      (rowsValue Menu.codec [Wiki.pages ⟨"acme"⟩, Wiki.root ⟨"acme"⟩]).pretty ++ "\n" ∧
    (wikiExit (.credentials "wiki" "guess")).status = 2 ∧
    (wikiExit (.credentials "wiki" "guess")).stdout =
      (Value.object [("error", .text "bad credentials for application 'wiki'"),
        ("status", .integer 400)]).pretty ++ "\n" := by
  have hwalk : ∀ store, (Traversal.inOrder.serve store).Serves store :=
    fun store => store.serves_reply
  have hmenus := accepted_askWiki (.menus { account := " ann " } none) (by decide)
  have hguess := accepted_askWiki (.credentials "wiki" "guess") (by decide)
  refine ⟨hwalk, hmenus, hguess, ?_⟩
  obtain ⟨store, -, v, hstore, -, -, hstdout, -, hanswer, -⟩ :=
    (exit_of_run _ .inOrder hwalk wikiFiles (some " warden.json ") "now" ()).1 _ _ hmenus
  obtain ⟨store', -, v', hstore', -, -, hstdout', -, hrefusal, -⟩ :=
    (exit_of_run _ .inOrder hwalk wikiFiles (some " warden.json ") "now" ()).1 _ _ hguess
  have houtcome : (askWiki (.menus { account := " ann " } none)).outcome .inOrder Wiki.staffed
      store () = .answered [Wiki.pages ⟨"acme"⟩, Wiki.root ⟨"acme"⟩] := by
    obtain rfl := Except.ok.inj hstore
    refine congrArg Prod.fst (Wiki.Replies.runs_menus (a := Wiki.ann ⟨"acme"⟩) ?_ (by decide) rfl
      rfl rfl).serve
    exact ⟨rfl, rfl, rfl, rfl, rfl, rfl⟩
  have houtcome' : (askWiki (.credentials "wiki" "guess")).outcome .inOrder Wiki.staffed
      store' () = .refused (.badCredentials "wiki") := by
    obtain rfl := Except.ok.inj hstore'
    rfl
  rw [houtcome] at hanswer
  rw [houtcome'] at hrefusal
  obtain ⟨a, ha, hstatus, rfl⟩ | ⟨e, he, -⟩ := hanswer
  · obtain ⟨a', ha', -⟩ | ⟨e, he, hstatus', rfl⟩ := hrefusal
    · cases ha'
    · obtain rfl := Outcome.answered.inj ha
      obtain rfl := Outcome.refused.inj he
      exact ⟨hstatus, hstdout, hstatus', hstdout'⟩
  · cases he

end CommandLine

end TenantAccess

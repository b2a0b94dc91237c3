/-
# Initializing is all or nothing

A manager is initialized with settings that are checked twice: as the settings of an index, and some
of them once more as options.  Its fields are assigned one after the other, most of them before the
second check, so a value that only this check refuses would leave a manager with half of its fields.

There is no such value.  `IndexSettings.check_eq_valid_iff` says which objects are settings, and all
settings pass as options (`IndexSettings.configuration?_eq`).  So assigning one field at a time
(`Manager.initializing`) comes to the one step that the manager takes
(`Manager.initializing_fields`), and either nothing has changed in the end or everything has been
done (`Manager.setUp_allOrNothing`).
-/
import SearchIndex.Manager.Lifecycle
import SearchIndex.Proofs.Concurrency.Completion

namespace SearchIndex

variable {α β : Type}

/-! ## Checks that succeed -/

namespace Checked

lemma map_eq_valid_iff {f : α → β} {a : Checked α} {b : β} :
    f <$> a = .valid b ↔ ∃ x, a = .valid x ∧ f x = b := by
  cases a <;> simp [Functor.map, map]

lemma seq_eq_valid_iff {f : Checked (α → β)} {a : Checked α} {b : β} :
    f <*> a = .valid b ↔ ∃ g x, f = .valid g ∧ a = .valid x ∧ g x = b := by
  cases f <;> cases a <;> simp [Seq.seq, ap]

lemma below_eq_valid_iff {step : PathStep} {a : Checked α} {x : α} :
    a.below step = .valid x ↔ a = .valid x := by
  cases a <;> simp [below]

end Checked

/-- A field has the value that its member stands for, or its default where the member is missing. -/
def IsGivenBy (members : Json.Members) (key : String) (default : α) (StandsFor : Json → α → Prop)
    (value : α) : Prop :=
  match Table.get? members key with
  | some j => StandsFor j value
  | none => value = default

lemma optional_eq_valid_iff {members : Json.Members} {key : String} {default value : α}
    {check : Json → Checked α} : optional members key default check = .valid value ↔
      IsGivenBy members key default (fun j v => check j = .valid v) value := by
  rw [optional, IsGivenBy]
  cases Table.get? members key with
  | none => simp [eq_comm]
  | some j => exact Checked.below_eq_valid_iff

/-! ## Data that are settings -/

lemma checkNullable_checkText_eq_valid_iff {j : Json} {t : Option String} :
    checkNullable checkText j = .valid t ↔ j = .ofText? t := by
  cases j <;> cases t <;> simp [checkNullable, checkText, Checked.issue, Checked.map, Json.ofText?]

lemma checkMember_eq_valid_iff {ofName? : String → Option α} {j : Json} {a : α} :
    checkMember ofName? j = .valid a ↔ ∃ name, j = .text name ∧ ofName? name = some a := by
  cases j with
  | text name => cases h : ofName? name <;> simp [checkMember, h, Checked.issue]
  | _ => simp [checkMember, Checked.issue]

lemma Strategy.ofName?_eq_some_iff {name : String} {strategy : Strategy} :
    ofName? name = some strategy ↔ name = strategy.name := by
  constructor
  · intro h
    have hname := List.find?_some h
    exact (of_decide_eq_true hname).symm
  · rintro rfl
    exact ofName?_name strategy

lemma IndexStatus.ofName?_eq_some_iff {name : String} {status : IndexStatus} :
    ofName? name = some status ↔ name = status.name := by
  constructor
  · intro h
    unfold ofName? at h
    split at h <;> cases h <;> rfl
  · rintro rfl
    exact ofName?_name status

namespace IndexSettings

lemma checkStatus_eq_valid_iff {j : Json} {status : IndexStatus} :
    checkStatus j = .valid status ↔ ∃ t, j = .text t ∧ Text.lowerCase t = status.name := by
  cases j with
  | text t =>
    simp [checkStatus, checkMember_eq_valid_iff, IndexStatus.ofName?_eq_some_iff]
  | _ => simp [checkStatus, checkMember, Checked.issue]

/-- A time is taken as the number that it is, so it cannot be negative. -/
lemma checkTimeout_eq_valid_iff {j : Json} {n : Nat} :
    checkTimeout j = .valid n ↔ checkInt j = .valid (n : Int) := by
  rw [checkTimeout]
  cases checkInt j with
  | invalid issues => simp [Checked.andThen]
  | valid k =>
    rw [Checked.andThen]
    split
    · simp only [Checked.issue, reduceCtorEq, Checked.valid.injEq, false_iff]
      omega
    · simp only [Checked.valid.injEq]
      omega

/-- The members of an object say what the settings of an index are. -/
structure AreSaidBy (settings : IndexSettings) (members : Json.Members) : Prop where
  /-- The name is a text or null. -/
  name : IsGivenBy members "name" none (fun j name => j = .ofText? name) settings.name
  /-- The strategy is spelled exactly. -/
  strategy : IsGivenBy members "schema_management_strategy" .create
    (fun j strategy => j = .text strategy.name) settings.strategy
  /-- The health is spelled in any case. -/
  requiredStatus : IsGivenBy members "required_index_status" .green
    (fun j status => ∃ t, j = .text t ∧ Text.lowerCase t = status.name) settings.requiredStatus
  /-- The time is a whole number that is not negative, or stands for one. -/
  waitTimeout : IsGivenBy members "index_management_wait_timeout" 10000
    (fun j (n : Nat) => checkInt j = .valid (n : Int)) settings.waitTimeout
  /-- The flag is a truth value or stands for one. -/
  refreshAfterWrite : IsGivenBy members "refresh_after_write" false
    (fun j b => checkBool j = .valid b) settings.refreshAfterWrite

/-- An object passes the check exactly if it says what the settings are. -/
theorem check_eq_valid_iff {members : Json.Members} {settings : IndexSettings} :
    check (.object members) = .valid settings ↔ settings.AreSaidBy members := by
  simp only [check, checkModel, Checked.seq_eq_valid_iff, Checked.map_eq_valid_iff,
    optional_eq_valid_iff, checkNullable_checkText_eq_valid_iff, checkMember_eq_valid_iff,
    Strategy.ofName?_eq_some_iff, exists_eq_right, checkStatus_eq_valid_iff,
    checkTimeout_eq_valid_iff]
  constructor
  · rintro ⟨_, _, ⟨_, _, ⟨_, _, ⟨_, _, ⟨_, hname, rfl⟩, hstrategy, rfl⟩, hstatus, rfl⟩, htimeout,
      rfl⟩, hrefresh, rfl⟩
    exact ⟨hname, hstrategy, hstatus, htimeout, hrefresh⟩
  · rintro ⟨hname, hstrategy, hstatus, htimeout, hrefresh⟩
    exact ⟨_, _, ⟨_, _, ⟨_, _, ⟨_, _, ⟨_, hname, rfl⟩, hstrategy, rfl⟩, hstatus, rfl⟩, htimeout,
      rfl⟩, hrefresh, rfl⟩

end IndexSettings

/-- The settings that properties stand for: checked ones themselves, data what their members say. -/
def Properties.StandFor : Properties → IndexSettings → Prop
  | settled given, settings => settings = given
  | raw data, settings => ∃ members, membersGiven data = .ok members ∧ settings.AreSaidBy members

/-- Data with members are checked as an object. -/
lemma Properties.settings_raw {data : Json} {members : Json.Members}
    (h : membersGiven data = .ok members) (index : String) :
    (raw data).settings index =
      match IndexSettings.check (.object members) with
      | .valid settings => .ok settings
      | .invalid issues => .error (.invalidConfiguration index issues) := by
  rw [Properties.settings, h]
  rfl

/-- A manager gets the settings that its properties stand for. -/
theorem Properties.settings_eq_ok_iff {p : Properties} {index : String} {settings : IndexSettings} :
    p.settings index = .ok settings ↔ p.StandFor settings := by
  cases p with
  | settled given => simp [Properties.settings, StandFor, eq_comm]
  | raw data =>
    rw [StandFor]
    cases hmembers : membersGiven data with
    | error failure =>
      rw [Properties.settings, hmembers]
      simp [bind, Except.bind]
    | ok members =>
      rw [settings_raw hmembers]
      simp only [Except.ok.injEq, exists_eq_left', ← IndexSettings.check_eq_valid_iff]
      cases IndexSettings.check (.object members) <;> simp

/-- An object that says no settings is refused with the issues found. -/
lemma Properties.exists_issues {members : Json.Members} {index : String} {failure : Failure}
    (h : (raw (.object members)).settings index = .error failure) :
    ∃ issues, IndexSettings.check (.object members) = .invalid issues ∧
      failure = .invalidConfiguration index issues := by
  have hmembers : membersGiven (.object members) = .ok members := by
    cases members <;> rfl
  rw [settings_raw hmembers] at h
  cases hcheck : IndexSettings.check (.object members) with
  | valid settings =>
    rw [hcheck] at h
    cases h
  | invalid issues =>
    rw [hcheck] at h
    exact ⟨issues, rfl, (Except.error.inj h).symm⟩

namespace Manager

/-! ## One field at a time -/

/-- The fields of a manager, of which each is assigned on its own. -/
structure Fields where
  /-- Where it is in its life. -/
  state : Lifecycle
  /-- The name of its index. -/
  name : Option String
  /-- The name that its index has on the service. -/
  actualName : Option String
  /-- How the schema of its index is managed. -/
  strategy : Option Strategy
  /-- Whether its index is refreshed after each write. -/
  refresh : Bool
  /-- The options of all schema operations. -/
  options : Option SchemaOptions
  /-- What it makes requests with: the index that they are for, and whether they refresh it. -/
  visitor : Option (String × Bool)
  /-- The entity types that its index contains. -/
  contained : List String
  /-- Whether it holds the request processor. -/
  holdsProcessor : Bool

/-- The fields that a manager has. -/
def fields (m : Manager) : Fields where
  state := m.state
  name := m.configuration.map Configuration.name
  actualName := m.actualName?
  strategy := m.configuration.map Configuration.strategy
  refresh := (m.configuration.map Configuration.refresh).getD false
  options := m.configuration.map Configuration.options
  visitor := m.configuration.map fun c => (c.actualName, c.refresh)
  contained := m.contained
  holdsProcessor := m.holdsProcessor

/-- The index as messages name it. -/
def Fields.label (f : Fields) : String :=
  match f.actualName with
  | some name => if name.isEmpty then "?" else name
  | none => "?"

/-- Initializes a manager one field at a time.  Where it fails, the fields keep what they have been
assigned so far. -/
def initializing (index : String) (properties : Properties) (multitenancy : Bool) (f : Fields)
    (p : Processor) : Except Failure Unit × Fields × Processor :=
  if f.state ≠ .uninitialized then
    (.error (.wrongState "initialize" f.label f.state .uninitialized), f, p)
  else
    match properties.settings index with
    | .error failure => (.error failure, f, p)
    | .ok settings =>
      let f := { f with name := some (settings.configuration index multitenancy).name }
      let f := { f with actualName := f.name.map actualIndexName }
      let f := { f with strategy := some settings.strategy }
      let f := { f with refresh := settings.refreshAfterWrite }
      let options : SchemaOptions := ⟨settings.requiredStatus, settings.waitTimeout, multitenancy⟩
      match (SchemaOptions.check options.toJson).orFail "ExecutionOptions" with
      | .error failure => (.error failure, f, p)
      | .ok options =>
        let f := { f with options := some options }
        let f := { f with visitor := f.actualName.map fun name => (name, f.refresh) }
        let f := { f with holdsProcessor := true }
        let p := Execution.acquire p
        (.ok (), { f with state := .initialized }, p)

/-- Initializing one field at a time is one step, which leaves everything as it was if it fails. -/
theorem initializing_fields (name index : String) (properties : Properties) (multitenancy : Bool)
    (s : Shared) :
    initializing index properties multitenancy (s.manager name).fields s.processor =
      match setUp? name index properties multitenancy s with
      | .ok (after, _) => (.ok (), (after.manager name).fields, after.processor)
      | .error failure => (.error failure, (s.manager name).fields, s.processor) := by
  rw [initializing]
  by_cases hstate : (s.manager name).state = .uninitialized
  · have hfields : ¬(s.manager name).fields.state ≠ .uninitialized := not_not.2 hstate
    rw [if_neg hfields, setUp?_of_uninitialized hstate]
    cases properties.settings index with
    | error failure => rfl
    | ok settings =>
      have hmanager (m : Manager) :
          ((s.setManager name m).mapProcessor Execution.acquire).manager name = m := by
        simp [Shared.manager, Shared.setManager, Shared.mapProcessor, Table.get?_set_self]
      simp only [SchemaOptions.check_toJson, Except.map, hmanager]
      rfl
  · have hfields : (s.manager name).fields.state ≠ .uninitialized := hstate
    have hrequire : (s.manager name).require .uninitialized "initialize" = .error
        (.wrongState "initialize" (s.manager name).label (s.manager name).state .uninitialized) :=
      if_neg hstate
    rw [if_pos hfields, setUp?, hrequire]
    rfl

/-! ## All or nothing -/

/-- What is shared once a manager has been initialized: the manager knows its index and holds the
processor, which has one more user. -/
def afterInitializing (name : String) (c : Configuration) (s : Shared) : Shared where
  processor := { s.processor with users := s.processor.users + 1 }
  managers := Table.set s.managers name { s.manager name with
    state := .initialized, configuration := some c, holdsProcessor := true }
  policy := s.policy
  log := s.log ++ [⟨.info, .manager, initializedText c⟩]

/-- What initializing a manager comes to. -/
inductive Initialization (name index : String) (properties : Properties) (multitenancy : Bool)
    (s : Shared) : Except Failure Unit → Shared → Prop where
  /-- The properties stand for no settings, and everything is as it was.  An object is refused as an
  invalid configuration, with the issues that its check has found. -/
  | nothing (failure : Failure) (hnone : ∀ settings, ¬properties.StandFor settings)
      (hinvalid : ∀ members, properties = .raw (.object members) → ∃ issues,
        IndexSettings.check (.object members) = .invalid issues ∧
          failure = .invalidConfiguration index issues) :
      Initialization name index properties multitenancy s (.error failure) s
  /-- The properties stand for settings, and everything has been done. -/
  | all (settings : IndexSettings) (hsettings : properties.StandFor settings) :
      Initialization name index properties multitenancy s (.ok ())
        (afterInitializing name (settings.configuration index multitenancy) s)

variable {name index : String} {properties : Properties} {multitenancy : Bool} {s after : Shared}
  {trace : List (Call × Answer)} {result : Except Failure Unit}

/-- Without settings, initializing ends with a failure. -/
lemma ends_setUp_of_error (hstate : (s.manager name).state = .uninitialized) {failure : Failure}
    (hsettings : properties.settings index = .error failure) :
    (setUp name index properties multitenancy).Ends s trace result after ↔
      trace = [] ∧ result = .error failure ∧ after = s := by
  have hset : setUp? name index properties multitenancy s = .error failure := by
    rw [setUp?_of_uninitialized hstate, hsettings]
    rfl
  refine Activity.ends_attempt_bind.trans ?_
  rw [Activity.attempted, hset]
  exact Activity.ends_error_bind

/-- With settings, initializing ends with everything done. -/
lemma ends_setUp_of_ok (hstate : (s.manager name).state = .uninitialized)
    {settings : IndexSettings} (hsettings : properties.settings index = .ok settings) :
    (setUp name index properties multitenancy).Ends s trace result after ↔
      trace = [] ∧ result = .ok () ∧
        after = afterInitializing name (settings.configuration index multitenancy) s := by
  refine Activity.ends_attempt_bind.trans ?_
  rw [Activity.attempted, setUp?_of_uninitialized hstate, hsettings]
  exact Activity.ends_ok_bind.trans Activity.ends_note

/-- Initializing a manager that has not been initialized ends at once, without a call, and with
everything done or nothing.  It makes no difference that the fields are assigned one by one.  After a
failure the manager can still be initialized, with any properties that stand for settings. -/
theorem setUp_allOrNothing (hstate : (s.manager name).state = .uninitialized) (index : String)
    (properties : Properties) (multitenancy : Bool) :
    ∃ result s', Initialization name index properties multitenancy s result s' ∧
      (∀ trace r after, (setUp name index properties multitenancy).Ends s trace r after ↔
        trace = [] ∧ r = result ∧ after = s') ∧
      initializing index properties multitenancy (s.manager name).fields s.processor =
        (result, (s'.manager name).fields, s'.processor) ∧
      ∀ failure, result = .error failure →
        ∀ index' properties' multitenancy' settings, properties'.StandFor settings →
          (setUp name index' properties' multitenancy').Ends s' [] (.ok ())
            (afterInitializing name (settings.configuration index' multitenancy') s') := by
  have hfields := initializing_fields name index properties multitenancy s
  rw [setUp?_of_uninitialized hstate] at hfields
  cases hsettings : properties.settings index with
  | error failure =>
    rw [hsettings] at hfields
    refine ⟨.error failure, s, .nothing failure ?_ ?_,
      fun _ _ _ => ends_setUp_of_error hstate hsettings, hfields, ?_⟩
    · intro settings hstands
      cases hsettings.symm.trans (Properties.settings_eq_ok_iff.2 hstands)
    · rintro members rfl
      exact Properties.exists_issues hsettings
    · intro _ _ index' properties' multitenancy' settings hstands
      have hothers : properties'.settings index' = .ok settings :=
        Properties.settings_eq_ok_iff.2 hstands
      exact (ends_setUp_of_ok hstate hothers).2 ⟨rfl, rfl, rfl⟩
  | ok settings =>
    rw [hsettings] at hfields
    refine ⟨.ok (), _, .all settings (Properties.settings_eq_ok_iff.1 hsettings),
      fun _ _ _ => ends_setUp_of_ok hstate hsettings, hfields, ?_⟩
    intro failure hfailure
    cases hfailure

/-- A time below zero is refused, and after that the manager can be initialized without one, and
holds the processor as its one user. -/
theorem setUp_allOrNothing_negativeTime :
    let s : Shared := .fresh default default
    let negative : Json.Members := [("index_management_wait_timeout", .int (-5))]
    (s.manager "books").state = .uninitialized ∧
      (∃ issues, (setUp "books" "Library" (.raw (.object negative)) false).Ends s []
        (.error (.invalidConfiguration "Library" issues)) s) ∧
      ∃ after, (setUp "books" "Library" (.raw (.object [])) false).Ends s [] (.ok ()) after ∧
        (after.manager "books").state = .initialized ∧
        (after.manager "books").holdsProcessor = true ∧
        (after.manager "books").actualName? = some "library" ∧
        s.processor.users = 0 ∧ after.processor.users = 1 := by
  intro s negative
  have hstate : (s.manager "books").state = .uninitialized := rfl
  obtain ⟨result, s', hinit, hends, -, hlater⟩ :=
    setUp_allOrNothing hstate "Library" (.raw (.object negative)) false
  cases hinit with
  | nothing failure hnone hinvalid =>
    obtain ⟨issues, -, rfl⟩ := hinvalid negative rfl
    have hstands : (Properties.raw (.object [])).StandFor default :=
      ⟨[], rfl, rfl, rfl, rfl, rfl, rfl⟩
    exact ⟨hstate, ⟨issues, (hends _ _ _).2 ⟨rfl, rfl, rfl⟩⟩, _, hlater _ rfl _ _ _ _ hstands, rfl,
      rfl, rfl, rfl, rfl⟩
  | all settings hsettings =>
    -- the time given is no natural number
    obtain ⟨members, hmembers, hsaid⟩ := hsettings
    obtain rfl := Except.ok.inj hmembers
    have htime : (-5 : Int) = settings.waitTimeout := Checked.valid.inj hsaid.waitTimeout
    omega

end Manager

end SearchIndex

/-
# A schema that is applied survives

The command that applies a schema creates a manager for the index, binds it, and destroys it before
it ends.  When it ends well the index is there, unless its strategy is the one that deletes the
index when its manager is destroyed (`CommandLine.applied_index_survives`).  The command line does
not offer that strategy, but a file of settings or the environment may name it
(`CommandLine.applied_index_deleted`).

The service is the one held in memory.  It minds an index if the paths of its calls name it
(`Reaches`): a name with a slash, say, is read as more than a name.
-/
import SearchIndex.Proofs.Manager.Applying
import SearchIndex.Proofs.Table

namespace SearchIndex

open Schema

/-! ## The service held in memory -/

/-- On each host the path of an index names the index. -/
structure Reaches (hosts : List String) (index : String) : Prop where
  parts : ∀ host ∈ hosts, ∀ address, Address.read (host ++ indexPath index) = .ok address →
    MemoryService.pathParts address.path = [index]
  /-- It is not the path of bulk calls. -/
  not_bulk : index ≠ "_bulk"

namespace MemoryService

variable {s : MemoryService} {index : String} {m : Message}

/-- A service answers for itself: no rule does in its place, and no index has two entries. -/
structure IsPlain (s : MemoryService) : Prop where
  rules_eq : s.rules = []
  distinct : Table.IsDistinct s.indexes

lemma IsPlain.answer_eq (h : s.IsPlain) (m : Message) : s.answer m = s.ownAnswer m := by
  rw [answer, h.rules_eq]
  rfl

/-- What a message does to the indexes: nothing, or one is set, or one is deleted. -/
inductive Changes (s : MemoryService) (m : Message) : MemoryService → Prop where
  | nothing : Changes s m s
  | set (name : String) (value : Json) :
      Changes s m { s with indexes := Table.set s.indexes name value }
  | erase (name : String) (hmethod : m.method = "DELETE") :
      Changes s m { s with indexes := Table.erase s.indexes name }

lemma changes_indexAnswer (s : MemoryService) (index : String) (m : Message) :
    s.Changes m (s.indexAnswer index m).2 := by
  rw [indexAnswer]
  dsimp only
  split
  · exact .nothing
  · split
    · split
      · exact .nothing
      · exact .set _ _
    · split
      next hmethod =>
        split
        · exact .erase _ hmethod
        · exact .nothing
      next => exact .nothing

lemma changes_mappingAnswer (s : MemoryService) (index : String) (rest : List String) (m : Message) :
    s.Changes m (s.mappingAnswer index rest m).2 := by
  rw [mappingAnswer]
  split
  · exact .nothing
  · split
    · exact .nothing
    · split
      · exact .set _ _
      · exact .nothing

lemma changes_ownAnswer (s : MemoryService) (m : Message) : s.Changes m (s.ownAnswer m).2 := by
  rw [ownAnswer]
  split
  · exact .nothing
  · exact .nothing
  · exact changes_indexAnswer s _ m
  · exact changes_mappingAnswer s _ _ m
  · exact .nothing

lemma Changes.isPlain {s' : MemoryService} (h : s.Changes m s') (hs : s.IsPlain) : s'.IsPlain := by
  cases h with
  | nothing => exact hs
  | set name value => exact ⟨hs.rules_eq, Table.isDistinct_set hs.distinct name value⟩
  | erase name _ => exact ⟨hs.rules_eq, Table.isDistinct_erase hs.distinct name⟩

/-- A message that deletes nothing leaves all indexes. -/
lemma Changes.has {s' : MemoryService} (h : s.Changes m s') (hmethod : m.method ≠ "DELETE")
    (hhas : Table.has s.indexes index = true) : Table.has s'.indexes index = true := by
  cases h with
  | nothing => exact hhas
  | set name value =>
    by_cases hname : name = index
    · subst hname
      rw [Table.has, Table.get?_set_self]
      rfl
    · rwa [Table.has, Table.get?_set_of_ne _ _ hname]
  | erase name hdelete => exact absurd hdelete hmethod

lemma ownAnswer_of_parts (hparts : pathParts m.path = [index]) (hbulk : index ≠ "_bulk") :
    s.ownAnswer m = s.indexAnswer index m := by
  rw [ownAnswer, hparts]
  split
  next heq => simp at heq
  next heq => exact absurd (List.head_eq_of_cons_eq heq) hbulk
  next heq => rw [List.head_eq_of_cons_eq heq]
  next heq => simp at heq
  next hnot _ => exact absurd rfl (hnot index)

/-- Asking for an index changes nothing. -/
lemma indexAnswer_head (hm : m.method = "HEAD") : s.indexAnswer index m =
    (.reply (if Table.has s.indexes index = true then 200 else 404) .empty, s) := by
  rw [indexAnswer, if_pos hm]

/-- An index that is put is there. -/
lemma has_indexAnswer_put (hm : m.method = "PUT") :
    Table.has (s.indexAnswer index m).2.indexes index = true := by
  rw [indexAnswer, if_neg (by rw [hm]; decide), if_pos hm]
  dsimp only
  split
  next hhas => exact hhas
  next =>
    rw [Table.has, Table.get?_set_self]
    rfl

/-- An index that is deleted is gone. -/
lemma not_has_indexAnswer_delete (hs : s.IsPlain) (hm : m.method = "DELETE") :
    ¬ Table.has (s.indexAnswer index m).2.indexes index = true := by
  rw [indexAnswer, if_neg (by rw [hm]; decide), if_neg (by rw [hm]; decide), if_pos hm]
  split
  next =>
    rw [Table.has, Table.get?_erase_self hs.distinct]
    decide
  next hmissing => exact hmissing

end MemoryService

/-! ## Connections -/

namespace Connection

variable {hosts : List String} {index : String}

/-- A connection to a service that answers for itself, by a client with some hosts. -/
structure IsPlain (hosts : List String) (c : Connection) : Prop where
  hosts_eq : c.client.hosts = hosts
  service : c.service.IsPlain

/-- A call that is sent is a message to a host, with the path of the call there. -/
lemma message_eq_ok {client : Client} {call : Call} {m : Message}
    (h : client.message call = .ok m) : ∃ address,
      Address.read (client.host ++ call.path) = .ok address ∧ m.path = address.path ∧
        m.method = String.ofList (call.method.toList.map Char.toUpper) := by
  rw [Client.message] at h
  cases haddress : Address.read (client.host ++ call.path) with
  | error reason =>
    rw [haddress] at h
    cases h
  | ok address =>
    refine ⟨address, rfl, ?_⟩
    rw [haddress] at h
    cases hbody : call.content.body with
    | error reason =>
      rw [hbody] at h
      cases h
    | ok body =>
      rw [hbody] at h
      cases hopen : client.isOpen with
      | false =>
        rw [hopen] at h
        cases h
      | true =>
        rw [hopen] at h
        obtain rfl := Except.ok.inj h
        exact ⟨rfl, rfl⟩

/-- A call that is not sent leaves the service alone; one that is sent is answered by it. -/
lemma serve_cases (c : Connection) (call : Call) :
    (∃ reason, (c.serve call).1 = .unsent reason ∧ (c.serve call).2.service = c.service) ∨
      ∃ m address, Address.read (c.client.host ++ call.path) = .ok address ∧
        m.path = address.path ∧ m.method = String.ofList (call.method.toList.map Char.toUpper) ∧
        (c.serve call).1 = (c.service.answer m).1 ∧
        (c.serve call).2.service = (c.service.answer m).2 := by
  cases hmessage : c.client.message call with
  | error reason =>
    refine Or.inl ⟨reason, ?_⟩
    rw [serve, hmessage]
    exact ⟨rfl, rfl⟩
  | ok m =>
    obtain ⟨address, haddress, hpath, hmethod⟩ := message_eq_ok hmessage
    refine Or.inr ⟨m, address, haddress, hpath, hmethod, ?_⟩
    rw [serve, hmessage]
    exact ⟨rfl, rfl⟩

lemma hosts_serve (c : Connection) (call : Call) : (c.serve call).2.client.hosts = c.client.hosts := by
  rw [serve]
  split <;> rfl

/-- The answer about the index as a whole. -/
lemma serve_of_path {c : Connection} (hc : c.IsPlain hosts) (hosts_ne : hosts ≠ [])
    (h : Reaches hosts index) (call : Call) (method : String) (hpath : call.path = indexPath index)
    (hcall : call.method = method)
    (hcapitals : String.ofList (method.toList.map Char.toUpper) = method) :
    (∃ reason, (c.serve call).1 = .unsent reason) ∨ ∃ m : Message, m.method = method ∧
        (c.serve call).1 = (c.service.indexAnswer index m).1 ∧
        (c.serve call).2.service = (c.service.indexAnswer index m).2 := by
  rcases c.serve_cases call with ⟨reason, hreason, -⟩ |
    ⟨m, address, haddress, hpath', hmethod, hanswer, hafter⟩
  · exact Or.inl ⟨reason, hreason⟩
  · have hhost : c.client.host ∈ hosts := by
      rw [← hc.hosts_eq] at hosts_ne ⊢
      have hpos := List.length_pos_iff.2 hosts_ne
      rw [Client.host, Nat.max_eq_right hpos, List.getD_eq_getElem?_getD,
        List.getElem?_eq_getElem (Nat.mod_lt _ hpos), Option.getD_some]
      exact List.getElem_mem _
    rw [hpath] at haddress
    have hparts := h.parts _ hhost address haddress
    rw [← hpath'] at hparts
    have hown := MemoryService.ownAnswer_of_parts (s := c.service) hparts h.not_bulk
    rw [hc.service.answer_eq, hown] at hanswer hafter
    rw [hcall, hcapitals] at hmethod
    exact Or.inr ⟨m, hmethod, hanswer, hafter⟩

/-- A plain connection minds every index that its hosts reach. -/
lemma mindsIndex_serve (hosts_ne : hosts ≠ []) (h : Reaches hosts index) :
    MindsIndex serve index (IsPlain hosts) fun c => Table.has c.service.indexes index = true where
  stays c call hc := by
    refine ⟨(c.hosts_serve call).trans hc.hosts_eq, ?_⟩
    rcases c.serve_cases call with ⟨-, -, hafter⟩ | ⟨m, -, -, -, -, -, hafter⟩
    · rw [hafter]
      exact hc.service
    · rw [hafter, hc.service.answer_eq]
      exact (MemoryService.changes_ownAnswer _ m).isPlain hc.service
  kept c call hc hmethod hthere := by
    rcases c.serve_cases call with ⟨-, -, hafter⟩ | ⟨m, -, -, -, hm, -, hafter⟩
    · rwa [hafter]
    · rw [hafter, hc.service.answer_eq]
      refine (MemoryService.changes_ownAnswer _ m).has ?_ hthere
      rw [hm]
      rcases hmethod with hget | hput
      · rw [hget]
        decide
      · rw [hput]
        decide
  found c hc hanswer := by
    rcases serve_of_path hc hosts_ne h (existenceCheck index) "HEAD" rfl rfl (by decide) with
      ⟨reason, hreason⟩ | ⟨m, hm, hreply, hafter⟩
    · rw [hreason] at hanswer
      cases hanswer
    · rw [hreply, MemoryService.indexAnswer_head hm] at hanswer
      rw [hafter, MemoryService.indexAnswer_head hm]
      by_contra hmissing
      rw [if_neg hmissing] at hanswer
      cases hanswer
  missed c payload hc hanswer := by
    rcases serve_of_path hc hosts_ne h (existenceCheck index) "HEAD" rfl rfl (by decide) with
      ⟨reason, hreason⟩ | ⟨m, hm, hreply, hafter⟩
    · rw [hreason] at hanswer
      cases hanswer
    · rw [hreply, MemoryService.indexAnswer_head hm] at hanswer
      rw [hafter, MemoryService.indexAnswer_head hm]
      intro hthere
      rw [if_pos hthere] at hanswer
      cases hanswer
  created c target hc hname hanswer := by
    rcases serve_of_path hc hosts_ne h (creation target) "PUT" (congrArg indexPath hname) rfl
      (by decide) with
      ⟨reason, hreason⟩ | ⟨m, hm, hreply, hafter⟩
    · rw [hreason] at hanswer
      rcases hanswer with hacknowledged | ⟨status, body, hsaid, -⟩
      · cases hacknowledged
      · cases hsaid
    · rw [hafter]
      exact MemoryService.has_indexAnswer_put hm
  deleted c options hc hanswer := by
    rcases serve_of_path hc hosts_ne h (deletion index options) "DELETE" rfl rfl (by decide) with
      ⟨reason, hreason⟩ | ⟨m, hm, hreply, hafter⟩
    · rw [hreason] at hanswer
      rcases hanswer with hacknowledged | ⟨payload, hmissing⟩
      · cases hacknowledged
      · cases hmissing
    · rw [hafter]
      exact MemoryService.not_has_indexAnswer_delete hc.service hm

end Connection

/-! ## The command -/

namespace Client

lemma hosts_ofHosts_ne_nil (hosts : List String) : (ofHosts hosts).hosts ≠ [] := by
  rw [ofHosts]
  cases hosts with
  | nil => exact List.cons_ne_nil _ _
  | cons host rest => exact List.cons_ne_nil _ _

lemma hosts_of_ofSettings {s : ServiceSettings} {client : Client} (h : ofSettings s = .ok client) :
    client.hosts = (ofHosts s.hosts).hosts := by
  rw [ofSettings] at h
  split at h
  · cases h
  · split at h
    · obtain rfl := Except.ok.inj h
      rfl
    · obtain rfl := Except.ok.inj h
      rfl

end Client

namespace CommandLine

/-- The hosts that a command line which applies a schema calls, and what its manager knows of the
index, if there are settings for that. -/
def effective? (words : List String) (surroundings : Surroundings) :
    Option (List String × Configuration) :=
  match Arguments.read words with
  | .ok ⟨config, _, .apply index mappings strategy multitenancy⟩ =>
    match settingsData config surroundings.files with
    | .ok data =>
      match Settings.load surroundings.environment data with
      | .ok settings =>
        let settings := withStrategy settings (.apply index mappings strategy multitenancy)
        (settings.schema.configuration? index multitenancy).toOption.map fun c =>
          ((Client.ofHosts settings.service.hosts).hosts, c)
      | .error _ => none
    | .error _ => none
  | _ => none

/-- A run that ends with code 0 has had no failure. -/
lemma failure_of_report {settings : LogSettings} {outcome : Outcome} {log : List Log.Entry}
    {r : Report} (h : report settings outcome log = .finished r) (hcode : r.code = 0) :
    outcome.failure = none ∧ outcome.lines = r.lines := by
  rw [report] at h
  split at h
  next hnone =>
    obtain rfl := Ending.finished.inj h
    exact ⟨hnone, rfl⟩
  next failure hsome =>
    split at h
    · obtain rfl := Ending.finished.inj h
      cases hcode
    · cases h

/-- The settings end no run with code 0. -/
lemma code_of_settingsData {config : Option String} {files : String → FileState} {r : Report}
    (h : settingsData config files = .error (.finished r)) : r.code ≠ 0 := by
  unfold settingsData at h
  split at h
  · cases h
  · split at h
    · cases h
    · dsimp only at h
      split at h
      · obtain rfl := Ending.finished.inj (Except.error.inj h)
        exact Nat.one_ne_zero
      · cases h
      · cases h

lemma exists_of_ofExcept {r : Except Failure Outcome} (h : (Outcome.ofExcept r).failure = none) :
    ∃ outcome, r = .ok outcome ∧ outcome.failure = none := by
  cases r with
  | error failure => cases h
  | ok outcome => exact ⟨outcome, rfl, h⟩

lemma isQuiet_of_ofSettings {limits : ProcessorLimits} {schema : SchemaSettings} {s : Shared}
    (h : Shared.ofSettings limits schema = .ok s) : s.processor.IsQuiet := by
  rw [Shared.ofSettings] at h
  cases hpolicy : Compatibility.ofConfig schema.compatibleJson with
  | error failure =>
    rw [hpolicy] at h
    cases h
  | ok policy =>
    rw [hpolicy] at h
    obtain rfl := Except.ok.inj h
    exact Processor.isQuiet_fresh limits

/-- A run without a failure has had a client and something to share. -/
lemma exists_of_runOn {settings : Settings} {service : MemoryService} {activity : Activity Outcome}
    (h : (runOn settings service activity).1.failure = none) : ∃ client shared,
      client.hosts = (Client.ofHosts settings.service.hosts).hosts ∧ shared.processor.IsQuiet ∧
      runOn settings service activity =
        let ran := (closeAfter activity).run Connection.serve shared (.fresh client service)
        (.ofExcept ran.1, ran.2.1.log, ran.2.2.sent.reverse, ran.2.2.service) := by
  rw [runOn] at h ⊢
  cases hclient : Client.ofSettings settings.service with
  | error reason =>
    rw [hclient] at h
    cases h
  | ok client =>
    rw [hclient] at h
    cases hshared : Shared.ofSettings settings.processor settings.schema with
    | error failure =>
      simp only [hshared] at h
      cases h
    | ok shared =>
      exact ⟨client, shared, Client.hosts_of_ofSettings hclient, isQuiet_of_ofSettings hshared, rfl⟩

/-- A command that applies descriptors without a failure has done so for a manager that knows its
index, and leaves the index as the strategy says. -/
lemma runOn_applyDescriptors {settings : Settings} {service : MemoryService} {index : String}
    {descriptors : Table EntityDescriptor} {multitenancy : Bool} (hservice : service.IsPlain)
    (hfailure : (runOn settings service
      (applyDescriptors settings.schema index descriptors multitenancy)).1.failure = none) :
    ∃ c, settings.schema.configuration? index multitenancy = .ok c ∧
      (Reaches (Client.ofHosts settings.service.hosts).hosts c.actualName →
        let ran := runOn settings service
          (applyDescriptors settings.schema index descriptors multitenancy)
        ran.1.lines = [appliedText c descriptors.length] ∧
          (c.strategy ≠ .none →
            (Table.has ran.2.2.2.indexes c.actualName = true ↔ c.strategy ≠ .recreateDelete))) := by
  obtain ⟨client, shared, hhosts, hquiet, hran⟩ := exists_of_runOn hfailure
  rw [hran] at hfailure ⊢
  generalize hrun : (closeAfter (applyDescriptors settings.schema index descriptors
    multitenancy)).run Connection.serve shared (.fresh client service) = ran at hfailure ⊢
  obtain ⟨result, s, connection⟩ := ran
  obtain ⟨outcome, rfl, hnone⟩ := exists_of_ofExcept hfailure
  have hplain : (Connection.fresh client service).IsPlain
      (Client.ofHosts settings.service.hosts).hosts := ⟨hhosts, hservice⟩
  cases hc : settings.schema.configuration? index multitenancy with
  | error failure =>
    have hleaves : Activity.Leaves Connection.serve _ _ _ fun _ _ _ => False :=
      Manager.leaves_closeAfter (I := fun _ => True)
        (Manager.leaves_applyDescriptors_of_error descriptors hc)
    have hleft := (hleaves shared (.fresh client service) ⟨hquiet, trivial⟩ trivial).2 outcome
    rw [hrun] at hleft
    exact (hleft rfl).elim
  | ok c =>
    refine ⟨c, rfl, fun hreaches => ?_⟩
    have hminds := Connection.mindsIndex_serve (Client.hosts_ofHosts_ne_nil _) hreaches
    have hleft := (Manager.leaves_closeAfter (Manager.leaves_applyDescriptors descriptors hc hminds)
      shared (.fresh client service)
        ⟨hquiet, hplain⟩ trivial).2 outcome
    rw [hrun] at hleft
    exact hleft rfl hnone

/-- **What is applied survives.**  If a command line that applies a schema ends with code 0, its
settings say how the index is managed.  Before a service that answers for itself, of an index that
its paths name: the run has reported the index, and unless the strategy is to do nothing, the index
is there in the end exactly if the strategy is not the one that deletes it again. -/
theorem applied_index_survives {words : List String} {surroundings : Surroundings}
    {service after : MemoryService} {config logLevel : Option String} {index mappings : String}
    {strategy : Option Strategy} {multitenancy : Bool} {r : Report} {sent : List Message}
    (hwords : Arguments.read words =
      .ok ⟨config, logLevel, .apply index mappings strategy multitenancy⟩)
    (hservice : service.IsPlain)
    (hrun : run words surroundings service = (.finished r, sent, after)) (hcode : r.code = 0) :
    ∃ hosts c, effective? words surroundings = some (hosts, c) ∧
      (Reaches hosts c.actualName → (∃ count, r.lines = [appliedText c count]) ∧
        (c.strategy ≠ .none →
          (Table.has after.indexes c.actualName = true ↔ c.strategy ≠ .recreateDelete))) := by
  unfold run at hrun
  rw [hwords] at hrun
  simp only [effective?, hwords]
  cases hdata : settingsData config surroundings.files with
  | error ending =>
    simp only [hdata] at hrun
    obtain rfl := (Prod.mk.inj hrun).1
    exact absurd hcode (code_of_settingsData hdata)
  | ok data =>
    cases hsettings : Settings.load surroundings.environment data with
    | error failure =>
      simp only [hdata, hsettings] at hrun
      cases (Prod.mk.inj hrun).1
    | ok settings =>
      let command : Command := .apply index mappings strategy multitenancy
      let applied := withStrategy (withLevel settings logLevel) command
      have hschema : applied.schema = (withStrategy settings command).schema := by
        cases logLevel <;> cases strategy <;> rfl
      have hhosts : applied.service = (withStrategy settings command).service := by
        cases logLevel <;> cases strategy <;> rfl
      simp only [hdata, hsettings, runCommand] at hrun ⊢
      cases hdescriptors : descriptorsFor surroundings.files command with
      | error failure =>
        simp only [command] at hdescriptors
        rw [hdescriptors] at hrun
        cases (failure_of_report (Prod.mk.inj hrun).1 hcode).1
      | ok descriptors =>
        simp only [command] at hdescriptors
        rw [hdescriptors] at hrun
        obtain ⟨hreport, hafter⟩ := Prod.mk.inj hrun
        obtain ⟨hfailure, hlines⟩ := failure_of_report hreport hcode
        obtain ⟨c, hc, hleft⟩ : ∃ c, applied.schema.configuration? index multitenancy = .ok c ∧ _ :=
          runOn_applyDescriptors hservice hfailure
        rw [hschema] at hc
        refine ⟨_, c, by rw [hc]; rfl, fun hreaches => ?_⟩
        rw [← hhosts] at hreaches
        obtain ⟨hreported, hthere⟩ := hleft hreaches
        rw [← (Prod.mk.inj hafter).2]
        exact ⟨⟨descriptors.length, hlines.symm.trans hreported⟩, hthere⟩

/-- A run has ended with a code and these lines. -/
def Ending.isWith (code : Nat) (lines : List String) : Ending → Bool
  | .finished r => r.code = code ∧ r.lines = lines
  | _ => false

lemma Ending.exists_of_isWith {code : Nat} {lines : List String} {ending : Ending}
    (h : ending.isWith code lines = true) :
    ∃ r, ending = .finished r ∧ r.code = code ∧ r.lines = lines := by
  cases ending with
  | finished r => exact ⟨r, rfl, of_decide_eq_true h⟩
  | stopped code lines => cases h
  | escaped failure => cases h

/-- Two files: settings with a strategy, and the descriptor of books. -/
def desk (strategy : Strategy) : Surroundings where
  files path :=
    if path = "settings.json" then
      .data (.object [("schema_management", .object [("default", .object
        [("schema_management_strategy", .text strategy.name)])])])
    else if path = "mappings.json" then .data (.object [("book", .object [("fields", .list [])])])
    else .missing
  environment := []

/-- A command line that applies the descriptor to an index. -/
def deskWords : List String :=
  ["--config", "settings.json", "apply", "--index", "Library", "--mappings", "mappings.json"]

/-- An index that is created is there in the end. -/
theorem applied_index_survives_created :
    let ran := run deskWords (desk .create) .empty
    Reaches ["http://localhost:9200"] "library" ∧
      ∃ r, ran.1 = .finished r ∧ r.code = 0 ∧ Table.has ran.2.2.indexes "library" = true := by
  intro ran
  have hreaches : Reaches ["http://localhost:9200"] "library" := by
    refine ⟨fun host hhost address haddress => ?_, by decide⟩
    obtain rfl := List.mem_singleton.1 hhost
    have hparts : (Address.read ("http://localhost:9200" ++ indexPath "library")).toOption.map
        (fun address => MemoryService.pathParts address.path) = some ["library"] := by
      decide +kernel
    rw [haddress] at hparts
    exact Option.some.inj hparts
  have hcode : ran.1.isWith 0 ["Index 'library': strategy CREATE applied for 1 type(s)"] = true := by
    decide +kernel
  have heffective : effective? deskWords (desk .create) = some (["http://localhost:9200"],
      ⟨"Library", "library", .create, false, ⟨.green, 10000, false⟩⟩) := by decide +kernel
  obtain ⟨r, hended, hzero, -⟩ := Ending.exists_of_isWith hcode
  have hwords : Arguments.read deskWords =
      .ok ⟨some "settings.json", none, .apply "Library" "mappings.json" none false⟩ := by rfl
  have hservice : MemoryService.empty.IsPlain := ⟨rfl, List.nodup_nil⟩
  have hran : ran = (.finished r, ran.2) := Prod.ext hended rfl
  obtain ⟨hosts, c, hc, hleft⟩ := applied_index_survives hwords hservice hran hzero
  obtain ⟨rfl, rfl⟩ := Prod.mk.inj (Option.some.inj (heffective.symm.trans hc))
  exact ⟨hreaches, r, hended, hzero, ((hleft hreaches).2 (by decide)).2 (by decide)⟩

/-- Settings may name the strategy that deletes the index when its manager is destroyed.  The run
reports the index and ends well, and the index is gone. -/
theorem applied_index_deleted :
    let ran := run deskWords (desk .recreateDelete) .empty
    (∃ r, ran.1 = .finished r ∧ r.code = 0 ∧
      r.lines = ["Index 'library': strategy RECREATE_DELETE applied for 1 type(s)"]) ∧
      Table.has ran.2.2.indexes "library" = false := by
  intro ran
  have hran : (ran.1.isWith 0
      ["Index 'library': strategy RECREATE_DELETE applied for 1 type(s)"] &&
        !Table.has ran.2.2.indexes "library") = true := by decide +kernel
  obtain ⟨hended, hgone⟩ := Bool.and_eq_true_iff.1 hran
  exact ⟨Ending.exists_of_isWith hended, by simpa using hgone⟩

end CommandLine

end SearchIndex

import CodeReview.Command.Run
import CodeReview.Proofs.Change.Plain
import CodeReview.Proofs.Command.Requests
import CodeReview.Proofs.Group.Repeated
import CodeReview.Proofs.Http.Pinned
import CodeReview.Proofs.Undated
set_option autoImplicit false

/-!
The command line and the server of a site. A change that is shown and members that are added come
to the same on both ways, on a database in any state, value for value and error for error, as long
as the body of a request is not beyond the size that the server takes.
-/
namespace CodeReview

/-- Both tables have come from the old ones by the same changes, but for the dates at which new
accounts were registered. -/
structure TableStore.AlikeSince (old left right : TableStore) : Prop where
  accounts : ∃ created made, left.accounts = old.accounts ++ created ∧
    right.accounts = old.accounts ++ made ∧
    created.map Account.undated = made.map Account.undated
  groups : left.groups = right.groups
  members : left.members = right.members
  changes : left.changes = right.changes
  metas : left.metas = right.metas

/-- The store is in tables that have the accounts of the old ones in front. -/
def TableStore.KeptBy (old : TableStore) (s : Store) : Prop :=
  ∃ t created, s = .tables t ∧ t.accounts = old.accounts ++ created

namespace TableStore
variable {old : TableStore} {s u : Store}

theorem keptBy_self (old : TableStore) : old.KeptBy (.tables old) :=
  ⟨old, [], rfl, (List.append_nil _).symm⟩

theorem KeptBy.creates (kept : old.KeptBy s) {created : List Account} (h : s.Creates created u) :
    old.KeptBy u := by
  induction h with
  | nil => exact kept
  | snoc _ made ih =>
    obtain ⟨t, more, rfl, accounts⟩ := ih
    obtain ⟨v, -, rfl⟩ := Store.ofTables_eq_ok.1 made
    have grown : v.accounts = t.accounts ++ [_] := (Store.createAccount_eq_ok made).2.1
    exact ⟨v, more ++ [_], rfl, by rw [grown, accounts, List.append_assoc]⟩

theorem KeptBy.updateMembers (kept : old.KeptBy s) {uuid : Uuid}
    {modify : AccountSet → AccountSet} {g : Group} (h : s.updateMembers uuid modify = .ok (g, u)) :
    old.KeptBy u := by
  obtain ⟨t, more, rfl, accounts⟩ := kept
  obtain ⟨v, -, rfl⟩ := Store.ofTables_eq_ok.1 h
  have same : v.accounts = t.accounts := (Store.updateMembers_eq_ok h).2.1
  exact ⟨v, more, rfl, same.trans accounts⟩

end TableStore

namespace Command
open Act Http

/-- What a command prints and the body of a response are texts of one value, whose fields the
command puts in order. Or the response tells of an error, and the command fails with it: an error
of the site itself is shown by its message, any other one with its code too. -/
inductive Agrees : Except Failure Json → Response → Prop where
  | told {told j : Json} {response : Response} (status : response.status = 200)
    (body : Json.parse response.body = some j)
    (shown : Json.parse (printed told) = some j.sorted) : Agrees (.ok told) response
  | failed {failure : Failure} (e : ApiError)
    (status : failure.status = if e.status = 500 then 3 else 1)
    (message : failure.message =
      if e.status = 500 then e.message else e.message ++ " (" ++ e.code ++ ")") :
    Agrees (.error failure) (.ofError e)

theorem Agrees.of_error (e : ApiError) : Agrees (.error (.ofApi e)) (.ofError e) := by
  refine .failed e ?_ ?_ <;> (obtain ⟨kind, message⟩ := e; cases kind <;> rfl)

/-- A plain value is read back from the body and from what is printed. -/
theorem Agrees.of_plain {j : Json} {response : Response} (plain : j.plain = true)
    (status : response.status = 200) (body : response.body = j.compact) :
    Agrees (.ok j) response :=
  .told status (body ▸ Json.parse_compact plain) (Json.parse_pretty (Json.plain_sorted plain))

/-- The world of a server that has just opened a database. -/
def OpenDatabase.world (d : OpenDatabase) (settings : Settings)
    (network : List GatewayRequest → GatewayReply) (now : Int64) : World :=
  ⟨.tables d.tables, [], directoryOf settings network, now, d.readOnly⟩

/-- What either way finds out about a change before it writes it down. -/
def findReport (site : Site) (id : String) (pairs : List (String × String)) :
    Act ApiError ChangeReport := do
  let q ← Act.ofExcept (ChangeQuery.ofPairs pairs)
  let n ← parseChange id
  reportChange site.labels site.factories q.options n q.pin

theorem ungrouped_findReport (site : Site) (id : String) (pairs : List (String × String)) :
    Ungrouped (findReport site id pairs) :=
  (Ungrouped.ofExcept _).bind fun _ => (ungrouped_parseChange _).bind fun _ =>
    ungrouped_reportChange _ _ _ _ _

theorem showChange_eq (site : Site) (id : String) (options : List String)
    (mask pin : Option String) :
    showChange site id options mask pin =
      (findReport site id (queryPairs options mask pin)).mapError .ofApi >>= fun report =>
        pure report.toJson := by
  unfold findReport
  rw [mapError_bind, bind_assoc]
  simp only [mapError_bind, bind_assoc]
  rfl

theorem readChange_eq (site : Site) (r : Request) (id : String) :
    readChange site r .empty id =
      findReport site id (Text.Percent.pairs r.query) >>= fun report =>
        pure (taggedResponse r report.toJson.compact) := by
  have same (o : OptionSet) : o.union .empty = o := by simp [OptionSet.union, OptionSet.empty]
  unfold readChange findReport
  simp only [bind_assoc, same]

theorem taggedResponse_fresh {r : Request} (fresh : r.header? "If-None-Match" = none)
    (body : String) : taggedResponse r body =
      ⟨200, [("content-type", "application/json"), cachePolicy, ("etag", tagOf body)], body⟩ := by
  have unknown : knowsTag r (tagOf body) = false := by
    rw [knowsTag, fresh]
    rfl
  rw [taggedResponse, unknown, if_neg Bool.false_ne_true]

theorem plain_of_findReport {settings : Settings} {id : String} {pairs : List (String × String)}
    {w v : World} {report : ChangeReport} (works : w.failing = [])
    (h : (findReport (.ofSettings settings) id pairs).run w = (.ok report, v)) :
    report.toJson.plain = true := by
  obtain ⟨q, u, parsed, rest⟩ := run_bind_eq_ok.1 h
  obtain rfl := (Reads.ofExcept _).world_eq parsed
  obtain ⟨n, x, named, made⟩ := run_bind_eq_ok.1 rest
  obtain rfl := (ungrouped_parseChange id).reads.world_eq named
  exact plain_of_run_reportChange works made

/-- A change is shown by a command as a request reads it. -/
theorem agrees_showChange {settings : Settings} {id : String} {options : List String}
    {mask pin : Option String} {r : Request} (asks : AsksFor r id options mask pin) {w v : World}
    (works : w.failing = []) (alike : w.SameButGroups v) :
    Agrees ((showChange (.ofSettings settings) id options mask pin).run w).1
      (answer (.ofSettings settings) r v).1 := by
  obtain ⟨part, path, segment⟩ := asks.path
  have reading := ungrouped_findReport (.ofSettings settings) id (Text.Percent.pairs r.query)
  rw [answer_get asks.method path segment, String.ofList_toList, showChange_eq, ← asks.query,
    readChange_eq, run_bind, run_mapError]
  cases found : (findReport (.ofSettings settings) id (Text.Percent.pairs r.query)).run w with
  | mk result u =>
    have read : (findReport (.ofSettings settings) id (Text.Percent.pairs r.query)).run v =
        (result, v) := by
      rw [reading.reads.run_eq v, reading.same w v alike, found]
    cases result with
    | error e =>
      rw [respond_of_error (run_bind_eq_error.2 (.inl read))]
      exact .of_error e
    | ok report =>
      rw [respond_of_ok ((run_bind_of_ok read).trans (run_pure _ v)),
        taggedResponse_fresh asks.fresh]
      exact .of_plain (plain_of_findReport works found) rfl rfl

theorem postMembers_eq {site : Site} {r : Request} {group : String} {caller : AccountId}
    {tokens : List String} (enlists : Enlists r group caller tokens) :
    postMembers site r group =
      extendGroup site group caller tokens >>= fun j => pure (.json 200 j) := by
  obtain ⟨value, text, header, visible, number⟩ := enlists.caller
  obtain ⟨body, bytes, written⟩ := enlists.body
  have named : callerOf r = identify caller := by
    rw [callerOf, header]
    dsimp only
    rw [visible, Option.bind_some, number]
  unfold postMembers extendGroup
  rw [named, bytes, MembersInput.parse_listing written]
  simp only [bind_assoc, pure_bind]
  rfl

theorem dateless_extendGroup (site : Site) (group : String) (caller : AccountId)
    (tokens : List String) : Dateless (extendGroup site group caller tokens) := by
  refine (undates_identify caller).bind fun c => ?_
  rw [openGroup_undated]
  exact (dateless_openGroup _ c group).bind fun o =>
    Undates.bind (dateless_addMembers _ c o tokens) fun _ => .pure _

section
variable {old : TableStore} {w x : World}

theorem keptBy_addMembers {settings : Settings} {caller : Caller} {o : OpenGroup}
    {tokens : List String} {result : Except ApiError (List AccountSummary)}
    (kept : old.KeptBy w.store)
    (h : (CodeReview.addMembers settings caller o tokens).run w = (result, x)) :
    old.KeptBy x.store := by
  have written {ids : List AccountId} {uuid : Uuid} {v y : World} {q : Except ApiError Unit}
      (kept : old.KeptBy v.store) (h : (addIds uuid ids).run v = (q, y)) :
      old.KeptBy y.store := by
    rcases addIds_cases h with ⟨rfl, -⟩ | ⟨g, s, updated, rfl, -⟩
    · exact kept
    · exact kept.updateMembers updated
  rcases addMembers_cases h with
    ⟨rfl, -⟩ | ⟨g, -, -, -, -, ⟨e, resolved, -⟩ | ⟨ids, v, resolved, rest⟩⟩
  · exact kept
  · obtain ⟨created, way⟩ := provisions_of_resolveAll resolved
    exact kept.creates way.store
  obtain ⟨created, way⟩ := provisions_of_resolveAll resolved
  rcases rest with ⟨e, added, -⟩ | ⟨y, added, shown⟩
  · exact written (kept.creates way.store) added
  · obtain rfl := (ungrouped_summaries (ungrouped_requiredSummary true) ids).reads.world_eq shown
    exact written (kept.creates way.store) added

theorem keptBy_extendGroup {site : Site} {group : String} {caller : AccountId}
    {tokens : List String} {result : Except ApiError Json} (kept : old.KeptBy w.store)
    (h : (extendGroup site group caller tokens).run w = (result, x)) : old.KeptBy x.store := by
  obtain rfl | ⟨c, -, h⟩ := (ungrouped_identify caller).reads.bind_cases h
  · exact kept
  obtain rfl | ⟨o, -, h⟩ := (reads_openGroup _ _ _).bind_cases h
  · exact kept
  obtain ⟨q, added⟩ := Reads.run_of_bind (fun _ => Reads.pure _) h
  exact keptBy_addMembers kept added

theorem plain_of_extendGroup {site : Site} {group : String} {caller : AccountId}
    {tokens : List String} {j : Json}
    (h : (extendGroup site group caller tokens).run w = (.ok j, x)) : j.plain = true := by
  obtain ⟨c, _, -, opening⟩ := run_bind_eq_ok.1 h
  obtain ⟨o, _, -, adding⟩ := run_bind_eq_ok.1 opening
  obtain ⟨infos, _, -, last⟩ := run_bind_eq_ok.1 adding
  obtain rfl := Except.ok.inj (Prod.mk.inj last).1
  exact plain_listJson AccountSummary.plain_toJson infos

/-- Blanks around the members do not count. -/
theorem extendGroup_of_trim {site : Site} {group : String} {caller : AccountId}
    {tokens : List String} {j : Json}
    (h : (extendGroup site group caller (tokens.map Text.trim)).run w = (.ok j, x)) :
    (extendGroup site group caller tokens).run w = (.ok j, x) := by
  obtain ⟨c, _, identified, opening⟩ := run_bind_eq_ok.1 h
  obtain ⟨o, _, opened, adding⟩ := run_bind_eq_ok.1 opening
  obtain ⟨infos, _, added, last⟩ := run_bind_eq_ok.1 adding
  exact run_bind_eq_ok.2 ⟨c, _, identified, run_bind_eq_ok.2
    ⟨o, _, opened, run_bind_eq_ok.2 ⟨infos, _, addMembers_of_trim added, last⟩⟩⟩

theorem alikeSince_of_undated {left right : TableStore} {created made : List Account}
    (before : left.accounts = old.accounts ++ created)
    (after : right.accounts = old.accounts ++ made) (same : left.undated = right.undated) :
    old.AlikeSince left right where
  accounts := by
    have accounts : left.undated.accounts = right.undated.accounts := by rw [same]
    simp only [TableStore.undated, before, after, List.map_append] at accounts
    exact ⟨created, made, before, after, List.append_cancel_left accounts⟩
  groups := show left.undated.groups = right.undated.groups by rw [same]
  members := show left.undated.members = right.undated.members by rw [same]
  changes := show left.undated.changes = right.undated.changes by rw [same]
  metas := show left.undated.metas = right.undated.metas by rw [same]

/-- A command adds members as a request does, also when the request comes later. -/
theorem agrees_extendGroup {site : Site} {r : Request} {group : String} {caller : AccountId}
    {tokens : List String} (enlists : Enlists r group caller tokens)
    (fits : r.body.length ≤ bodyLimit) {v : World}
    (alike : w.undated = v.undated) (hw : old.KeptBy w.store) (hv : old.KeptBy v.store) :
    Agrees (((extendGroup site group caller tokens).mapError .ofApi).run w).1
        (answer site r v).1 ∧
      ∃ left right, (((extendGroup site group caller tokens).mapError
          .ofApi : Act Failure Json).run w).2.store = .tables left ∧
        (answer site r v).2.store = .tables right ∧ old.AlikeSince left right := by
  obtain ⟨part, path, segment⟩ := enlists.path
  have dateless := dateless_extendGroup site group caller tokens
  rw [answer_post enlists.method path segment fits, String.ofList_toList, postMembers_eq enlists,
    run_mapError]
  -- The clocks of the two runs differ, so both are compared with the run without dates.
  cases here : (extendGroup site group caller tokens).run w with
  | mk result x =>
    cases there : (extendGroup site group caller tokens).run v with
    | mk result' y =>
      have runs := (dateless w).symm.trans (alike ▸ dateless v)
      rw [here, there, Except.map_id] at runs
      obtain ⟨rfl, worlds⟩ := Prod.mk.inj runs
      obtain ⟨left, created, hleft, before⟩ := keptBy_extendGroup hw here
      obtain ⟨right, made, hright, after⟩ := keptBy_extendGroup hv there
      have tables : x.store.undated = y.store.undated := congrArg World.store worlds
      rw [hleft, hright] at tables
      have since := alikeSince_of_undated before after (Store.tables.inj tables)
      cases result with
      | error e =>
        rw [respond_of_error (run_bind_eq_error.2 (.inl there))]
        exact ⟨.of_error e, left, right, hleft, hright, since⟩
      | ok j =>
        rw [respond_of_ok ((run_bind_of_ok there).trans (run_pure _ y))]
        exact ⟨.of_plain (plain_of_extendGroup here) rfl rfl, left, right, hleft, hright, since⟩

end

/-- With settings and a database that can be opened a command is performed on its tables. -/
theorem run_of_opened {s : Surroundings} {database : String} {settings : Settings}
    {d : OpenDatabase} {folder : Folder} (configured : Settings.read s.lookup = .ok settings)
    (opened : OpenDatabase.ofText s.folder database = (.ok d, folder)) (c : Command) :
    Invocation.run ⟨database, c⟩ s =
      let ended := (perform (.ofSettings { settings with databasePath := database })
        { s with folder := d.folder } c).run (d.world settings s.network 0)
      ⟨ended.1, d.close ((tablesOf ended.2.store).getD d.tables), received ended.2.directory⟩ := by
  unfold Invocation.run
  rw [configured]
  dsimp only
  rw [opened]
  rfl

/-- On every database that opens, a change is shown by the command line as the server answers a
request for it, and members are added alike when the body of the request is not too long: with the
same value or the same error, and leaving the same accounts and members but for the dates of new
accounts. -/
theorem commands_agree_with_requests (s : Surroundings) (database : String) {settings : Settings}
    {d : OpenDatabase} {folder : Folder} (configured : Settings.read s.lookup = .ok settings)
    (opened : OpenDatabase.ofText s.folder database = (.ok d, folder)) (now : Int64) :
    (∀ id options mask pin r, AsksFor r id options mask pin →
      Agrees (Invocation.run ⟨database, .getChange id options mask pin⟩ s).outcome
        (answer (.ofSettings { settings with databasePath := database }) r
          (d.world settings s.network now)).1) ∧
      ∀ group caller tokens r, Enlists r group caller tokens → r.body.length ≤ bodyLimit →
        Agrees (Invocation.run ⟨database, .addMembers group caller tokens⟩ s).outcome
          (answer (.ofSettings { settings with databasePath := database }) r
            (d.world settings s.network now)).1 ∧
        ∃ left right,
          (Invocation.run ⟨database, .addMembers group caller tokens⟩ s).folder = d.close left ∧
          (answer (.ofSettings { settings with databasePath := database }) r
            (d.world settings s.network now)).2.store = .tables right ∧
          d.tables.AlikeSince left right := by
  constructor
  · intro id options mask pin r asks
    rw [run_of_opened configured opened]
    exact agrees_showChange asks rfl ⟨rfl, rfl, rfl⟩
  · intro group caller tokens r enlists fits
    have alike : (d.world settings s.network 0).undated =
        (d.world settings s.network now).undated := rfl
    obtain ⟨agrees, left, right, hleft, hright, since⟩ :=
      agrees_extendGroup enlists fits alike d.tables.keptBy_self d.tables.keptBy_self
    rw [run_of_opened configured opened]
    refine ⟨agrees, left, right, ?_, hright, since⟩
    show d.close ((tablesOf _).getD d.tables) = _
    rw [show (((perform _ _ (.addMembers group caller tokens)).run
      (d.world settings s.network 0)).2.store) = .tables left from hleft]
    rfl

/-- Tables with an owner, a guest, the team of the owner and the draft. -/
def teamTables : TableStore where
  accounts := [⟨⟨1000⟩, some "owner", none, none, true, 0⟩,
    ⟨⟨1001⟩, some "guest", none, none, true, 0⟩]
  groups := [⟨soloTeam.uuid, ⟨1⟩, "team", none, soloTeam.uuid, false, 0⟩]
  members := [⟨soloTeam.uuid, ⟨1000⟩⟩]
  changes := [⟨⟨7⟩, "I1", Snapshot.idOf none Store.draft⟩]
  metas := [⟨Snapshot.idOf none Store.draft, ⟨7⟩, 0, none, Snapshot.stateText Store.draft⟩]

/-- A folder with these tables, and no settings. -/
def teamFolder : Surroundings where
  lookup := fun _ => none
  network := fun _ => .unreachable
  newUuid := soloTeam.uuid
  folder := ⟨[(.ofText "critic.db", .database ⟨some teamTables, true⟩)]⟩

def teamSite : Site :=
  .ofSettings { Settings.default with databasePath := "critic.db" }

theorem opened_teamFolder :
    ∃ d folder, OpenDatabase.ofText teamFolder.folder "critic.db" = (.ok d, folder) ∧
      d.tables = teamTables ∧ ∀ now, d.world .default teamFolder.network now =
        ⟨.tables teamTables, [], .listed [], now, false⟩ :=
  ⟨_, _, rfl, rfl, fun _ => rfl⟩

/-- The owner reads the draft and adds the guest on both ways. -/
theorem owner_served_alike :
    ∃ d folder, OpenDatabase.ofText teamFolder.folder "critic.db" = (.ok d, folder) ∧
      d.tables = teamTables ∧
      (answer teamSite (changeRequest "7" ["LABELS"] none none)
        (d.world .default teamFolder.network 1)).1.status = 200 ∧
      Agrees (Invocation.run ⟨"critic.db", .getChange "7" ["LABELS"] none none⟩ teamFolder).outcome
        (answer teamSite (changeRequest "7" ["LABELS"] none none)
          (d.world .default teamFolder.network 1)).1 ∧
      (answer teamSite (membersRequest "team" ⟨1000⟩ ["guest"])
        (d.world .default teamFolder.network 1)).1.status = 200 ∧
      Agrees (Invocation.run ⟨"critic.db", .addMembers "team" ⟨1000⟩ ["guest"]⟩ teamFolder).outcome
        (answer teamSite (membersRequest "team" ⟨1000⟩ ["guest"])
          (d.world .default teamFolder.network 1)).1 := by
  have configured : Settings.read teamFolder.lookup = .ok .default := rfl
  obtain ⟨d, folder, opened, tables, world⟩ := opened_teamFolder
  have read := asksFor_changeRequest (show "7" ≠ "" by decide) ["LABELS"] none none
  have written := enlists_membersRequest "team" ⟨1000⟩ ["guest"]
  have fits : (membersRequest "team" ⟨1000⟩ ["guest"]).body.length ≤ bodyLimit := by decide +kernel
  obtain ⟨shown, added⟩ := commands_agree_with_requests teamFolder "critic.db" configured opened 1
  refine ⟨d, folder, opened, tables, ?_, shown _ _ _ _ _ read, ?_, (added _ _ _ _ written fits).1⟩
  · rw [world 1]
    decide +kernel
  · rw [world 1]
    decide +kernel

/-- The caller as a member, in front of blanks that are escaped in a body. -/
def paddedSelf (n : Nat) : String :=
  String.ofList (['s', 'e', 'l', 'f'] ++ List.replicate n '\x0b')

theorem trim_paddedSelf (n : Nat) : Text.trim (paddedSelf n) = "self" := by
  have blank : ∀ c ∈ List.replicate n '\x0b', Text.isBlank c = true := fun c there => by
    rw [List.eq_of_mem_replicate there]
    rfl
  have trimmed : Text.trimChars ([] ++ ['s', 'e', 'l', 'f'] ++ List.replicate n '\x0b') =
      ['s', 'e', 'l', 'f'] := Text.trimChars_around (by simp) blank (by decide)
  rw [Text.trim, paddedSelf, String.toList_ofList]
  exact congrArg String.ofList trimmed

theorem length_encode_paddedSelf (n : Nat) :
    n * 6 ≤ (Json.Quoted.encode (paddedSelf n)).length := by
  have six : (Json.Quoted.escapeChar '\x0b').length = 6 := by decide
  rw [Json.Quoted.encode, paddedSelf, String.toList_ofList, Json.Quoted.escape_append,
    List.length_cons, List.length_append, List.length_append,
    Json.Quoted.length_escape_replicate, six]
  omega

theorem long_of_paddedSelf {n k : Nat} (large : bodyLimit < k * (n * 6)) :
    bodyLimit < (membersRequest "team" ⟨1000⟩ (List.replicate k (paddedSelf n))).body.length := by
  refine Nat.lt_of_lt_of_le ?_ (length_le_membersRequest "team" ⟨1000⟩ _)
  rw [List.map_replicate, List.sum_replicate_nat]
  exact Nat.lt_of_lt_of_le large (Nat.mul_le_mul_left k (length_encode_paddedSelf n))

/-- The owner as a member many times, each time with blanks. -/
def paddedBatch : List String :=
  List.replicate 18 (paddedSelf 20000)

/-- A batch that adds the owner of the team. -/
theorem extendGroup_owner {tokens : List String}
    (trimmed : tokens.map Text.trim = List.replicate 18 "self") :
    ∃ j x, (extendGroup teamSite "team" ⟨1000⟩ tokens).run
      ⟨.tables teamTables, [], .listed [], 0, false⟩ = (.ok j, x) := by
  have done : ((extendGroup teamSite "team" ⟨1000⟩ (List.replicate 18 "self")).run
      ⟨.tables teamTables, [], .listed [], 0, false⟩).1.toOption.isSome = true := by
    decide +kernel
  rw [← trimmed] at done
  cases added : (extendGroup teamSite "team" ⟨1000⟩ (tokens.map Text.trim)).run
      ⟨.tables teamTables, [], .listed [], 0, false⟩ with
  | mk result x =>
    rw [added] at done
    cases result with
    | error e => cases done
    | ok j => exact ⟨j, x, extendGroup_of_trim added⟩

/-- The owner adds a batch by a command that the server refuses, because the body that lists it is
too long. -/
theorem padded_batch_refused :
    ∃ d folder, OpenDatabase.ofText teamFolder.folder "critic.db" = (.ok d, folder) ∧
      Enlists (membersRequest "team" ⟨1000⟩ paddedBatch) "team" ⟨1000⟩ paddedBatch ∧
      (∃ j, (Invocation.run ⟨"critic.db", .addMembers "team" ⟨1000⟩ paddedBatch⟩
        teamFolder).outcome = .ok j) ∧
      (answer teamSite (membersRequest "team" ⟨1000⟩ paddedBatch)
        (d.world .default teamFolder.network 1)).1.status = 413 ∧
      ¬Agrees (Invocation.run ⟨"critic.db", .addMembers "team" ⟨1000⟩ paddedBatch⟩
          teamFolder).outcome
        (answer teamSite (membersRequest "team" ⟨1000⟩ paddedBatch)
          (d.world .default teamFolder.network 1)).1 := by
  have configured : Settings.read teamFolder.lookup = .ok .default := rfl
  obtain ⟨d, folder, opened, -, world⟩ := opened_teamFolder
  have trimmed : paddedBatch.map Text.trim = List.replicate 18 "self" := by
    rw [paddedBatch, List.map_replicate, trim_paddedSelf]
  have long : bodyLimit < (membersRequest "team" ⟨1000⟩ paddedBatch).body.length :=
    long_of_paddedSelf (by decide)
  have enlists := enlists_membersRequest "team" ⟨1000⟩ paddedBatch
  generalize paddedBatch = tokens at trimmed long enlists ⊢
  obtain ⟨part, path, segment⟩ := enlists.path
  obtain ⟨j, x, added⟩ := extendGroup_owner trimmed
  have outcome : (Invocation.run ⟨"critic.db", .addMembers "team" ⟨1000⟩ tokens⟩
      teamFolder).outcome = .ok j := by
    rw [run_of_opened configured opened]
    show (((extendGroup teamSite "team" ⟨1000⟩ tokens).mapError .ofApi :
      Act Failure Json).run (d.world .default teamFolder.network 0)).1 = _
    rw [run_mapError, world 0, added]
    rfl
  have refused : answer teamSite (membersRequest "team" ⟨1000⟩ tokens)
      (d.world .default teamFolder.network 1) = (bodyTooLong, _) :=
    answer_post_too_long enlists.method path segment long
  refine ⟨d, folder, opened, enlists, ⟨j, outcome⟩, congrArg (·.1.status) refused, ?_⟩
  rw [outcome, refused]
  intro agrees
  cases agrees with
  | told status _ _ => cases status

end Command
end CodeReview

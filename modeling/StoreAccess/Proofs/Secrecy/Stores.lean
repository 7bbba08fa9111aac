import StoreAccess.Mysql.Client
import StoreAccess.Proofs.Secrecy.Timelines

/-! Stores that are alike stay alike under the same operations on configurations that stand for each other and are
    displayed the same, and the operations come to the same results. The client that holds dialogues with a server is
    like itself: of a configuration a dialogue mentions no more than where it points. -/

namespace StoreAccess

variable {σ : Type} {L : Likeness RelationalConfig} {S : σ → σ → Prop}

/-! ### Clients -/

variable (L S) in
/-- In states that correspond the clients do the same, and go on to states that correspond. -/
def SqlClient.Alike (client client' : SqlClient σ) : Prop :=
  ∀ {s s' : σ} (call : Option SqlCall) {r r' : Request RelationalConfig}, S s s' → r.Alike L r' →
    S (client.conduct s call r).1 (client'.conduct s' call r').1 ∧
      (client.conduct s call r).2.Alike L (client'.conduct s' call r').2

variable (S) in
structure SqlDesk.Alike (desk desk' : SqlDesk σ) : Prop where
  client : S desk.client desk'.client
  calls : desk.calls = desk'.calls

theorem SqlClient.Alike.atDesk {client client' : SqlClient σ} (clients : client.Alike L S client') :
    client.atDesk.Alike L (SqlDesk.Alike S) client'.atDesk := by
  rintro ⟨s, calls⟩ ⟨s', calls'⟩ i r r' ⟨states, rfl⟩ requests
  obtain ⟨states, conduct⟩ := clients (calls.lookup i) states requests
  exact ⟨⟨states, rfl⟩, conduct⟩

/-! ### Stores -/

/-- Of a configuration the announcement of a call mentions only how it is displayed. -/
theorem SqlCall.notice_eq {c c' : RelationalConfig} (call : SqlCall) (shown : c.displayUrl = c'.displayUrl) :
    call.notice c = call.notice c' := by
  cases call <;> simp only [notice, shown]

theorem SqlCall.plain_notice (call : SqlCall) (c : RelationalConfig) : LogEvent.Plain (call.notice c).fields := by
  cases call <;> simp [notice]

/-! Binding tells how much was bound. -/

theorem Binder.plain_bindOne {β : Type} (t : RowTarget β) (options : BinderOptions) (result : Table) :
    ∀ e ∈ (bindOne t options result).log, LogEvent.Plain e.fields := by
  unfold bindOne bindInto
  split
  · exact nofun
  · split <;> simp [boundRow]

theorem Binder.plain_collect {β : Type} (t : RowTarget β) (options : BinderOptions) (result : Table) :
    ∀ e ∈ (collect t options result).log, LogEvent.Plain e.fields := by
  unfold collect bindAll
  split <;> simp [boundRows]

namespace RelationalStore

variable (L S) in
structure Alike (s s' : RelationalStore σ) : Prop where
  timeline : s.timeline.Alike L (SqlDesk.Alike S) s'.timeline
  binder : s.binder = s'.binder

variable (L S) in
/-- Stores alike, after operations with the same result. -/
def Agree {β : Type} (x x' : RelationalStore σ × β) : Prop := x.1.Alike L S x'.1 ∧ x.2 = x'.2

variable {s s' : RelationalStore σ}

theorem alike_of_new {client client' : σ} {options : CacheOptions} {order : EntryOrder}
    (new : ofOptions client options order = .ok s) (new' : ofOptions client' options order = .ok s')
    (clients : S client client') : s.Alike L S s' := by
  unfold ofOptions at new new'
  cases made : Cache.ofOptions (κ := RelationalConfig) (α := SqlAnswer) .relational options order with
  | error e =>
    rw [made] at new
    cases new
  | ok c =>
    rw [made] at new new'
    cases new
    cases new'
    exact ⟨Timeline.alike_of_new made ⟨clients, rfl⟩, rfl⟩

theorem Agree.map {β γ : Type} {x x' : RelationalStore σ × β} (agree : Agree L S x x') (f : β → γ) :
    Agree L S (x.map id f) (x'.map id f) :=
  ⟨agree.1, congrArg f agree.2⟩

namespace Alike

variable (alike : s.Alike L S s')
include alike

theorem logAll {events : List LogEvent} (plain : ∀ e ∈ events, LogEvent.Plain e.fields) :
    (events.foldl RelationalStore.log s).Alike L S (events.foldl RelationalStore.log s') :=
  List.rel_foldl (fun _ _ alike _ _ event => { alike with timeline := alike.timeline.log event }) alike
    (LogEvent.alike_all plain)

variable {client client' : SqlClient σ} (clients : client.Alike L S client') {c c' : RelationalConfig}
  (configs : L.Config c c') (shown : c.displayUrl = c'.displayUrl)
include clients configs

theorem invalidate : Agree L S (s.invalidate client c) (s'.invalidate client' c') := by
  obtain ⟨timelines, answers⟩ := alike.timeline.call clients.atDesk (.invalidate (L.fingerprint configs))
  refine ⟨{ alike with timeline := timelines }, ?_⟩
  unfold RelationalStore.invalidate
  dsimp only
  generalize (s.timeline.call _ _).2 = a, (s'.timeline.call _ _).2 = a' at answers ⊢
  cases answers with
  | none => rfl
  | some answer => cases answer <;> rfl

include shown

theorem run (call : SqlCall) : Agree L S (s.run client c call) (s'.run client' c' call) := by
  have announced := alike.timeline.logPlain (call.plain_notice c)
  unfold RelationalStore.run
  rw [← call.notice_eq shown]
  generalize s.timeline.log (call.notice c) = w, s'.timeline.log (call.notice c) = w' at announced ⊢
  have brought : Timeline.Alike L (SqlDesk.Alike S)
      { w with client := { w.client with calls := (w.cache.tasks.length, call) :: w.client.calls } }
      { w' with client := { w'.client with calls := (w'.cache.tasks.length, call) :: w'.client.calls } } :=
    { announced with
      client := ⟨announced.client.client, by rw [announced.tasks_length_eq, announced.client.calls]⟩ }
  obtain ⟨timelines, answers⟩ := brought.call clients.atDesk (.withConnection configs)
  refine ⟨{ alike with timeline := timelines }, ?_⟩
  dsimp only
  generalize (Timeline.call _ client.atDesk _).2 = a, (Timeline.call _ client'.atDesk _).2 = a' at answers ⊢
  cases answers with
  | none => rfl
  | some answer => cases answer <;> rfl

theorem query (sql : String) (params : List Value) :
    Agree L S (s.query client c sql params) (s'.query client' c' sql params) :=
  (alike.run clients configs shown _).map _

theorem execute (sql : String) (params : List Value) :
    Agree L S (s.execute client c sql params) (s'.execute client' c' sql params) :=
  (alike.run clients configs shown _).map _

theorem executeStatement (sql : String) :
    Agree L S (s.executeStatement client c sql) (s'.executeStatement client' c' sql) :=
  (alike.execute clients configs shown sql []).map _

theorem executeInTransaction (sql : String) (batches : List (List Value)) :
    Agree L S (s.executeInTransaction client c sql batches) (s'.executeInTransaction client' c' sql batches) := by
  unfold RelationalStore.executeInTransaction
  split
  · exact ⟨alike, rfl⟩
  · exact (alike.run clients configs shown _).map _

omit alike clients configs shown in
theorem bindWith {β : Type} {bind : BinderOptions → Table → Binding β}
    (plain : ∀ options result, ∀ e ∈ (bind options result).log, LogEvent.Plain e.fields)
    {queried queried' : RelationalStore σ × Except StoreFault Table} (agree : Agree L S queried queried') :
    Agree L S (RelationalStore.bindWith bind queried) (RelationalStore.bindWith bind queried') := by
  obtain ⟨s, result⟩ := queried
  obtain ⟨s', result'⟩ := queried'
  obtain ⟨alike, rfl⟩ : s.Alike L S s' ∧ result = result' := agree
  cases result with
  | error e => exact ⟨alike, rfl⟩
  | ok table =>
    simp only [RelationalStore.bindWith, alike.binder]
    exact ⟨alike.logAll (plain _ _), rfl⟩

theorem queryOne {γ : Type} (t : RowTarget γ) (sql : String) (params : List Value) :
    Agree L S (s.queryOne client c t sql params) (s'.queryOne client' c' t sql params) :=
  bindWith (Binder.plain_bindOne t) (alike.query clients configs shown sql params)

theorem queryAll {γ : Type} (t : RowTarget γ) (sql : String) (params : List Value) :
    Agree L S (s.queryAll client c t sql params) (s'.queryAll client' c' t sql params) :=
  (bindWith (Binder.plain_collect t) (alike.query clients configs shown sql params)).map _

theorem queryMap (sql : String) (params : List Value) :
    Agree L S (s.queryMap client c sql params) (s'.queryMap client' c' sql params) :=
  alike.queryAll clients configs shown .map sql params

end Alike

/-! ### Runs -/

/-- What a caller does with a store, its cache and the clock. -/
inductive Act : Type 1 where
  | query (config : RelationalConfig) (sql : String) (params : List Value)
  | execute (config : RelationalConfig) (sql : String) (params : List Value)
  | executeStatement (config : RelationalConfig) (sql : String)
  | executeInTransaction (config : RelationalConfig) (sql : String) (batches : List (List Value))
  | queryOne {β : Type} (config : RelationalConfig) (t : RowTarget β) (sql : String) (params : List Value)
  | queryAll {β : Type} (config : RelationalConfig) (t : RowTarget β) (sql : String) (params : List Value)
  | queryMap (config : RelationalConfig) (sql : String) (params : List Value)
  | invalidate (config : RelationalConfig)
  | withBinder (binder : BinderOptions)
  | cache (a : Timeline.Act RelationalConfig)

/-- What comes of it. -/
inductive Result : Type 1 where
  | yielded {β : Type} (result : Except StoreFault β)
  | invalidated (found : Bool)
  | configured
  | cache (answer : Option (CallAnswer SqlAnswer))

def act (s : RelationalStore σ) (client : SqlClient σ) : Act → RelationalStore σ × Result
  | .query config sql params =>
    let (s, result) := s.query client config sql params
    (s, .yielded result)
  | .execute config sql params =>
    let (s, result) := s.execute client config sql params
    (s, .yielded result)
  | .executeStatement config sql =>
    let (s, result) := s.executeStatement client config sql
    (s, .yielded result)
  | .executeInTransaction config sql batches =>
    let (s, result) := s.executeInTransaction client config sql batches
    (s, .yielded result)
  | .queryOne config t sql params =>
    let (s, result) := s.queryOne client config t sql params
    (s, .yielded result)
  | .queryAll config t sql params =>
    let (s, result) := s.queryAll client config t sql params
    (s, .yielded result)
  | .queryMap config sql params =>
    let (s, result) := s.queryMap client config sql params
    (s, .yielded result)
  | .invalidate config =>
    let (s, found) := s.invalidate client config
    (s, .invalidated found)
  | .withBinder binder => (s.withBinder binder, .configured)
  | .cache a =>
    let (w, answer) := s.timeline.act client.atDesk a
    ({ s with timeline := w }, .cache answer)

/-- One act after the other, and what comes of each. -/
def acts (s : RelationalStore σ) (client : SqlClient σ) : List Act → RelationalStore σ × List Result
  | [] => (s, [])
  | a :: rest =>
    let (s, r) := s.act client a
    let (s, results) := s.acts client rest
    (s, r :: results)

variable (L) in
inductive Act.Alike : Act → Act → Prop
  | query {c c' : RelationalConfig} (configs : L.Config c c') (sql : String) (params : List Value) :
      Alike (.query c sql params) (.query c' sql params)
  | execute {c c' : RelationalConfig} (configs : L.Config c c') (sql : String) (params : List Value) :
      Alike (.execute c sql params) (.execute c' sql params)
  | executeStatement {c c' : RelationalConfig} (configs : L.Config c c') (sql : String) :
      Alike (.executeStatement c sql) (.executeStatement c' sql)
  | executeInTransaction {c c' : RelationalConfig} (configs : L.Config c c') (sql : String)
      (batches : List (List Value)) : Alike (.executeInTransaction c sql batches) (.executeInTransaction c' sql batches)
  | queryOne {β : Type} {c c' : RelationalConfig} (configs : L.Config c c') (t : RowTarget β) (sql : String)
      (params : List Value) : Alike (.queryOne c t sql params) (.queryOne c' t sql params)
  | queryAll {β : Type} {c c' : RelationalConfig} (configs : L.Config c c') (t : RowTarget β) (sql : String)
      (params : List Value) : Alike (.queryAll c t sql params) (.queryAll c' t sql params)
  | queryMap {c c' : RelationalConfig} (configs : L.Config c c') (sql : String) (params : List Value) :
      Alike (.queryMap c sql params) (.queryMap c' sql params)
  | invalidate {c c' : RelationalConfig} (configs : L.Config c c') : Alike (.invalidate c) (.invalidate c')
  | withBinder (binder : BinderOptions) : Alike (.withBinder binder) (.withBinder binder)
  | cache {a a' : Timeline.Act RelationalConfig} (acts : a.Alike L a') : Alike (.cache a) (.cache a')

variable (L) in
/-- The same result, unless it is an answer of the cache, which may lend a handle. -/
inductive Result.Alike : Result → Result → Prop
  | yielded {β : Type} (result : Except StoreFault β) : Alike (.yielded result) (.yielded result)
  | invalidated (found : Bool) : Alike (.invalidated found) (.invalidated found)
  | configured : Alike .configured .configured
  | cache {a a' : Option (CallAnswer SqlAnswer)} (answers : Option.Rel (CallAnswer.Alike L) a a') :
      Alike (.cache a) (.cache a')

theorem Agree.yielded {β : Type} {x x' : RelationalStore σ × Except StoreFault β} (agree : Agree L S x x') :
    x.1.Alike L S x'.1 ∧ (Result.yielded x.2).Alike L (.yielded x'.2) :=
  ⟨agree.1, agree.2 ▸ .yielded x.2⟩

variable {client client' : SqlClient σ} (clients : client.Alike L S client')
  (shown : ∀ {c c' : RelationalConfig}, L.Config c c' → c.displayUrl = c'.displayUrl)
include clients shown

theorem Alike.act {a a' : Act} (alike : s.Alike L S s') (acts : a.Alike L a') :
    (s.act client a).1.Alike L S (s'.act client' a').1 ∧ (s.act client a).2.Alike L (s'.act client' a').2 := by
  cases acts with
  | query configs => exact (alike.query clients configs (shown configs) _ _).yielded
  | execute configs => exact (alike.execute clients configs (shown configs) _ _).yielded
  | executeStatement configs => exact (alike.executeStatement clients configs (shown configs) _).yielded
  | executeInTransaction configs => exact (alike.executeInTransaction clients configs (shown configs) _ _).yielded
  | queryOne configs => exact (alike.queryOne clients configs (shown configs) _ _ _).yielded
  | queryAll configs => exact (alike.queryAll clients configs (shown configs) _ _ _).yielded
  | queryMap configs => exact (alike.queryMap clients configs (shown configs) _ _).yielded
  | invalidate configs =>
    obtain ⟨stores, found⟩ := alike.invalidate clients configs
    refine ⟨stores, ?_⟩
    simp only [RelationalStore.act, found]
    exact .invalidated _
  | withBinder binder => exact ⟨{ alike with binder := rfl }, .configured⟩
  | cache acts =>
    obtain ⟨timelines, answers⟩ := alike.timeline.act clients.atDesk acts
    exact ⟨{ alike with timeline := timelines }, .cache answers⟩

theorem Alike.acts {as as' : List Act} (alike : s.Alike L S s') (acts : List.Forall₂ (Act.Alike L) as as') :
    (s.acts client as).1.Alike L S (s'.acts client' as').1 ∧
      List.Forall₂ (Result.Alike L) (s.acts client as).2 (s'.acts client' as').2 := by
  induction acts generalizing s s' with
  | nil => exact ⟨alike, .nil⟩
  | cons first _ ih =>
    obtain ⟨stores, result⟩ := alike.act clients shown first
    obtain ⟨stores, results⟩ := ih stores
    exact ⟨stores, .cons result results⟩

omit clients shown

/-! ### Calls side by side -/

/-- What happens to the cache of a store while any number of calls on both are under way: a call on the store
    announces itself before it takes a connection, and binds what comes back after that. -/
inductive Happening : Type 1 where
  | move (m : Move RelationalConfig SqlAnswer)
  | announced (config : RelationalConfig) (call : SqlCall)
  | boundOne {β : Type} (t : RowTarget β) (options : BinderOptions) (result : Table)
  | boundAll {β : Type} (t : RowTarget β) (options : BinderOptions) (result : Table)

def happen (c : Cache RelationalConfig SqlAnswer) : Happening → Option (Cache RelationalConfig SqlAnswer)
  | .move m => c.move m
  | .announced config call => some (c.log (call.notice config))
  | .boundOne t options result => some ((Binder.bindOne t options result).log.foldl Cache.log c)
  | .boundAll t options result => some ((Binder.collect t options result).log.foldl Cache.log c)

/-- One thing happens after the other, if all of them are possible. -/
def happenAll (c : Cache RelationalConfig SqlAnswer) : List Happening → Option (Cache RelationalConfig SqlAnswer)
  | [] => some c
  | x :: rest => (happen c x).bind (happenAll · rest)

variable (L) in
/-- What is bound is what came back, and that is the same. -/
inductive Happening.Alike : Happening → Happening → Prop
  | move {m m' : Move RelationalConfig SqlAnswer} (moves : m.Alike L m') : Alike (.move m) (.move m')
  | announced {c c' : RelationalConfig} (configs : L.Config c c') (call : SqlCall) :
      Alike (.announced c call) (.announced c' call)
  | boundOne {β : Type} (t : RowTarget β) (options : BinderOptions) (result : Table) :
      Alike (.boundOne t options result) (.boundOne t options result)
  | boundAll {β : Type} (t : RowTarget β) (options : BinderOptions) (result : Table) :
      Alike (.boundAll t options result) (.boundAll t options result)

variable {c c' : Cache RelationalConfig SqlAnswer}

theorem logAll_alike {events : List LogEvent} (alike : c.Alike L c')
    (plain : ∀ e ∈ events, LogEvent.Plain e.fields) :
    (events.foldl Cache.log c).Alike L (events.foldl Cache.log c') :=
  List.rel_foldl (fun _ _ alike _ _ event => alike.log event) alike (LogEvent.alike_all plain)

include shown

theorem happen_alike {x x' : Happening} (alike : c.Alike L c') (happenings : x.Alike L x') :
    Option.Rel (Cache.Alike L) (happen c x) (happen c' x') := by
  cases happenings with
  | move moves => exact alike.move moves
  | announced configs call =>
    rw [happen, happen, call.notice_eq (shown configs)]
    exact .some (alike.log (LogEvent.alike_of_plain (call.plain_notice _)))
  | boundOne t options result => exact .some (logAll_alike alike (Binder.plain_bindOne t options result))
  | boundAll t options result => exact .some (logAll_alike alike (Binder.plain_collect t options result))

theorem happenAll_alike {xs xs' : List Happening} (alike : c.Alike L c')
    (happenings : List.Forall₂ (Happening.Alike L) xs xs') :
    Option.Rel (Cache.Alike L) (happenAll c xs) (happenAll c' xs') := by
  induction happenings generalizing c c' with
  | nil => exact .some alike
  | cons first _ ih => exact (happen_alike shown alike first).bind ih

end RelationalStore

/-! ### Dialogues with a server -/

namespace Mysql

variable (L) in
structure Talk.Alike (t t' : Talk) : Prop where
  request : t.request.Alike L t'.request
  exchanges : t.exchanges = t'.exchanges

variable (L) in
structure Line.Alike (line line' : Line σ) : Prop where
  server : line.server = line'.server
  talks : List.Forall₂ (Talk.Alike L) line.talks line'.talks
  log : line.log = line'.log

theorem Line.Alike.hold {β : Type} {line line' : Line σ} (alike : line.Alike L line') (server : TimedServer σ)
    (options : CacheOptions) {r r' : Request RelationalConfig} (requests : r.Alike L r')
    (d : Dialogue (Except Error β)) (ended : β → Reply SqlAnswer) :
    (line.hold server options r d ended).1.Alike L (line'.hold server options r' d ended).1 ∧
      (line.hold server options r d ended).2.Alike L (line'.hold server options r' d ended).2 := by
  obtain ⟨state, talks, log⟩ := line
  obtain ⟨state', talks', log'⟩ := line'
  obtain ⟨rfl, alikeTalks, rfl⟩ := alike
  simp only [Line.hold, requests.limit?_eq]
  exact ⟨⟨rfl, alikeTalks.snoc ⟨requests, rfl⟩, rfl⟩, .nil, rfl, rfl⟩

/-- Of a configuration a dialogue mentions only how it is displayed. -/
theorem Dialogue.dial_eq {c c' : RelationalConfig} (shown : c.displayUrl = c'.displayUrl) :
    Dialogue.dial c = Dialogue.dial c' := by
  simp only [Dialogue.dial, shown]

theorem client_alike (server : TimedServer σ) (options : CacheOptions)
    (shown : ∀ {c c' : RelationalConfig}, L.Config c c' → c.displayUrl = c'.displayUrl) :
    (client server options).Alike L (Line.Alike L) (client server options) := by
  intro line line' call r r' lines requests
  cases requests with
  | dial config pool =>
    simp only [client, Dialogue.setUp_boundsInOrder, Dialogue.dial_eq (shown config)]
    exact lines.hold server options (.dial config pool) _ _
  | close lease => exact lines.hold server options (.close lease) _ _
  | ping lease => exact lines.hold server options (.ping lease) _ _
  | operate lease =>
    cases call with
    | none => exact ⟨lines, .nil, rfl, rfl⟩
    | some call => exact lines.hold server options (.operate lease) _ _

end Mysql

end StoreAccess

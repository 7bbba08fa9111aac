import StoreAccess.Mysql.Dialogue
import StoreAccess.Sql.Store

/-! A client of relational databases that answers each request by a dialogue with a database server. What the
    server does takes time, and a dialogue that takes longer than its request may is left where it stands. -/

namespace StoreAccess
namespace Mysql

/-- An order, and what came back before the dialogue was left. -/
structure Exchange where
  order : Order
  reply : Option (Except ClientFault order.Yield)

/-- A server that takes a number of milliseconds for each order. -/
structure TimedServer (σ : Type) where
  carryOut : σ → (o : Order) → σ × Nat × Except ClientFault o.Yield

/-- A dialogue that was held, to its end or until it was left. -/
structure Held (σ α : Type) where
  server : σ
  elapsed : Nat
  exchanges : List Exchange
  /-- What the dialogue ended with, unless it was left. -/
  result : Option α
  log : List LogEvent

namespace Dialogue

variable {σ α : Type}

/-- Holds a dialogue, and leaves it as soon as more time than the limit has elapsed. -/
def holdWithin (server : TimedServer σ) (limit : Option Nat) (s : σ) (elapsed : Nat) : Dialogue α → Held σ α
  | done a => ⟨s, elapsed, [], some a, []⟩
  | order o next =>
    let (s, delay, r) := server.carryOut s o
    if limit.any (· < elapsed + delay) then ⟨s, elapsed + delay, [⟨o, none⟩], none, []⟩
    else
      let held := (next r).holdWithin server limit s (elapsed + delay)
      { held with exchanges := ⟨o, some r⟩ :: held.exchanges }
  | log e rest =>
    let held := rest.holdWithin server limit s elapsed
    { held with log := e :: held.log }

end Dialogue

/-- A request, and the dialogue that was held about it. -/
structure Talk where
  request : Request RelationalConfig
  exchanges : List Exchange

/-- A server, and all that was said with it. -/
structure Line (σ : Type) where
  server : σ
  talks : List Talk
  log : List LogEvent

/-- What a dialogue comes to for the cache. -/
def replyOf {β : Type} (ended : β → Reply SqlAnswer) : Option (Except Error β) → Reply SqlAnswer
  | none => .overdue
  | some (.ok b) => ended b
  | some (.error e) => .failure e

namespace Line

variable {σ β : Type}

/-- Holds a dialogue about a request within the time that the request may take. -/
def hold (server : TimedServer σ) (options : CacheOptions) (line : Line σ) (request : Request RelationalConfig)
    (d : Dialogue (Except Error β)) (ended : β → Reply SqlAnswer) :
    Line σ × Conduct RelationalConfig SqlAnswer :=
  let held := d.holdWithin server ((request.limit? options).map Timeline.roundUp) line.server 0
  (⟨held.server, line.talks ++ [⟨request, held.exchanges⟩], line.log ++ held.log⟩,
    ⟨[], held.elapsed, some (replyOf ended held.result)⟩)

end Line

/-- Dials, probes and closes handles, and brings calls to them. -/
def client {σ : Type} (server : TimedServer σ) (options : CacheOptions) : SqlClient (Line σ) where
  conduct line call request :=
    match request, call with
    | .dial config pool, _ => line.hold server options request (.setUp boundsInOrder config pool) fun _ => .success
    | .ping _, _ => line.hold server options request .ping fun _ => .success
    | .close _, _ => line.hold server options request .close fun _ => .success
    | .operate _, some call => line.hold server options request (.ofCall call) .value
    | .operate _, none => (line, ⟨[], 0, none⟩)

end Mysql

/-- All that a store has said with its server. -/
def RelationalStore.talks {σ : Type} (s : RelationalStore (Mysql.Line σ)) : List Mysql.Talk :=
  s.timeline.client.client.talks

end StoreAccess

import StoreAccess.Cache.Lease
import StoreAccess.Config.CacheOptions

/-! Calls on a cache, and where one of them stands between two of its steps: what it is about to look
    up or change, or what it waits for the client to do. -/

namespace StoreAccess

inductive Call (κ : Type) where
  | acquire (config : κ)
  | invalidate (fingerprint : Fingerprint)
  | invalidateLease (lease : Lease)
  /-- Runs the caller's operation on the handle of a configuration. -/
  | withConnection (config : κ)
  | probeOnce
  | clear
  | length
  | contains (fingerprint : Fingerprint)

/-- What a call answers; operations yield values of type `α`. -/
inductive CallAnswer (α : Type) where
  | leased (outcome : Except Error Lease)
  | removed (found : Bool)
  | ran (outcome : Except Error α)
  | replaced (count : Nat)
  | cleared
  | counted (count : Nat)
  | contained (found : Bool)
  deriving Repr

/-- What a call asks the client to do. -/
inductive Request (κ : Type) where
  | dial (config : κ) (pool : PoolSettings)
  | close (lease : Lease)
  | ping (lease : Lease)
  | operate (lease : Lease)

namespace Request

/-- The time a request may take. Closing a handle may take any time. -/
def limit? {κ : Type} (options : CacheOptions) : Request κ → Option Duration
  | dial .. | ping _ => some options.dialTimeout
  | operate _ => some options.operationTimeout
  | close _ => none

end Request

/-- What comes of a request. -/
inductive Reply (α : Type) where
  | success
  | value (a : α)
  | failure (e : Error)
  /-- The time for it is over. -/
  | overdue

/-- What a lease is acquired for. -/
inductive Purpose (κ : Type) [BackendConfig κ] where
  | caller
  /-- An operation is to be run, for the second time if `again`. -/
  | attempt (again : Bool)
  /-- A handle that failed its probe is replaced; `rest` is still to be probed. -/
  | replace (rest : List (Entry κ)) (replaced : Nat)

/-- What follows once an entry is removed and its handle closed. -/
inductive Aftermath (κ : Type) [BackendConfig κ] where
  | caller
  /-- An operation failed on it. -/
  | attempt (target : Target κ) (again : Bool) (e : Error)
  /-- It failed its probe. -/
  | probe (target : Target κ) (rest : List (Entry κ)) (replaced : Nat)
  /-- More entries are to be closed. -/
  | clear (rest : List (Entry κ))

/-- The locks on what calls share: the entries, and the list of gates. -/
inductive Lock where
  | readEntries
  | writeEntries
  | gates
  deriving DecidableEq, Repr

namespace Lock

/-- Two calls may hold these locks at once. -/
def compatible : Lock → Lock → Bool
  | readEntries, readEntries => true
  | gates, readEntries | gates, writeEntries | readEntries, gates | writeEntries, gates => true
  | _, _ => false

end Lock

inductive Phase (κ α : Type) [BackendConfig κ] where
  /-- Looks for an entry of the target. -/
  | looking (target : Target κ) (why : Purpose κ)
  /-- Goes to the gate of the target. -/
  | queueing (target : Target κ) (why : Purpose κ)
  /-- Looks once more, as soon as it is first at the gate. -/
  | rechecking (target : Target κ) (why : Purpose κ)
  | dialing (target : Target κ) (why : Purpose κ)
  | inserting (entry : Entry κ) (why : Purpose κ)
  | operating (target : Target κ) (again : Bool) (lease : Lease)
  | removing (fingerprint : Fingerprint)
  | removingLease (lease : Lease) (why : Aftermath κ)
  | draining
  | closing (entry : Entry κ) (why : Aftermath κ)
  /-- Takes note of all entries. -/
  | noting
  | pinging (entry : Entry κ) (rest : List (Entry κ)) (replaced : Nat)
  | counting
  | containing (fingerprint : Fingerprint)
  | finished (answer : CallAnswer α)
  /-- Given up by the caller. -/
  | dropped

namespace Phase

variable {κ α : Type} [BackendConfig κ]

/-- The phase in which a call starts. -/
def ofCall : Call κ → Phase κ α
  | .acquire config => looking (.ofConfig config) .caller
  | .invalidate fingerprint => removing fingerprint
  | .invalidateLease lease => removingLease lease .caller
  | .withConnection config => looking (.ofConfig config) (.attempt false)
  | .probeOnce => noting
  | .clear => draining
  | .length => counting
  | .contains fingerprint => containing fingerprint

/-- The lock that the next step takes first. -/
def lock? : Phase κ α → Option Lock
  | looking .. | rechecking .. | noting | counting | containing _ => some .readEntries
  | inserting .. | removing _ | removingLease .. | draining => some .writeEntries
  | queueing .. => some .gates
  | dialing .. | operating .. | closing .. | pinging .. | finished _ | dropped => none

/-- The gate at which the call stands. -/
def gate? : Phase κ α → Option Fingerprint
  | rechecking target _ | dialing target _ => some target.fingerprint
  | inserting entry _ => some entry.target.fingerprint
  | _ => none

/-- What the call waits for the client to do. -/
def request? : Phase κ α → Option (Request κ)
  | dialing target _ => some (.dial target.config target.pool)
  | operating _ _ lease => some (.operate lease)
  | closing entry _ => some (.close entry.lease)
  | pinging entry _ _ => some (.ping entry.lease)
  | _ => none

/-- The answer of a call that is over. -/
def answer? : Phase κ α → Option (CallAnswer α)
  | finished answer => some answer
  | _ => none

end Phase

end StoreAccess

import StoreAccess.Backend.StoreConfig
import StoreAccess.Exchange.Tagged

/-! Errors, options and configurations as exchanged data describe them field by field. Lengths of time are
    whole milliseconds. -/

namespace StoreAccess

/-- Whole milliseconds. -/
def Duration.ofJson? (j : Json) : Option Duration := j.nat?.map .ofMillis

def BackendKind.ofText? (j : Json) : Option BackendKind := j.text?.bind BackendKind.ofName?

namespace BindError

def ofDescription? (j : Json) : Option BindError := do
  let target ← j.withDefault? "target" "" Json.text?
  let value ← j.withDefault? "value" "" Json.text?
  let expected ← j.withDefault? "expected" "" Json.text?
  match ← j.required? "variant" Json.text? with
  | "parse" => some (parse target value expected)
  | "overflow" => some (overflow target value expected)
  | "required" => some (required target (j.isSet "absent"))
  | "unsupported" => some (unsupported target expected)
  | _ => none

end BindError

namespace Error

def ofDescription? (j : Json) : Option Error := do
  let source ← j.optional? "source" Json.text?
  let message ← j.withDefault? "message" "" Json.text?
  match ← j.required? "kind" Json.text? with
  | "dial" =>
    some (dial (← j.withDefault? "backend" .keyValue BackendKind.ofText?) message source)
  | "operation" => some (operation message source)
  | "timeout" => some (timeout message)
  | "config" => some (configuration message)
  | "not_found" => some notFound
  | "bind" => (j.required? "bind" BindError.ofDescription?).map bind
  | _ => none

end Error

namespace CacheOptions

/-- Options that stand apart from the default ones in the fields that are given, or the options that
    exchanged data hold. -/
def ofDescription? (j : Json) : Option CacheOptions :=
  match j.field? "json" with
  | some x => ofSource? x
  | none => do
    let o := default
    let o := ((← j.optional? "dial_timeout_ms" Duration.ofJson?).map o.withDialTimeout).getD o
    let o := ((← j.optional? "operation_timeout_ms" Duration.ofJson?).map o.withOperationTimeout).getD o
    some (((← j.optional? "probe_interval_ms" Duration.ofJson?).map o.withProbeInterval).getD o)

end CacheOptions

namespace RelationalConfig

def withDescribedPool? (c : RelationalConfig) : Json → Option RelationalConfig
  | .arr [maxOpen, maxIdle, maxLifetime] => do
    some (c.withPool (← maxOpen.nat?) (← maxIdle.nat?) (← Duration.ofJson? maxLifetime))
  | _ => none

def ofDescription? (j : Json) : Option RelationalConfig := do
  let text (key : String) := j.withDefault? key "" Json.text?
  let c := ofTarget (← text "user") ⟨← text "password"⟩ (← text "host")
    (← j.withDefault? "port" standardPort Json.nat?) (← text "database")
  let c ← j.withDefault? "pool" c c.withDescribedPool?
  let params ← j.withDefault? "params" [] (Json.pairs? Json.text? Json.text?)
  some (params.foldl (fun c p => c.withParam p.1 p.2) c)

end RelationalConfig

namespace StoreConfig

/-- A configuration of a kind from the fields that are given, or the one that exchanged data hold. -/
def ofDescription? (j : Json) : Option StoreConfig := do
  let kind ← j.required? "backend" BackendKind.ofText?
  match j.field? "json" with
  | some x => ofSource? kind x
  | none =>
    let text (key : String) := j.withDefault? key "" Json.text?
    match kind with
    | .relational => (RelationalConfig.ofDescription? j).map relational
    | .keyValue =>
      some (keyValue ⟨← text "url", ⟨← text "password"⟩, ← j.withDefault? "db" 0 Json.nat?⟩)
    | .document => some (document ⟨← text "address", ← text "database", ← text "collection"⟩)
    | .coordination =>
      let c := CoordinationConfig.ofEndpoints (← j.withDefault? "endpoints" [] (Json.each? Json.text?))
      if (j.given? "username").isSome || (j.given? "password").isSome then
        some (coordination (c.withCredentials (← text "username") ⟨← text "password"⟩))
      else some (coordination c)
    | .wideColumn =>
      let c := WideColumnConfig.ofUrl (← text "url")
      if (j.given? "table").isSome then
        some (wideColumn (c.withTable (← text "table") (← text "column_family")))
      else some (wideColumn c)
    | _ => none

end StoreConfig

end StoreAccess

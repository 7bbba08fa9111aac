import StoreAccess.Backend.StoreConfig
import StoreAccess.Config.Environment
import StoreAccess.Text.Utf8
import StoreAccess.Yaml.Source

/-! Settings: the options of the caches, and named configurations in a section for each kind of store.
    They are read from a document in which references to variables are replaced first, and every
    configuration is checked. -/

namespace StoreAccess

structure Settings where
  cache : CacheOptions
  relational : Dict RelationalConfig
  keyValue : Dict KeyValueConfig
  document : Dict DocumentConfig
  coordination : Dict CoordinationConfig
  wideColumn : Dict WideColumnConfig

/-- What is found where a file of settings is looked for. -/
inductive FileContent where
  | missing
  | directory
  | bytes (content : List UInt8)
  deriving DecidableEq, Repr

namespace Settings

def ofSource? {σ : Type} [Source σ] (x : σ) : Option Settings := do
  let names := ["cache", "relational", "key_value", "document", "coordination", "wide_column"]
  match ← Source.slots? names x with
  | [cache, relational, keyValue, document, coordination, wideColumn] =>
    some ⟨← Source.withDefault? .default CacheOptions.ofSource? cache,
      ← Source.withDefault? .empty (Source.dict? RelationalConfig.ofSource?) relational,
      ← Source.withDefault? .empty (Source.dict? KeyValueConfig.ofSource?) keyValue,
      ← Source.withDefault? .empty (Source.dict? DocumentConfig.ofSource?) document,
      ← Source.withDefault? .empty (Source.dict? CoordinationConfig.ofSource?) coordination,
      ← Source.withDefault? .empty (Source.dict? WideColumnConfig.ofSource?) wideColumn⟩
  | _ => none

/-- The sections in the order in which they are checked, each with its configurations by name. -/
def sections (s : Settings) : List (String × List (String × StoreConfig)) :=
  [("relational", s.relational.sorted.map fun p => (p.1, .relational p.2)),
   ("key_value", s.keyValue.sorted.map fun p => (p.1, .keyValue p.2)),
   ("document", s.document.sorted.map fun p => (p.1, .document p.2)),
   ("coordination", s.coordination.sorted.map fun p => (p.1, .coordination p.2)),
   ("wide_column", s.wideColumn.sorted.map fun p => (p.1, .wideColumn p.2))]

/-- Checks one configuration; an error tells where it stands. -/
def checkNamed (section_ name : String) (c : StoreConfig) : Except Error Unit :=
  (BackendConfig.check c).mapError fun e =>
    .configuration (section_ ++ "." ++ name ++ ": " ++ e.message)

/-- Checks the options of the caches, then every configuration. -/
def check (s : Settings) : Except Error Unit := do
  s.cache.check
  s.sections.forM fun part => part.2.forM fun p => checkNamed part.1 p.1 p.2

/-- Reads settings from the text of a document. Where it cannot be read, what the reader says about it is left out of
    the error. -/
def ofText (env : Environment) (cs : List Char) : Except Error Settings := do
  match (Yaml.Document.ofText? (env.expand cs)).bind fun d => ofSource? (Yaml.NodeAt.ofDocument d) with
  | none => .error (.configuration "failed to parse settings")
  | some s =>
    s.check
    .ok s

/-- Reads settings from a file. -/
def ofFile (env : Environment) (path : String) (content : FileContent) : Except Error Settings :=
  let failed (why : String) : Except Error Settings :=
    .error (.configuration ("failed to read settings file " ++ path ++ ": " ++ why))
  match content with
  | .missing => failed "No such file or directory (os error 2)"
  | .directory => failed "Is a directory (os error 21)"
  | .bytes content =>
    match Text.ofUtf8? content with
    | some s => ofText env s.toList
    | none => failed "stream did not contain valid UTF-8"

def toJson (s : Settings) : Json :=
  .obj (("cache", s.cache.toJson)
    :: s.sections.map fun part => (part.1, .obj (part.2.map fun p => (p.1, p.2.toJson))))

end Settings

end StoreAccess

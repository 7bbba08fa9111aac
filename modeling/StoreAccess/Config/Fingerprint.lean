import StoreAccess.Backend.Kind
import StoreAccess.Config.Secret
import StoreAccess.Digest.Sha256
import StoreAccess.Number.IntLiteral
import StoreAccess.Text.Hex
import StoreAccess.Text.Utf8

/-! Fingerprints of configurations: the digest of their kind and their fields. Values of one field and
    the fields themselves are sorted first, so no order in which they were given matters; every text is
    preceded by its length, so no two lists of fields run together into one text. -/

namespace StoreAccess

/-- The identity of a connection target. -/
structure Fingerprint where
  bytes : List UInt8
  deriving DecidableEq, Repr

namespace Fingerprint

def text (f : Fingerprint) : String :=
  String.ofList (Text.hexBytes f.bytes)

/-- The first six bytes. -/
def short (f : Fingerprint) : String :=
  String.ofList (Text.hexBytes (f.bytes.take 6))

def dump (f : Fingerprint) : String :=
  "Fingerprint(" ++ f.short ++ ")"

end Fingerprint

/-- The fields that make up a fingerprint: each a key with its values. -/
structure FingerprintFields where
  kind : BackendKind
  fields : List (String × List String)
  deriving DecidableEq, Repr

namespace FingerprintFields

def ofKind (kind : BackendKind) : FingerprintFields := ⟨kind, []⟩

/-- The order in which values are sorted. -/
def textLe (a b : String) : Bool := decide (a ≤ b)

/-- The order of lists of values: the first difference decides, and a list comes before its longer
    ones. -/
def valuesLe : List String → List String → Bool
  | [], _ => true
  | _ :: _, [] => false
  | a :: as, b :: bs => if a = b then valuesLe as bs else textLe a b

/-- The order of fields: by key, then by values. -/
def fieldLe (a b : String × List String) : Bool :=
  if a.1 = b.1 then valuesLe a.2 b.2 else textLe a.1 b.1

def push (f : FingerprintFields) (key : String) (values : List String) : FingerprintFields :=
  { f with fields := f.fields ++ [(key, values)] }

def field (f : FingerprintFields) (key value : String) : FingerprintFields :=
  f.push key [value]

def number (f : FingerprintFields) (key : String) (n : Int) : FingerprintFields :=
  f.field key (String.ofList (intText n))

def secret (f : FingerprintFields) (key : String) (s : Secret) : FingerprintFields :=
  f.field key s.expose

/-- A field of several values, in whatever order. -/
def list (f : FingerprintFields) (key : String) (values : List String) : FingerprintFields :=
  f.push key (values.mergeSort textLe)

/-- One field per named value. -/
def entries (f : FingerprintFields) (key : String) (pairs : List (String × String)) :
    FingerprintFields :=
  pairs.foldl (fun f p => f.field (key ++ "." ++ p.1) p.2) f

/-- A number in eight bytes, lowest first. -/
def eightBytes (n : Nat) : List UInt8 :=
  (Sha256.bigEndian 8 n).reverse

/-- A text as its length and its bytes. -/
def counted (s : String) : List UInt8 :=
  let bytes := Text.utf8 s
  eightBytes bytes.length ++ bytes

/-- A field as its key, the number of its values, and the values. -/
def fieldBytes (f : String × List String) : List UInt8 :=
  counted f.1 ++ eightBytes f.2.length ++ f.2.flatMap counted

/-- The bytes that stand for the fields. -/
def bytes (f : FingerprintFields) : List UInt8 :=
  Text.utf8 f.kind.name ++ (f.fields.mergeSort fieldLe).flatMap fieldBytes

def finish (f : FingerprintFields) : Fingerprint :=
  ⟨Sha256.digest f.bytes⟩

end FingerprintFields

end StoreAccess

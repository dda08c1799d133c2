import CredRelay.Json.Document
import CredRelay.Table
import CredRelay.Text.Base64
import CredRelay.Text.Blank
import CredRelay.Text.Cut
import CredRelay.Text.Utf8
import CredRelay.Unicode.Alphanumeric
/-! The configuration of credential helpers: which helper keeps the credentials of which
registry, which one keeps all others, and credentials that are written down in the
configuration itself. -/
namespace CredRelay.Helper

open Text Json

/-- Credentials written down for one registry: as Base64 of name, colon and secret, or
apart. -/
structure InlineEntry where
  auth : Option String
  username : Option String
  password : Option String
  deriving DecidableEq, Repr, Inhabited

/-- The configuration of helpers. -/
structure Config where
  defaultHelper : Option String
  helpers : Table String
  inlineEntries : Table InlineEntry
  deriving DecidableEq, Repr, Inhabited

/-- The name and the secret around the first colon of a text; both must be there. -/
def namedSecret? (s : String) : Option (String × String) :=
  match cut ':' s.toList with
  | some (name, secret) =>
    if name.isEmpty || secret.isEmpty then none
    else some (String.ofList name, String.ofList secret)
  | none => none

/-- The name and the secret that a Base64 text holds. -/
def decodeAuth? (s : String) : Option (String × String) :=
  match Base64.decode? (trimChars s.toList) with
  | some octets =>
    match ofUtf8? ⟨octets.toArray⟩ with
    | some pair => namedSecret? pair
    | none => none
  | none => none

/-- The name and the secret of an entry. Those written apart count first, if both are
there. -/
def InlineEntry.credential? (entry : InlineEntry) : Option (String × String) :=
  match entry.username, entry.password with
  | some username, some password =>
    if !username.isEmpty && !password.isEmpty then some (username, password)
    else entry.auth.bind decodeAuth?
  | _, _ => entry.auth.bind decodeAuth?

namespace Config

/-- The configuration that names nothing. -/
def empty : Config :=
  ⟨none, Table.empty, Table.empty⟩

/-- The entry that a value is. -/
def entryOfValue? (v : Value) : Option InlineEntry :=
  match v.fields? ["auth", "username", "password"] with
  | some [auth, username, password] =>
    match field? Value.optionalString? none auth,
        field? Value.optionalString? none username,
        field? Value.optionalString? none password with
    | some auth, some username, some password => some ⟨auth, username, password⟩
    | _, _, _ => none
  | _ => none

/-- The table that a value is. -/
def tableOfValue? {α : Type} (read : Value → Option α) (v : Value) : Option (Table α) :=
  (v.entries? read).map Table.ofList

/-- The configuration that a value is. -/
def ofValue? (v : Value) : Option Config :=
  match v.fields? ["credsStore", "credHelpers", "auths"] with
  | some [store, helpers, auths] =>
    match field? Value.optionalString? none store,
        field? (tableOfValue? Value.string?) Table.empty helpers,
        field? (tableOfValue? entryOfValue?) Table.empty auths with
    | some store, some helpers, some auths => some ⟨store, helpers, auths⟩
    | _, _, _ => none
  | _ => none

/-- The configuration that a document holds. -/
def ofText? (s : String) : Option Config :=
  (Json.read? s.toList).bind ofValue?

/-- The first of the keys with a helper of its own, and that helper. An empty name does
not count. -/
def helperFor? (config : Config) (keys : List String) : Option (String × String) :=
  keys.findSome? fun key =>
    match config.helpers.get? key with
    | some helper => if helper.isEmpty then none else some (key, helper)
    | none => none

/-- The helper for all other registries. An empty name does not count. -/
def defaultHelper? (config : Config) : Option String :=
  config.defaultHelper.filter (fun s => !s.isEmpty)

/-- The name and the secret written down under the first of the keys that has an entry. -/
def inlineCredential? (config : Config) (keys : List String) : Option (String × String) :=
  (keys.findSome? config.inlineEntries.get?).bind InlineEntry.credential?

end Config

/-- Whether a name of a helper is safe to look for: letters, numbers, hyphens and
underscores. -/
def isValidName (name : String) : Bool :=
  !name.isEmpty &&
    name.toList.all fun c => Unicode.isAlphanumeric c || c == '-' || c == '_'

/-- The name of the program of a helper. -/
def programName (name : String) : String :=
  "docker-credential-" ++ name

end CredRelay.Helper

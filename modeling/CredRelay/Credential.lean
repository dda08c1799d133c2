/-! Credentials: a user name and a secret, filed under the address of a server. -/
namespace CredRelay

/-- A credential record. -/
structure Credential where
  serverUrl : String
  username : String
  secret : String
  deriving DecidableEq, Repr, Inhabited

/-- The record that says that a server has no credential. -/
def Credential.none (serverUrl : String) : Credential :=
  ⟨serverUrl, "", ""⟩

/-- Whether a record holds no credential. -/
def Credential.isEmpty (c : Credential) : Bool :=
  c.username.isEmpty && c.secret.isEmpty

end CredRelay

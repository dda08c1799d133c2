import CredRelay.Credential
import CredRelay.Failure
import CredRelay.Registry.Identifier
import CredRelay.Table
/-! Stores of credentials: what they can be asked and what they can answer. -/
namespace CredRelay

/-- What a store answers when it does not fail: a record, that there is none, that
something was done, or the addresses that it holds with their user names. -/
inductive Outcome where
  | found (c : Credential)
  | notFound
  | completed
  | listed (entries : Table String)
  deriving DecidableEq, Repr

/-- The answer of a store. -/
abbrev Answer := Except Failure Outcome

/-- A store whose state is of type `σ`. A record to be stored carries the identifier of
its registry. -/
structure Store (σ : Type) where
  get : Registry → σ → Answer × σ
  store : Registry → Credential → σ → Answer × σ
  erase : Registry → σ → Answer × σ
  list : σ → Answer × σ

end CredRelay

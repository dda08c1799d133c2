import CredRelay.Text.Numeral
import CredRelay.Text.Quoted
/-! Causes of failure and their wording. A request or reply can be malformed, settings can
be unusable, and an operation can fail for these or for reasons of its own. -/
namespace CredRelay

open Text

/-- What is wrong with the octets of a request or of a reply. -/
inductive WireFault where
  | empty
  | tooLarge (limit : Nat)
  | notUtf8
  | unknownCommand (name : String)
  | arity (command : String) (expected actual : Nat)
  | incompleteCredential
  | malformedReply (detail : String)
  deriving DecidableEq, Repr

/-- The wording of a fault on the wire. -/
def WireFault.message : WireFault → String
  | .empty => "empty request"
  | .tooLarge limit => "request exceeds " ++ decimal limit ++ " bytes"
  | .notUtf8 => "request is not valid UTF-8"
  | .unknownCommand name => "unknown command: " ++ name
  | .arity command expected actual =>
    "command " ++ command ++ " expects " ++ decimal expected ++ " line(s), got " ++
      decimal actual
  | .incompleteCredential => "store requires a username and secret"
  | .malformedReply detail => "malformed response: " ++ detail

/-- What is wrong with settings or with the files that hold them. -/
inductive SettingsFault where
  | unreadable (path reason : String)
  | badSettings (path detail : String)
  | badHelperConfig (path detail : String)
  | unwritableValue (detail : String)
  | badListenAddress (value : String)
  | badNetwork (value : String)
  | noConfigDirectory
  | noDataDirectory
  | unwritable (path reason : String)
  deriving DecidableEq, Repr

/-- What is said of a text that is no socket address. -/
def badSocketAddress : String :=
  "invalid socket address syntax"

/-- The wording of a fault in settings. -/
def SettingsFault.message : SettingsFault → String
  | .unreadable path reason => "Failed to read " ++ path ++ ": " ++ reason
  | .badSettings path detail =>
    "Failed to parse bridge settings at " ++ path ++ ": " ++ detail
  | .badHelperConfig path detail =>
    "Failed to parse helper config at " ++ path ++ ": " ++ detail
  | .unwritableValue detail => "Failed to serialize bridge settings: " ++ detail
  | .badListenAddress value =>
    "Invalid tcp.listen address " ++ quoted value ++ ": " ++ badSocketAddress
  | .badNetwork value => "Invalid network " ++ quoted value ++ " in tcp.allowed_networks"
  | .noConfigDirectory => "No config directory for this user"
  | .noDataDirectory => "No data directory for this user"
  | .unwritable path reason => "Failed to write " ++ path ++ ": " ++ reason

/-- The wording of the cause that a fault in settings quotes, where it quotes one. -/
def SettingsFault.cause? : SettingsFault → Option String
  | .unreadable _ reason => some reason
  | .badSettings _ detail => some detail
  | .badHelperConfig _ detail => some detail
  | .unwritableValue detail => some detail
  | .badListenAddress _ => some badSocketAddress
  | .unwritable _ reason => some reason
  | _ => none

/-- Why an operation failed. -/
inductive Failure where
  | wire (fault : WireFault)
  | unparsableAddress (detail : String)
  | unsupportedScheme (scheme : String)
  | noHelper (detail : String)
  | unsupportedPlatform (what : String)
  | helperFailed (detail : String)
  | helperTimeout (seconds : Nat)
  | endpointInUse (endpoint : String)
  | remote (reason : String)
  | login (reason : String)
  | settings (fault : SettingsFault)
  | io (reason : String)
  | document (detail : String)
  deriving DecidableEq, Repr

/-- The wording of a failure. -/
def Failure.message : Failure → String
  | .wire fault => "Protocol error: " ++ fault.message
  | .unparsableAddress detail => "unparsable registry URL: " ++ detail
  | .unsupportedScheme scheme => "unsupported scheme in registry URL: " ++ scheme
  | .noHelper detail => "no credential helper found: " ++ detail
  | .unsupportedPlatform what => "unsupported platform: " ++ what
  | .helperFailed detail => "credential helper failed: " ++ detail
  | .helperTimeout seconds =>
    "credential helper timed out after " ++ decimal seconds ++ "s"
  | .endpointInUse endpoint => "endpoint already in use: " ++ endpoint
  | .remote reason => "bridge replied with error: " ++ reason
  | .login reason => "Login failed: " ++ reason
  | .settings fault => "Configuration error: " ++ fault.message
  | .io reason => "I/O error: " ++ reason
  | .document detail => "JSON error: " ++ detail

/-- The wording of a fault and of the causes that it quotes. -/
def SettingsFault.chain (fault : SettingsFault) : List String :=
  fault.message :: fault.cause?.toList

/-- The wording of a failure and of the causes that it quotes. -/
def Failure.chain (failure : Failure) : List String :=
  failure.message ::
    match failure with
    | .wire fault => [fault.message]
    | .settings fault => fault.chain
    | .io reason => [reason]
    | .document detail => [detail]
    | _ => []

/-- Whether a failure says that no helper could be chosen. -/
def Failure.isResolution : Failure → Bool
  | .noHelper _ | .unsupportedPlatform _ => true
  | _ => false

theorem eq_ok_of_toOption {ε α : Type} {result : Except ε α} {a : α}
    (h : result.toOption = some a) : result = .ok a := by
  cases result with
  | error failure => cases h
  | ok other =>
    cases h
    rfl

end CredRelay

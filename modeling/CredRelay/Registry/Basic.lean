import CredRelay.Failure
import CredRelay.Url.Basic
/-! Registries and their addresses. A registry is reached over HTTPS or stands for a proxy
of another one, which its address names in a parameter. Reading an address always ends:
the address of the registry behind is shorter than the one that carries it. -/
namespace CredRelay

open Text Url

/-- How a registry is addressed. -/
inductive Scheme where
  | https
  | proxy
  deriving DecidableEq, Repr

/-- The name of a scheme. -/
def Scheme.text : Scheme → String
  | .https => "https"
  | .proxy => "nerdctl-experimental"

/-- A registry: where it is, under which path, and which registry is behind it. -/
structure Registry where
  scheme : Scheme
  host : String
  port : Nat
  path : String
  behind : Option Registry
  deriving Repr

namespace Registry

/-- Equality of registries is decided part by part, along the chain of registries
behind. -/
def decEq : (r t : Registry) → Decidable (r = t)
  | ⟨scheme, host, port, path, none⟩, ⟨scheme', host', port', path', none⟩ =>
    decidable_of_iff (scheme = scheme' ∧ host = host' ∧ port = port' ∧ path = path')
      (by simp)
  | ⟨scheme, host, port, path, some inner⟩, ⟨scheme', host', port', path', some inner'⟩ =>
    match decEq inner inner' with
    | isTrue h =>
      decidable_of_iff (scheme = scheme' ∧ host = host' ∧ port = port' ∧ path = path')
        (by simp [h])
    | isFalse h => isFalse (by simp [h])
  | ⟨_, _, _, _, none⟩, ⟨_, _, _, _, some _⟩ => isFalse (by simp)
  | ⟨_, _, _, _, some _⟩, ⟨_, _, _, _, none⟩ => isFalse (by simp)

instance : DecidableEq Registry := decEq

/-- The port of an address that gives none. -/
def standardPort : Nat := 443

/-- The address of the public Docker registry, under which its credentials are filed. -/
def dockerIndex : String := "https://index.docker.io/v1/"

/-- Another name of the public Docker registry. -/
def dockerAlias : String := "docker.io"

/-- The parameter that names the registry behind. -/
def behindParameter : List Char := ['n', 's']

/-- The mark between a scheme and what it applies to. -/
def schemeMark : List Char := [':', '/', '/']

/-- Whether an address names its scheme: the mark stands behind some text and before any
slash, question mark or hash sign. -/
def hasScheme (address : List Char) : Bool :=
  match cutText schemeMark address with
  | some (before, _) =>
    !before.isEmpty && before.all (fun c => c != '/' && c != '?' && c != '#')
  | none => false

/-- What follows a named scheme, when the address has that scheme in any case of
letters. -/
def afterScheme? (scheme : String) (address : List Char) : Option (List Char) :=
  match cutText schemeMark address with
  | some (before, rest) => if sameLetters (String.ofList before) scheme then
      some rest else none
  | none => none

/-- An address with its scheme: names of the Docker registry become its address, and
addresses without a scheme or over plain HTTP become HTTPS ones. -/
def complete (address : List Char) : List Char :=
  if address.isEmpty ∨ address = dockerAlias.toList then dockerIndex.toList
  else if !hasScheme address then "https://".toList ++ address
  else
    match afterScheme? "http" address with
    | some rest => "https://".toList ++ rest
    | none => address

/-- The failure for an address that could not be read. -/
def unparsable (address : List Char) (reason : String) : Failure :=
  .unparsableAddress (String.ofList address ++ ": " ++ reason)

/-- Reads the scheme, host, port and path of a complete address. -/
def readPlain (address : List Char) : Except Failure Registry :=
  match (Parts.ofChars address).read with
  | .error fault => .error (unparsable address fault.message)
  | .ok url =>
    let found : Scheme → Except Failure Registry := fun scheme =>
      match url.host with
      | none => .error (unparsable address "missing host")
      | some host => .ok {
          scheme := scheme
          host := String.ofList host
          port := url.port.getD standardPort
          path := if url.path = ['/'] then "" else String.ofList url.path
          behind := none }
    if url.scheme = Scheme.https.text.toList then found .https
    else if url.scheme = Scheme.proxy.text.toList then found .proxy
    else .error (.unsupportedScheme (String.ofList url.scheme))

/-- The address of the registry behind that a complete address carries. -/
def behindAddress? (address : List Char) : Option (List Char) :=
  (Parts.ofChars address).query.bind (queryValue? behindParameter)

theorem cutText_go_append {mark before s left rest : List Char}
    (h : cutText.go mark before s = some (left, rest)) :
    before.reverse ++ s = left ++ mark ++ rest := by
  induction s generalizing before with
  | nil =>
    unfold cutText.go at h
    split at h
    · next r hr =>
      cases h
      simp [after?_eq_some_iff.1 hr]
    · cases h
  | cons c s ih =>
    unfold cutText.go at h
    split at h
    · next r hr =>
      cases h
      simp [after?_eq_some_iff.1 hr]
    · simpa using ih h

/-- A cut text is what stood before and after the mark, around it. -/
theorem cutText_append {mark s left rest : List Char}
    (h : cutText mark s = some (left, rest)) : s = left ++ mark ++ rest := by
  simpa using cutText_go_append h

theorem complete_question_length (address : List Char) :
    ((complete address).dropWhile (fun c => !(c == '?'))).length ≤ address.length := by
  have hsub : ∀ s : List Char, (s.dropWhile (fun c => !(c == '?'))).length ≤ s.length :=
    fun s => (List.dropWhile_sublist _).length_le
  have hskip : ∀ s : List Char,
      ("https://".toList ++ s).dropWhile (fun c => !(c == '?')) =
      s.dropWhile (fun c => !(c == '?')) := by
    intro s
    simp
  unfold complete
  split
  · have : dockerIndex.toList.dropWhile (fun c => !(c == '?')) = [] := by decide
    simp [this]
  · split
    · rw [hskip]
      exact hsub address
    · split
      · next rest hr =>
        rw [hskip]
        unfold afterScheme? at hr
        split at hr
        · next before r hc =>
          split at hr
          · cases hr
            have := hsub rest
            rw [cutText_append hc]
            simp only [List.length_append]
            omega
          · cases hr
        · cases hr
      · exact hsub address

/-- The address of a registry behind is shorter than the address that carries it. -/
theorem behindAddress?_length_lt {address inner : List Char}
    (h : behindAddress? (complete address) = some inner) :
    inner.length < address.length := by
  unfold behindAddress? at h
  obtain ⟨query, hq, hv⟩ := Option.bind_eq_some_iff.1 h
  have h1 := queryValue?_length_le hv
  have h2 := Parts.query_length_lt hq
  have h3 := complete_question_length address
  omega

/-- The registry that an address means. -/
def ofChars (address : List Char) : Except Failure Registry :=
  let full := complete (trimChars address)
  match readPlain full with
  | .error failure => .error failure
  | .ok registry =>
    match _h : behindAddress? full with
    | none => .ok registry
    | some inner =>
      match ofChars inner with
      | .error failure => .error failure
      | .ok behind => .ok { registry with behind := some behind }
termination_by address.length
decreasing_by
  exact Nat.lt_of_lt_of_le (behindAddress?_length_lt _h) (trimChars_length_le address)

/-- The registry that an address means. -/
def ofString (address : String) : Except Failure Registry :=
  ofChars address.toList

end Registry

end CredRelay

import CredRelay.Proofs.Guest.Agreement
import CredRelay.Proofs.Relay.Changes
import CredRelay.Proofs.Wire.Truncation
import CredRelay.Settings.Basic
/-! What the relay accepts and what it gives back. A record is accepted if its request is
within the limit of the relay, which is a matter of settings. It is given back if its
reply is within that of the client, which is not: there a quote, a backslash or a control
takes more room than in the request. -/
namespace CredRelay.Guest

open Text Request Relay Memory

variable {σ : Type} {store : Store σ} {r : Request} {s : σ} {c : Credential} {l : Ledger}
variable {site : Host.Site} {endpoint : Endpoint}
variable {relay : Exchange σ} {bridge : Exchange Ledger} {limit : Nat}

/-! ## Accepted requests -/

theorem doneOfReply_eq_ok_iff {command : Command} {reply : Reply} :
    doneOfReply command reply = .ok () ↔ reply = .empty := by
  cases reply <;> simp [doneOfReply]

theorem run_eq_ok_iff {exchange : Exchange σ} :
    (run exchange r s).1 = .ok () ↔ (request exchange r s).1 = .ok .empty := by
  show ((request exchange r s).1.bind (doneOfReply r.command) = .ok ()) ↔ _
  cases (request exchange r s).1 with
  | error failure => simp [Except.bind]
  | ok reply => simp [Except.bind, doneOfReply_eq_ok_iff]

/-- A request over the limit of the relay is answered with a failure, which is not read as
success. -/
theorem request_ne_empty (hcarries : Carries relay limit store)
    (h : limit < r.encode.size) : (request relay r s).1 ≠ .ok .empty := by
  rw [request, hcarries]
  simp only [serve_of_lt h]
  split
  · next reply hreply =>
    intro hempty
    cases hempty
    cases Reply.eq_empty_of_decode_extract_eq_empty (by decide) hreply
  · intro hempty
    cases hempty

/-- A request succeeds where it is read and answered with nothing: the beginning of
another reply is not taken for that. -/
theorem run_eq_ok_iff_of_carries (hcarries : Carries relay limit store) :
    (run relay r s).1 = .ok () ↔
      r.encode.size ≤ limit ∧ (answerOctets store r.encode s).1 = .empty := by
  rw [run_eq_ok_iff]
  constructor
  · intro h
    have hsize : r.encode.size ≤ limit :=
      Nat.le_of_not_lt fun hlong => request_ne_empty hcarries hlong h
    refine ⟨hsize, ?_⟩
    rw [request_of_le hcarries hsize] at h
    cases hreply :
        Reply.decode ((answerOctets store r.encode s).1.encode.extract 0 replyLimit)
        (r.command == .get) with
    | error fault =>
      rw [hreply] at h
      cases h
    | ok reply =>
      rw [hreply] at h
      cases h
      exact Reply.eq_empty_of_decode_extract_eq_empty (by decide) hreply
  · rintro ⟨hsize, hreply⟩
    rw [request_of_le hcarries hsize, hreply]
    rfl

/-- What succeeds over a connection that is not turned away is served. -/
theorem reach_of_run_eq_ok (haway : reach site endpoint ≠ .ok false)
    (h : (run (exchange site endpoint limit store) r s).1 = .ok ()) :
    reach site endpoint = .ok true := by
  match hreach : reach site endpoint with
  | .ok true => rfl
  | .ok false => exact absurd hreach haway
  | .error failure =>
    rw [run_eq_ok_iff] at h
    simp [request, exchange, hreach] at h

/-! ## Stored records -/

/-- A record as it is kept under an identifier. -/
def kept (id : String) (c : Credential) : Credential :=
  ⟨id, cleanField c.username, cleanField c.secret⟩

theorem answer_store_of_failure {message : String} (h : l.failure = some message)
    (c : Credential) : (answer Memory.store (.store c) l).1 ≠ .empty := by
  show (answerAbout .store c.serverUrl
    (fun r => Ledger.store r ⟨r.identifier, c.username, c.secret⟩) l).1 ≠ .empty
  rw [answerAbout]
  cases Registry.ofString c.serverUrl with
  | error failure =>
    intro hempty
    cases hempty
  | ok r =>
    simp only [Ledger.store, Ledger.enter, Ledger.record, h]
    intro hempty
    cases hempty

/-- A store in memory confirms a record that arrives whole, unless it fails or the address
is none. -/
theorem answerOctets_store_eq_empty_iff :
    (answerOctets Memory.store (Request.store c).encode l).1 = .empty ↔
      (Request.store c).IsWhole ∧ l.failure = none ∧
        ∃ id, identify (cleanField c.serverUrl) = .ok id := by
  by_cases hwhole : (Request.store c).IsWhole
  · rw [answerOctets_of_isWhole Memory.store hwhole]
    cases hworks : l.failure with
    | some message => simp [Request.cleaned, answer_store_of_failure hworks]
    | none =>
      rw [(answered hworks _).1, Request.cleaned, replyFrom, confirmation]
      cases identify (cleanField c.serverUrl) <;> simp [hwhole]
  · rw [answerOctets_of_not_isWhole Memory.store hwhole]
    simp [hwhole]

theorem store_eq_ok_iff (hcarries : Carries bridge limit Memory.store) :
    (Guest.store bridge c l).1 = .ok () ↔
      (Request.store c).encode.size ≤ limit ∧ (Request.store c).IsWhole ∧
        l.failure = none ∧
        ∃ id, identify (cleanField c.serverUrl) = .ok id := by
  rw [Guest.store, run_eq_ok_iff_of_carries hcarries, answerOctets_store_eq_empty_iff]

/-- What a store that is confirmed leaves behind. -/
theorem store_of_ok (hcarries : Carries bridge limit Memory.store)
    (h : (Guest.store bridge c l).1 = .ok ())
    {id : String} (hid : identify (cleanField c.serverUrl) = .ok id) :
    (Guest.store bridge c l).2.failure = none ∧
      (Guest.store bridge c l).2.records =
        l.records.insert id (kept id c) := by
  obtain ⟨hsize, hwhole, hworks, -⟩ := (store_eq_ok_iff hcarries).mp h
  have hleft : (Guest.store bridge c l).2 =
      (answerOctets Memory.store (Request.store c).encode l).2 := by
    show (request bridge (.store c) l).2 = _
    rw [request_of_le hcarries hsize]
  obtain ⟨-, hrecords, hfailure⟩ := answered hworks (Request.store c).cleaned
  rw [hleft, answerOctets_of_isWhole Memory.store hwhole]
  refine ⟨hfailure, ?_⟩
  rw [hrecords, Request.cleaned, Request.change?, hid]
  rfl

/-! ## Lookups -/

theorem text_get (serverUrl : String) :
    (Request.get serverUrl).text = "get\n" ++ withoutBreaks serverUrl ++ "\n" := by
  apply String.toList_inj.mp
  simp [text, joinWith, command, Command.text, operands]

theorem text_store (c : Credential) :
    (Request.store c).text = "store\n" ++ withoutBreaks c.serverUrl ++ "\n" ++
      withoutBreaks c.username ++ "\n" ++ withoutBreaks c.secret ++ "\n" := by
  apply String.toList_inj.mp
  simp [text, joinWith, command, Command.text, operands]

/-- A lookup is no longer than the request that stored what it looks for. -/
theorem encode_get_size_le (c : Credential) :
    (Request.get c.serverUrl).encode.size ≤ (Request.store c).encode.size := by
  show (Request.get c.serverUrl).text.utf8ByteSize ≤ (Request.store c).text.utf8ByteSize
  simp only [text_get, text_store, String.utf8ByteSize_append]
  have hget : "get\n".utf8ByteSize = 4 := by decide
  have hstore : "store\n".utf8ByteSize = 6 := by decide
  omega

/-- The reply to a lookup of an address that is not blank, where the record is held. -/
theorem answerOctets_get_of_kept (h : l.failure = none) {id : String}
    (hid : identify (cleanField c.serverUrl) = .ok id)
    (hurl : cleanField c.serverUrl ≠ "")
    (hrecord : l.records.get? id = some (kept id c)) :
    (answerOctets Memory.store (Request.get c.serverUrl).encode l).1 =
      .record (kept id c) := by
  have hwhole : (Request.get c.serverUrl).IsWhole := hurl
  rw [answerOctets_of_isWhole Memory.store hwhole, (answered h _).1, Request.cleaned,
    replyFrom, shown, hid]
  simp only [hrecord, Option.getD_some]

/-- What the relay says of a lookup without an address. -/
def addressMissing : String :=
  (Request.get "").shortfall.message

theorem get_of_blank_address (hcarries : Carries relay limit store)
    (h : (Request.get c.serverUrl).encode.size ≤ limit)
    (hurl : cleanField c.serverUrl = "") :
    (get relay c.serverUrl s).1 = .error (.remote addressMissing) := by
  have hwhole : ¬(Request.get c.serverUrl).IsWhole := fun hne => hne hurl
  have hcarried : Carried store limit (.get c.serverUrl) s := by
    refine ⟨h, ?_⟩
    rw [answerOctets_of_not_isWhole store hwhole]
    show (Reply.error addressMissing).encode.size ≤ replyLimit
    decide
  have hclean : cleanField addressMissing = addressMissing := by decide
  rw [get_of_blank hcarries hcarried hurl]
  show Except.error (Failure.remote (cleanField addressMissing)) = _
  rw [hclean]

/-- A lookup of a record that is held gives it where its reply is read whole. -/
theorem get_of_kept (hcarries : Carries bridge limit Memory.store)
    (hrequest : (Request.get c.serverUrl).encode.size ≤ limit)
    (hwhole : (Request.store c).IsWhole) {id : String}
    (hreply : (answerOctets Memory.store (Request.get c.serverUrl).encode l).1 =
      .record (kept id c))
    (hsize : (Reply.record (kept id c)).encode.size ≤ replyLimit) :
    (get bridge c.serverUrl l).1 = .ok (some (kept id c)) := by
  have hcarried : Carried Memory.store limit (.get c.serverUrl) l :=
    ⟨hrequest, by rwa [hreply]⟩
  have hfull : (kept id c).isEmpty = false := by
    simp [kept, Credential.isEmpty, hwhole.1]
  rw [get_of_record hcarries hcarried hreply, hfull]
  rfl

/-- A lookup of a record that is held fails where only the beginning of its reply is
read. -/
theorem exists_get_eq_error_of_long (hcarries : Carries relay limit store)
    (hrequest : (Request.get c.serverUrl).encode.size ≤ limit) {kept : Credential}
    (hreply : (answerOctets store (Request.get c.serverUrl).encode s).1 = .record kept)
    (hsize : replyLimit < (Reply.record kept).encode.size) :
    ∃ fault, (get relay c.serverUrl s).1 = .error (.wire fault) := by
  obtain ⟨fault, hfault⟩ := Reply.exists_decode_extract_eq_error (by decide) hsize
    ((Request.get c.serverUrl).command == .get)
  refine ⟨fault, ?_⟩
  rw [get, request_of_le hcarries hrequest, hreply, hfault]
  rfl

/-- A store that succeeds, over a connection that is not turned away, keeps the record
under the identifier of its address. A lookup of that address gives it back exactly where
the address is not blank and the reply is within the limit of the client, whatever the
settings say of requests. Otherwise it fails. -/
theorem get_eq_kept_iff (settings : Settings)
    (haway : reach site endpoint ≠ .ok false)
    (h : (Guest.store (exchange site endpoint settings.requestBytes Memory.store) c l).1 =
      .ok ()) :
    ∃ id, identify (cleanField c.serverUrl) = .ok id ∧
      let bridge := exchange site endpoint settings.requestBytes Memory.store
      let found := (get bridge c.serverUrl (Guest.store bridge c l).2).1
      let size := (Reply.record (kept id c)).encode.size
      (Guest.store bridge c l).2.records.get? id = some (kept id c) ∧
        (found = .ok (some (kept id c)) ↔
          cleanField c.serverUrl ≠ "" ∧ size ≤ replyLimit) ∧
        (cleanField c.serverUrl = "" → found = .error (.remote addressMissing)) ∧
        (cleanField c.serverUrl ≠ "" → replyLimit < size →
          ∃ fault, found = .error (.wire fault)) := by
  have hcarries := carries_exchange Memory.store (reach_of_run_eq_ok haway h)
    settings.requestBytes
  obtain ⟨hsize, hwhole, -, id, hid⟩ := (store_eq_ok_iff hcarries).mp h
  obtain ⟨hworks, hrecords⟩ := store_of_ok hcarries h hid
  have hrequest := Nat.le_trans (encode_get_size_le c) hsize
  refine ⟨id, hid, ?_⟩
  intro bridge found size
  have hrecord : (Guest.store bridge c l).2.records.get? id = some (kept id c) := by
    rw [hrecords]
    exact Table.get?_insert_self _ _ _
  have hblank : cleanField c.serverUrl = "" → found = .error (.remote addressMissing) :=
    get_of_blank_address hcarries hrequest
  have hlong : cleanField c.serverUrl ≠ "" → replyLimit < size →
      ∃ fault, found = .error (.wire fault) :=
    fun hurl => exists_get_eq_error_of_long hcarries hrequest
      (answerOctets_get_of_kept hworks hid hurl hrecord)
  refine ⟨hrecord, ⟨?_, ?_⟩, hblank, hlong⟩
  · intro hfound
    by_cases hurl : cleanField c.serverUrl = ""
    · rw [hblank hurl] at hfound
      cases hfound
    · refine ⟨hurl, Nat.le_of_not_lt fun hsize => ?_⟩
      obtain ⟨fault, hfault⟩ := hlong hurl hsize
      rw [hfault] at hfound
      cases hfound
  · rintro ⟨hurl, hsize⟩
    exact get_of_kept hcarries hrequest hwhole
      (answerOctets_get_of_kept hworks hid hurl hrecord) hsize

/-! ## A record that is accepted and not given back -/

theorem length_le_writtenText (s : List Char) :
    s.length ≤ (Json.writtenText s).length := by
  have hwritten : s.length ≤ (s.flatMap Json.writtenCharacter).length := by
    induction s with
    | nil => exact Nat.le_refl 0
    | cons d s ih =>
      have hd : 0 < (Json.writtenCharacter d).length := by
        unfold Json.writtenCharacter
        repeat' split
        all_goals simp
      simp only [List.length_cons, List.flatMap_cons, List.length_append]
      omega
  simp only [Json.writtenText, List.length_append, List.length_cons, List.length_nil]
  omega

/-- The reply that is a record is at least as long as its secret. -/
theorem secret_length_le_encode_size (c : Credential) :
    c.secret.toList.length ≤ (Reply.record c).encode.size := by
  have hwritten := length_le_writtenText c.secret.toList
  have hoctets : (Wire.recordText c).toList.length ≤ (Reply.record c).encode.size :=
    length_le_size_utf8 _
  rw [Wire.recordText_toList] at hoctets
  simp [Wire.membersOf, Wire.fieldNames, Json.writtenObject] at hoctets
  omega

/-- A record with a secret of some length. -/
def lengthy (n : Nat) : Credential :=
  ⟨"ghcr.io", "octo", String.ofList (List.replicate n 'x')⟩

theorem withoutBreaks_lengthy (n : Nat) :
    withoutBreaks (lengthy n).secret = (lengthy n).secret := by
  simp [withoutBreaks, lengthy]

theorem cleanField_lengthy (n : Nat) :
    cleanField (lengthy n).secret = (lengthy n).secret := by
  have hblank : ∀ d ∈ List.replicate n 'x', isBlank d = false := by
    intro d hd
    rw [List.eq_of_mem_replicate hd]
    rfl
  rw [← trim_withoutBreaks, withoutBreaks_lengthy]
  show String.ofList (trimWhere isBlank (String.ofList (List.replicate n 'x')).toList) = _
  rw [String.toList_ofList, trimWhere_eq_self hblank]
  rfl

theorem encode_lengthy_size (n : Nat) :
    (Request.store (lengthy n)).encode.size = n + 20 := by
  have hsecret : (lengthy n).secret.utf8ByteSize = n :=
    size_utf8_ofList_replicate (by decide) n
  have hurl : (withoutBreaks "ghcr.io").utf8ByteSize = 7 := by decide
  have hname : (withoutBreaks "octo").utf8ByteSize = 4 := by decide
  show (Request.store (lengthy n)).text.utf8ByteSize = n + 20
  simp only [text_store, String.utf8ByteSize_append, withoutBreaks_lengthy]
  show 6 + (withoutBreaks "ghcr.io").utf8ByteSize + 1 +
    (withoutBreaks "octo").utf8ByteSize + 1 +
    (lengthy n).secret.utf8ByteSize + 1 = n + 20
  omega

/-- A secret of 70000 characters, where requests may be as long as settings allow. -/
theorem exists_get_eq_error_of_lengthy :
    let site : Host.Site :=
      { Host.Site.ofTree ((Host.Tree.bare []).put ["creds.sock"] (.socket 0o600 0)) with
        sockets := [0] }
    let settings : Settings := { Settings.default with maxRequestBytes := 1048576 }
    let bridge := exchange site (.unix "/creds.sock") settings.requestBytes Memory.store
    (Guest.store bridge (lengthy 70000) Ledger.empty).1 = .ok () ∧
      ∃ fault, (get bridge (lengthy 70000).serverUrl
        (Guest.store bridge (lengthy 70000) Ledger.empty).2).1 =
          .error (.wire fault) := by
  intro site settings bridge
  have hreach : reach site (.unix "/creds.sock") = .ok true :=
    eq_ok_of_toOption (by decide +kernel)
  have hcarries := carries_exchange Memory.store hreach settings.requestBytes
  have haway : reach site (.unix "/creds.sock") ≠ .ok false := by
    rw [hreach]
    intro hsame
    cases hsame
  have hurl : cleanField (lengthy 70000).serverUrl = "ghcr.io" := by decide
  have hid : identify (cleanField (lengthy 70000).serverUrl) = .ok "ghcr.io:443" := by
    rw [hurl]
    exact eq_ok_of_toOption (by decide +kernel)
  have hlength : (cleanField (lengthy 70000).secret).toList.length = 70000 := by
    rw [cleanField_lengthy, lengthy, String.toList_ofList, List.length_replicate]
  have hwhole : (Request.store (lengthy 70000)).IsWhole := by
    refine ⟨by decide, fun hempty => ?_⟩
    rw [hempty] at hlength
    cases hlength
  have hstore : (Guest.store bridge (lengthy 70000) Ledger.empty).1 = .ok () := by
    refine (store_eq_ok_iff hcarries).mpr ⟨?_, hwhole, rfl, _, hid⟩
    rw [encode_lengthy_size]
    decide
  obtain ⟨id, -, -, -, -, hlong⟩ := get_eq_kept_iff settings haway hstore
  refine ⟨hstore, hlong (by rw [hurl]; decide) ?_⟩
  have hreply := secret_length_le_encode_size (kept id (lengthy 70000))
  rw [kept, hlength] at hreply
  exact Nat.lt_of_lt_of_le (by decide) hreply

end CredRelay.Guest

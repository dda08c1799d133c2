import CredRelay.Guest.Client
import CredRelay.Proofs.Wire.ReplyRoundTrip
import CredRelay.Relay.Connection
/-! What the client learns over a connection that carries a request and its reply whole:
the reply that the relay gives to the request as it arrives. -/
namespace CredRelay

open Request

namespace Request

theorem encode_size_ne_zero (r : Request) : r.encode.size ≠ 0 := by
  intro h
  have hempty : r.text = "" := by
    rw [← String.utf8ByteSize_eq_zero_iff]
    exact h
  have hlist := text_toList r
  rw [hempty] at hlist
  simp at hlist

end Request

namespace Relay

variable {σ : Type} (store : Store σ) {r : Request} {s : σ}

theorem answerOctets_of_isWhole (h : r.IsWhole) (s : σ) :
    answerOctets store r.encode s = answer store r.cleaned s := by
  rw [answerOctets, decode_encode_of_isWhole h]

theorem answerOctets_of_not_isWhole (h : ¬r.IsWhole) (s : σ) :
    answerOctets store r.encode s = (.error r.shortfall.message, s) := by
  rw [answerOctets, decode_encode_of_not_isWhole h]

/-- Whether a request and the reply to it are within the limits of those who read them. -/
def Carried (limit : Nat) (r : Request) (s : σ) : Prop :=
  r.encode.size ≤ limit ∧ (answerOctets store r.encode s).1.encode.size ≤ Guest.replyLimit

instance (limit : Nat) (r : Request) (s : σ) : Decidable (Carried store limit r s) :=
  inferInstanceAs (Decidable (_ ∧ _))

theorem serve_encode {limit : Nat} (h : r.encode.size ≤ limit) (s : σ) :
    serve limit store r.encode s =
      ((answerOctets store r.encode s).1.encode, (answerOctets store r.encode s).2) :=
  serve_of_size_le r.encode_size_ne_zero h store s

/-- Whether octets that are exchanged get to a relay, and its reply back. -/
def Carries (exchange : Guest.Exchange σ) (limit : Nat) (store : Store σ) : Prop :=
  ∀ octets s, exchange octets s =
    (.ok (serve limit store octets s).1, (serve limit store octets s).2)

/-- A connection that is served carries what is sent and the reply. -/
theorem carries_exchange {site : Host.Site} {endpoint : Endpoint}
    (h : reach site endpoint = .ok true) (limit : Nat) :
    Carries (exchange site endpoint limit store) limit store := by
  intro octets s
  rw [exchange, h]

end Relay

namespace Guest

open Relay

variable {σ : Type} {store : Store σ} {r : Request} {s : σ}
variable {relay : Exchange σ} {limit : Nat}

/-- A request that the relay reads is answered with what is left of the reply within the
limit. -/
theorem request_of_le (hcarries : Carries relay limit store) (h : r.encode.size ≤ limit) :
    request relay r s =
      ((Reply.decode ((answerOctets store r.encode s).1.encode.extract 0 replyLimit)
          (r.command == .get)).mapError .wire,
        (answerOctets store r.encode s).2) := by
  rw [request, hcarries]
  simp only [serve_encode store h]
  cases Reply.decode ((answerOctets store r.encode s).1.encode.extract 0 replyLimit)
    (r.command == .get) <;> rfl

theorem request_of_carried (hcarries : Carries relay limit store)
    (h : Carried store limit r s) : request relay r s =
      (((answerOctets store r.encode s).1.received (r.command == .get)).mapError .wire,
        (answerOctets store r.encode s).2) := by
  obtain ⟨hrequest, hreply⟩ := h
  -- the client reads no more than its limit, which here is all of the reply
  have hall : (answerOctets store r.encode s).1.encode.extract 0 replyLimit =
      (answerOctets store r.encode s).1.encode := by
    rw [← Nat.max_eq_left hreply]
    exact ByteArray.extract_zero_max_size
  rw [request_of_le hcarries hrequest, hall, Reply.decode_encode]

/-- A lookup that is answered with a record gives it, unless it is empty. -/
theorem get_of_record (hcarries : Carries relay limit store) {serverUrl : String}
    {c : Credential} (h : Carried store limit (.get serverUrl) s)
    (hreply : (answerOctets store (Request.get serverUrl).encode s).1 = .record c) :
    get relay serverUrl s =
      (.ok (if c.isEmpty then none else some c),
        (answerOctets store (Request.get serverUrl).encode s).2) := by
  rw [get, request_of_carried hcarries h, hreply]
  rfl

theorem run_of_empty (hcarries : Carries relay limit store) (h : Carried store limit r s)
    (hreply : (answerOctets store r.encode s).1 = .empty) :
    run relay r s = (.ok (), (answerOctets store r.encode s).2) := by
  rw [run, request_of_carried hcarries h, hreply]
  rfl

theorem run_of_error (hcarries : Carries relay limit store) (h : Carried store limit r s)
    {reason : String} (hreply : (answerOctets store r.encode s).1 = .error reason) :
    run relay r s =
      (.error (.remote (cleanField reason)), (answerOctets store r.encode s).2) := by
  rw [run, request_of_carried hcarries h, hreply]
  rfl

end Guest

end CredRelay

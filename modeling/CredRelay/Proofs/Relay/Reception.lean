import CredRelay.Proofs.Text.Numerals
import CredRelay.Proofs.Wire.RequestRoundTrip
import CredRelay.Relay.Connection
import CredRelay.Settings.Basic
import CredRelay.Store.Memory
/-! Taking in a request by a single read. What is longer than allowed is cut by the read,
but never to a length that is allowed, as there is room for one octet more. So a request
is answered as a whole or refused for its length, and no part of it is taken for another
request. -/
namespace CredRelay.Relay

open Text

variable {σ : Type} {limit n : Nat} {octets : ByteArray}

/-! ## Reads -/

theorem size_readOnce (n : Nat) (octets : ByteArray) :
    (readOnce n octets).1.size = min n octets.size := by
  simp [readOnce, ByteArray.size_extract]

theorem readOnce_of_size_le (h : octets.size ≤ n) :
    readOnce n octets = (octets, .empty) := by
  have hall : octets.extract 0 n = octets := by
    rw [← Nat.max_eq_left h]
    exact ByteArray.extract_zero_max_size
  have hnone : octets.extract n octets.size = .empty := by
    rw [← ByteArray.size_eq_zero_iff, ByteArray.size_extract]
    omega
  rw [readOnce, hall, hnone]

/-! ## Room -/

/-- The octet more is there unless the limit is the largest number of all. -/
theorem room_of_lt (h : limit < wordLimit) : room limit = limit + 1 :=
  Nat.min_eq_left h

/-- What was cut off to fit is longer than what is allowed. -/
theorem lt_size_readOnce_room_iff (h : limit < wordLimit) :
    limit < (readOnce (room limit) octets).1.size ↔ limit < octets.size := by
  rw [size_readOnce, room_of_lt h]
  omega

variable (store : Store σ) (s : σ)

/-- What one read takes in is answered as all the octets would be. -/
theorem serve_readOnce_room (h : limit < wordLimit) :
    serve limit store (readOnce (room limit) octets).1 s =
      serve limit store octets s := by
  by_cases hlong : limit < octets.size
  · rw [serve_of_lt hlong, serve_of_lt ((lt_size_readOnce_room_iff h).mpr hlong)]
  · rw [readOnce_of_size_le (by rw [room_of_lt h]; omega)]

/-! ## Visits -/

/-- Octets that are allowed are all read. -/
theorem attend_of_size_le (h : limit < wordLimit) (hsize : octets.size ≤ limit) :
    attend limit store (.octets octets) s =
      (.ok ⟨(serve limit store octets s).1, .empty⟩, (serve limit store octets s).2) := by
  rw [attend, readOnce_of_size_le (by rw [room_of_lt h]; omega)]
  simp only [if_neg (Nat.not_lt.mpr hsize)]

/-- Of octets that are not allowed no more is read than what is needed to see it and what
is discarded. -/
theorem attend_of_lt (h : limit < wordLimit) (hsize : limit < octets.size) :
    attend limit store (.octets octets) s =
      (.ok ⟨(serve limit store octets s).1,
        octets.extract (limit + 1 + discardLimit) octets.size⟩, s) := by
  have hlong := (lt_size_readOnce_room_iff h).mpr hsize
  have hrest : (readOnce discardLimit (readOnce (room limit) octets).2).2 =
      octets.extract (limit + 1 + discardLimit) octets.size := by
    simp only [readOnce, room_of_lt h, ByteArray.extract_extract, ByteArray.size_extract]
    congr 1
    omega
  rw [attend]
  simp only [if_pos hlong, hrest, serve_readOnce_room store s h, serve_of_lt hsize]

/-- Whoever connects to an endpoint and is served gets the reply of the visit. -/
theorem exchange_eq_attend {site : Host.Site} {endpoint : Endpoint}
    (h : limit < wordLimit) (hreach : reach site endpoint = .ok true) :
    exchange site endpoint limit store octets s =
      ((attend limit store (.octets octets) s).1.map Visit.reply,
        (attend limit store (.octets octets) s).2) := by
  rw [exchange, hreach, attend]
  simp only [serve_readOnce_room store s h]
  rfl

/-! ## Settings -/

/-- The refusal of a request for its length on the wire. -/
theorem encode_tooLarge (limit : Nat) :
    (Reply.error (WireFault.tooLarge limit).message).encode =
      utf8 ("error: request exceeds " ++ decimal limit ++ " bytes") := by
  have hdecimal : Request.withoutBreaks (decimal limit) = decimal limit := by
    rw [Request.withoutBreaks, toList_decimal, List.filter_eq_self.mpr]
    · rfl
    · intro c hc
      simp [ne_of_mem_toDigits hc]
  have hfront : Request.withoutBreaks "request exceeds " = "request exceeds " := by decide
  have hback : Request.withoutBreaks " bytes" = " bytes" := by decide
  show utf8 (Reply.errorMark ++
    Request.withoutBreaks ("request exceeds " ++ decimal limit ++ " bytes")) = _
  rw [Request.withoutBreaks_append, Request.withoutBreaks_append, hfront, hdecimal, hback,
    ← String.append_assoc, ← String.append_assoc]
  rfl

/-- For any limit that is set, the one in force is within its bounds and has room for an
octet more. Octets that it allows are answered as a whole; others are refused with the
limit, whatever the store is, which is left as it was; and no octets are left without a
reply. -/
theorem attend_eq_whole_or_refused (settings : Settings) (store : Store σ)
    (octets : ByteArray) (s : σ) : let limit := settings.requestBytes
    limit = max 1 (min settings.maxRequestBytes 1048576) ∧
      room limit = limit + 1 ∧ limit + 1 ≤ wordLimit ∧
      (1 ≤ octets.size → octets.size ≤ limit →
        attend limit store (.octets octets) s =
          (.ok ⟨(answerOctets store octets s).1.encode, .empty⟩,
            (answerOctets store octets s).2)) ∧
      (limit < octets.size →
        attend limit store (.octets octets) s =
          (.ok ⟨utf8 ("error: request exceeds " ++ decimal limit ++ " bytes"),
            octets.extract (limit + 1 + discardLimit) octets.size⟩, s)) ∧
      (octets.size = 0 → attend limit store (.octets octets) s =
        (.ok ⟨.empty, .empty⟩, s)) := by
  intro limit
  have hclamp : limit = max 1 (min settings.maxRequestBytes 1048576) := by
    show min (max settings.maxRequestBytes 1) 1048576 = _
    omega
  have hword : limit < wordLimit :=
    Nat.lt_of_le_of_lt (Nat.min_le_right _ Settings.requestLimit) (by decide)
  refine ⟨hclamp, room_of_lt hword, hword, fun hpos hsize => ?_, fun hlong => ?_,
    fun hnone => ?_⟩
  · rw [attend_of_size_le store s hword hsize, serve_of_size_le (by omega) hsize]
  · rw [attend_of_lt store s hword hlong, serve_of_lt hlong, encode_tooLarge]
  · rw [attend_of_size_le store s hword (by omega), serve, if_pos hnone]

/-- A list that is as long as the limit reaches the store. A record that is two octets too
long does not, so it is not stored with a secret that is cut short. Where nothing is sent
there is no reply. -/
theorem attend_of_three_limits :
    let settings (bytes : Nat) : Settings :=
      { Settings.default with maxRequestBytes := bytes }
    let octets := utf8 "store\nghcr.io\nocto\nhunter2\n"
    let l := Memory.Ledger.empty
    (attend (settings 5).requestBytes Memory.store
      (.octets Request.list.encode) l).2.calls = [.list] ∧
      attend (settings 25).requestBytes Memory.store (.octets octets) l =
        (.ok ⟨utf8 "error: request exceeds 25 bytes", .empty⟩, l) ∧
      attend (settings 0).requestBytes Memory.store (.octets .empty) l =
        (.ok ⟨.empty, .empty⟩, l) := by
  intro settings octets l
  have hwhole :=
    (attend_eq_whole_or_refused (settings 5) Memory.store Request.list.encode l).2.2.2.1
    (by decide) (by decide)
  have hrefused :=
    (attend_eq_whole_or_refused (settings 25) Memory.store octets l).2.2.2.2.1 (by decide)
  have hunread : octets.extract ((settings 25).requestBytes + 1 + discardLimit)
      octets.size = .empty := by
    rw [← ByteArray.size_eq_zero_iff, ByteArray.size_extract]
    decide
  have hmessage :
      "error: request exceeds " ++ decimal (settings 25).requestBytes ++ " bytes" =
      "error: request exceeds 25 bytes" := by
    decide
  refine ⟨?_, ?_,
    (attend_eq_whole_or_refused (settings 0) Memory.store .empty l).2.2.2.2.2 rfl⟩
  · rw [hwhole, answerOctets, Request.decode_encode_of_isWhole (by decide)]
    rfl
  · rw [hrefused, hunread, hmessage]

end CredRelay.Relay

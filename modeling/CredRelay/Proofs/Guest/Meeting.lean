import CredRelay.Guest.Client
import CredRelay.Proofs.Net.SocketSpelling
import CredRelay.Proofs.Relay.Lifecycle
import CredRelay.Proofs.Relay.Publication
/-! Where a guest and a service meet. A service that was started on a network address for
a state root is where a guest looks for it, whatever address the system came to listen on,
and when the service has stopped, the guest looks where it would without any service. -/
namespace CredRelay.Relay

open Host Tree Net

/-! ## Addresses that are listened on -/

/-- Whether what a site comes to listen on for a network address is an address that there
can be. -/
def Binding.Reports (binding : Binding) (site : Site) : Prop :=
  ∀ (a : SocketAddress) (active : Active) (after : Site), a.IsValid →
    binding (.tcp a) site = (.ok active, after) →
      ∃ b : SocketAddress, b.IsValid ∧ active = ⟨.tcp b, .tcp b, none⟩

theorem isValid_boundAddress {a : SocketAddress} (ha : a.IsValid) {site : Site}
    (h : site.nextPort < 65536) : (site.boundAddress a).IsValid := by
  refine ⟨?_, ?_⟩
  · show (if a.port = 0 then site.nextPort else a.port) < 65536
    split
    · exact h
    · exact ha.1
  · obtain ⟨address, scope, port⟩ := a
    cases address with
    | v4 bits => exact rfl
    | v6 bits =>
      show (if isLinkLocal bits then scope else 0) < 4294967296
      split
      · exact ha.2
      · exact Nat.zero_lt_succ _

/-- A site with free ports left comes to listen on addresses that there can be. -/
theorem reports_bind (s : Settings) {site : Site} (h : site.nextPort < 65536) :
    Binding.Reports (bind s) site := by
  intro a active after ha hbind
  rw [bind] at hbind
  rcases bindTcp_cases s a site with ⟨failure, hfailed⟩ | ⟨after', hbound, -⟩
  · rw [hfailed] at hbind
    cases hbind
  · rw [hbound] at hbind
    cases hbind
    exact ⟨_, isValid_boundAddress ha h, rfl⟩

theorem exists_address_of_ofSettings_eq_ok {s : Settings} (hs : s.transport = .tcp)
    {root : String} {endpoint : Endpoint}
    (h : Endpoint.ofSettings s root = .ok endpoint) :
    ∃ a : SocketAddress, a.IsValid ∧ endpoint = .tcp a := by
  rw [Endpoint.ofSettings, hs] at h
  dsimp only at h
  split at h
  · next a hread =>
    cases h
    exact ⟨a, SocketAddress.isValid_of_ofString?_eq_some hread, rfl⟩
  · cases h

/-- What is listened on and announced for a state root can be read in the file there. -/
theorem exists_of_announced_eq_ok {binding : Binding} {a : SocketAddress} {root : String}
    {site after : Site} {active : Active} (hreports : binding.Reports site)
    (ha : a.IsValid)
    (h : binding.announced (.tcp a) (some root) site = (.ok active, after)) :
    ∃ b : SocketAddress, b.IsValid ∧ active = ⟨.tcp b, .tcp b, some (addressFile root)⟩ ∧
      after.tree.readText (addressFile root) = .text b.text := by
  rw [Binding.announced] at h
  split at h
  · next bound site' hbound =>
    obtain ⟨b, hb, rfl⟩ := hreports a bound site' ha hbound
    simp only [announce] at h
    split at h
    · next tree hpublish =>
      cases h
      exact ⟨b, hb, rfl, readText_of_publish_eq_ok hpublish⟩
    · cases h
  · cases h

/-- A start on a network address that succeeds leaves that address in the file under the
state root. -/
theorem exists_of_startBy_eq_ok {s : Settings} (hs : s.transport = .tcp)
    {binding : Binding} {root : String} {site after : Site} {w : Service}
    (hreports : binding.Reports site)
    (h : (Service.ofSettings s).startBy binding.announced root site =
      (.ok (), w, after)) :
    ∃ b : SocketAddress, b.IsValid ∧
      w = ⟨s, .listening, some ⟨.tcp b, .tcp b, some (addressFile root)⟩⟩ ∧
      after.tree.readText (addressFile root) = .text b.text := by
  rw [Service.startBy] at h
  split at h
  · cases h
  · next endpoint hendpoint =>
    obtain ⟨a, ha, rfl⟩ := exists_address_of_ofSettings_eq_ok hs hendpoint
    rcases startWithBy_ofSettings s binding.announced (.tcp a) (some root) site with
      ⟨failure, failed, hfailed⟩ | ⟨active, listening, hattempt, hstarted⟩
    · rw [hfailed] at h
      cases h
    · rw [hstarted] at h
      cases h
      obtain ⟨b, hb, rfl, hread⟩ := exists_of_announced_eq_ok hreports ha hattempt
      exact ⟨b, hb, rfl, hread⟩

end CredRelay.Relay

namespace CredRelay.Guest

open Host Relay Net

variable {system : String}

/-! ## Where a guest looks -/

theorem sameLetters_of_lowerAscii_eq (h : Text.lowerAscii system = "windows") :
    Text.sameLetters system "windows" = true := by
  have hlist : system.toList.map Char.toLower = "windows".toList := by
    rw [← h, Text.lowerAscii, String.toList_ofList]
  have hlower : "windows".toList.map Char.toLower = "windows".toList := by decide
  rw [Text.sameLetters, hlist, hlower, beq_self_eq_true]

/-- A published address is the one that was written. -/
theorem endpointFor_text (hsystem : Text.lowerAscii system = "windows")
    {a : SocketAddress} (ha : a.IsValid) :
    endpointFor system (.text a.text) = .tcp a := by
  rw [endpointFor, if_pos (sameLetters_of_lowerAscii_eq hsystem), publishedAddress?,
    SocketAddress.trim_text, SocketAddress.ofString?_text ha, Option.getD_some]

theorem endpointFor_of_ne_text (hsystem : Text.lowerAscii system = "windows")
    {published : FileText} (h : ∀ s, published ≠ .text s) :
    endpointFor system published = .tcp usualAddress := by
  rw [endpointFor, if_pos (sameLetters_of_lowerAscii_eq hsystem)]
  cases published with
  | text s => exact absurd rfl (h s)
  | missing | unreadable => rfl

/-- Whether a guest on a state root finds a service just where it listens, and looks where
it does without any service once that one was stopped, on whatever site that may have
been. -/
structure Meets (system root : String) (w : Service) (site : Site) : Prop where
  listening :
    w.endpoint? = some (endpointFor system (site.tree.readText (addressFile root)))
  stopped (later : Site) :
    endpointFor system ((w.stop later).2.tree.readText (addressFile root)) =
      .tcp usualAddress

theorem meets_of_text (hsystem : Text.lowerAscii system = "windows") {s : Settings}
    {root : String} {site : Site} {b : SocketAddress} (hb : b.IsValid)
    (hread : site.tree.readText (addressFile root) = .text b.text) :
    Meets system root
      ⟨s, .listening, some ⟨.tcp b, .tcp b, some (addressFile root)⟩⟩ site := by
  refine ⟨?_, fun later => ?_⟩
  · rw [hread, endpointFor_text hsystem hb]
    rfl
  · have hleft :
        (Active.releaseUnless ⟨.tcp b, .tcp b, some (addressFile root)⟩ (fun _ => false)
        later).tree.AtMostDirectory (addressFile root) :=
      atMostDirectory_releaseUnless rfl List.mem_cons_self later
    exact endpointFor_of_ne_text hsystem hleft.readText_ne_text

/-! ## Main results -/

variable {s : Settings} {root : String} {site after : Site} {w : Service}

/-- A service and a guest meet wherever the service was started on a network address for a
state root, whatever address that there can be the system came to listen on. -/
theorem meets_of_startBy {binding : Binding} (hs : s.transport = .tcp)
    (hreports : binding.Reports site)
    (hstart : (Service.ofSettings s).startBy binding.announced root site =
      (.ok (), w, after))
    (hsystem : Text.lowerAscii system = "windows") : Meets system root w after := by
  obtain ⟨b, hb, rfl, hread⟩ := exists_of_startBy_eq_ok hs hreports hstart
  exact meets_of_text hsystem hb hread

/-- A service that is to listen on a version 6 address with a scope, on a system that
has it. -/
theorem meets_of_scoped_listen :
    let s := { Settings.default with transport := .tcp, listen := "[fe80::1%3]:8080" }
    let binding : Binding := fun endpoint site =>
      match endpoint with
      | .tcp a => (.ok ⟨.tcp a, .tcp a, none⟩, site)
      | _ => (.error (.unsupportedPlatform endpoint.text), site)
    let started :=
      (Service.ofSettings s).startBy binding.announced "/r" (.ofTree (.bare []))
    let address : SocketAddress := ⟨.v6 0xfe800000000000000000000000000001#128, 3, 8080⟩
    started.2.1.endpoint? = some (.tcp address) ∧
      endpointFor "WinDows" (started.2.2.tree.readText (addressFile "/r")) =
        .tcp address ∧
      endpointFor "WinDows"
        ((started.2.1.stop started.2.2).2.tree.readText (addressFile "/r")) =
        .tcp usualAddress := by
  intro s binding started address
  have hreports : binding.Reports (.ofTree (.bare [])) := by
    intro a active after ha hbound
    cases hbound
    exact ⟨a, ha, rfl⟩
  have hresult : started.1 = .ok () := by decide +kernel
  have hstart : started = (.ok (), started.2.1, started.2.2) := Prod.ext hresult rfl
  have hsystem : Text.lowerAscii "WinDows" = "windows" := by decide +kernel
  have hmeets := meets_of_startBy rfl hreports hstart hsystem
  have hendpoint : started.2.1.endpoint? = some (.tcp address) := by decide +kernel
  refine ⟨hendpoint, ?_, hmeets.stopped started.2.2⟩
  have hfound := hmeets.listening
  rw [hendpoint] at hfound
  exact (Option.some_inj.mp hfound).symm

/-- They meet on any site that has free ports left, with the addresses that can be
listened on there. -/
theorem meets_of_start (hs : s.transport = .tcp) (hport : site.nextPort < 65536)
    (hstart : (Service.ofSettings s).start root site = (.ok (), w, after))
    (hsystem : Text.lowerAscii system = "windows") : Meets system root w after := by
  rw [← Service.startBy_listen, Service.listen_eq_announced] at hstart
  obtain ⟨b, hb, rfl, hread⟩ := exists_of_startBy_eq_ok hs (reports_bind s hport) hstart
  exact meets_of_text hsystem hb hread

end CredRelay.Guest

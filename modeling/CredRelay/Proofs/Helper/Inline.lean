import CredRelay.Helper.Config
import CredRelay.Proofs.Text.Base64RoundTrip
import CredRelay.Proofs.Text.Octets
import CredRelay.Proofs.Text.Pieces
/-! Credentials that are written down in the configuration of helpers. A name and a secret
are read from exactly the Base64 of the two with a colon between, where the name has no
colon and neither is empty. Of the lookup keys the first one with an entry decides: it
gives the credential of the first usable entry, or hides that one if its own entry is not
usable. -/
namespace CredRelay.Helper

open Text

/-! ## Names and secrets -/

section

variable {s username secret : String}

/-- A text holds the name in front of its first colon and the secret behind it. -/
theorem namedSecret?_eq_some_iff : namedSecret? s = some (username, secret) ↔
    s = username ++ ":" ++ secret ∧ ':' ∉ username.toList ∧ username ≠ "" ∧
    secret ≠ "" := by
  have hcut : cut ':' s.toList = some (username.toList, secret.toList) ↔
      s = username ++ ":" ++ secret ∧ ':' ∉ username.toList := by
    rw [cut_eq_some_iff, ← String.toList_inj, String.toList_append, String.toList_append,
      List.append_assoc]
    rfl
  rw [← and_assoc, ← hcut, namedSecret?]
  constructor
  · intro h
    split at h
    · next name rest hparts =>
      split at h
      · cases h
      · next hne =>
        cases h
        simp only [Bool.or_eq_true, List.isEmpty_iff, not_or] at hne
        rw [String.toList_ofList, String.toList_ofList]
        exact ⟨hparts, by simpa [String.ext_iff] using hne⟩
    · cases h
  · rintro ⟨hparts, husername, hsecret⟩
    have hne : ¬(username.toList.isEmpty || secret.toList.isEmpty) = true := by
      simp [husername, hsecret]
    rw [hparts]
    simp only [if_neg hne, String.ofList_toList]

theorem decodeAuth?_eq_some_iff_exists {pair : String × String} :
    decodeAuth? s = some pair ↔
    ∃ text, (trim s).toList = Base64.encode (utf8 text).data.toList ∧
      namedSecret? text = some pair := by
  rw [decodeAuth?, toList_trim]
  constructor
  · intro h
    split at h
    · next octets hoctets =>
      split at h
      · next text htext =>
        refine ⟨text, ?_, h⟩
        rw [← ofUtf8?_eq_some_iff.mp htext]
        exact (Base64.decode?_eq_some_iff.mp hoctets).symm
      · cases h
    · cases h
  · rintro ⟨text, htrim, hpair⟩
    have hoctets := Base64.decode?_eq_some_iff.mpr htrim.symm
    have hbytes : (⟨(utf8 text).data.toList.toArray⟩ : ByteArray) = utf8 text := by simp
    simp only [hoctets, hbytes, ofUtf8?_utf8, hpair]

end

/-- A name and a secret are read from a text exactly if it is, but for blanks at its ends,
the Base64 of the octets of the two with a colon between; the name is not empty and has no
colon, the secret is not empty. -/
theorem decodeAuth?_eq_some_iff_encode (s username secret : String) :
    decodeAuth? s = some (username, secret) ↔
      (trim s).toList = Base64.encode (utf8 (username ++ ":" ++ secret)).data.toList ∧
        username ≠ "" ∧ ':' ∉ username.toList ∧ secret ≠ "" := by
  rw [decodeAuth?_eq_some_iff_exists]
  constructor
  · rintro ⟨text, htrim, hpair⟩
    obtain ⟨rfl, hcolon, husername, hsecret⟩ := namedSecret?_eq_some_iff.mp hpair
    exact ⟨htrim, husername, hcolon, hsecret⟩
  · rintro ⟨htrim, husername, hcolon, hsecret⟩
    exact ⟨_, htrim, namedSecret?_eq_some_iff.mpr ⟨rfl, hcolon, husername, hsecret⟩⟩

/-! ## Entries -/

namespace InlineEntry

variable {entry : InlineEntry} {username secret : String}

/-- Whether a name and a secret are written apart in an entry, neither of them empty. -/
def IsApart (entry : InlineEntry) (username secret : String) : Prop :=
  entry.username = some username ∧ entry.password = some secret ∧
    username ≠ "" ∧ secret ≠ ""

/-- What an entry holds: the name and the secret that are written apart, or else those of
its Base64. -/
inductive Holds (entry : InlineEntry) : String → String → Prop
  | apart {username secret : String} (h : entry.IsApart username secret) :
  Holds entry username secret
  | encoded {auth username secret : String}
      (h : ∀ name password, ¬entry.IsApart name password) (hauth : entry.auth = some auth)
      (hdecode : decodeAuth? auth = some (username, secret)) : Holds entry username secret

/-- Whether an entry can be used: a name and a secret are written apart, or its Base64 can
be read. -/
def IsUsable (entry : InlineEntry) : Prop :=
  (∃ username secret, entry.IsApart username secret) ∨
    ∃ auth pair, entry.auth = some auth ∧ decodeAuth? auth = some pair

theorem credential?_of_isApart (h : entry.IsApart username secret) :
    entry.credential? = some (username, secret) := by
  obtain ⟨husername, hpassword, hname, hsecret⟩ := h
  rw [credential?, husername, hpassword]
  exact if_pos (by simp [hname, hsecret])

theorem credential?_of_not_isApart (h : ∀ name password, ¬entry.IsApart name password) :
    entry.credential? = entry.auth.bind decodeAuth? := by
  rw [credential?]
  split
  · next name password husername hpassword =>
    refine if_neg fun hboth => h name password ⟨husername, hpassword, ?_⟩
    simpa using hboth
  · rfl

theorem credential?_eq_some_iff :
    entry.credential? = some (username, secret) ↔ entry.Holds username secret := by
  constructor
  · intro h
    by_cases hapart : ∃ name password, entry.IsApart name password
    · obtain ⟨name, password, hapart⟩ := hapart
      rw [credential?_of_isApart hapart] at h
      cases h
      exact .apart hapart
    · have hnot : ∀ name password, ¬entry.IsApart name password :=
        fun name password h => hapart ⟨name, password, h⟩
      rw [credential?_of_not_isApart hnot, Option.bind_eq_some_iff] at h
      obtain ⟨auth, hauth, hdecode⟩ := h
      exact .encoded hnot hauth hdecode
  · intro h
    cases h with
    | apart hapart => exact credential?_of_isApart hapart
    | encoded hnot hauth hdecode =>
      rw [credential?_of_not_isApart hnot, hauth]
      exact hdecode

theorem isUsable_iff :
    entry.IsUsable ↔ ∃ username secret, entry.Holds username secret := by
  constructor
  · intro h
    by_cases hapart : ∃ name password, entry.IsApart name password
    · obtain ⟨name, password, hapart⟩ := hapart
      exact ⟨name, password, .apart hapart⟩
    · obtain ⟨auth, pair, hauth, hdecode⟩ := h.resolve_left hapart
      exact ⟨pair.1, pair.2,
        .encoded (fun name password h => hapart ⟨name, password, h⟩) hauth hdecode⟩
  · rintro ⟨username, secret, hapart | ⟨-, hauth, hdecode⟩⟩
    · exact .inl ⟨username, secret, hapart⟩
    · exact .inr ⟨_, _, hauth, hdecode⟩

theorem credential?_eq_none_iff : entry.credential? = none ↔ ¬entry.IsUsable := by
  rw [isUsable_iff, Option.eq_none_iff_forall_ne_some, Prod.forall]
  simp only [ne_eq, credential?_eq_some_iff, not_exists]

end InlineEntry

/-! ## Keys -/

namespace Config

variable {config : Config} {keys : List String} {username secret : String}

/-- Whether a name and a secret are held by the first usable entry among those of some
keys. -/
def IsDue (config : Config) (keys : List String) (username secret : String) : Prop :=
  ∃ before key after entry, keys = before ++ key :: after ∧
    config.inlineEntries.get? key = some entry ∧ entry.Holds username secret ∧
    ∀ other ∈ before, ∀ entry ∈ config.inlineEntries.get? other, ¬entry.IsUsable

/-- Whether the first of the entries of some keys is not usable, and a later one is. -/
def IsHidden (config : Config) (keys : List String) : Prop :=
  ∃ before key after entry, keys = before ++ key :: after ∧
    config.inlineEntries.get? key = some entry ∧ ¬entry.IsUsable ∧
    (∀ other ∈ before, config.inlineEntries.get? other = none) ∧
    ∃ other ∈ after, ∃ entry ∈ config.inlineEntries.get? other, entry.IsUsable

/-- The name and the secret that can be used under a key. -/
def usable? (config : Config) (key : String) : Option (String × String) :=
  (config.inlineEntries.get? key).bind InlineEntry.credential?

theorem usable?_eq_none_iff {key : String} : config.usable? key = none ↔
    ∀ entry ∈ config.inlineEntries.get? key, ¬entry.IsUsable := by
  simp only [usable?, Option.bind_eq_none_iff, InlineEntry.credential?_eq_none_iff,
    Option.mem_def]

theorem findSome?_usable?_eq_some_iff :
    keys.findSome? config.usable? = some (username, secret) ↔
    config.IsDue keys username secret := by
  simp only [List.findSome?_eq_some_iff, IsDue, usable?_eq_none_iff]
  simp only [usable?, Option.bind_eq_some_iff, InlineEntry.credential?_eq_some_iff]
  constructor
  · rintro ⟨before, key, after, hkeys, ⟨entry, hentry, hholds⟩, hbefore⟩
    exact ⟨before, key, after, entry, hkeys, hentry, hholds, hbefore⟩
  · rintro ⟨before, key, after, entry, hkeys, hentry, hholds, hbefore⟩
    exact ⟨before, key, after, hkeys, ⟨entry, hentry, hholds⟩, hbefore⟩

theorem exists_isDue_iff : (∃ username secret, config.IsDue keys username secret) ↔
    ∃ key ∈ keys, ∃ entry ∈ config.inlineEntries.get? key, entry.IsUsable := by
  have hnone : keys.findSome? config.usable? = none ↔
      ¬∃ username secret, config.IsDue keys username secret := by
    rw [Option.eq_none_iff_forall_ne_some, Prod.forall]
    simp only [ne_eq, findSome?_usable?_eq_some_iff, not_exists]
  rw [← not_iff_not, ← hnone, List.findSome?_eq_none_iff]
  simp only [usable?_eq_none_iff, not_exists, not_and]

/-- The first entry is the one that decides. -/
theorem isHidden_iff : config.IsHidden keys ↔
    ∃ entry, keys.findSome? config.inlineEntries.get? = some entry ∧ ¬entry.IsUsable ∧
      ∃ username secret, config.IsDue keys username secret := by
  simp only [exists_isDue_iff, List.findSome?_eq_some_iff]
  constructor
  · rintro ⟨before, key, after, entry, rfl, hentry, hnot, hbefore, other, hother, husable⟩
    exact ⟨entry, ⟨before, key, after, rfl, hentry, hbefore⟩, hnot,
      other, by simp [hother], husable⟩
  · rintro ⟨entry, ⟨before, key, after, rfl, hentry, hbefore⟩, hnot, other, hmem, found,
      hfound, husable⟩
    refine ⟨before, key, after, entry, rfl, hentry, hnot, hbefore, other, ?_, found,
      hfound, husable⟩
    -- a usable entry is not the first one, and in front of that there is none
    rcases List.mem_append.mp hmem with hother | hother
    · rw [hbefore other hother] at hfound
      cases hfound
    · refine (List.mem_cons.mp hother).resolve_left ?_
      rintro rfl
      rw [hentry] at hfound
      cases hfound
      exact hnot husable

theorem inlineCredential?_of_isHidden (h : config.IsHidden keys) :
    config.inlineCredential? keys = none := by
  obtain ⟨entry, hfirst, hnot, -⟩ := isHidden_iff.mp h
  rw [inlineCredential?, hfirst]
  exact InlineEntry.credential?_eq_none_iff.mpr hnot

theorem inlineCredential?_of_not_isHidden (h : ¬config.IsHidden keys) :
    config.inlineCredential? keys = keys.findSome? config.usable? := by
  rw [inlineCredential?]
  cases hfirst : keys.findSome? config.inlineEntries.get? with
  | none =>
    have hall := List.findSome?_eq_none_iff.mp hfirst
    refine (List.findSome?_eq_none_iff.mpr fun key hkey => ?_).symm
    rw [usable?, hall key hkey]
    rfl
  | some entry =>
    rw [Option.bind_some]
    by_cases husable : entry.IsUsable
    · obtain ⟨username, secret, hholds⟩ := InlineEntry.isUsable_iff.mp husable
      obtain ⟨before, key, after, hkeys, hentry, hbefore⟩ :=
        List.findSome?_eq_some_iff.mp hfirst
      rw [InlineEntry.credential?_eq_some_iff.mpr hholds]
      refine (findSome?_usable?_eq_some_iff.mpr
        ⟨before, key, after, entry, hkeys, hentry, hholds, ?_⟩).symm
      intro other hother found hfound
      rw [hbefore other hother] at hfound
      cases hfound
    · rw [InlineEntry.credential?_eq_none_iff.mpr husable]
      refine (Option.eq_none_iff_forall_ne_some.mpr ?_).symm
      rintro ⟨username, secret⟩ hdue
      exact h (isHidden_iff.mpr
        ⟨entry, hfirst, husable, username, secret, findSome?_usable?_eq_some_iff.mp hdue⟩)

end Config

/-- Of the entries of some keys that can be used, the first one gives the credential that
is found, unless an entry that cannot be used stands before all others; then none is
found. -/
theorem inlineCredential?_eq_some_iff_and_exists_isDue_iff (config : Config)
    (keys : List String) :
    (∀ username secret, config.inlineCredential? keys = some (username, secret) ↔
      config.IsDue keys username secret ∧ ¬config.IsHidden keys) ∧
    (config.inlineCredential? keys = none ↔
      (∀ key ∈ keys, ∀ entry ∈ config.inlineEntries.get? key, ¬entry.IsUsable) ∨
        config.IsHidden keys) ∧
    ((∃ username secret, config.IsDue keys username secret) ↔
      ∃ key ∈ keys, ∃ entry ∈ config.inlineEntries.get? key, entry.IsUsable) := by
  refine ⟨fun username secret => ?_, ?_, Config.exists_isDue_iff⟩
  · by_cases hhidden : config.IsHidden keys
    · simp [Config.inlineCredential?_of_isHidden hhidden, hhidden]
    · rw [Config.inlineCredential?_of_not_isHidden hhidden,
        Config.findSome?_usable?_eq_some_iff]
      simp [hhidden]
  · by_cases hhidden : config.IsHidden keys
    · simp [Config.inlineCredential?_of_isHidden hhidden, hhidden]
    · rw [Config.inlineCredential?_of_not_isHidden hhidden, List.findSome?_eq_none_iff]
      simp [Config.usable?_eq_none_iff, hhidden]

/-- An entry without a credential in front of one with it. -/
example :
    let config : Config := ⟨none, Table.empty,
      Table.ofList [("ghcr.io:443", ⟨none, none, none⟩),
        ("ghcr.io", ⟨none, some "u", some "p"⟩)]⟩
    config.inlineCredential? ["ghcr.io"] = some ("u", "p") ∧
      config.inlineCredential? ["ghcr.io:443", "ghcr.io"] = none := by
  decide

end CredRelay.Helper

import BucketAccess.Account.Connection
import BucketAccess.Proofs.Program.Attempt

/-!
# Connections that are made

A connection is made exactly if the endpoint is a URL with a host, neither key is empty and the
trust can be built on. It needs no exchange with the server, and keeps what the URL says.
-/

namespace BucketAccess.Account

theorem readEndpoint_ok {endpoint host : String} {url : Web.Url}
    (h : readEndpoint endpoint = .ok (url, host)) :
    Web.Url.parse endpoint = .ok url ∧ url.host = some host := by
  unfold readEndpoint at h
  split at h
  · cases h
  split at h
  · cases h
  next url' hparse =>
  split at h
  · cases h
  next host' hhost =>
  cases h
  exact ⟨hparse, hhost⟩

theorem returns_connect {σ : Signature} {endpoint accessKey secretKey : String} {trust : Trust}
    {t : List (Turn σ)} {connection : Connection} :
    Attempt.Returns (connect endpoint accessKey secretKey trust) t connection ↔
      t = [] ∧ accessKey ≠ "" ∧ secretKey ≠ "" ∧ trust.isUsable = true ∧
        ∃ url host, readEndpoint endpoint = .ok (url, host) ∧
          connection = ⟨url.scheme, host, url.port, url.path, accessKey, secretKey⟩ := by
  have htail : ∀ {connection' : Connection} {t : List (Turn σ)},
      Attempt.Returns (do
        if !trust.isUsable then throw (.account .badCertificate)
        return connection' : Attempt σ ConnectError Connection) t connection ↔
      t = [] ∧ trust.isUsable = true ∧ connection = connection' := by
    intro connection' t
    cases trust.isUsable with
    | false => simp [Attempt.not_returns_throw]
    | true => simp [eq_comm]
  unfold connect
  constructor
  · intro h
    obtain ⟨_, _, ⟨url, host⟩, rfl, hends, hrest⟩ := Attempt.returns_bind.1 h
    obtain ⟨rfl, hread⟩ := Program.ends_done.1 hends
    simp only at hrest
    split at hrest
    · exact absurd hrest Attempt.not_returns_throw
    next haccess =>
    split at hrest
    · exact absurd hrest Attempt.not_returns_throw
    next hsecret =>
    have hkeys : accessKey ≠ "" ∧ secretKey ≠ "" :=
      ⟨by simpa using haccess, by simpa using hsecret⟩
    split at hrest
    · obtain ⟨_, _, _, rfl, hlog, hrest⟩ := Attempt.returns_bind.1 hrest
      obtain ⟨rfl, htrust, rfl⟩ := htail.1 hrest
      obtain rfl := Attempt.returns_log.1 hlog
      exact ⟨rfl, hkeys.1, hkeys.2, htrust, url, host, hread, rfl⟩
    · obtain ⟨rfl, htrust, rfl⟩ := htail.1 hrest
      exact ⟨rfl, hkeys.1, hkeys.2, htrust, url, host, hread, rfl⟩
  · rintro ⟨rfl, haccess, hsecret, htrust, url, host, hread, rfl⟩
    rw [hread]
    refine Attempt.returns_bind.2 ⟨[], [], (url, host), rfl, .done _, ?_⟩
    dsimp only
    rw [if_neg (by simpa using haccess), if_neg (by simpa using hsecret)]
    split
    · exact Attempt.returns_bind.2 ⟨[], [], (), rfl, Attempt.returns_log.2 rfl,
        htail.2 ⟨rfl, htrust, rfl⟩⟩
    · exact htail.2 ⟨rfl, htrust, rfl⟩

end BucketAccess.Account

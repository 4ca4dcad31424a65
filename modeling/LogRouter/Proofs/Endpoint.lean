import LogRouter.Sink.Options
import LogRouter.Metrics.Statsd
import LogRouter.Config.Schema
import LogRouter.Proofs.Lines
import LogRouter.Proofs.Syslog
import LogRouter.Proofs.Template
import LogRouter.Proofs.Decimal

/-!
Network endpoints read from the configuration.

The broker client takes its host and port from the sink settings' `host` and `port`, which the
schema checks (a non-empty host, an integer port from 0 to 65535), else from the first entry of
`bootstrap.servers`, which the schema checks only for being a non-empty string, else from the
defaults `127.0.0.1` and `6379`.  The entry is cut at its last colon and its port read as a
number, kept when it is an integer: nothing bounds it, and nothing keeps the host from being
empty.  So the endpoint is usable except where it comes from the server list
(`SinkConf.clientOptions_endpoint`), and any non-empty server list is accepted
(`SinkConf.accepted_of_servers_only`).

A statsd target is checked against `host:port` with one to five digits.  It is cut at its one
colon, into a host that is not empty and the number its digits spell
(`Statsd.target_of_isHostPort`), which is at most 99999: five digits go past the last port.
`endpoints_of_accepted_settings` states the two together.
-/

namespace LogRouter

namespace Text

theorem lastIndexOf?_append_cons {l r : Text} {u : UInt16} (hr : u ∉ r) :
    lastIndexOf? (l ++ u :: r) u = some l.length := by
  -- read backwards, the unit is met right after the reversed `r`
  have hidx : ∀ r' : Text, u ∉ r' → ∀ m : Text, (r' ++ u :: m).idxOf? u = some r'.length := by
    intro r' hr' m
    induction r' with
    | nil => simp [List.idxOf?_cons]
    | cons x xs ih =>
      have hx : x ≠ u := fun he => hr' (by simp [he])
      rw [List.cons_append, List.idxOf?_cons, if_neg (by simpa using hx),
        ih fun h => hr' (List.mem_cons_of_mem x h)]
      rfl
  rw [lastIndexOf?, List.reverse_append, List.reverse_cons, List.append_assoc, List.singleton_append,
    hidx r.reverse (by simpa using hr)]
  simp only [Option.map_some, List.length_append, List.length_cons, List.length_reverse]
  congr 1
  omega

end Text

/-! ### Statsd targets -/

/-- A target that passes the `host:port` check is a host, a colon and one to five digits: the
host not empty and without a colon or a blank. -/
theorem isHostPort_eq_true {t : Text} (h : isHostPort t = true) :
    ∃ host port, t = host ++ 0x3A :: port ∧ host ≠ [] ∧ 0x3A ∉ host ∧ 0x3A ∉ port ∧
      port ≠ [] ∧ port.length ≤ 5 ∧ ∀ u ∈ port, Text.isDigit u = true := by
  unfold isHostPort at h
  split at h
  · rename_i host port hsplit
    simp only [Bool.and_eq_true, Bool.not_eq_true', List.isEmpty_eq_false_iff, decide_eq_true_eq,
      List.all_eq_true] at h
    obtain ⟨⟨⟨⟨hhost, -⟩, hlen₁⟩, hlen₂⟩, hdigits⟩ := h
    have hpieces : ∀ l ∈ [host, port], 0x3A ∉ l := fun l hl =>
      LineBuffer.not_mem_of_mem_splitOn 0x3A (by rw [← Text.splitOnUnit, hsplit]; exact hl)
    refine ⟨host, port, ?_, hhost, hpieces host (by simp), hpieces port (by simp),
      List.ne_nil_of_length_pos hlen₁, hlen₂, hdigits⟩
    have hjoin : [(0x3A : UInt16)].intercalate (t.splitOn 0x3A) = t := List.intercalate_splitOn _
    rw [← Text.splitOnUnit, hsplit] at hjoin
    rw [← hjoin]
    simp
  · cases h

namespace Statsd

/-- A target that passes the check is cut at its colon: the host is not empty, and the port is
the number its digits spell, at most 99999. -/
theorem target_of_isHostPort {t : Text} (h : isHostPort t = true) :
    ∃ host digits, t = host ++ 0x3A :: digits ∧ host ≠ [] ∧
      target t = (host, Double.ofNat (Syslog.digitsValue digits)) ∧
      Syslog.digitsValue digits ≤ 99999 := by
  obtain ⟨host, port, rfl, hhost, -, hport, hne, hlen, hdigits⟩ := isHostPort_eq_true h
  have hbound : Syslog.digitsValue port < Nat.pow 10 5 :=
    Nat.lt_of_lt_of_le (Text.digitsValue_lt hdigits) (Nat.pow_le_pow_right (by decide) hlen)
  refine ⟨host, port, rfl, hhost, ?_, by simp [Nat.pow] at hbound; omega⟩
  rw [target, Text.lastIndexOf?_append_cons hport]
  simp only [List.take_left' rfl, Prod.mk.injEq, true_and]
  have hdrop : (host ++ 0x3A :: port).drop (host.length + 1) = port := by simp
  rw [hdrop, Double.ofNumberText_of_digits hne hdigits]

end Statsd

/-! ### The broker client's endpoint -/

namespace SinkConf

/-- Sink settings as the schema accepts them: the server list and the host, where given, are
non-empty strings, and the port, where given, is an integer from 0 to 65535. -/
structure Accepted (conf : Members) : Prop where
  servers : ∀ v, conf.get? (Text.ofString "bootstrap.servers") = some v → ∃ s, v = .str s ∧ s ≠ []
  host : ∀ v, conf.get? (Text.ofString "host") = some v → ∃ s, v = .str s ∧ s ≠ []
  port : ∀ v, conf.get? (Text.ofString "port") = some v →
    ∃ x n, v = .num x ∧ x.toInt? = some n ∧ 0 ≤ n ∧ n ≤ 65535

/-- The schema takes any non-empty string for a server list: settings with only a server list
are accepted whatever its entries say. -/
theorem accepted_of_servers_only {s : Text} (hs : s ≠ []) :
    Accepted [(Text.ofString "bootstrap.servers", .str s)] := by
  refine ⟨?_, nofun, nofun⟩
  intro v hv
  cases hv
  exact ⟨s, rfl, hs⟩

theorem given?_of_get? {conf : Members} {k : String} {v : Json}
    (h : conf.get? (Text.ofString k) = some v) (hv : v ≠ .null) : given? conf k = some v := by
  unfold given?
  rw [h]
  split
  · rename_i hnull
    exact absurd (Option.some.inj hnull) hv
  · rfl

theorem given?_of_get?_none {conf : Members} {k : String}
    (h : conf.get? (Text.ofString k) = none) : given? conf k = none := by
  unfold given?
  rw [h]

theorem bootstrap_port_isInteger {s : Text} {x : Double} (h : (bootstrap s).2 = some x) :
    x.isInteger = true := by
  unfold bootstrap at h
  dsimp only at h
  split at h
  · cases h
  · split at h
    · cases h
    · split at h
      · cases h
        assumption
      · cases h

/-- Host and port come from the settings, else from the first entry of the server list, else the
defaults, when the server list, if given, is text. -/
theorem clientOptions_host_port {conf : Members}
    (hservers : ∀ v, conf.get? (Text.ofString "bootstrap.servers") = some v → ∃ s, v = .str s) :
    ∃ bHost bPort o, clientOptions conf = .ok o ∧
      o.host = (given? conf "host").getD ((bHost.map Json.str).getD (.str defaultHost)) ∧
      o.port = (given? conf "port").getD ((bPort.map Json.num).getD (Json.ofNat defaultPort)) ∧
      (∀ h, bHost = some h → ∃ s, conf.get? (Text.ofString "bootstrap.servers") = some (.str s) ∧
        (bootstrap s).1 = some h) ∧
      (∀ x, bPort = some x → ∃ s, conf.get? (Text.ofString "bootstrap.servers") = some (.str s) ∧
        (bootstrap s).2 = some x) := by
  unfold clientOptions
  cases hget : conf.get? (Text.ofString "bootstrap.servers") with
  | none =>
    rw [given?_of_get?_none hget]
    exact ⟨none, none, _, rfl, rfl, rfl, by simp, by simp⟩
  | some v =>
    obtain ⟨s, rfl⟩ := hservers v hget
    rw [given?_of_get? hget (by simp)]
    exact ⟨(bootstrap s).1, (bootstrap s).2, _, rfl, rfl, rfl, fun h hh => ⟨s, rfl, hh⟩,
      fun x hx => ⟨s, rfl, hx⟩⟩

/-- The client's endpoint for settings the schema accepts: the host is a string that is not empty
unless it came from the server list, and the port is an integer, from 0 to 65535 unless it came
from the server list. -/
theorem clientOptions_endpoint {conf : Members} (hconf : Accepted conf) :
    ∃ o, clientOptions conf = .ok o ∧
      (∃ h, o.host = .str h ∧ (h ≠ [] ∨ ∃ s, conf.get? (Text.ofString "bootstrap.servers") =
          some (.str s) ∧ conf.get? (Text.ofString "host") = none ∧ (bootstrap s).1 = some h)) ∧
      (∃ x n, o.port = .num x ∧ x.toInt? = some n ∧ ((0 ≤ n ∧ n ≤ 65535) ∨
        ∃ s, conf.get? (Text.ofString "bootstrap.servers") = some (.str s) ∧
          conf.get? (Text.ofString "port") = none ∧ (bootstrap s).2 = some x)) := by
  obtain ⟨bHost, bPort, o, hopts, hhost, hport, hbHost, hbPort⟩ :=
    clientOptions_host_port fun v hv => (hconf.servers v hv).imp fun _ hs => hs.1
  refine ⟨o, hopts, ?_, ?_⟩
  · -- the host: the given one, else the list's, else the default
    cases hget : conf.get? (Text.ofString "host") with
    | some v =>
      obtain ⟨s, rfl, hs⟩ := hconf.host v hget
      exact ⟨s, by simp [hhost, given?_of_get? hget (by simp)], Or.inl hs⟩
    | none =>
      cases bHost with
      | some h =>
        obtain ⟨s, hs, hb⟩ := hbHost h rfl
        exact ⟨h, by simp [hhost, given?_of_get?_none hget], Or.inr ⟨s, hs, rfl, hb⟩⟩
      | none =>
        exact ⟨defaultHost, by simp [hhost, given?_of_get?_none hget], Or.inl (by decide)⟩
  · -- the port: the given one, else the list's, else the default
    cases hget : conf.get? (Text.ofString "port") with
    | some v =>
      obtain ⟨x, n, rfl, hn, hrange⟩ := hconf.port v hget
      exact ⟨x, n, by simp [hport, given?_of_get? hget (by simp)], hn, Or.inl hrange⟩
    | none =>
      cases bPort with
      | some x =>
        obtain ⟨s, hs, hb⟩ := hbPort x rfl
        obtain ⟨n, hn⟩ := Option.isSome_iff_exists.1 (bootstrap_port_isInteger hb)
        exact ⟨x, n, by simp [hport, given?_of_get?_none hget], hn, Or.inr ⟨s, hs, rfl, hb⟩⟩
      | none =>
        exact ⟨Double.ofNat defaultPort, 6379, by simp [hport, given?_of_get?_none hget, Json.ofNat],
          by decide, Or.inl (by decide)⟩

/-- With a server list and neither host nor port, the endpoint is the list's first entry, each
part falling back to its default. -/
theorem clientOptions_of_servers {conf : Members} {s : Text}
    (hservers : conf.get? (Text.ofString "bootstrap.servers") = some (.str s))
    (hhost : conf.get? (Text.ofString "host") = none)
    (hport : conf.get? (Text.ofString "port") = none) :
    ∃ o, clientOptions conf = .ok o ∧
      o.host = ((bootstrap s).1.map Json.str).getD (.str defaultHost) ∧
      o.port = ((bootstrap s).2.map Json.num).getD (Json.ofNat defaultPort) := by
  unfold clientOptions
  rw [given?_of_get? hservers (by simp), given?_of_get?_none hhost, given?_of_get?_none hport]
  exact ⟨_, rfl, rfl, rfl⟩

end SinkConf

/-- **Endpoints of accepted settings.**  For sink settings the schema accepts, the broker client
gets a string host and an integer port.  The host is not empty and the port is from 0 to 65535,
except where they were read off the first entry of the server list, which the schema checks only
for being a non-empty string.  A statsd target that passes its `host:port` check is cut into a
non-empty host and the number its digits spell, which is at most 99999. -/
theorem endpoints_of_accepted_settings (conf : Members) (t : Text) (hconf : SinkConf.Accepted conf)
    (ht : isHostPort t = true) :
    (∃ o, SinkConf.clientOptions conf = .ok o ∧
      (∃ h, o.host = .str h ∧ (h ≠ [] ∨ ∃ s, conf.get? (Text.ofString "bootstrap.servers") =
          some (.str s) ∧ conf.get? (Text.ofString "host") = none ∧
          (SinkConf.bootstrap s).1 = some h)) ∧
      (∃ x n, o.port = .num x ∧ x.toInt? = some n ∧ ((0 ≤ n ∧ n ≤ 65535) ∨
        ∃ s, conf.get? (Text.ofString "bootstrap.servers") = some (.str s) ∧
          conf.get? (Text.ofString "port") = none ∧ (SinkConf.bootstrap s).2 = some x))) ∧
    (∃ host digits, t = host ++ 0x3A :: digits ∧ host ≠ [] ∧
      Statsd.target t = (host, Double.ofNat (Syslog.digitsValue digits)) ∧
      Syslog.digitsValue digits ≤ 99999) :=
  ⟨SinkConf.clientOptions_endpoint hconf, Statsd.target_of_isHostPort ht⟩

/-- Empty sink settings are accepted and give an endpoint, and so are settings that give a server
list, a host and a port; `localhost:8125` is a statsd target. -/
theorem default_and_given_settings_endpoints :
    isHostPort (Text.ofString "localhost:8125") = true ∧
    ∀ conf ∈ ([[], [(Text.ofString "bootstrap.servers", .ofString "redis-a:6379,redis-b:6379"),
        (Text.ofString "host", .ofString "cache.internal"),
        (Text.ofString "port", .num (Double.ofNat 6380))]] : List Members),
      SinkConf.Accepted conf ∧
      (∃ o, SinkConf.clientOptions conf = .ok o ∧
        (∃ h, o.host = .str h ∧ (h ≠ [] ∨ ∃ s, conf.get? (Text.ofString "bootstrap.servers") =
            some (.str s) ∧ conf.get? (Text.ofString "host") = none ∧
            (SinkConf.bootstrap s).1 = some h)) ∧
        (∃ x n, o.port = .num x ∧ x.toInt? = some n ∧ ((0 ≤ n ∧ n ≤ 65535) ∨
          ∃ s, conf.get? (Text.ofString "bootstrap.servers") = some (.str s) ∧
            conf.get? (Text.ofString "port") = none ∧ (SinkConf.bootstrap s).2 = some x))) ∧
      (∃ host digits, Text.ofString "localhost:8125" = host ++ 0x3A :: digits ∧ host ≠ [] ∧
        Statsd.target (Text.ofString "localhost:8125") =
          (host, Double.ofNat (Syslog.digitsValue digits)) ∧
        Syslog.digitsValue digits ≤ 99999) := by
  have htarget : isHostPort (Text.ofString "localhost:8125") = true := by decide
  refine ⟨htarget, fun conf hmem => ?_⟩
  have hconf : SinkConf.Accepted conf := by
    simp only [List.mem_cons, List.not_mem_nil, or_false] at hmem
    rcases hmem with rfl | rfl
    · exact ⟨nofun, nofun, nofun⟩
    · -- each given setting is looked up to its own value
      refine ⟨fun v hv => ?_, fun v hv => ?_, fun v hv => ?_⟩
      · cases hv
        exact ⟨_, rfl, by decide⟩
      · cases hv
        exact ⟨_, rfl, by decide⟩
      · cases hv
        exact ⟨_, 6380, rfl, Double.toInt?_ofNat (by decide), by decide, by decide⟩
  exact ⟨hconf, endpoints_of_accepted_settings conf _ hconf htarget⟩

/-- The schema lets a server list name port 99999 or an empty host, and a statsd target name port
70000: neither is a usable endpoint. -/
theorem unchecked_listed_and_statsd_endpoints :
    SinkConf.Accepted [(Text.ofString "bootstrap.servers", .ofString "redis:99999")] ∧
    (∃ o, SinkConf.clientOptions [(Text.ofString "bootstrap.servers", .ofString "redis:99999")] =
      .ok o ∧ o.port = .num (Double.ofNat 99999)) ∧
    (Double.ofNat 99999).toInt? = some 99999 ∧
    SinkConf.Accepted [(Text.ofString "bootstrap.servers", .ofString ":6379")] ∧
    (∃ o, SinkConf.clientOptions [(Text.ofString "bootstrap.servers", .ofString ":6379")] =
      .ok o ∧ o.host = .str []) ∧
    isHostPort (Text.ofString "h:70000") = true ∧
    Statsd.target (Text.ofString "h:70000") = (Text.ofString "h", Double.ofNat 70000) ∧
    (Double.ofNat 70000).toInt? = some 70000 := by
  have hwide : SinkConf.bootstrap (Text.ofString "redis:99999") =
      (some (Text.ofString "redis"), some (Double.ofNat 99999)) := by decide
  have hempty : SinkConf.bootstrap (Text.ofString ":6379") = (some [], some (Double.ofNat 6379)) := by
    decide
  obtain ⟨o, hopts, -, hport⟩ := SinkConf.clientOptions_of_servers
    (show Members.get? [(Text.ofString "bootstrap.servers", .ofString "redis:99999")]
      (Text.ofString "bootstrap.servers") = some (.ofString "redis:99999") from rfl) rfl rfl
  obtain ⟨o', hopts', hhost', -⟩ := SinkConf.clientOptions_of_servers
    (show Members.get? [(Text.ofString "bootstrap.servers", .ofString ":6379")]
      (Text.ofString "bootstrap.servers") = some (.ofString ":6379") from rfl) rfl rfl
  exact ⟨SinkConf.accepted_of_servers_only (by decide), ⟨o, hopts, by rw [hport, hwide]; rfl⟩,
    by decide, SinkConf.accepted_of_servers_only (by decide),
    ⟨o', hopts', by rw [hhost', hempty]; rfl⟩, by decide, by decide, by decide⟩

end LogRouter

import Mathlib.Data.List.Basic

/-!
# The collector address of the OTLP exporters

Reference: `pkg/metrics/opentelemetry.go` (`newOpenTelemetryMeterProvider`, `newHTTPExporter`,
`newGRPCExporter`), and Go's `net.SplitHostPort` (`net/ipsock.go`), which both exporters call.

Both exporters split `config.Address` with `net.SplitHostPort` and hand the OTLP client the
endpoint `fmt.Sprintf("%s:%s", host, port)`. `splitHostPort_eq_ok_iff` says exactly which
addresses the split accepts and what it returns: a `host:port` with no `:`, `[` or `]` in the
host, or a `[host]:port` whose host may hold colons (an IPv6 literal); in both, the port holds
none of the three. The meter provider installs the gRPC exporter exactly when `GRPC` is set, and
either exporter is given `host:port` from that split (`newOpenTelemetryMeterProvider_endpoint`).
Rebuilding the endpoint is therefore a round trip for the first form only: a bracketed address
loses its brackets, so that `[::1]:4318` is handed over as `::1:4318`.

The split is modelled on the characters of the address. Go searches bytes; the three delimiters
are ASCII and never occur inside a multi-byte UTF-8 sequence, so host and port are the same. The
TLS configuration, the OTLP clients and the OTLP resource are built outside this file:
`createTLSConfig`, `otlpNew` (the outcome of `otlpmetrichttp.New` or `otlpmetricgrpc.New`) and
`newResource` stand for them, with their errors.
-/

namespace Traefik.Metrics

/-! ## `net.SplitHostPort` -/

/-- `last(s, c)` of `net/parse.go`: the index of the last `c` in `s`. -/
def lastIndex (c : Char) : List Char → Option Nat
  | [] => none
  | x :: xs =>
    match lastIndex c xs with
    | some i => some (i + 1)
    | none => if x = c then some 0 else none

/-- `bytealg.IndexByteString(s, c)`: the index of the first `c` in `s`. -/
def indexByte (c : Char) : List Char → Option Nat
  | [] => none
  | x :: xs => if x = c then some 0 else (indexByte c xs).map (· + 1)

/-- `net.AddrError`. -/
structure AddrError where
  err : String
  addr : String
  deriving DecidableEq, Repr

/-- `AddrError.Error`. -/
def AddrError.error (e : AddrError) : String :=
  if e.addr ≠ "" then "address " ++ e.addr ++ ": " ++ e.err else e.err

/-- The error texts of `SplitHostPort`. -/
def missingPort : String := "missing port in address"

def tooManyColons : String := "too many colons in address"

/-- The host part of `SplitHostPort`, once the last `:` is found at `i`: the host, and the
positions `j` and `k` from which no `[` resp. `]` may follow. A bracketed host must end with the
first `]`, right before the last `:`. -/
def splitHost (hostport : String) (i : Nat) : Except AddrError (List Char × Nat × Nat) :=
  let s := hostport.data
  if s.head? = some '[' then
    match indexByte ']' s with
    | none => .error ⟨"missing \x27]\x27 in address", hostport⟩
    | some endIdx =>
      if endIdx + 1 = s.length then .error ⟨missingPort, hostport⟩
      else if endIdx + 1 = i then .ok ((s.take endIdx).drop 1, 1, endIdx + 1)
      else if s[endIdx + 1]? = some ':' then .error ⟨tooManyColons, hostport⟩
      else .error ⟨missingPort, hostport⟩
  else
    let host := s.take i
    if (indexByte ':' host).isSome then .error ⟨tooManyColons, hostport⟩
    else .ok (host, 0, 0)

/-- `net.SplitHostPort`: split `host:port` or `[host]:port` into host and port; the port starts
after the last `:`. -/
def splitHostPort (hostport : String) : Except AddrError (String × String) :=
  let s := hostport.data
  match lastIndex ':' s with
  | none => .error ⟨missingPort, hostport⟩
  | some i =>
    match splitHost hostport i with
    | .error e => .error e
    | .ok (host, j, k) =>
      if (indexByte '[' (s.drop j)).isSome then
        .error ⟨"unexpected \x27[\x27 in address", hostport⟩
      else if (indexByte ']' (s.drop k)).isSome then
        .error ⟨"unexpected \x27]\x27 in address", hostport⟩
      else .ok (⟨host⟩, ⟨s.drop (i + 1)⟩)

section Index

variable {c : Char}

@[simp] theorem indexByte_isSome {s : List Char} : (indexByte c s).isSome ↔ c ∈ s := by
  induction s with
  | nil => simp [indexByte]
  | cons x xs ih =>
    by_cases hx : x = c
    · simp [indexByte, hx]
    · simp [indexByte, hx, ih, Ne.symm hx]

theorem lastIndex_eq_none {s : List Char} : lastIndex c s = none ↔ c ∉ s := by
  induction s with
  | nil => simp [lastIndex]
  | cons x xs ih =>
    simp only [lastIndex]
    split
    · next h => simp_all
    · next h =>
      by_cases hx : x = c
      · simp [hx]
      · simp_all [Ne.symm hx]

theorem lastIndex_append_cons {b : List Char} (h : c ∉ b) (a : List Char) :
    lastIndex c (a ++ c :: b) = some a.length := by
  induction a with
  | nil => simp [lastIndex, lastIndex_eq_none.2 h]
  | cons x a ih => simp [lastIndex, ih]

/-- The last `c` splits `s` into a prefix of length `i` and a suffix without `c`. -/
theorem lastIndex_eq_some {s : List Char} {i : Nat} (h : lastIndex c s = some i) :
    ∃ a b, s = a ++ c :: b ∧ a.length = i ∧ c ∉ b := by
  induction s generalizing i with
  | nil => simp [lastIndex] at h
  | cons x xs ih =>
    simp only [lastIndex] at h
    split at h
    · next j hj =>
      obtain ⟨a, b, rfl, rfl, hb⟩ := ih hj
      exact ⟨x :: a, b, rfl, by simpa using h, hb⟩
    · next hj =>
      split_ifs at h with hx
      cases h
      exact ⟨[], xs, by simp [hx], rfl, lastIndex_eq_none.1 hj⟩

theorem indexByte_append_cons {a : List Char} (h : c ∉ a) (b : List Char) :
    indexByte c (a ++ c :: b) = some a.length := by
  induction a with
  | nil => simp [indexByte]
  | cons x a ih =>
    have hx : x ≠ c := fun hx => h (hx ▸ List.mem_cons_self _ _)
    simp [indexByte, hx, ih (fun ha => h (List.mem_cons_of_mem _ ha))]

/-- The first `c` splits `s` into a prefix of length `e` without `c` and the rest. -/
theorem indexByte_eq_some {s : List Char} {e : Nat} (h : indexByte c s = some e) :
    ∃ a b, s = a ++ c :: b ∧ a.length = e ∧ c ∉ a := by
  induction s generalizing e with
  | nil => simp [indexByte] at h
  | cons x xs ih =>
    simp only [indexByte] at h
    split_ifs at h with hx
    · cases h
      exact ⟨[], xs, by simp [hx], rfl, by simp⟩
    · obtain ⟨j, hj, rfl⟩ := Option.map_eq_some'.1 h
      obtain ⟨a, b, rfl, rfl, ha⟩ := ih hj
      exact ⟨x :: a, b, rfl, rfl, by simp [ha, Ne.symm hx]⟩

end Index

/-! ## What `SplitHostPort` accepts

One inversion lemma per branch of `splitHost`; the accepted forms are then read off the final
checks for stray brackets. -/

section Split

variable {hostport : String} {a b : List Char}

/-- A bracketed address that passes `splitHost` is `[host]:` followed by the part after the
last `:`, with the first `]` closing the host. -/
theorem splitHost_eq_ok_of_bracket (hs : hostport.data = a ++ ':' :: b)
    (hh : hostport.data.head? = some '[') {host : List Char} {j k : Nat}
    (h : splitHost hostport a.length = .ok (host, j, k)) :
    hostport.data = '[' :: host ++ ']' :: ':' :: b ∧ ']' ∉ host ∧ j = 1 ∧ k = host.length + 2 := by
  simp only [splitHost, hh, if_true] at h
  split at h
  · cases h
  · rename_i e he
    obtain ⟨c, d, hcd, rfl, hc⟩ := indexByte_eq_some he
    split_ifs at h with hlen hi
    cases h
    have hsplit := List.append_inj (hs.symm.trans (hcd.trans (List.append_cons c ']' d)))
      (by simp [hi])
    obtain ⟨rfl, hd⟩ := hsplit
    cases c with
    | nil => simp [hcd] at hh
    | cons x c =>
      have hx : x = '[' := by simpa [hcd] using hh
      subst hx
      have hhost : (hostport.data.take (c.length + 1)).drop 1 = c := by
        rw [hcd]
        simp
      rw [List.length_cons, hhost]
      exact ⟨by rw [hcd, ← hd], fun hm => hc (List.mem_cons_of_mem _ hm), rfl, rfl⟩

/-- An unbracketed address that passes `splitHost` has the part before the last `:` as host,
with no `:` in it. -/
theorem splitHost_eq_ok_of_plain (hs : hostport.data = a ++ ':' :: b)
    (hh : hostport.data.head? ≠ some '[') {host : List Char} {j k : Nat}
    (h : splitHost hostport a.length = .ok (host, j, k)) :
    ':' ∉ a ∧ host = a ∧ j = 0 ∧ k = 0 := by
  simp only [splitHost, if_neg hh] at h
  split_ifs at h with hcol
  cases h
  have ha : hostport.data.take a.length = a := by rw [hs, List.take_left' rfl]
  rw [ha, indexByte_isSome] at hcol
  exact ⟨hcol, ha, rfl, rfl⟩

end Split

/-- What `SplitHostPort` returns when it succeeds: a port with no `:`, `[` or `]`, and either a
host without them before the last `:`, or a host without brackets between `[` and `]:`. -/
theorem splitHostPort_eq_ok {hostport host port : String}
    (h : splitHostPort hostport = .ok (host, port)) :
    (':' ∉ port.data ∧ '[' ∉ port.data ∧ ']' ∉ port.data) ∧
      ((hostport.data = host.data ++ ':' :: port.data ∧
          ':' ∉ host.data ∧ '[' ∉ host.data ∧ ']' ∉ host.data) ∨
        (hostport.data = '[' :: host.data ++ ']' :: ':' :: port.data ∧
          '[' ∉ host.data ∧ ']' ∉ host.data)) := by
  simp only [splitHostPort] at h
  split at h
  · cases h
  · rename_i i hi
    obtain ⟨a, b, hs, rfl, hb⟩ := lastIndex_eq_some hi
    split at h
    · cases h
    · rename_i hst j k hsplit
      split_ifs at h with hl hr
      cases h
      have hport : hostport.data.drop (a.length + 1) = b := by rw [hs]; simp
      simp only [indexByte_isSome, hport] at hl hr ⊢
      by_cases hh : hostport.data.head? = some '['
      · obtain ⟨hs', hr', rfl, rfl⟩ := splitHost_eq_ok_of_bracket hs hh hsplit
        rw [hs'] at hl hr
        simp only [List.drop_one, List.cons_append, List.tail_cons, List.mem_append,
          List.mem_cons, not_or] at hl
        have hr'' : ']' ∉ b := by simpa [List.drop_append_of_le_length] using hr
        exact ⟨⟨hb, hl.2.2.2, hr''⟩, .inr ⟨hs', hl.1, hr'⟩⟩
      · obtain ⟨ha, rfl, rfl, rfl⟩ := splitHost_eq_ok_of_plain hs hh hsplit
        rw [hs, List.drop_zero] at hl hr
        simp only [List.mem_append, List.mem_cons, not_or] at hl hr
        exact ⟨⟨hb, hl.2.2, hr.2.2⟩, .inl ⟨hs, ha, hl.1, hr.1⟩⟩

/-- The last checks of `SplitHostPort`, once `splitHost` has found the host. -/
theorem splitHostPort_of_splitHost {hostport : String} {i j k : Nat} {host : List Char}
    (hi : lastIndex ':' hostport.data = some i) (hh : splitHost hostport i = .ok (host, j, k))
    (hj : '[' ∉ hostport.data.drop j) (hk : ']' ∉ hostport.data.drop k) :
    splitHostPort hostport = .ok (⟨host⟩, ⟨hostport.data.drop (i + 1)⟩) := by
  simp only [splitHostPort, hi, hh, indexByte_isSome, if_neg hj, if_neg hk]

/-- `SplitHostPort` accepts `host:port` when neither part holds a delimiter. -/
theorem splitHostPort_plain {host port : List Char} (hh : ':' ∉ host ∧ '[' ∉ host ∧ ']' ∉ host)
    (hp : ':' ∉ port ∧ '[' ∉ port ∧ ']' ∉ port) :
    splitHostPort ⟨host ++ ':' :: port⟩ = .ok (⟨host⟩, ⟨port⟩) := by
  have hhead : (host ++ ':' :: port).head? ≠ some '[' := by
    cases host with
    | nil => simp
    | cons x host => simpa using fun hx : x = '[' => hh.2.1 (hx ▸ List.mem_cons_self _ _)
  have hsplit : splitHost ⟨host ++ ':' :: port⟩ host.length = .ok (host, 0, 0) := by
    simp only [splitHost]
    rw [if_neg hhead, List.take_left' rfl, if_neg (by simpa using hh.1)]
  simpa using splitHostPort_of_splitHost (lastIndex_append_cons hp.1 host) hsplit
    (by simp [hh.2.1, hp.2.1]) (by simp [hh.2.2, hp.2.2])

/-- `SplitHostPort` accepts `[host]:port` when the host holds no bracket and the port no
delimiter; the host may hold colons. -/
theorem splitHostPort_bracketed {host port : List Char} (hh : '[' ∉ host ∧ ']' ∉ host)
    (hp : ':' ∉ port ∧ '[' ∉ port ∧ ']' ∉ port) :
    splitHostPort ⟨'[' :: host ++ ']' :: ':' :: port⟩ = .ok (⟨host⟩, ⟨port⟩) := by
  have hs : '[' :: host ++ ']' :: ':' :: port = ('[' :: host ++ [']']) ++ ':' :: port := by simp
  have hlast : lastIndex ':' ('[' :: host ++ ']' :: ':' :: port) = some (host.length + 2) := by
    rw [hs, lastIndex_append_cons hp.1]
    simp
  have hend : indexByte ']' ('[' :: host ++ ']' :: ':' :: port) = some (host.length + 1) :=
    indexByte_append_cons (by simp [hh.2]) _
  have hsplit : splitHost ⟨'[' :: host ++ ']' :: ':' :: port⟩ (host.length + 2) =
      .ok (host, 1, host.length + 2) := by
    simp only [splitHost]
    rw [if_pos (by simp), hend]
    dsimp only
    rw [if_neg (by simp), if_pos rfl]
    simp
  simpa using splitHostPort_of_splitHost hlast hsplit (by simp [hh.1, hp.2.1]) (by simp [hp.2.2])

/-- `SplitHostPort` succeeds exactly on the two forms, and returns their host and port. -/
theorem splitHostPort_eq_ok_iff (hostport host port : String) :
    splitHostPort hostport = .ok (host, port) ↔
      (':' ∉ port.data ∧ '[' ∉ port.data ∧ ']' ∉ port.data) ∧
        ((hostport.data = host.data ++ ':' :: port.data ∧
            ':' ∉ host.data ∧ '[' ∉ host.data ∧ ']' ∉ host.data) ∨
          (hostport.data = '[' :: host.data ++ ']' :: ':' :: port.data ∧
            '[' ∉ host.data ∧ ']' ∉ host.data)) := by
  refine ⟨splitHostPort_eq_ok, ?_⟩
  obtain ⟨s⟩ := hostport
  rintro ⟨hp, ⟨hs, hh⟩ | ⟨hs, hh⟩⟩ <;> dsimp only at hs <;> subst hs
  · exact splitHostPort_plain hh hp
  · exact splitHostPort_bracketed hh hp

theorem splitHost_error_addr {hostport : String} {i : Nat} {e : AddrError}
    (h : splitHost hostport i = .error e) : e.addr = hostport := by
  simp only [splitHost] at h
  split_ifs at h with hb
  · split at h
    · cases h
      rfl
    · split_ifs at h <;> cases h <;> rfl
  · cases h
    rfl

/-- Every error of `SplitHostPort` carries the address it rejected. -/
theorem splitHostPort_error_addr {hostport : String} {e : AddrError}
    (h : splitHostPort hostport = .error e) : e.addr = hostport := by
  simp only [splitHostPort] at h
  split at h
  · cases h
    rfl
  · split at h
    · next hs =>
      cases h
      exact splitHost_error_addr hs
    · split_ifs at h <;> cases h <;> rfl

example : splitHostPort "[::1]:4318" = .ok ("::1", "4318") := rfl

example : splitHostPort "::1:4318" = .error ⟨tooManyColons, "::1:4318"⟩ := rfl

/-! ## The exporters -/

/-- `types.OpenTelemetry`, with the fields the exporters read; `grpc` is whether `GRPC` is set.
`PushInterval` and `ExplicitBoundaries` only reach the SDK's reader and view. -/
structure OpenTelemetry (ClientTLS : Type) where
  address : String
  headers : List (String × String)
  insecure : Bool
  path : String
  tls : Option ClientTLS
  grpc : Bool
  deriving DecidableEq, Repr

/-- The options `newHTTPExporter` passes to `otlpmetrichttp.New`. -/
inductive HTTPOption (TLSConfig : Type)
  | withEndpoint (endpoint : String)
  | withHeaders (headers : List (String × String))
  | withGzipCompression
  | withInsecure
  | withURLPath (urlPath : String)
  | withTLSClientConfig (tlsConfig : TLSConfig)
  deriving DecidableEq, Repr

/-- The options `newGRPCExporter` passes to `otlpmetricgrpc.New`. -/
inductive GRPCOption (TLSConfig : Type)
  | withEndpoint (endpoint : String)
  | withHeaders (headers : List (String × String))
  | withGzipCompressor
  | withInsecure
  | withTLSCredentials (tlsConfig : TLSConfig)
  deriving DecidableEq, Repr

/-- The exporter of the meter provider, by its options. -/
inductive Exporter (TLSConfig : Type)
  | http (opts : List (HTTPOption TLSConfig))
  | grpc (opts : List (GRPCOption TLSConfig))
  deriving DecidableEq, Repr

/-- The first lines of both exporters: `SplitHostPort` of the address, joined again by
`fmt.Sprintf("%s:%s", host, port)`, or the error `invalid collector address %q: %w`. -/
def collectorEndpoint (address : String) : Except String String :=
  match splitHostPort address with
  | .error err => .error ("invalid collector address \"" ++ address ++ "\": " ++ err.error)
  | .ok (host, port) => .ok (host ++ ":" ++ port)

variable {ClientTLS TLSConfig : Type}

/-- `newHTTPExporter`; `createTLSConfig` is `ClientTLS.CreateTLSConfig` and `otlpNew` the
outcome of `otlpmetrichttp.New(ctx, opts...)`, whose error is returned as it is. -/
def newHTTPExporter (createTLSConfig : ClientTLS → Except String TLSConfig)
    (otlpNew : Except String Unit) (config : OpenTelemetry ClientTLS) :
    Except String (List (HTTPOption TLSConfig)) :=
  match collectorEndpoint config.address with
  | .error err => .error err
  | .ok endpoint =>
    let opts := [.withEndpoint endpoint, .withHeaders config.headers, .withGzipCompression]
    let opts := if config.insecure then opts ++ [.withInsecure] else opts
    let opts := if config.path ≠ "" then opts ++ [.withURLPath config.path] else opts
    match config.tls with
    | none => otlpNew.map fun () => opts
    | some tls =>
      match createTLSConfig tls with
      | .error err => .error ("creating TLS client config: " ++ err)
      | .ok tlsConfig => otlpNew.map fun () => opts ++ [.withTLSClientConfig tlsConfig]

/-- `newGRPCExporter`: the options of `newHTTPExporter` without the URL path, with the gzip
compressor and TLS credentials; `otlpNew` is the outcome of `otlpmetricgrpc.New(ctx, opts...)`. -/
def newGRPCExporter (createTLSConfig : ClientTLS → Except String TLSConfig)
    (otlpNew : Except String Unit) (config : OpenTelemetry ClientTLS) :
    Except String (List (GRPCOption TLSConfig)) :=
  match collectorEndpoint config.address with
  | .error err => .error err
  | .ok endpoint =>
    let opts := [.withEndpoint endpoint, .withHeaders config.headers, .withGzipCompressor]
    let opts := if config.insecure then opts ++ [.withInsecure] else opts
    match config.tls with
    | none => otlpNew.map fun () => opts
    | some tls =>
      match createTLSConfig tls with
      | .error err => .error ("creating TLS client config: " ++ err)
      | .ok tlsConfig => otlpNew.map fun () => opts ++ [.withTLSCredentials tlsConfig]

/-- `newOpenTelemetryMeterProvider`, up to the exporter it installs: the gRPC exporter when
`GRPC` is set, the HTTP one otherwise; `otlpNew` is the outcome of the OTLP client's `New` that
branch calls, and `newResource` that of `resource.New`. -/
def newOpenTelemetryMeterProvider (createTLSConfig : ClientTLS → Except String TLSConfig)
    (otlpNew newResource : Except String Unit) (config : OpenTelemetry ClientTLS) :
    Except String (Exporter TLSConfig) :=
  let exporter :=
    if config.grpc then (newGRPCExporter createTLSConfig otlpNew config).map .grpc
    else (newHTTPExporter createTLSConfig otlpNew config).map .http
  match exporter with
  | .error err => .error ("creating exporter: " ++ err)
  | .ok exporter =>
    match newResource with
    | .error err => .error ("building resource: " ++ err)
    | .ok () => .ok exporter

/-! ## The endpoint the exporters are given -/

/-- Rebuilding `host:port` from a split gives back the address exactly when the address is not
bracketed. -/
theorem splitHostPort_join_eq_iff {address host port : String}
    (hs : splitHostPort address = .ok (host, port)) :
    host ++ ":" ++ port = address ↔ address.data.head? ≠ some '[' := by
  have hcolon : (":" : String).data = [':'] := rfl
  rcases (splitHostPort_eq_ok hs).2 with ⟨hd, -, hl, -⟩ | ⟨hd, -⟩
  · have hhead : address.data.head? ≠ some '[' := by
      rw [hd]
      cases hh : host.data with
      | nil => simp
      | cons x t => simpa using fun hx : x = '[' => hl (hh ▸ hx ▸ List.mem_cons_self _ _)
    simp only [hhead, ne_eq, not_false_eq_true, iff_true]
    exact String.ext (by simp [hd, hcolon])
  · rw [hd]
    simp only [List.cons_append, List.head?_cons, ne_eq, not_true_eq_false, iff_false]
    intro heq
    have hlen := congrArg (fun s : String => s.data.length) heq
    simp [hd, hcolon] at hlen
    omega

theorem collectorEndpoint_eq_ok {address endpoint : String}
    (h : collectorEndpoint address = .ok endpoint) :
    ∃ host port, splitHostPort address = .ok (host, port) ∧ endpoint = host ++ ":" ++ port := by
  unfold collectorEndpoint at h
  split at h
  · cases h
  · cases h
    exact ⟨_, _, ‹_›, rfl⟩

/-- The exporters return their option list when the OTLP client's `New` succeeds. -/
theorem map_const_eq_ok {ε α : Type} {x : Except ε Unit} {a b : α}
    (h : (x.map fun () => a) = .ok b) : a = b := by
  cases x <;> cases h
  rfl

section Exporters

variable {createTLSConfig : ClientTLS → Except String TLSConfig} {otlpNew : Except String Unit}
  {config : OpenTelemetry ClientTLS}

theorem newHTTPExporter_eq_ok {opts : List (HTTPOption TLSConfig)}
    (h : newHTTPExporter createTLSConfig otlpNew config = .ok opts) :
    ∃ host port rest, splitHostPort config.address = .ok (host, port) ∧
      opts = .withEndpoint (host ++ ":" ++ port) :: rest := by
  unfold newHTTPExporter at h
  split at h
  · cases h
  · rename_i endpoint he
    obtain ⟨host, port, hs, rfl⟩ := collectorEndpoint_eq_ok he
    refine ⟨host, port, ?_⟩
    rcases htls : config.tls with _ | tls <;> simp only [htls] at h
    · obtain rfl := map_const_eq_ok h
      split_ifs <;> exact ⟨_, hs, rfl⟩
    · rcases hc : createTLSConfig tls with err | tlsConfig <;>
        simp only [hc, reduceCtorEq] at h
      obtain rfl := map_const_eq_ok h
      split_ifs <;> exact ⟨_, hs, rfl⟩

theorem newGRPCExporter_eq_ok {opts : List (GRPCOption TLSConfig)}
    (h : newGRPCExporter createTLSConfig otlpNew config = .ok opts) :
    ∃ host port rest, splitHostPort config.address = .ok (host, port) ∧
      opts = .withEndpoint (host ++ ":" ++ port) :: rest := by
  unfold newGRPCExporter at h
  split at h
  · cases h
  · rename_i endpoint he
    obtain ⟨host, port, hs, rfl⟩ := collectorEndpoint_eq_ok he
    refine ⟨host, port, ?_⟩
    rcases htls : config.tls with _ | tls <;> simp only [htls] at h
    · obtain rfl := map_const_eq_ok h
      split_ifs <;> exact ⟨_, hs, rfl⟩
    · rcases hc : createTLSConfig tls with err | tlsConfig <;>
        simp only [hc, reduceCtorEq] at h
      obtain rfl := map_const_eq_ok h
      split_ifs <;> exact ⟨_, hs, rfl⟩

/-- A meter provider that is built installs the exporter that `GRPC` selects, as that branch
built it. -/
theorem newOpenTelemetryMeterProvider_eq_ok {newResource : Except String Unit}
    {exporter : Exporter TLSConfig}
    (h : newOpenTelemetryMeterProvider createTLSConfig otlpNew newResource config = .ok exporter) :
    (config.grpc = true ∧ ∃ opts, newGRPCExporter createTLSConfig otlpNew config = .ok opts ∧
        exporter = .grpc opts) ∨
      (config.grpc = false ∧ ∃ opts, newHTTPExporter createTLSConfig otlpNew config = .ok opts ∧
        exporter = .http opts) := by
  unfold newOpenTelemetryMeterProvider at h
  cases hg : config.grpc <;> simp only [hg, Bool.false_eq_true, ↓reduceIte] at h
  · rcases ho : newHTTPExporter createTLSConfig otlpNew config with _ | opts <;>
      simp only [ho, Except.map, reduceCtorEq] at h
    split at h <;> cases h
    exact .inr ⟨rfl, opts, rfl, rfl⟩
  · rcases ho : newGRPCExporter createTLSConfig otlpNew config with _ | opts <;>
      simp only [ho, Except.map, reduceCtorEq] at h
    split at h <;> cases h
    exact .inl ⟨rfl, opts, rfl, rfl⟩

/-- The meter provider installs the gRPC exporter exactly when `GRPC` is set, and the endpoint
either exporter is given is the split address joined again, `host ++ ":" ++ port`: the
configured address exactly when it is not bracketed, so `[host]:port` reaches the OTLP client as
`host:port`. -/
theorem newOpenTelemetryMeterProvider_endpoint {newResource : Except String Unit}
    {exporter : Exporter TLSConfig}
    (h : newOpenTelemetryMeterProvider createTLSConfig otlpNew newResource config = .ok exporter) :
    ∃ host port, splitHostPort config.address = .ok (host, port) ∧
      ((config.grpc = true ∧ ∃ opts, exporter = .grpc (.withEndpoint (host ++ ":" ++ port) :: opts)) ∨
        (config.grpc = false ∧
          ∃ opts, exporter = .http (.withEndpoint (host ++ ":" ++ port) :: opts))) ∧
      (host ++ ":" ++ port = config.address ↔ config.address.data.head? ≠ some '[') := by
  rcases newOpenTelemetryMeterProvider_eq_ok h with ⟨hg, opts, ho, rfl⟩ | ⟨hg, opts, ho, rfl⟩
  · obtain ⟨host, port, rest, hs, rfl⟩ := newGRPCExporter_eq_ok ho
    exact ⟨host, port, hs, .inl ⟨hg, rest, rfl⟩, splitHostPort_join_eq_iff hs⟩
  · obtain ⟨host, port, rest, hs, rfl⟩ := newHTTPExporter_eq_ok ho
    exact ⟨host, port, hs, .inr ⟨hg, rest, rfl⟩, splitHostPort_join_eq_iff hs⟩

/-- A rejected collector address fails the meter provider, whichever exporter it selects, with
the error `creating exporter: invalid collector address %q: address <address>: <why>`. -/
theorem newOpenTelemetryMeterProvider_invalid_address {newResource : Except String Unit}
    {e : AddrError} (h : splitHostPort config.address = .error e) :
    newOpenTelemetryMeterProvider createTLSConfig otlpNew newResource config =
      .error ("creating exporter: " ++
        ("invalid collector address \"" ++ config.address ++ "\": " ++ e.error)) := by
  have hc : collectorEndpoint config.address =
      .error ("invalid collector address \"" ++ config.address ++ "\": " ++ e.error) := by
    simp only [collectorEndpoint, h]
  unfold newOpenTelemetryMeterProvider newGRPCExporter newHTTPExporter
  split_ifs <;> simp only [hc, Except.map]

end Exporters

/-- `newOpenTelemetryMeterProvider_endpoint` on the IPv6 loopback collector over HTTP. -/
theorem newOpenTelemetryMeterProvider_ipv6_loopback :
    newOpenTelemetryMeterProvider (fun _ => .error "no TLS" : Unit → Except String Unit) (.ok ())
        (.ok ()) ⟨"[::1]:4318", [], false, "", none, false⟩ =
      .ok (.http [.withEndpoint "::1:4318", .withHeaders [], .withGzipCompression]) ∧
    ∃ host port, splitHostPort "[::1]:4318" = .ok (host, port) ∧
      ((false = true ∧ ∃ opts, (Exporter.http [.withEndpoint "::1:4318", .withHeaders [],
          .withGzipCompression] : Exporter Unit) = .grpc (.withEndpoint (host ++ ":" ++ port) :: opts)) ∨
        (false = false ∧ ∃ opts, (Exporter.http [.withEndpoint "::1:4318", .withHeaders [],
          .withGzipCompression] : Exporter Unit) = .http (.withEndpoint (host ++ ":" ++ port) :: opts))) ∧
      (host ++ ":" ++ port = "[::1]:4318" ↔ "[::1]:4318".data.head? ≠ some '[') :=
  ⟨rfl, @newOpenTelemetryMeterProvider_endpoint Unit Unit (fun _ => .error "no TLS") (.ok ())
    ⟨"[::1]:4318", [], false, "", none, false⟩ (.ok ()) _ rfl⟩

end Traefik.Metrics

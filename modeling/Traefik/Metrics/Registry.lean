import Traefik.Metrics.Exporter
import Traefik.Metrics.GaugeCollector
import Traefik.Server.Middlewares

/-!
# Registering and stopping the OpenTelemetry metrics

Reference: `pkg/metrics/opentelemetry.go` (`RegisterOpenTelemetry`, `StopOpenTelemetry`).

The two functions share two process-wide variables: the meter provider, built from the
configuration of the call that finds none, and the gauge collector, built once and never reset.
`RegisterOpenTelemetry` registers its gauges on the collector, each registration emptying the
entries of its name, and returns the registry; `StopOpenTelemetry` drops the provider and keeps the
collector. Here the two variables are a state and each call a step, with a gauge's `Set` or `Add`
as a third kind of step: on a nil collector it panics, as Go's nil pointer dereference does.

Three facts hold over any run. Once a `RegisterOpenTelemetry` call has returned a registry, no
later sequence of calls panics (`run_isSome_of_register`). Until `StopOpenTelemetry`, the exporter
stays the one the provider was built with, and every registration on the way returns a registry,
whatever configuration it passes and whatever its exporter or resource would have done
(`provider_run_of_no_stop`). A registration empties the entries of exactly the gauges of the
registry it returns (`namedValues_registerOpenTelemetry`), so a second call restarts the count of
open connections from zero.

The registry's counters and histograms are SDK instruments under names declared outside `src/`
and hold no state of the program; they are left out, with the SDK's meter and the logging.
-/

namespace Traefik.Metrics

variable {ClientTLS TLSConfig V : Type}

/-- `types.OpenTelemetry` as `RegisterOpenTelemetry` reads it: the exporters' fields, and the
label flags that choose the instruments. -/
structure OpenTelemetryConfig (ClientTLS : Type) extends OpenTelemetry ClientTLS where
  addEntryPointsLabels : Bool
  addRoutersLabels : Bool
  addServicesLabels : Bool
  deriving DecidableEq, Repr

/-- The names of the gauges `RegisterOpenTelemetry` registers, declared outside `src/`. -/
structure GaugeNames where
  configLastReloadSuccessName : String
  openConnectionsName : String
  tlsCertsNotAfterTimestampName : String
  serviceServerUpName : String
  deriving DecidableEq, Repr

/-- `standardRegistry` as `RegisterOpenTelemetry` fills it: the flags `ChainBuilder.Build`
queries, and the gauges. -/
structure StandardRegistry where
  flags : Traefik.Server.MetricsRegistry
  lastConfigReloadSuccessGauge : OtelGauge
  openConnectionsGauge : OtelGauge
  tlsCertsNotAfterTimestampGauge : OtelGauge
  serviceServerUpGauge : Option OtelGauge

/-- The gauges of a registry. -/
def StandardRegistry.gauges (reg : StandardRegistry) : List OtelGauge :=
  [reg.lastConfigReloadSuccessGauge, reg.openConnectionsGauge,
    reg.tlsCertsNotAfterTimestampGauge] ++ reg.serviceServerUpGauge.toList

/-- The process-wide `openTelemetryMeterProvider` and `openTelemetryGaugeCollector`; a meter
provider is the exporter it was built with. -/
structure Globals (TLSConfig V : Type) where
  openTelemetryMeterProvider : Option (Exporter TLSConfig)
  openTelemetryGaugeCollector : Option (GaugeCollector V)

/-- The registry literal of `RegisterOpenTelemetry` and its `if config.AddServicesLabels` branch,
as far as they touch the collector: the gauges, registered in order. -/
def newStandardRegistry (names : GaugeNames) (config : OpenTelemetryConfig ClientTLS)
    (c : GaugeCollector V) : GaugeCollector V × StandardRegistry :=
  let r₁ := newOTLPGaugeFrom c names.configLastReloadSuccessName "Last config reload success" "ms"
  let r₂ := newOTLPGaugeFrom r₁.1 names.openConnectionsName
    "How many open connections exist, by entryPoint and protocol" "1"
  let r₃ := newOTLPGaugeFrom r₂.1 names.tlsCertsNotAfterTimestampName
    "Certificate expiration timestamp" "ms"
  let r₄ := if config.addServicesLabels then
      (newOTLPGaugeFrom r₃.1 names.serviceServerUpName
        "service server is up, described by gauge value of 0 or 1." "1").map id some
    else (r₃.1, none)
  (r₄.1, ⟨⟨config.addEntryPointsLabels, config.addRoutersLabels, config.addServicesLabels⟩,
    r₁.2, r₂.2, r₃.2, r₄.2⟩)

/-- `RegisterOpenTelemetry`: the globals after the call, and the registry it returns (`nil` when
the meter provider cannot be built). -/
def registerOpenTelemetry (createTLSConfig : ClientTLS → Except String TLSConfig)
    (otlpNew newResource : Except String Unit) (names : GaugeNames)
    (config : OpenTelemetryConfig ClientTLS) (g : Globals TLSConfig V) :
    Globals TLSConfig V × Option StandardRegistry :=
  let provider : Except String (Exporter TLSConfig) := match g.openTelemetryMeterProvider with
    | some p => .ok p
    | none => newOpenTelemetryMeterProvider createTLSConfig otlpNew newResource
      config.toOpenTelemetry
  match provider with
  | .error _ => (g, none)
  | .ok p =>
    let r := newStandardRegistry names config
      (g.openTelemetryGaugeCollector.getD newOpenTelemetryGaugeCollector)
    (⟨some p, some r.1⟩, some r.2)

/-- `StopOpenTelemetry`: shut the meter provider down and drop it; the collector stays. -/
def stopOpenTelemetry (g : Globals TLSConfig V) : Globals TLSConfig V :=
  match g.openTelemetryMeterProvider with
  | none => g
  | some _ => { g with openTelemetryMeterProvider := none }

/-- A call on the package: `RegisterOpenTelemetry`, with the outcomes of the TLS configuration, of
the OTLP client's `New` and of the resource for that call, `StopOpenTelemetry`, or a `Set` or
`Add` on a gauge. -/
inductive Call (ClientTLS TLSConfig V : Type)
  | register (createTLSConfig : ClientTLS → Except String TLSConfig)
      (otlpNew newResource : Except String Unit) (config : OpenTelemetryConfig ClientTLS)
  | stop
  | gauge (op : GaugeOp V)

namespace Globals

/-- One call; `none` is the panic of a gauge call on a nil collector. -/
def step [Add V] (names : GaugeNames) (g : Globals TLSConfig V) :
    Call ClientTLS TLSConfig V → Option (Globals TLSConfig V)
  | .register createTLSConfig otlpNew newResource config =>
    some (registerOpenTelemetry createTLSConfig otlpNew newResource names config g).1
  | .stop => some (stopOpenTelemetry g)
  | .gauge op => g.openTelemetryGaugeCollector.map fun c =>
    { g with openTelemetryGaugeCollector := some (op.apply c) }

/-- A sequence of calls, in order; `none` once one panics. -/
def run [Add V] (names : GaugeNames) (g : Globals TLSConfig V) :
    List (Call ClientTLS TLSConfig V) → Option (Globals TLSConfig V)
  | [] => some g
  | call :: calls => (g.step names call).bind fun g' => g'.run names calls

end Globals

/-! ## What one call can do -/

/-- `RegisterOpenTelemetry` either fails and leaves the globals as they were, or sets both
variables, the collector to the one the registry's gauges were registered on. -/
theorem registerOpenTelemetry_cases (createTLSConfig : ClientTLS → Except String TLSConfig)
    (otlpNew newResource : Except String Unit) (names : GaugeNames)
    (config : OpenTelemetryConfig ClientTLS) (g : Globals TLSConfig V) :
    registerOpenTelemetry createTLSConfig otlpNew newResource names config g = (g, none) ∨
      ∃ p, (g.openTelemetryMeterProvider = none ∨ g.openTelemetryMeterProvider = some p) ∧
        registerOpenTelemetry createTLSConfig otlpNew newResource names config g =
          (⟨some p, some (newStandardRegistry names config
              (g.openTelemetryGaugeCollector.getD newOpenTelemetryGaugeCollector)).1⟩,
            some (newStandardRegistry names config
              (g.openTelemetryGaugeCollector.getD newOpenTelemetryGaugeCollector)).2) := by
  unfold registerOpenTelemetry
  rcases hp : g.openTelemetryMeterProvider with _ | p
  · cases newOpenTelemetryMeterProvider createTLSConfig otlpNew newResource
        config.toOpenTelemetry with
    | error => exact Or.inl rfl
    | ok p => exact Or.inr ⟨p, Or.inl rfl, rfl⟩
  · exact Or.inr ⟨p, Or.inr rfl, rfl⟩

/-- A gauge call on a collector in place applies to it. -/
theorem step_gauge [Add V] (names : GaugeNames) {g : Globals TLSConfig V} {c : GaugeCollector V}
    (hc : g.openTelemetryGaugeCollector = some c) (op : GaugeOp V) :
    g.step names (.gauge op : Call ClientTLS TLSConfig V) =
      some { g with openTelemetryGaugeCollector := some (op.apply c) } := by
  rw [Globals.step, hc, Option.map_some']

/-- With a collector in place, no call panics and the collector stays. -/
theorem step_of_collector [Add V] (names : GaugeNames) {g : Globals TLSConfig V}
    (hc : g.openTelemetryGaugeCollector.isSome) (call : Call ClientTLS TLSConfig V) :
    ∃ g', g.step names call = some g' ∧ g'.openTelemetryGaugeCollector.isSome := by
  cases call with
  | register createTLSConfig otlpNew newResource config =>
    refine ⟨_, rfl, ?_⟩
    rcases registerOpenTelemetry_cases createTLSConfig otlpNew newResource names config g with
      h | ⟨p, -, h⟩ <;> rw [h]
    · exact hc
    · rfl
  | stop =>
    refine ⟨_, rfl, ?_⟩
    unfold stopOpenTelemetry
    split <;> exact hc
  | gauge op =>
    obtain ⟨c, hc⟩ := Option.isSome_iff_exists.1 hc
    exact ⟨_, step_gauge names hc op, rfl⟩

/-- With a collector in place, no sequence of calls panics, and the collector stays. -/
theorem run_of_collector [Add V] (names : GaugeNames) {g : Globals TLSConfig V}
    (hc : g.openTelemetryGaugeCollector.isSome) (calls : List (Call ClientTLS TLSConfig V)) :
    ∃ g', g.run names calls = some g' ∧ g'.openTelemetryGaugeCollector.isSome := by
  induction calls generalizing g with
  | nil => exact ⟨g, rfl, hc⟩
  | cons call calls ih =>
    obtain ⟨g₁, h₁, hc₁⟩ := step_of_collector names hc call
    rw [Globals.run, h₁, Option.some_bind]
    exact ih hc₁

/-- Once `RegisterOpenTelemetry` has returned a registry, no later sequence of calls panics:
`StopOpenTelemetry` keeps the collector, and every later registration reuses it. -/
theorem run_isSome_of_register [Add V] (names : GaugeNames) (g : Globals TLSConfig V)
    (createTLSConfig : ClientTLS → Except String TLSConfig) (otlpNew newResource : Except String Unit)
    (config : OpenTelemetryConfig ClientTLS)
    (h : (registerOpenTelemetry createTLSConfig otlpNew newResource names config g).2.isSome)
    (calls : List (Call ClientTLS TLSConfig V)) :
    (g.run names (.register createTLSConfig otlpNew newResource config :: calls)).isSome := by
  have hc : (registerOpenTelemetry createTLSConfig otlpNew newResource names config
      g).1.openTelemetryGaugeCollector.isSome := by
    rcases registerOpenTelemetry_cases createTLSConfig otlpNew newResource names config g with
      he | ⟨p, -, he⟩ <;> rw [he] at h ⊢
    · cases h
    · rfl
  obtain ⟨g', h', -⟩ := run_of_collector names hc calls
  rw [Globals.run, Globals.step, Option.some_bind, h']
  rfl

/-- `run_isSome_of_register` from the initial globals: a registration, an open connection, a stop,
a registration that fails on the resource, and the connection closing. -/
theorem run_isSome_stop_failed_reregister :
    (registerOpenTelemetry (fun _ : Unit => (.ok () : Except String Unit)) (.ok ()) (.ok ())
        ⟨"reload", "conns", "certs", "up"⟩
        ⟨⟨"localhost:4318", [], true, "", none, false⟩, true, false, true⟩
        (⟨none, none⟩ : Globals Unit Int)).2.isSome ∧
      ((⟨none, none⟩ : Globals Unit Int).run ⟨"reload", "conns", "certs", "up"⟩
        [.register (fun _ : Unit => .ok ()) (.ok ()) (.ok ())
          ⟨⟨"localhost:4318", [], true, "", none, false⟩, true, false, true⟩,
          .gauge (.add ⟨[], ⟨"conns", "", "1"⟩, "conns"⟩ 1), .stop,
          .register (fun _ : Unit => .ok ()) (.ok ()) (.error "resource")
            ⟨⟨"localhost:4318", [], true, "", none, false⟩, true, false, true⟩,
          .gauge (.add ⟨[], ⟨"conns", "", "1"⟩, "conns"⟩ (-1))]).isSome :=
  ⟨rfl, run_isSome_of_register ⟨"reload", "conns", "certs", "up"⟩ ⟨none, none⟩ _ _ _ _
    (by exact rfl) _⟩

/-- A gauge call before any registration panics. -/
example : ((⟨none, none⟩ : Globals Unit Int).run ⟨"reload", "conns", "certs", "up"⟩
    [(.gauge (.add ⟨[], ⟨"conns", "", "1"⟩, "conns"⟩ 1) : Call Unit Unit Int)]).isNone :=
  rfl

/-! ## The exporter in force -/

/-- With a provider in place, a registration keeps it and returns a registry, whatever
configuration and outcomes it is given. -/
theorem registerOpenTelemetry_of_provider {g : Globals TLSConfig V} {e : Exporter TLSConfig}
    (hp : g.openTelemetryMeterProvider = some e)
    (createTLSConfig : ClientTLS → Except String TLSConfig) (otlpNew newResource : Except String Unit)
    (names : GaugeNames) (config : OpenTelemetryConfig ClientTLS) :
    registerOpenTelemetry createTLSConfig otlpNew newResource names config g =
      (⟨some e, some (newStandardRegistry names config
          (g.openTelemetryGaugeCollector.getD newOpenTelemetryGaugeCollector)).1⟩,
        some (newStandardRegistry names config
          (g.openTelemetryGaugeCollector.getD newOpenTelemetryGaugeCollector)).2) := by
  simp only [registerOpenTelemetry, hp]

/-- With a provider and a collector in place, a call other than `StopOpenTelemetry` keeps both,
whatever configuration it passes. -/
theorem step_provider_of_ne_stop [Add V] (names : GaugeNames) {g : Globals TLSConfig V}
    {e : Exporter TLSConfig} (hp : g.openTelemetryMeterProvider = some e)
    (hc : g.openTelemetryGaugeCollector.isSome) {call : Call ClientTLS TLSConfig V}
    (hs : call ≠ .stop) :
    ∃ g', g.step names call = some g' ∧ g'.openTelemetryMeterProvider = some e ∧
      g'.openTelemetryGaugeCollector.isSome := by
  cases call with
  | register createTLSConfig otlpNew newResource config =>
    refine ⟨_, rfl, ?_⟩
    rw [registerOpenTelemetry_of_provider hp]
    exact ⟨rfl, rfl⟩
  | stop => exact absurd rfl hs
  | gauge op =>
    obtain ⟨c, hc⟩ := Option.isSome_iff_exists.1 hc
    exact ⟨_, step_gauge names hc op, hp, rfl⟩

/-- A run with no `StopOpenTelemetry` keeps the provider and the collector in place. -/
theorem run_keeps_provider [Add V] (names : GaugeNames) {g : Globals TLSConfig V}
    {e : Exporter TLSConfig} (hp : g.openTelemetryMeterProvider = some e)
    (hc : g.openTelemetryGaugeCollector.isSome) {calls : List (Call ClientTLS TLSConfig V)}
    (hs : ∀ call ∈ calls, call ≠ .stop) :
    ∃ g', g.run names calls = some g' ∧ g'.openTelemetryMeterProvider = some e ∧
      g'.openTelemetryGaugeCollector.isSome := by
  induction calls generalizing g with
  | nil => exact ⟨g, rfl, hp, hc⟩
  | cons call calls ih =>
    obtain ⟨g₁, h₁, hp₁, hc₁⟩ :=
      step_provider_of_ne_stop names hp hc (hs call (List.mem_cons_self _ _))
    rw [Globals.run, h₁, Option.some_bind]
    exact ih hp₁ hc₁ fun c hc => hs c (List.mem_cons_of_mem _ hc)

/-- Until `StopOpenTelemetry`, the exporter stays the one the provider was built with, and at every
point of the run a `RegisterOpenTelemetry` call returns a registry and keeps that exporter,
whatever address, headers and TLS settings it is given and whatever its exporter or resource
would have done. -/
theorem provider_run_of_no_stop [Add V] (names : GaugeNames) (g : Globals TLSConfig V)
    (e : Exporter TLSConfig) (hp : g.openTelemetryMeterProvider = some e)
    (hc : g.openTelemetryGaugeCollector.isSome) (calls : List (Call ClientTLS TLSConfig V))
    (hs : ∀ call ∈ calls, call ≠ .stop) :
    ∃ g', g.run names calls = some g' ∧ g'.openTelemetryMeterProvider = some e ∧
      ∀ n, ∃ gn, g.run names (calls.take n) = some gn ∧
        ∀ (createTLSConfig : ClientTLS → Except String TLSConfig) otlpNew newResource config,
          (registerOpenTelemetry createTLSConfig otlpNew newResource names config
              gn).1.openTelemetryMeterProvider = some e ∧
            (registerOpenTelemetry createTLSConfig otlpNew newResource names config gn).2.isSome := by
  obtain ⟨g', h', hp', -⟩ := run_keeps_provider names hp hc hs
  refine ⟨g', h', hp', fun n => ?_⟩
  obtain ⟨gn, hn, hpn, -⟩ :=
    run_keeps_provider names hp hc fun call hm => hs call (List.mem_of_mem_take hm)
  refine ⟨gn, hn, fun createTLSConfig otlpNew newResource config => ?_⟩
  rw [registerOpenTelemetry_of_provider hpn]
  exact ⟨rfl, rfl⟩

/-- `provider_run_of_no_stop` after a registration at `localhost:4318`: a second registration at
`otel:4318` and a gauge call leave the exporter at `localhost:4318`. -/
theorem provider_kept_on_reregister :
    (registerOpenTelemetry (fun _ : Unit => (.ok () : Except String Unit)) (.ok ()) (.ok ())
        ⟨"reload", "conns", "certs", "up"⟩ ⟨⟨"localhost:4318", [], true, "", none, false⟩,
          true, false, true⟩ (⟨none, none⟩ : Globals Unit Int)).1.openTelemetryMeterProvider =
        some (.http [.withEndpoint "localhost:4318", .withHeaders [], .withGzipCompression,
          .withInsecure]) ∧
      (registerOpenTelemetry (fun _ : Unit => (.ok () : Except String Unit)) (.ok ()) (.ok ())
        ⟨"reload", "conns", "certs", "up"⟩ ⟨⟨"localhost:4318", [], true, "", none, false⟩,
          true, false, true⟩
        (⟨none, none⟩ : Globals Unit Int)).1.openTelemetryGaugeCollector.isSome ∧
      (∀ call ∈ ([.register (fun _ : Unit => .ok ()) (.ok ()) (.ok ())
            ⟨⟨"otel:4318", [], true, "", none, false⟩, true, false, true⟩,
          .gauge (.add ⟨[], ⟨"conns", "", "1"⟩, "conns"⟩ 1)] : List (Call Unit Unit Int)),
        call ≠ .stop) ∧
      ∃ g', (registerOpenTelemetry (fun _ : Unit => (.ok () : Except String Unit)) (.ok ()) (.ok ())
          ⟨"reload", "conns", "certs", "up"⟩
          ⟨⟨"localhost:4318", [], true, "", none, false⟩,
            true, false, true⟩ (⟨none, none⟩ : Globals Unit Int)).1.run
          ⟨"reload", "conns", "certs", "up"⟩
          [.register (fun _ : Unit => .ok ()) (.ok ()) (.ok ())
              ⟨⟨"otel:4318", [], true, "", none, false⟩, true, false, true⟩,
            .gauge (.add ⟨[], ⟨"conns", "", "1"⟩, "conns"⟩ 1)] = some g' ∧
        g'.openTelemetryMeterProvider = some (.http [.withEndpoint "localhost:4318",
          .withHeaders [], .withGzipCompression, .withInsecure]) ∧
        ∀ n, ∃ gn, (registerOpenTelemetry (fun _ : Unit => (.ok () : Except String Unit)) (.ok ())
            (.ok ()) ⟨"reload", "conns", "certs", "up"⟩
            ⟨⟨"localhost:4318", [], true, "", none, false⟩,
              true, false, true⟩ (⟨none, none⟩ : Globals Unit Int)).1.run
            ⟨"reload", "conns", "certs", "up"⟩
            (([.register (fun _ : Unit => .ok ()) (.ok ()) (.ok ())
                ⟨⟨"otel:4318", [], true, "", none, false⟩, true, false, true⟩,
              .gauge (.add ⟨[], ⟨"conns", "", "1"⟩, "conns"⟩ 1)] :
                List (Call Unit Unit Int)).take n) = some gn ∧
          ∀ (createTLSConfig : Unit → Except String Unit) otlpNew newResource config,
            (registerOpenTelemetry createTLSConfig otlpNew newResource
                ⟨"reload", "conns", "certs", "up"⟩ config gn).1.openTelemetryMeterProvider =
              some (.http [.withEndpoint "localhost:4318", .withHeaders [], .withGzipCompression,
                .withInsecure]) ∧
              (registerOpenTelemetry createTLSConfig otlpNew newResource
                ⟨"reload", "conns", "certs", "up"⟩ config gn).2.isSome :=
  ⟨rfl, rfl, by simp, provider_run_of_no_stop ⟨"reload", "conns", "certs", "up"⟩ _ _
    (by exact rfl) (by exact rfl) _ (by simp)⟩

/-! ## The gauges a registration resets -/

@[simp] theorem name_newOTLPGaugeFrom (c : GaugeCollector V) (name desc unit : String) :
    (newOTLPGaugeFrom c name desc unit).2.name = name := rfl

/-- Registering a gauge empties the entries of its name and of no other. -/
theorem namedValues_newOTLPGaugeFrom (c : GaugeCollector V) (n desc unit name : String) :
    (newOTLPGaugeFrom c n desc unit).1.namedValues name =
      if name = n then ∅ else c.namedValues name := by
  unfold newOTLPGaugeFrom
  split_ifs with h
  · rw [h, GaugeCollector.namedValues_insert_self]
  · exact GaugeCollector.namedValues_insert_ne c ∅ h

/-- The registry literal empties the entries of exactly the names of its gauges. -/
theorem namedValues_newStandardRegistry (names : GaugeNames)
    (config : OpenTelemetryConfig ClientTLS) (c : GaugeCollector V) (name : String) :
    (newStandardRegistry names config c).1.namedValues name =
      if name ∈ (newStandardRegistry names config c).2.gauges.map OtelGauge.name then ∅
      else c.namedValues name := by
  simp only [newStandardRegistry, StandardRegistry.gauges]
  split <;>
  · simp only [Prod.map, id, Option.toList, List.map, List.cons_append, List.nil_append,
      List.mem_cons, List.mem_singleton, List.not_mem_nil, or_false, name_newOTLPGaugeFrom,
      namedValues_newOTLPGaugeFrom]
    split_ifs <;> simp_all

/-- A registration that returns a registry leaves on the collector no entry under the name of any
of the registry's gauges, and every other name's entries as they were. -/
theorem namedValues_registerOpenTelemetry (createTLSConfig : ClientTLS → Except String TLSConfig)
    (otlpNew newResource : Except String Unit) (names : GaugeNames)
    (config : OpenTelemetryConfig ClientTLS) (g : Globals TLSConfig V) (reg : StandardRegistry)
    (h : (registerOpenTelemetry createTLSConfig otlpNew newResource names config g).2 = some reg) :
    ∃ c, (registerOpenTelemetry createTLSConfig otlpNew newResource names config
        g).1.openTelemetryGaugeCollector = some c ∧
      ∀ name, c.namedValues name =
        if name ∈ reg.gauges.map OtelGauge.name then ∅
        else (g.openTelemetryGaugeCollector.getD newOpenTelemetryGaugeCollector).namedValues
          name := by
  rcases registerOpenTelemetry_cases createTLSConfig otlpNew newResource names config g with
    he | ⟨p, -, he⟩ <;> rw [he] at h ⊢
  · cases h
  · cases h
    exact ⟨_, rfl, namedValues_newStandardRegistry names config _⟩

/-- `namedValues_registerOpenTelemetry` on a registration that finds a provider in place. -/
theorem namedValues_register_with_provider :
    (registerOpenTelemetry (fun _ : Unit => (.ok () : Except String Unit)) (.ok ()) (.ok ())
        ⟨"reload", "conns", "certs", "up"⟩ ⟨⟨"localhost:4318", [], true, "", none, false⟩,
          true, false, true⟩
        (⟨some (.http []), some newOpenTelemetryGaugeCollector⟩ : Globals Unit Int)).2 =
        some (newStandardRegistry (V := Int) ⟨"reload", "conns", "certs", "up"⟩
          (⟨⟨"localhost:4318", [], true, "", none, false⟩, true, false, true⟩ :
            OpenTelemetryConfig Unit) newOpenTelemetryGaugeCollector).2 ∧
      ∃ c, (registerOpenTelemetry (fun _ : Unit => (.ok () : Except String Unit)) (.ok ()) (.ok ())
          ⟨"reload", "conns", "certs", "up"⟩
          ⟨⟨"localhost:4318", [], true, "", none, false⟩,
            true, false, true⟩ (⟨some (.http []), some newOpenTelemetryGaugeCollector⟩ :
              Globals Unit Int)).1.openTelemetryGaugeCollector = some c ∧
        ∀ name, c.namedValues name =
          if name ∈ (newStandardRegistry (V := Int) ⟨"reload", "conns", "certs", "up"⟩
              (⟨⟨"localhost:4318", [], true, "", none, false⟩, true, false, true⟩ :
                OpenTelemetryConfig Unit) newOpenTelemetryGaugeCollector).2.gauges.map
              OtelGauge.name then ∅
          else (newOpenTelemetryGaugeCollector : GaugeCollector Int).namedValues name :=
  ⟨rfl, namedValues_registerOpenTelemetry _ _ _ ⟨"reload", "conns", "certs", "up"⟩ _
    ⟨some (.http []), some newOpenTelemetryGaugeCollector⟩ _ (by exact rfl)⟩

/-- A registration over a collector that counts one open connection on `web` restarts the count:
closing that connection afterwards leaves `-1`. -/
example : ((registerOpenTelemetry (fun _ : Unit => (.ok () : Except String Unit)) (.ok ()) (.ok ())
      ⟨"reload", "conns", "certs", "up"⟩ ⟨⟨"localhost:4318", [], true, "", none, false⟩,
        true, false, true⟩
      (⟨some (.http []),
        some (newOpenTelemetryGaugeCollector.add "conns" 1 ["entrypoint", "web"])⟩ :
          Globals Unit Int)).1.openTelemetryGaugeCollector.map fun c =>
      ((c.add "conns" (-1) ["entrypoint", "web"]).entry "conns" "entrypointweb").map (·.value)) =
    some (some (-1)) := rfl

end Traefik.Metrics

import Mathlib.Data.List.Basic

/-!
# Entry-point middleware chains

Reference: `pkg/server/middleware/chainbuilder.go`, `pkg/middlewares/grpcweb/grpcweb.go`.

`ChainBuilder.Build` prepends, per entry point, the wrappers that observe every request: capture,
access log, tracing and entry-point metrics, each only when its collaborator is configured, and
always in that order. The gRPC-Web middleware's only local logic is its origin check. The
registry queries are what `RegisterOpenTelemetry` fills in (`Registry.lean`).
-/

namespace Traefik.Server

/-- The queries `Build` makes of a `metrics.Registry`. -/
structure MetricsRegistry where
  epEnabled : Bool
  routerEnabled : Bool
  svcEnabled : Bool
  deriving DecidableEq, Repr

/-- `ChainBuilder`: the registry, and whether an access-log handler and a tracer are set. -/
structure ChainBuilder where
  metricsRegistry : Option MetricsRegistry
  accessLoggerMiddleware : Bool
  tracer : Bool
  deriving DecidableEq, Repr

/-- The wrappers `Build` can append, outermost first. -/
inductive ChainMiddleware
  | capture
  | accessLog
  | entryPointTracing (entryPointName : String)
  | entryPointMetrics (entryPointName : String)
  deriving DecidableEq, Repr

namespace ChainBuilder

/-- Whether `Build` installs capture: an access log, or a registry with any metrics enabled. -/
def needsCapture (c : ChainBuilder) : Bool :=
  c.accessLoggerMiddleware ||
    match c.metricsRegistry with
    | some r => r.epEnabled || r.routerEnabled || r.svcEnabled
    | none => false

/-- Whether `Build` installs the entry-point metrics. -/
def epMetrics (c : ChainBuilder) : Bool :=
  match c.metricsRegistry with
  | some r => r.epEnabled
  | none => false

/-- `ChainBuilder.Build`: the chain for one entry point, outermost wrapper first. -/
def build (c : ChainBuilder) (entryPointName : String) : List ChainMiddleware :=
  (if c.needsCapture then [.capture] else []) ++
    (if c.accessLoggerMiddleware then [.accessLog] else []) ++
    (if c.tracer then [.entryPointTracing entryPointName] else []) ++
    (if c.epMetrics then [.entryPointMetrics entryPointName] else [])

end ChainBuilder

/-! ## gRPC-Web -/

/-- The origin function of the gRPC-Web wrapper: an origin is allowed when some configured
origin is `"*"` or equals it. -/
def grpcWebAllowOrigin (allowOrigins : List String) (origin : String) : Bool :=
  allowOrigins.any fun originCfg => originCfg == "*" || originCfg == origin

end Traefik.Server

import Mathlib.Data.BitVec

/-!
# The generated `IngressRoute` client

Reference:
`pkg/provider/kubernetes/crd/generated/clientset/versioned/typed/traefikio/v1alpha1/ingressroute.go`.

Each method of `ingressRoutes` builds one request with the builder chain of the REST client
(`c.client.Get().Namespace(c.ns).Resource("ingressroutes")...`) and runs it. The REST client
lies outside the repository, so a request is the record that chain fills in: its verb, namespace,
resource, name, subresources, the list options it encodes, its timeout, its body, and whether it
is run with `Watch` rather than `Do`. A builder call that a method does not make leaves its field
at the builder's zero value.

`List`, `Watch` and `DeleteCollection` set the timeout to
`time.Duration(*opts.TimeoutSeconds) * time.Second`, a product of two `int64`s that wraps on
overflow as Go's does; `BitVec 64` with `BitVec.toInt` is that arithmetic.
`timeout_exact_iff` says each of the three requests carries the timeout the caller asked for
exactly when `|TimeoutSeconds| ≤ 9223372036`, and `timeout_negative_past_bound` that a caller
asking for more, up to 18446744073 seconds, gets a negative timeout.
-/

namespace Traefik.Kubernetes.Crd

/-- The verb a request is built with: `Get()`, `Post()`, `Put()`, `Delete()` or `Patch(pt)`. -/
inductive Verb where
  | get
  | post
  | put
  | delete
  | patch (pt : String)
  deriving DecidableEq, Repr

/-- The fields of `v1.ListOptions` the client reads or writes; the rest are passed through. -/
structure ListOptions where
  timeoutSeconds : Option (BitVec 64)
  watch : Bool
  deriving DecidableEq, Repr

/-- The field of `v1alpha1.IngressRoute` the client reads. -/
structure IngressRoute where
  name : String
  deriving DecidableEq, Repr

/-- The body of a request: an ingress route, the caller's `v1.DeleteOptions`, or patch data. -/
inductive Body where
  | ingressRoute (route : IngressRoute)
  | deleteOptions
  | patch (data : List UInt8)
  deriving DecidableEq, Repr

/-- A request as the builder chain leaves it. `listOptions` are the versioned parameters when
they are list options; `watch` is whether the request is run with `Watch`. -/
structure Request where
  verb : Verb
  ns : String
  resource : String
  name : Option String
  subresources : List String
  listOptions : Option ListOptions
  timeout : BitVec 64
  body : Option Body
  watch : Bool
  deriving DecidableEq, Repr

/-- `ingressRoutes`: the typed client for the ingress routes of one namespace. -/
structure IngressRoutes where
  ns : String
  deriving DecidableEq, Repr

/-- `newIngressRoutes`. -/
def newIngressRoutes (namespace_ : String) : IngressRoutes :=
  ⟨namespace_⟩

/-- `time.Second`, in nanoseconds. -/
def second : BitVec 64 :=
  1000000000#64

/-- The timeout of `List`, `Watch` and `DeleteCollection`: zero when `TimeoutSeconds` is unset,
else `time.Duration(*opts.TimeoutSeconds) * time.Second`. -/
def listTimeout (opts : ListOptions) : BitVec 64 :=
  match opts.timeoutSeconds with
  | some s => s * second
  | none => 0

namespace IngressRoutes

/-- The request every method builds, `c.client.<verb>().Namespace(c.ns).Resource("ingressroutes")`,
with the method's own name, subresources, parameters, timeout, body and run mode. -/
def newRequest (c : IngressRoutes) (verb : Verb) (name : Option String)
    (subresources : List String) (listOptions : Option ListOptions) (timeout : BitVec 64)
    (body : Option Body) (watch : Bool) : Request :=
  ⟨verb, c.ns, "ingressroutes", name, subresources, listOptions, timeout, body, watch⟩

/-- `Get`. -/
def get (c : IngressRoutes) (name : String) : Request :=
  c.newRequest .get (some name) [] none 0 none false

/-- `List`. -/
def list (c : IngressRoutes) (opts : ListOptions) : Request :=
  c.newRequest .get none [] (some opts) (listTimeout opts) none false

/-- `Watch`: it sets `opts.Watch` on its own copy of the options. -/
def watch (c : IngressRoutes) (opts : ListOptions) : Request :=
  c.newRequest .get none [] (some { opts with watch := true }) (listTimeout opts) none true

/-- `Create`. -/
def create (c : IngressRoutes) (ingressRoute : IngressRoute) : Request :=
  c.newRequest .post none [] none 0 (some (.ingressRoute ingressRoute)) false

/-- `Update`: the route's own name selects the object. -/
def update (c : IngressRoutes) (ingressRoute : IngressRoute) : Request :=
  c.newRequest .put (some ingressRoute.name) [] none 0 (some (.ingressRoute ingressRoute)) false

/-- `Delete`. -/
def delete (c : IngressRoutes) (name : String) : Request :=
  c.newRequest .delete (some name) [] none 0 (some .deleteOptions) false

/-- `DeleteCollection`. -/
def deleteCollection (c : IngressRoutes) (listOpts : ListOptions) : Request :=
  c.newRequest .delete none [] (some listOpts) (listTimeout listOpts) (some .deleteOptions) false

/-- `Patch`. -/
def patch (c : IngressRoutes) (name : String) (pt : String) (data : List UInt8)
    (subresources : List String) : Request :=
  c.newRequest (.patch pt) (some name) subresources none 0 (some (.patch data)) false

end IngressRoutes

/-- The `int64` product `s * time.Second` is the exact number of nanoseconds exactly when
`|s| ≤ 9223372036`, the largest number of seconds below `2^63` nanoseconds. -/
theorem toInt_mul_second (s : BitVec 64) :
    (s * second).toInt = s.toInt * 1000000000 ↔
      -9223372036 ≤ s.toInt ∧ s.toInt ≤ 9223372036 := by
  have h : second.toInt = 1000000000 := rfl
  rw [BitVec.toInt_mul, h, Int.bmod_def]
  split <;> omega

/-- Past that bound and below `2^64` nanoseconds, the product wraps once, to a negative number. -/
theorem toInt_mul_second_of_gt (s : BitVec 64) (hlo : 9223372036 < s.toInt)
    (hhi : s.toInt ≤ 18446744073) :
    (s * second).toInt = s.toInt * 1000000000 - 2 ^ 64 := by
  have h : second.toInt = 1000000000 := rfl
  rw [BitVec.toInt_mul, h, Int.bmod_def]
  split <;> omega

/-- The three methods that send a timeout send `listTimeout` of their options. -/
theorem timeout_eq_listTimeout {c : IngressRoutes} {opts : ListOptions} {r : Request}
    (hr : r ∈ [c.list opts, c.watch opts, c.deleteCollection opts]) :
    r.timeout = listTimeout opts := by
  simp only [List.mem_cons, List.mem_singleton, List.not_mem_nil, or_false] at hr
  rcases hr with rfl | rfl | rfl <;> rfl

/-- Each of `List`, `Watch` and `DeleteCollection` sends the timeout the caller asked for, in
nanoseconds, exactly when `|TimeoutSeconds| ≤ 9223372036`; beyond, the `int64` product wraps. -/
theorem timeout_exact_iff (c : IngressRoutes) (opts : ListOptions) (s : BitVec 64)
    (hs : opts.timeoutSeconds = some s) :
    ∀ r ∈ [c.list opts, c.watch opts, c.deleteCollection opts],
      r.timeout.toInt = s.toInt * 1000000000 ↔
        -9223372036 ≤ s.toInt ∧ s.toInt ≤ 9223372036 := by
  intro r hr
  rw [timeout_eq_listTimeout hr, listTimeout, hs, toInt_mul_second]

/-- `timeout_exact_iff` at thirty seconds. -/
theorem timeout_exact_thirty_seconds :
    (⟨some 30#64, false⟩ : ListOptions).timeoutSeconds = some 30#64 ∧
      ∀ r ∈ [(newIngressRoutes "default").list ⟨some 30#64, false⟩,
          (newIngressRoutes "default").watch ⟨some 30#64, false⟩,
          (newIngressRoutes "default").deleteCollection ⟨some 30#64, false⟩],
        r.timeout.toInt = (30#64).toInt * 1000000000 ↔
          -9223372036 ≤ (30#64).toInt ∧ (30#64).toInt ≤ 9223372036 :=
  ⟨rfl, timeout_exact_iff (newIngressRoutes "default") ⟨some 30#64, false⟩ 30#64 rfl⟩

/-- A caller asking `List`, `Watch` or `DeleteCollection` for more than 9223372036 seconds, up to
18446744073, gets a negative timeout: the product less `2^64` nanoseconds. -/
theorem timeout_negative_past_bound (c : IngressRoutes) (opts : ListOptions) (s : BitVec 64)
    (hs : opts.timeoutSeconds = some s) (hlo : 9223372036 < s.toInt)
    (hhi : s.toInt ≤ 18446744073) :
    ∀ r ∈ [c.list opts, c.watch opts, c.deleteCollection opts],
      r.timeout.toInt = s.toInt * 1000000000 - 2 ^ 64 ∧ r.timeout.toInt < 0 := by
  intro r hr
  rw [timeout_eq_listTimeout hr, listTimeout, hs, toInt_mul_second_of_gt s hlo hhi]
  exact ⟨rfl, by omega⟩

/-- `timeout_negative_past_bound` one second past the bound. -/
theorem timeout_wraps_past_bound :
    (⟨some 9223372037#64, false⟩ : ListOptions).timeoutSeconds = some 9223372037#64 ∧
      9223372036 < (9223372037#64).toInt ∧ (9223372037#64).toInt ≤ 18446744073 ∧
      ∀ r ∈ [(newIngressRoutes "default").list ⟨some 9223372037#64, false⟩,
          (newIngressRoutes "default").watch ⟨some 9223372037#64, false⟩,
          (newIngressRoutes "default").deleteCollection ⟨some 9223372037#64, false⟩],
        r.timeout.toInt = (9223372037#64).toInt * 1000000000 - 2 ^ 64 ∧ r.timeout.toInt < 0 :=
  ⟨rfl, by decide, by decide, timeout_negative_past_bound (newIngressRoutes "default")
    ⟨some 9223372037#64, false⟩ 9223372037#64 rfl (by decide) (by decide)⟩

end Traefik.Kubernetes.Crd

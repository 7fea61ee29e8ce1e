import Traefik.Kubernetes.Ingress.LoadBalancerStatus
import Mathlib.Data.List.AList
import Mathlib.Data.List.Dedup

/-!
# The ingress client and its informer factories

Reference: `pkg/provider/kubernetes/ingress/client.go`.

`WatchAll` creates one informer factory per watched namespace and kind (ingresses, core objects,
secrets) and stores it under the namespace. When no namespace is given it watches the single
key `metav1.NamespaceAll = ""` and sets `isNamespaceAll`, so that `lookupNamespace` maps every
namespace to that key. The getters guard their lookup with `isWatchedNamespace`, whose comment
says it is there so that no lookup misses.

`isNamespaceAll` and `watchedNamespaces` are written before the per-namespace loop, and
`isNamespaceAll` is never reset. The guard stays sound because the registrations of an
all-namespaces call cannot fail: client-go refuses an event handler only on a stopped informer,
and `WatchAll` registers its handlers on informers it has just created. Under that guarantee,
after any run of calls, failed ones included, a last call that returns `nil` leaves every
namespace the guard lets through with a factory of each kind
(`getters_ne_panic_watchAllRun`).

`GetIngressClasses` reads the cluster-wide factory. A successful call with the ingress-class
informer enabled loads it, and no later call unloads it (`getIngressClasses_after_watchAll`).

The cluster is an oracle: `WatchEnv.fails` answers every fallible call of one `WatchAll`,
identified by its kind and its position in the namespace loops, with its error, if any.
-/

namespace Traefik.Kubernetes.Ingress

/-- `metav1.NamespaceAll`. -/
def namespaceAll : String := ""

/-- A `SharedInformerFactory` as `WatchAll` creates it: the namespace it watches
(`WithNamespace`), and the label selector its list tweak sets, if any. -/
structure SharedInformerFactory where
  ns : String
  labelSelector : Option String
  deriving DecidableEq, Repr

/-- Informer factories by namespace (`map[string]kinformers.SharedInformerFactory`). -/
abbrev Factories := AList fun _ : String => SharedInformerFactory

/-- `clientWrapper`, without the clientset, which only the oracle stands for. -/
structure ClientWrapper where
  factoriesKube : Factories
  factoriesSecret : Factories
  factoriesIngress : Factories
  clusterFactory : Option SharedInformerFactory
  ingressLabelSelector : String
  isNamespaceAll : Bool
  disableIngressClassInformer : Bool
  watchedNamespaces : List String
  serverVersion : Option String

/-- `newClientImpl`: empty factory maps, every other field at its zero value. -/
def newClientImpl : ClientWrapper :=
  ⟨∅, ∅, ∅, none, "", false, false, [], none⟩

namespace ClientWrapper

/-- `lookupNamespace`. -/
def lookupNamespace (c : ClientWrapper) (ns : String) : String :=
  if c.isNamespaceAll then namespaceAll else ns

/-- `isWatchedNamespace`. -/
def isWatchedNamespace (c : ClientWrapper) (ns : String) : Bool :=
  c.isNamespaceAll || c.watchedNamespaces.any (· == ns)

/-- The informers whose event-handler registration can fail, in the order `WatchAll` registers
them for one namespace. -/
inductive Informer
  | ingresses | services | endpoints | secrets
  deriving DecidableEq, Repr

/-- The factories whose caches `WatchAll` waits for, in order, for one namespace. -/
inductive FactoryKind
  | ingress | kube | secret
  deriving DecidableEq, Repr

/-- A fallible call of one `WatchAll`: by kind and, in the namespace loops, by position. -/
inductive WatchCall
  | serverVersion
  | newVersion
  | addEventHandler (informer : Informer) (i : Nat)
  | waitForCacheSync (factory : FactoryKind) (i : Nat)
  | ingressClassHandler
  | ingressClassCacheSync
  deriving DecidableEq, Repr

/-- The cluster's answers to one `WatchAll`: the `GitVersion` the discovery call returns, and the
error of each fallible call, if it fails; for a cache wait, the informer type that timed out. -/
structure WatchEnv where
  gitVersion : String
  fails : WatchCall → Option String

/-- The ingress factory of a namespace, with the client's label selector as list tweak. -/
def ingressFactory (c : ClientWrapper) (ns : String) : SharedInformerFactory :=
  ⟨ns, some c.ingressLabelSelector⟩

/-- The first loop of `WatchAll`, from position `i`: for each namespace, register the handlers
of its informers and store each factory once its registrations succeeded. The first failing
registration ends the call with its error; the factories stored before it stay. -/
def registerInformers (env : WatchEnv) (c : ClientWrapper) :
    Nat → List String → ClientWrapper × Except String Unit
  | _, [] => (c, .ok ())
  | i, ns :: rest =>
    match env.fails (.addEventHandler .ingresses i) with
    | some err => (c, .error err)
    | none =>
      let c := { c with factoriesIngress := c.factoriesIngress.insert ns (c.ingressFactory ns) }
      match env.fails (.addEventHandler .services i) with
      | some err => (c, .error err)
      | none =>
        match env.fails (.addEventHandler .endpoints i) with
        | some err => (c, .error err)
        | none =>
          let c := { c with factoriesKube := c.factoriesKube.insert ns ⟨ns, none⟩ }
          match env.fails (.addEventHandler .secrets i) with
          | some err => (c, .error err)
          | none =>
            registerInformers env
              { c with factoriesSecret := c.factoriesSecret.insert ns ⟨ns, some "owner!=helm"⟩ }
              (i + 1) rest

/-- The error of a cache that did not sync in a namespace. -/
def cacheSyncError (typ ns : String) : String :=
  "timed out waiting for controller caches to sync " ++ typ ++ " in namespace \"" ++ ns ++ "\""

/-- The third loop of `WatchAll`, from position `i`: wait for the caches of every namespace. -/
def waitForCacheSyncs (env : WatchEnv) : Nat → List String → Except String Unit
  | _, [] => .ok ()
  | i, ns :: rest =>
    match env.fails (.waitForCacheSync .ingress i) with
    | some typ => .error (cacheSyncError typ ns)
    | none =>
      match env.fails (.waitForCacheSync .kube i) with
      | some typ => .error (cacheSyncError typ ns)
      | none =>
        match env.fails (.waitForCacheSync .secret i) with
        | some typ => .error (cacheSyncError typ ns)
        | none => waitForCacheSyncs env (i + 1) rest

/-- The ingress-class part of `WatchAll`, unless it is disabled: store the cluster factory,
register its handler and wait for its cache. -/
def watchIngressClasses (env : WatchEnv) (c : ClientWrapper) : ClientWrapper × Except String Unit :=
  if c.disableIngressClassInformer then (c, .ok ())
  else
    let c := { c with clusterFactory := some ⟨namespaceAll, none⟩ }
    match env.fails .ingressClassHandler with
    | some err => (c, .error err)
    | none =>
      match env.fails .ingressClassCacheSync with
      | some typ => (c, .error ("timed out waiting for controller caches to sync " ++ typ))
      | none => (c, .ok ())

/-- The namespaces a call watches: the given ones, or `[metav1.NamespaceAll]` for none. -/
def watchedList (namespaces : List String) : List String :=
  if namespaces = [] then [namespaceAll] else namespaces

/-- The assignments `WatchAll` makes once the server version is known, before its loops:
`serverVersion`, `isNamespaceAll` when no namespace is given, and `watchedNamespaces`. -/
def prepareWatch (env : WatchEnv) (c : ClientWrapper) (namespaces : List String) :
    ClientWrapper :=
  { c with
    serverVersion := some env.gitVersion
    isNamespaceAll := if namespaces = [] then true else c.isNamespaceAll
    watchedNamespaces := watchedList namespaces }

/-- `WatchAll`: the client after the call and its result. The event channel is left out; the
`Start` loop cannot fail and changes nothing the model keeps. -/
def watchAll (c : ClientWrapper) (namespaces : List String) (env : WatchEnv) :
    ClientWrapper × Except String Unit :=
  match env.fails .serverVersion with
  | some err => (c, .error ("could not retrieve server version: " ++ err))
  | none =>
    match env.fails .newVersion with
    | some err => (c, .error ("could not parse server version: " ++ err))
    | none =>
      match (c.prepareWatch env namespaces).registerInformers env 0 (watchedList namespaces) with
      | (c, .error err) => (c, .error err)
      | (c, .ok ()) =>
        match waitForCacheSyncs env 0 (watchedList namespaces) with
        | .error err => (c, .error err)
        | .ok () => c.watchIngressClasses env

/-- Sequential `WatchAll` calls on one client. -/
def watchAllRun (c : ClientWrapper) (calls : List (List String × WatchEnv)) : ClientWrapper :=
  calls.foldl (fun c call => (c.watchAll call.1 call.2).1) c

/-! ## The getters -/

/-- `k8s.io` API errors, as far as `translateNotFoundError` tells them apart. -/
inductive KubeError
  | notFound (msg : String)
  | other (msg : String)
  deriving DecidableEq, Repr

/-- `translateNotFoundError`: a not-found error reads as an absent object and no error. -/
def translateNotFoundError : Option KubeError → Bool × Option KubeError
  | some (.notFound _) => (false, none)
  | err => (err.isNone, err)

/-- A getter's factory read: its guard's error, Go's panic on the nil factory a missing key
yields, or the factory. -/
inductive FactoryLookup
  | notWatched (err : String)
  | panic
  | factory (f : SharedInformerFactory)
  deriving DecidableEq, Repr

/-- The guard and the factory read shared by the getters and `UpdateIngressStatus`. -/
def lookupFactory (c : ClientWrapper) (factories : Factories) (kind ns name : String) :
    FactoryLookup :=
  if !c.isWatchedNamespace ns then
    .notWatched ("failed to get " ++ kind ++ " " ++ ns ++ "/" ++ name ++
      ": namespace is not within watched namespaces")
  else
    match factories.lookup (c.lookupNamespace ns) with
    | none => .panic
    | some f => .factory f

/-- What a getter returns: its guard's error, a panic, or the lister's object through
`translateNotFoundError`. -/
inductive GetResult (α : Type)
  | notWatched (err : String)
  | panic
  | found (obj : Option α) (exist : Bool) (err : Option KubeError)

/-- The body of `GetService`, `GetEndpoints` and `GetSecret`; `lister` is the informer's
`Lister()...Get(name)`. -/
def getFrom {α : Type} (c : ClientWrapper) (factories : Factories) (kind : String)
    (lister : SharedInformerFactory → String → String → Option α × Option KubeError)
    (ns name : String) : GetResult α :=
  match c.lookupFactory factories kind ns name with
  | .notWatched err => .notWatched err
  | .panic => .panic
  | .factory f => match lister f ns name with
    | (obj, err) => match translateNotFoundError err with
      | (exist, err) => .found obj exist err

/-- `GetService`. -/
def getService {α : Type} (c : ClientWrapper)
    (lister : SharedInformerFactory → String → String → Option α × Option KubeError)
    (ns name : String) : GetResult α :=
  c.getFrom c.factoriesKube "service" lister ns name

/-- `GetEndpoints`. -/
def getEndpoints {α : Type} (c : ClientWrapper)
    (lister : SharedInformerFactory → String → String → Option α × Option KubeError)
    (ns name : String) : GetResult α :=
  c.getFrom c.factoriesKube "endpoints" lister ns name

/-- `GetSecret`. -/
def getSecret {α : Type} (c : ClientWrapper)
    (lister : SharedInformerFactory → String → String → Option α × Option KubeError)
    (ns name : String) : GetResult α :=
  c.getFrom c.factoriesSecret "secret" lister ns name

/-- `netv1.IngressClass`, with the fields the client reads. -/
structure IngressClass where
  name : String
  controller : String
  deriving DecidableEq, Repr

/-- `GetIngressClasses`: the classes of the cluster factory's lister whose controller is
`controller` (`traefikDefaultIngressClassController`, declared outside this file). -/
def getIngressClasses (c : ClientWrapper) (controller : String)
    (lister : SharedInformerFactory → Except String (List IngressClass)) :
    Except String (List IngressClass) :=
  match c.clusterFactory with
  | none => .error "cluster factory not loaded"
  | some f =>
    match lister f with
    | .error err => .error err
    | .ok ingressClasses => .ok (ingressClasses.filter fun ic => ic.controller == controller)

/-- `filterIngressClassByName`: the classes named `ingressClassName`, in order. -/
def filterIngressClassByName (ingressClassName : String) (ics : List IngressClass) :
    List IngressClass :=
  ics.filter fun ic => ic.name == ingressClassName

/-- An ingress as `UpdateIngressStatus` reads it: namespace, name and load-balancer status. -/
structure Ingress where
  (ns name : String)
  status : List IngressLoadBalancerIngress
  deriving DecidableEq, Repr

/-- The body of the loop of `GetIngresses`: append the factory's listing, or log the error and
go on with the next factory. -/
def appendListing (lister : SharedInformerFactory → Except String (List Ingress))
    (results : List Ingress) (entry : (_ : String) × SharedInformerFactory) : List Ingress :=
  match lister entry.2 with
  | .error _ => results
  | .ok listNew => results ++ listNew

/-- `GetIngresses`: the ingresses every stored ingress factory lists, in the map's iteration
order (here the order of its entries; Go leaves it unspecified). A factory whose listing fails
is logged and skipped. -/
def getIngresses (c : ClientWrapper)
    (lister : SharedInformerFactory → Except String (List Ingress)) : List Ingress :=
  c.factoriesIngress.entries.foldl (appendListing lister) []

/-- What `UpdateIngressStatus` does: fail, panic, skip the write, or write the ingress. -/
inductive UpdateResult
  | error (err : String)
  | panic
  | skipped
  | updated (ing : Ingress)
  deriving DecidableEq, Repr

/-- `UpdateIngressStatus`; `getIngress` is the ingress lister and `updateStatus` the API's
`UpdateStatus`, both answered by the cluster. -/
def updateIngressStatus (c : ClientWrapper)
    (getIngress : SharedInformerFactory → String → String → Except String Ingress)
    (updateStatus : Ingress → Except String Unit) (src : Ingress)
    (ingStatus : List IngressLoadBalancerIngress) : UpdateResult :=
  match c.lookupFactory c.factoriesIngress "ingress" src.ns src.name with
  | .notWatched err => .error err
  | .panic => .panic
  | .factory f =>
    match getIngress f src.ns src.name with
    | .error err => .error ("failed to get ingress " ++ src.ns ++ "/" ++ src.name ++ ": " ++ err)
    | .ok ing =>
      if isLoadBalancerIngressEquals ing.status ingStatus then .skipped
      else
        match updateStatus { ing with status := ingStatus } with
        | .error err =>
          .error ("failed to update ingress status " ++ src.ns ++ "/" ++ src.name ++ ": " ++ err)
        | .ok () => .updated { ing with status := ingStatus }

/-! ## What one `WatchAll` call can do to the lookups -/

/-- `c'` keeps the flags and the watched list of `c`, and every factory key of `c`. -/
structure Grows (c c' : ClientWrapper) : Prop where
  isNamespaceAll : c'.isNamespaceAll = c.isNamespaceAll
  watchedNamespaces : c'.watchedNamespaces = c.watchedNamespaces
  disableIngressClassInformer : c'.disableIngressClassInformer = c.disableIngressClassInformer
  ingress : ∀ k ∈ c.factoriesIngress, k ∈ c'.factoriesIngress
  kube : ∀ k ∈ c.factoriesKube, k ∈ c'.factoriesKube
  secret : ∀ k ∈ c.factoriesSecret, k ∈ c'.factoriesSecret
  clusterFactory : c.clusterFactory = some ⟨namespaceAll, none⟩ →
    c'.clusterFactory = some ⟨namespaceAll, none⟩

theorem Grows.refl (c : ClientWrapper) : Grows c c :=
  ⟨rfl, rfl, rfl, fun _ => id, fun _ => id, fun _ => id, id⟩

theorem Grows.trans {c₁ c₂ c₃ : ClientWrapper} (h₁ : Grows c₁ c₂) (h₂ : Grows c₂ c₃) :
    Grows c₁ c₃ :=
  ⟨h₂.1.trans h₁.1, h₂.2.trans h₁.2, h₂.3.trans h₁.3, fun k hk => h₂.4 k (h₁.4 k hk),
    fun k hk => h₂.5 k (h₁.5 k hk), fun k hk => h₂.6 k (h₁.6 k hk), fun h => h₂.7 (h₁.7 h)⟩

theorem grows_insertIngress (c : ClientWrapper) (ns : String) (f : SharedInformerFactory) :
    Grows c { c with factoriesIngress := c.factoriesIngress.insert ns f } :=
  ⟨rfl, rfl, rfl, fun _ hk => AList.mem_insert _ |>.2 (.inr hk), fun _ => id, fun _ => id, id⟩

theorem grows_insertKube (c : ClientWrapper) (ns : String) (f : SharedInformerFactory) :
    Grows c { c with factoriesKube := c.factoriesKube.insert ns f } :=
  ⟨rfl, rfl, rfl, fun _ => id, fun _ hk => AList.mem_insert _ |>.2 (.inr hk), fun _ => id, id⟩

theorem grows_insertSecret (c : ClientWrapper) (ns : String) (f : SharedInformerFactory) :
    Grows c { c with factoriesSecret := c.factoriesSecret.insert ns f } :=
  ⟨rfl, rfl, rfl, fun _ => id, fun _ => id, fun _ hk => AList.mem_insert _ |>.2 (.inr hk), id⟩

/-- The client after the registrations of one namespace all succeeded. -/
def withFactories (c : ClientWrapper) (ns : String) : ClientWrapper :=
  { c with
    factoriesIngress := c.factoriesIngress.insert ns (c.ingressFactory ns)
    factoriesKube := c.factoriesKube.insert ns ⟨ns, none⟩
    factoriesSecret := c.factoriesSecret.insert ns ⟨ns, some "owner!=helm"⟩ }

/-- What the registrations of one namespace can do: stop with an error before any factory of it
is stored, after its ingress factory, or after its core factory; or store its three factories
and go on with the rest. -/
theorem registerInformers_cons (env : WatchEnv) (c : ClientWrapper) (i : Nat) (ns : String)
    (rest : List String) :
    (∃ err, c.registerInformers env i (ns :: rest) = (c, .error err) ∨
      c.registerInformers env i (ns :: rest) =
        ({ c with factoriesIngress := c.factoriesIngress.insert ns (c.ingressFactory ns) },
          .error err) ∨
      c.registerInformers env i (ns :: rest) =
        ({ c with
            factoriesIngress := c.factoriesIngress.insert ns (c.ingressFactory ns)
            factoriesKube := c.factoriesKube.insert ns ⟨ns, none⟩ }, .error err)) ∨
      c.registerInformers env i (ns :: rest) =
        (c.withFactories ns).registerInformers env (i + 1) rest := by
  simp only [registerInformers]
  split
  · exact .inl ⟨_, .inl rfl⟩
  · split
    · exact .inl ⟨_, .inr (.inl rfl)⟩
    · split
      · exact .inl ⟨_, .inr (.inl rfl)⟩
      · split
        · exact .inl ⟨_, .inr (.inr rfl)⟩
        · exact .inr rfl

/-- A property of clients that each factory write of the registrations keeps holds of every
client they return. -/
theorem registerInformers_induction (P : ClientWrapper → Prop)
    (hI : ∀ c ns, P c → P { c with factoriesIngress := c.factoriesIngress.insert ns (c.ingressFactory ns) })
    (hK : ∀ c ns, P c → P { c with factoriesKube := c.factoriesKube.insert ns ⟨ns, none⟩ })
    (hS : ∀ c ns, P c →
      P { c with factoriesSecret := c.factoriesSecret.insert ns ⟨ns, some "owner!=helm"⟩ })
    (env : WatchEnv) {c : ClientWrapper} (hc : P c) (i : Nat) (nss : List String) :
    P (c.registerInformers env i nss).1 := by
  induction nss generalizing c i with
  | nil => exact hc
  | cons ns rest ih =>
    rcases registerInformers_cons env c i ns rest with ⟨err, e | e | e⟩ | e <;> rw [e]
    · exact hc
    · exact hI c ns hc
    · exact hK _ ns (hI c ns hc)
    · exact ih (hS _ ns (hK _ ns (hI c ns hc))) _

/-- The registrations only add factories, whatever the cluster answers. -/
theorem grows_registerInformers (env : WatchEnv) (c : ClientWrapper) (i : Nat)
    (nss : List String) : Grows c (c.registerInformers env i nss).1 :=
  registerInformers_induction (Grows c) (fun _ ns h => h.trans (grows_insertIngress _ ns _))
    (fun _ ns h => h.trans (grows_insertKube _ ns _)) (fun _ ns h => h.trans (grows_insertSecret _ ns _))
    env (.refl c) i nss

/-- A registration loop that succeeds went through its first namespace. -/
theorem registerInformers_cons_of_ok {env : WatchEnv} {c : ClientWrapper} {i : Nat}
    {ns : String} {rest : List String}
    (h : (c.registerInformers env i (ns :: rest)).2 = .ok ()) :
    c.registerInformers env i (ns :: rest) = (c.withFactories ns).registerInformers env (i + 1) rest :=
  (registerInformers_cons env c i ns rest).resolve_left fun ⟨_, e⟩ => by
    rcases e with e | e | e <;> rw [e] at h <;> cases h

/-- Registrations that all succeed store a factory of each kind for every namespace. -/
theorem mem_of_registerInformers_ok (env : WatchEnv) (c : ClientWrapper) (i : Nat)
    (nss : List String) (h : (c.registerInformers env i nss).2 = .ok ()) :
    ∀ ns ∈ nss, ns ∈ (c.registerInformers env i nss).1.factoriesIngress ∧
      ns ∈ (c.registerInformers env i nss).1.factoriesKube ∧
      ns ∈ (c.registerInformers env i nss).1.factoriesSecret := by
  induction nss generalizing c i with
  | nil => simp
  | cons ns rest ih =>
    have e := registerInformers_cons_of_ok h
    rw [e] at h ⊢
    intro k hk
    rcases List.mem_cons.1 hk with rfl | hk
    · have hg := grows_registerInformers env (c.withFactories k) (i + 1) rest
      exact ⟨hg.ingress k (by simp [withFactories]), hg.kube k (by simp [withFactories]),
        hg.secret k (by simp [withFactories])⟩
    · exact ih _ _ h k hk

theorem registerInformers_single_ok {env : WatchEnv} {i : Nat}
    (h : ∀ informer, env.fails (.addEventHandler informer i) = none) (c : ClientWrapper)
    (ns : String) : (c.registerInformers env i [ns]).2 = .ok () := by
  simp [registerInformers, h]

theorem grows_watchIngressClasses (env : WatchEnv) (c : ClientWrapper) :
    Grows c (c.watchIngressClasses env).1 := by
  unfold watchIngressClasses
  split
  · exact .refl c
  · split <;> (try split) <;>
      exact ⟨rfl, rfl, rfl, fun _ => id, fun _ => id, fun _ => id, fun _ => rfl⟩

/-- With the ingress-class informer enabled, the ingress-class part loads the cluster-wide
factory before any of its calls can fail. -/
theorem clusterFactory_watchIngressClasses (env : WatchEnv) {c : ClientWrapper}
    (h : c.disableIngressClassInformer = false) :
    (c.watchIngressClasses env).1.clusterFactory = some ⟨namespaceAll, none⟩ := by
  simp only [watchIngressClasses, h, Bool.false_eq_true, if_false]
  split <;> (try split) <;> rfl

/-- Every error of the cache-sync loop names a namespace of its list. -/
theorem waitForCacheSyncs_error (env : WatchEnv) {i : Nat} {nss : List String} {err : String}
    (h : waitForCacheSyncs env i nss = .error err) :
    ∃ ns ∈ nss, ∃ typ, err = cacheSyncError typ ns := by
  induction nss generalizing i with
  | nil => simp [waitForCacheSyncs] at h
  | cons ns rest ih =>
    simp only [waitForCacheSyncs] at h
    split at h
    · cases h
      exact ⟨ns, List.mem_cons_self _ _, _, rfl⟩
    · split at h
      · cases h
        exact ⟨ns, List.mem_cons_self _ _, _, rfl⟩
      · split at h
        · cases h
          exact ⟨ns, List.mem_cons_self _ _, _, rfl⟩
        · obtain ⟨n, hn, typ, rfl⟩ := ih h
          exact ⟨n, List.mem_cons_of_mem _ hn, typ, rfl⟩

/-- What one `WatchAll` call leaves: the client unchanged after a failed version call, or a
client grown from the registrations over the watched list, which a successful call
completed. -/
theorem watchAll_cases (c : ClientWrapper) (N : List String) (env : WatchEnv) :
    (c.watchAll N env).1 = c ∧ (c.watchAll N env).2 ≠ .ok () ∨
      Grows ((c.prepareWatch env N).registerInformers env 0 (watchedList N)).1
          (c.watchAll N env).1 ∧
        ((c.watchAll N env).2 = .ok () →
          ((c.prepareWatch env N).registerInformers env 0 (watchedList N)).2 = .ok () ∧
            c.watchAll N env =
              ((c.prepareWatch env N).registerInformers env 0 (watchedList N)).1.watchIngressClasses
                env) := by
  unfold watchAll
  split
  · exact .inl ⟨rfl, by simp⟩
  · split
    · exact .inl ⟨rfl, by simp⟩
    · split
      · next h => exact .inr ⟨by rw [h]; exact .refl _, by simp⟩
      · next h =>
        rw [h]
        split
        · exact .inr ⟨.refl _, by simp⟩
        · exact .inr ⟨grows_watchIngressClasses env _, fun _ => ⟨rfl, rfl⟩⟩

/-! ## The guard -/

/-- The guard of the getters is sound: a namespace it lets through has a factory of each kind
under its lookup key. -/
def GuardSafe (c : ClientWrapper) : Prop :=
  ∀ ns, c.isWatchedNamespace ns = true →
    c.lookupNamespace ns ∈ c.factoriesIngress ∧ c.lookupNamespace ns ∈ c.factoriesKube ∧
      c.lookupNamespace ns ∈ c.factoriesSecret

/-- The all-namespaces flag is backed by the `""` factories. -/
def Covered (c : ClientWrapper) : Prop :=
  c.isNamespaceAll = true →
    namespaceAll ∈ c.factoriesIngress ∧ namespaceAll ∈ c.factoriesKube ∧
      namespaceAll ∈ c.factoriesSecret

/-- A cluster that accepts the informer registrations of the first namespace. -/
def RegistersFirst (env : WatchEnv) : Prop :=
  ∀ informer, env.fails (.addEventHandler informer 0) = none

/-- A cluster whose informers accept every event handler `WatchAll` registers. client-go refuses
a handler only on a stopped informer, and `WatchAll` registers on informers it has just created,
so every real cluster is of this kind. -/
def AcceptsHandlers (env : WatchEnv) : Prop :=
  ∀ informer i, env.fails (.addEventHandler informer i) = none

theorem Grows.mem {c c' : ClientWrapper} (h : Grows c c') {k : String}
    (hk : k ∈ c.factoriesIngress ∧ k ∈ c.factoriesKube ∧ k ∈ c.factoriesSecret) :
    k ∈ c'.factoriesIngress ∧ k ∈ c'.factoriesKube ∧ k ∈ c'.factoriesSecret :=
  ⟨h.ingress k hk.1, h.kube k hk.2.1, h.secret k hk.2.2⟩

/-- A call keeps the flag backed unless it watches all namespaces and a registration of its
namespace fails. -/
theorem covered_watchAll {c : ClientWrapper} (hc : Covered c) (N : List String)
    {env : WatchEnv} (h : N ≠ [] ∨ RegistersFirst env) : Covered (c.watchAll N env).1 := by
  rcases watchAll_cases c N env with ⟨heq, -⟩ | ⟨hg, -⟩
  · rwa [heq]
  · have hreg := grows_registerInformers env (c.prepareWatch env N) 0 (watchedList N)
    intro hall
    rw [hg.isNamespaceAll, hreg.isNamespaceAll] at hall
    refine hg.mem ?_
    by_cases hN : N = []
    · have hok := registerInformers_single_ok (h.resolve_left (not_not.2 hN))
        (c.prepareWatch env N) namespaceAll
      simp only [watchedList, hN, if_true] at hok ⊢
      exact mem_of_registerInformers_ok env _ 0 _ hok namespaceAll (List.mem_singleton_self _)
    · simp only [prepareWatch, hN, if_false] at hall
      exact hreg.mem (hc hall)

/-- A successful call from a backed client leaves the guard sound. -/
theorem guardSafe_watchAll {c : ClientWrapper} (hc : Covered c) {N : List String}
    {env : WatchEnv} (hok : (c.watchAll N env).2 = .ok ()) : GuardSafe (c.watchAll N env).1 := by
  rcases watchAll_cases c N env with ⟨-, hne⟩ | ⟨hg, hreg⟩
  · exact absurd hok hne
  · have hmem := mem_of_registerInformers_ok env _ 0 _ (hreg hok).1
    have hgr := grows_registerInformers env (c.prepareWatch env N) 0 (watchedList N)
    have hall : (c.watchAll N env).1.isNamespaceAll = if N = [] then true else c.isNamespaceAll :=
      hg.isNamespaceAll.trans hgr.isNamespaceAll
    have hwatched : (c.watchAll N env).1.watchedNamespaces = watchedList N :=
      hg.watchedNamespaces.trans hgr.watchedNamespaces
    intro ns hw
    unfold isWatchedNamespace at hw
    unfold lookupNamespace
    rw [hall] at hw ⊢
    rw [hwatched] at hw
    by_cases hN : N = []
    · rw [if_pos hN]
      exact hg.mem (hmem namespaceAll (by simp [watchedList, hN]))
    · rw [if_neg hN] at hw ⊢
      split
      · next hall => exact hg.mem (hgr.mem (hc hall))
      · next hall =>
        have hns : ns ∈ watchedList N := by simpa [hall] using hw
        exact hg.mem (hmem ns hns)

theorem covered_newClientImpl : Covered newClientImpl := by
  simp [Covered, newClientImpl]

theorem covered_watchAllRun {c : ClientWrapper} (hc : Covered c)
    (calls : List (List String × WatchEnv))
    (h : ∀ call ∈ calls, call.1 ≠ [] ∨ RegistersFirst call.2) :
    Covered (c.watchAllRun calls) := by
  induction calls generalizing c with
  | nil => exact hc
  | cons call calls ih =>
    exact ih (covered_watchAll hc call.1 (h call (List.mem_cons_self _ _)))
      fun call' hc' => h call' (List.mem_cons_of_mem _ hc')

/-- In every run from `newClientImpl` in which no all-namespaces call fails its informer
registrations, a last `WatchAll` that returns `nil` leaves the guard sound. -/
theorem guardSafe_watchAllRun (calls : List (List String × WatchEnv))
    (h : ∀ call ∈ calls, call.1 ≠ [] ∨ RegistersFirst call.2) (N : List String) (env : WatchEnv)
    (hok : ((newClientImpl.watchAllRun calls).watchAll N env).2 = .ok ()) :
    GuardSafe ((newClientImpl.watchAllRun calls).watchAll N env).1 :=
  guardSafe_watchAll (covered_watchAllRun covered_newClientImpl calls h) hok

/-- `guardSafe_watchAllRun` after a failed call on a namespace list. -/
theorem guardSafe_after_failed_namespace_list :
    (∀ call ∈ [(["a"], (⟨"v1.28.0", fun _ => some "refused"⟩ : WatchEnv))],
        call.1 ≠ [] ∨ RegistersFirst call.2) ∧
      ((newClientImpl.watchAllRun [(["a"], ⟨"v1.28.0", fun _ => some "refused"⟩)]).watchAll
        ["b"] ⟨"v1.28.0", fun _ => none⟩).2 = .ok () ∧
      GuardSafe ((newClientImpl.watchAllRun [(["a"], ⟨"v1.28.0", fun _ => some "refused"⟩)]).watchAll
        ["b"] ⟨"v1.28.0", fun _ => none⟩).1 :=
  ⟨by simp, rfl, guardSafe_watchAllRun _ (by simp) _ _ rfl⟩

/-! ## A sound guard never reaches a missing factory -/

theorem lookupFactory_ne_panic {c : ClientWrapper} (h : GuardSafe c) {factories : Factories}
    (hf : factories = c.factoriesIngress ∨ factories = c.factoriesKube ∨
      factories = c.factoriesSecret) (kind ns name : String) :
    c.lookupFactory factories kind ns name ≠ .panic := by
  unfold lookupFactory
  split
  · simp
  · next hw =>
    have hk := h ns (by simpa using hw)
    have hmem : c.lookupNamespace ns ∈ factories := by
      rcases hf with rfl | rfl | rfl
      exacts [hk.1, hk.2.1, hk.2.2]
    obtain ⟨f, hf⟩ := Option.isSome_iff_exists.1 (AList.lookup_isSome.2 hmem)
    simp [hf]

theorem getFrom_ne_panic {α : Type} {c : ClientWrapper} (h : GuardSafe c) {factories : Factories}
    (hf : factories = c.factoriesIngress ∨ factories = c.factoriesKube ∨
      factories = c.factoriesSecret) (kind : String)
    (lister : SharedInformerFactory → String → String → Option α × Option KubeError)
    (ns name : String) : c.getFrom factories kind lister ns name ≠ .panic := by
  unfold getFrom
  have := lookupFactory_ne_panic h hf kind ns name
  split
  · simp
  · contradiction
  · simp

/-- Under a sound guard, `UpdateIngressStatus` never panics. -/
theorem updateIngressStatus_ne_panic {c : ClientWrapper} (h : GuardSafe c)
    (getIngress : SharedInformerFactory → String → String → Except String Ingress)
    (updateStatus : Ingress → Except String Unit) (src : Ingress)
    (ingStatus : List IngressLoadBalancerIngress) :
    c.updateIngressStatus getIngress updateStatus src ingStatus ≠ .panic := by
  unfold updateIngressStatus
  have := lookupFactory_ne_panic h (.inl rfl) "ingress" src.ns src.name
  split
  · simp
  · contradiction
  · split
    · simp
    · split
      · simp
      · split <;> simp

/-- After any run of `WatchAll` calls from `newClientImpl` on clusters that accept the event
handlers, each call failing at any other step or succeeding, a last call that returns `nil`
leaves the guard sound: every namespace `isWatchedNamespace` lets through has a factory of each
kind under `lookupNamespace`, so `GetService`, `GetEndpoints`, `GetSecret` and
`UpdateIngressStatus` never read a missing factory. -/
theorem getters_ne_panic_watchAllRun {α : Type} (calls : List (List String × WatchEnv))
    (h : ∀ call ∈ calls, AcceptsHandlers call.2) (N : List String) (env : WatchEnv) :
    match (newClientImpl.watchAllRun calls).watchAll N env with
    | (c, result) => result = .ok () →
      GuardSafe c ∧
        (∀ (lister : SharedInformerFactory → String → String → Option α × Option KubeError)
            ns name, c.getService lister ns name ≠ .panic ∧
          c.getEndpoints lister ns name ≠ .panic ∧ c.getSecret lister ns name ≠ .panic) ∧
        ∀ getIngress updateStatus src ingStatus,
          c.updateIngressStatus getIngress updateStatus src ingStatus ≠ .panic := by
  have hcov := covered_watchAllRun covered_newClientImpl calls
    fun call hc => .inr fun informer => h call hc informer 0
  have hsafe := @guardSafe_watchAll _ hcov N env
  generalize (newClientImpl.watchAllRun calls).watchAll N env = r at hsafe
  obtain ⟨c, result⟩ := r
  rintro rfl
  have hg : GuardSafe c := hsafe rfl
  exact ⟨hg, fun lister ns name => ⟨getFrom_ne_panic hg (.inr (.inl rfl)) _ lister ns name,
    getFrom_ne_panic hg (.inr (.inl rfl)) _ lister ns name,
    getFrom_ne_panic hg (.inr (.inr rfl)) _ lister ns name⟩, updateIngressStatus_ne_panic hg⟩

/-- `getters_ne_panic_watchAllRun` after an all-namespaces call whose ingress cache never syncs,
then a successful call on `["foo"]`. -/
theorem getters_ne_panic_after_failed_sync :
    (∀ call ∈ [(([] : List String), (⟨"v1.28.0", fun call =>
        if call = .waitForCacheSync .ingress 0 then some "*v1.Ingress" else none⟩ : WatchEnv))],
        AcceptsHandlers call.2) ∧
      ((newClientImpl.watchAllRun [([], ⟨"v1.28.0", fun call =>
        if call = .waitForCacheSync .ingress 0 then some "*v1.Ingress" else none⟩)]).watchAll
          ["foo"] ⟨"v1.28.0", fun _ => none⟩).2 = .ok () ∧
      GuardSafe ((newClientImpl.watchAllRun [([], ⟨"v1.28.0", fun call =>
        if call = .waitForCacheSync .ingress 0 then some "*v1.Ingress" else none⟩)]).watchAll
          ["foo"] ⟨"v1.28.0", fun _ => none⟩).1 :=
  have h : ∀ call ∈ [(([] : List String), (⟨"v1.28.0", fun call =>
      if call = .waitForCacheSync .ingress 0 then some "*v1.Ingress" else none⟩ : WatchEnv))],
      AcceptsHandlers call.2 := by
    simp [AcceptsHandlers]
  ⟨h, rfl, (@getters_ne_panic_watchAllRun Unit _ h ["foo"] ⟨"v1.28.0", fun _ => none⟩ rfl).1⟩

/-! ## The cluster factory of `GetIngressClasses`

The cluster-wide factory is only ever written with the same value and never removed, so once a
call loads it every later call keeps it, whether that call succeeds or not. -/

theorem clusterFactory_watchAll_of_loaded {c : ClientWrapper}
    (h : c.clusterFactory = some ⟨namespaceAll, none⟩) (N : List String) (env : WatchEnv) :
    (c.watchAll N env).1.clusterFactory = some ⟨namespaceAll, none⟩ := by
  rcases watchAll_cases c N env with ⟨heq, -⟩ | ⟨hg, -⟩
  · rwa [heq]
  · exact hg.clusterFactory ((grows_registerInformers env _ 0 _).clusterFactory h)

/-- A successful call with the ingress-class informer enabled loads the cluster factory. -/
theorem clusterFactory_watchAll_of_ok {c : ClientWrapper} {N : List String} {env : WatchEnv}
    (hok : (c.watchAll N env).2 = .ok ()) (hd : c.disableIngressClassInformer = false) :
    (c.watchAll N env).1.clusterFactory = some ⟨namespaceAll, none⟩ := by
  rcases watchAll_cases c N env with ⟨-, hne⟩ | ⟨-, hreg⟩
  · exact absurd hok hne
  · rw [(hreg hok).2]
    exact clusterFactory_watchIngressClasses env
      ((grows_registerInformers env _ 0 _).disableIngressClassInformer.trans hd)

theorem clusterFactory_watchAllRun {c : ClientWrapper}
    (h : c.clusterFactory = some ⟨namespaceAll, none⟩) (calls : List (List String × WatchEnv)) :
    (c.watchAllRun calls).clusterFactory = some ⟨namespaceAll, none⟩ := by
  induction calls generalizing c with
  | nil => exact h
  | cons call calls ih => exact ih (clusterFactory_watchAll_of_loaded h call.1 call.2)

theorem getIngressClasses_of_clusterFactory {c : ClientWrapper} {f : SharedInformerFactory}
    (h : c.clusterFactory = some f) (controller : String)
    (lister : SharedInformerFactory → Except String (List IngressClass)) :
    c.getIngressClasses controller lister =
      (lister f).map (List.filter fun ic => ic.controller == controller) := by
  simp only [getIngressClasses, h]
  cases lister f <;> rfl

/-- Once a `WatchAll` with the ingress-class informer enabled has succeeded, `GetIngressClasses`
reads the cluster-wide informer after any further `WatchAll` calls, failed ones included: it
never again answers "cluster factory not loaded". -/
theorem getIngressClasses_after_watchAll {c : ClientWrapper} {N : List String} {env : WatchEnv}
    (hok : (c.watchAll N env).2 = .ok ()) (hd : c.disableIngressClassInformer = false)
    (calls : List (List String × WatchEnv)) (controller : String)
    (lister : SharedInformerFactory → Except String (List IngressClass)) :
    ((c.watchAll N env).1.watchAllRun calls).getIngressClasses controller lister =
      (lister ⟨namespaceAll, none⟩).map (List.filter fun ic => ic.controller == controller) :=
  getIngressClasses_of_clusterFactory
    (clusterFactory_watchAllRun (clusterFactory_watchAll_of_ok hok hd) calls) controller lister

/-- `getIngressClasses_after_watchAll` after a successful call on `["default"]` and a failed
all-namespaces call. -/
theorem getIngressClasses_after_failed_rewatch :
    (newClientImpl.watchAll ["default"] ⟨"v1.28.0", fun _ => none⟩).2 = .ok () ∧
      newClientImpl.disableIngressClassInformer = false ∧
      ((newClientImpl.watchAll ["default"] ⟨"v1.28.0", fun _ => none⟩).1.watchAllRun
          [([], ⟨"v1.28.0", fun _ => some "refused"⟩)]).getIngressClasses
          "traefik.io/ingress-controller"
          (fun _ => .ok [⟨"traefik", "traefik.io/ingress-controller"⟩, ⟨"nginx", "nginx"⟩]) =
        .ok [⟨"traefik", "traefik.io/ingress-controller"⟩] :=
  ⟨rfl, rfl, @getIngressClasses_after_watchAll newClientImpl ["default"] ⟨"v1.28.0", fun _ => none⟩
    rfl rfl _ _ _⟩

/-! ## The factories a run stores

Every factory `WatchAll` stores watches the namespace it is stored under, with its kind's list
selector, and no call ever stores another. So every object a getter returns was listed in the
namespace `lookupNamespace` names, and secrets only through the factory that leaves out those
owned by Helm. -/

/-- Each stored factory watches its key, with its kind's label selector: the client's ingress
selector, none for services and endpoints, `owner!=helm` for secrets. -/
structure FactoriesWellFormed (c : ClientWrapper) : Prop where
  ingress : ∀ ns f, c.factoriesIngress.lookup ns = some f → f = c.ingressFactory ns
  kube : ∀ ns f, c.factoriesKube.lookup ns = some f → f = ⟨ns, none⟩
  secret : ∀ ns f, c.factoriesSecret.lookup ns = some f → f = ⟨ns, some "owner!=helm"⟩

/-- Writing the factory a key should have keeps every stored factory the one its key should
have. -/
theorem lookup_insert_of_form {m : Factories} {g : String → SharedInformerFactory}
    (h : ∀ k f, m.lookup k = some f → f = g k) (ns : String) :
    ∀ k f, (m.insert ns (g ns)).lookup k = some f → f = g k := by
  intro k f hf
  by_cases hk : k = ns
  · subst hk
    rw [AList.lookup_insert] at hf
    exact (Option.some.inj hf).symm
  · rw [AList.lookup_insert_ne hk] at hf
    exact h k f hf

/-- A property that the assignments before the loops, each factory write and the ingress-class
part keep holds after every `WatchAll` call, whatever its outcome. -/
theorem watchAll_induction (P : ClientWrapper → Prop)
    (hprep : ∀ c env N, P c → P (c.prepareWatch env N))
    (hI : ∀ c ns, P c → P { c with factoriesIngress := c.factoriesIngress.insert ns (c.ingressFactory ns) })
    (hK : ∀ c ns, P c → P { c with factoriesKube := c.factoriesKube.insert ns ⟨ns, none⟩ })
    (hS : ∀ c ns, P c →
      P { c with factoriesSecret := c.factoriesSecret.insert ns ⟨ns, some "owner!=helm"⟩ })
    (hcl : ∀ c env, P c → P (c.watchIngressClasses env).1)
    {c : ClientWrapper} (hc : P c) (N : List String) (env : WatchEnv) : P (c.watchAll N env).1 := by
  have hreg := registerInformers_induction P hI hK hS env (hprep c env N hc) 0 (watchedList N)
  unfold watchAll
  split
  · exact hc
  · split
    · exact hc
    · split
      · next h => rw [h] at hreg; exact hreg
      · next h =>
        rw [h] at hreg
        split
        · exact hreg
        · exact hcl _ env hreg

theorem factoriesWellFormed_watchAll {c : ClientWrapper} (hc : FactoriesWellFormed c)
    (N : List String) (env : WatchEnv) : FactoriesWellFormed (c.watchAll N env).1 := by
  refine watchAll_induction FactoriesWellFormed (fun _ _ _ h => ⟨h.1, h.2, h.3⟩)
    (fun c ns h => ⟨lookup_insert_of_form (g := c.ingressFactory) h.1 ns, h.2, h.3⟩)
    (fun _ ns h => ⟨h.1, lookup_insert_of_form (g := fun k => ⟨k, none⟩) h.2 ns, h.3⟩)
    (fun _ ns h => ⟨h.1, h.2, lookup_insert_of_form (g := fun k => ⟨k, some "owner!=helm"⟩) h.3 ns⟩)
    (fun c env h => ?_) hc N env
  unfold watchIngressClasses
  split
  · exact h
  · split <;> (try split) <;> exact ⟨h.1, h.2, h.3⟩

theorem FactoriesWellFormed.run {c : ClientWrapper} (hc : FactoriesWellFormed c)
    (calls : List (List String × WatchEnv)) : FactoriesWellFormed (c.watchAllRun calls) := by
  induction calls generalizing c with
  | nil => exact hc
  | cons call calls ih => exact ih (factoriesWellFormed_watchAll hc call.1 call.2)

/-- Every state a run of `WatchAll` calls reaches from a well-formed client is well formed,
whatever each call returns. -/
theorem factoriesWellFormed_watchAllRun {c : ClientWrapper} (hc : FactoriesWellFormed c)
    (calls : List (List String × WatchEnv)) : FactoriesWellFormed (c.watchAllRun calls) :=
  hc.run calls

theorem factoriesWellFormed_empty (c : ClientWrapper) (hI : c.factoriesIngress = ∅)
    (hK : c.factoriesKube = ∅) (hS : c.factoriesSecret = ∅) : FactoriesWellFormed c :=
  ⟨by simp [hI], by simp [hK], by simp [hS]⟩

/-- `factoriesWellFormed_watchAllRun` from a fresh client with an ingress label selector, over a
failed all-namespaces call and a successful call on `["default"]`. -/
theorem factoriesWellFormed_selector_run :
    FactoriesWellFormed { newClientImpl with ingressLabelSelector := "app=web" } ∧
      FactoriesWellFormed ({ newClientImpl with ingressLabelSelector := "app=web" }.watchAllRun
        [([], ⟨"v1.28.0", fun call : WatchCall =>
          if call = WatchCall.addEventHandler .secrets 0 then some "refused" else none⟩),
          (["default"], ⟨"v1.28.0", fun _ => none⟩)]) :=
  have h := factoriesWellFormed_empty { newClientImpl with ingressLabelSelector := "app=web" }
    rfl rfl rfl
  ⟨h, factoriesWellFormed_watchAllRun h _⟩

theorem getFrom_eq_found {α : Type} {c : ClientWrapper} {factories : Factories} {kind : String}
    {lister : SharedInformerFactory → String → String → Option α × Option KubeError}
    {ns name : String} {obj : Option α} {exist : Bool} {err : Option KubeError}
    (h : c.getFrom factories kind lister ns name = .found obj exist err) :
    ∃ f err₀, factories.lookup (c.lookupNamespace ns) = some f ∧ lister f ns name = (obj, err₀) ∧
      translateNotFoundError err₀ = (exist, err) := by
  unfold getFrom at h
  split at h
  · cases h
  · cases h
  · next f hf =>
    unfold lookupFactory at hf
    split at hf
    · cases hf
    · split at hf
      · cases hf
      · next f' hl =>
        cases hf
        rcases hlist : lister f ns name with ⟨obj', err₀⟩
        rcases htr : translateNotFoundError err₀ with ⟨exist', err'⟩
        simp only [hlist, htr, GetResult.found.injEq] at h
        obtain ⟨rfl, rfl, rfl⟩ := h
        exact ⟨f, err₀, hl, hlist, htr⟩

/-- After any run of `WatchAll` calls from a well-formed client, every secret `GetSecret` returns
was listed through the factory of `lookupNamespace ns` that leaves out Helm-owned secrets. -/
theorem getSecret_found_watchAllRun {c : ClientWrapper} (hc : FactoriesWellFormed c)
    (calls : List (List String × WatchEnv)) {α : Type}
    (lister : SharedInformerFactory → String → String → Option α × Option KubeError)
    (ns name : String) {obj : Option α} {exist : Bool} {err : Option KubeError}
    (h : (c.watchAllRun calls).getSecret lister ns name = .found obj exist err) :
    ∃ err₀, lister ⟨(c.watchAllRun calls).lookupNamespace ns, some "owner!=helm"⟩ ns name =
      (obj, err₀) ∧ translateNotFoundError err₀ = (exist, err) := by
  obtain ⟨f, err₀, hf, hl, ht⟩ := getFrom_eq_found h
  exact ⟨err₀, (hc.run calls).secret _ f hf ▸ hl, ht⟩

/-- `getSecret_found_watchAllRun` after a successful call on `["default"]`, with a lister that
answers with the factory it was given. -/
theorem getSecret_found_default :
    FactoriesWellFormed newClientImpl ∧
      (newClientImpl.watchAllRun [(["default"], ⟨"v1.28.0", fun _ => none⟩)]).getSecret
          (fun f _ _ => (some f, none)) "default" "db" =
        .found (some ⟨"default", some "owner!=helm"⟩) true none ∧
      ∃ err₀, (fun f _ _ => (some f, none) : SharedInformerFactory → String → String →
          Option SharedInformerFactory × Option KubeError)
        ⟨(newClientImpl.watchAllRun [(["default"], ⟨"v1.28.0", fun _ => none⟩)]).lookupNamespace
          "default", some "owner!=helm"⟩ "default" "db" =
          (some ⟨"default", some "owner!=helm"⟩, err₀) ∧ translateNotFoundError err₀ = (true, none) :=
  have h := factoriesWellFormed_empty newClientImpl rfl rfl rfl
  have hf : (newClientImpl.watchAllRun [(["default"], ⟨"v1.28.0", fun _ => none⟩)]).getSecret
      (fun f _ _ => (some f, none)) "default" "db" =
        .found (some ⟨"default", some "owner!=helm"⟩) true none := rfl
  ⟨h, hf, getSecret_found_watchAllRun h _ _ _ _ hf⟩

/-! ## What `GetIngresses` lists after `WatchAll`

A successful call stores one ingress factory per namespace of its list, a repeated namespace
overwriting its own entry, so the map holds each distinct namespace once. The listing is stated
up to order, as Go's map iteration order is unspecified. -/

/-- The log-and-continue loop of `GetIngresses` appends the listings that succeed. -/
theorem foldl_appendListing (lister : SharedInformerFactory → Except String (List Ingress))
    (l : List ((_ : String) × SharedInformerFactory)) (acc : List Ingress) :
    l.foldl (appendListing lister) acc = acc ++ l.flatMap fun e => (lister e.2).toOption.getD [] := by
  induction l generalizing acc with
  | nil => simp
  | cons e l ih =>
    rw [List.foldl_cons, ih, List.flatMap_cons, appendListing]
    cases lister e.2 <;> simp [Except.toOption]

theorem getIngresses_eq_flatMap (c : ClientWrapper)
    (lister : SharedInformerFactory → Except String (List Ingress)) :
    c.getIngresses lister =
      c.factoriesIngress.entries.flatMap fun e => (lister e.2).toOption.getD [] :=
  (foldl_appendListing lister _ []).trans (List.nil_append _)

theorem lookup_foldl_insert (g : String → SharedInformerFactory) (l : List String)
    (m : Factories) (k : String) :
    (l.foldl (fun m ns => m.insert ns (g ns)) m).lookup k =
      if k ∈ l then some (g k) else m.lookup k := by
  induction l generalizing m with
  | nil => simp
  | cons ns l ih =>
    rw [List.foldl_cons, ih]
    by_cases hk : k ∈ l
    · simp [hk]
    · by_cases h : k = ns
      · subst h
        simp [hk]
      · simp [hk, h, AList.lookup_insert_ne h]

/-- Inserting the factory of each namespace of `l` into an empty map stores each distinct
namespace once. -/
theorem entries_foldl_insert_perm (g : String → SharedInformerFactory) (l : List String) :
    (l.foldl (fun (m : Factories) ns => m.insert ns (g ns)) ∅).entries.Perm
      (l.dedup.map fun ns => (⟨ns, g ns⟩ : (_ : String) × SharedInformerFactory)) := by
  refine (List.perm_ext_iff_of_nodup (AList.nodupKeys _).nodup
    ((List.nodup_dedup l).map fun _ _ h => congrArg Sigma.fst h)).2 fun ⟨k, f⟩ => ?_
  rw [← AList.mem_lookup_iff, Option.mem_def, lookup_foldl_insert]
  simp [List.mem_dedup, and_left_comm]

theorem factoriesIngress_registerInformers_of_ok {env : WatchEnv} {c : ClientWrapper} {i : Nat}
    {nss : List String} (h : (c.registerInformers env i nss).2 = .ok ()) :
    (c.registerInformers env i nss).1.factoriesIngress =
      nss.foldl (fun m ns => m.insert ns (c.ingressFactory ns)) c.factoriesIngress := by
  induction nss generalizing c i with
  | nil => rfl
  | cons ns rest ih =>
    have e := registerInformers_cons_of_ok h
    rw [e] at h ⊢
    exact ih h

theorem factoriesIngress_watchIngressClasses (env : WatchEnv) (c : ClientWrapper) :
    (c.watchIngressClasses env).1.factoriesIngress = c.factoriesIngress := by
  unfold watchIngressClasses
  split
  · rfl
  · split <;> (try split) <;> rfl

theorem factoriesIngress_watchAll_of_ok {c : ClientWrapper} {N : List String} {env : WatchEnv}
    (hok : (c.watchAll N env).2 = .ok ()) :
    (c.watchAll N env).1.factoriesIngress =
      (watchedList N).foldl (fun m ns => m.insert ns (c.ingressFactory ns)) c.factoriesIngress := by
  rcases watchAll_cases c N env with ⟨-, hne⟩ | ⟨-, hreg⟩
  · exact absurd hok hne
  · rw [(hreg hok).2, factoriesIngress_watchIngressClasses]
    exact factoriesIngress_registerInformers_of_ok (hreg hok).1

/-- From a client with no ingress factory, a successful `WatchAll` leaves `GetIngresses` listing
each distinct watched namespace's ingresses once, up to order, even when the namespace list
repeats a namespace; a namespace whose listing fails contributes nothing. -/
theorem getIngresses_watchAll {c : ClientWrapper} (h0 : c.factoriesIngress = ∅)
    {N : List String} {env : WatchEnv} (hok : (c.watchAll N env).2 = .ok ())
    (lister : SharedInformerFactory → Except String (List Ingress)) :
    ((c.watchAll N env).1.getIngresses lister).Perm
      ((watchedList N).dedup.flatMap fun ns => (lister (c.ingressFactory ns)).toOption.getD []) := by
  rw [getIngresses_eq_flatMap, factoriesIngress_watchAll_of_ok hok, h0]
  simpa [List.flatMap_map] using
    (entries_foldl_insert_perm c.ingressFactory (watchedList N)).flatMap_right
      fun e => (lister e.2).toOption.getD []

/-- `getIngresses_watchAll` on a list that names `"a"` twice. -/
theorem getIngresses_repeated_namespace :
    newClientImpl.factoriesIngress = ∅ ∧
      (newClientImpl.watchAll ["a", "a"] ⟨"v1.28.0", fun _ => none⟩).2 = .ok () ∧
      ((newClientImpl.watchAll ["a", "a"] ⟨"v1.28.0", fun _ => none⟩).1.getIngresses
          fun f => .ok [⟨f.ns, "whoami", []⟩]).Perm
        ((watchedList ["a", "a"]).dedup.flatMap fun ns =>
          ((fun f => .ok [⟨f.ns, "whoami", []⟩] : SharedInformerFactory →
            Except String (List Ingress)) (newClientImpl.ingressFactory ns)).toOption.getD []) :=
  ⟨rfl, rfl, @getIngresses_watchAll newClientImpl rfl ["a", "a"] ⟨"v1.28.0", fun _ => none⟩ rfl _⟩

end ClientWrapper

end Traefik.Kubernetes.Ingress

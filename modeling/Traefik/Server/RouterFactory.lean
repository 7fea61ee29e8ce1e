import Mathlib.Data.List.GetD

/-!
# Router factory generations

Reference: `pkg/server/routerfactory.go`.

Each `CreateRouters` call first cancels the context of the previous call through
`cancelPrevState`, then creates a fresh context with `context.WithCancel(context.Background())`
and hands it to every builder of the new generation: the HTTP handlers, plain and TLS, the health
checks, and the TCP and UDP handlers. The builders themselves live outside this repository; the
model records which context each of them received.

`Generations` is the invariant of a run: all contexts created by earlier calls are cancelled, the
latest is live, `cancelPrevState` cancels the latest, and the builder calls made so far are,
generation after generation, the calls of `CreateRouters` with that generation's own context.
`Generations.createRouters` shows that one call keeps it, and `generations_createRoutersRun` that
every run from `NewRouterFactory` has it: every builder of an earlier generation runs under a
cancelled context.
-/

namespace Traefik.Server

/-- The contexts of the process, in creation order: `done[i]` holds once context `i` is
cancelled. -/
structure Contexts where
  done : List Bool

namespace Contexts

/-- `context.WithCancel(context.Background())`: a fresh live context, returned by its index;
its cancel function is identified by the same index. -/
def withCancel (cs : Contexts) : Nat × Contexts := (cs.done.length, ⟨cs.done ++ [false]⟩)

/-- The cancel function of context `i`; a second call does nothing more. -/
def cancel (cs : Contexts) (i : Nat) : Contexts := ⟨cs.done.set i true⟩

/-- Whether context `i` is cancelled (`ctx.Err() != nil`). -/
def isCancelled (cs : Contexts) (i : Nat) : Bool := cs.done.getD i false

@[simp] theorem withCancel_fst (cs : Contexts) : cs.withCancel.1 = cs.done.length := rfl

@[simp] theorem length_withCancel (cs : Contexts) :
    cs.withCancel.2.done.length = cs.done.length + 1 := by
  simp [withCancel]

@[simp] theorem length_cancel (cs : Contexts) (i : Nat) :
    (cs.cancel i).done.length = cs.done.length := by
  simp [cancel]

theorem isCancelled_withCancel (cs : Contexts) (j : Nat) :
    cs.withCancel.2.isCancelled j = cs.isCancelled j := by
  unfold withCancel isCancelled
  by_cases hj : j < cs.done.length
  · exact List.getD_append _ _ _ _ hj
  · rw [List.getD_append_right _ _ _ _ (by omega),
      List.getD_eq_default cs.done false (by omega : cs.done.length ≤ j)]
    cases j - cs.done.length <;> rfl

theorem isCancelled_cancel (cs : Contexts) {i : Nat} (hi : i < cs.done.length) (j : Nat) :
    (cs.cancel i).isCancelled j = (j = i || cs.isCancelled j) := by
  unfold cancel isCancelled
  by_cases hj : j = i
  · subst hj
    simp [List.getD_eq_getElem?_getD, hi]
  · simp [List.getD_eq_getElem?_getD, List.getElem?_set_ne (Ne.symm hj), hj]

theorem isCancelled_of_length_le (cs : Contexts) {j : Nat} (h : cs.done.length ≤ j) :
    cs.isCancelled j = false :=
  List.getD_eq_default _ _ h

end Contexts

/-- A builder call of `CreateRouters` that receives the generation's context. -/
inductive BuildCall (C : Type) where
  /-- `routerManager.BuildHandlers(ctx, f.entryPointsTCP, tls)`. -/
  | httpHandlers (ctx : Nat) (rtConf : C) (entryPoints : List String) (tls : Bool)
  /-- `serviceManager.LaunchHealthCheck(ctx)`. -/
  | launchHealthCheck (ctx : Nat) (rtConf : C)
  /-- `rtTCPManager.BuildHandlers(ctx, f.entryPointsTCP)`. -/
  | tcpHandlers (ctx : Nat) (rtConf : C) (entryPoints : List String)
  /-- `rtUDPManager.BuildHandlers(ctx, f.entryPointsUDP)`. -/
  | udpHandlers (ctx : Nat) (rtConf : C) (entryPoints : List String)
  deriving DecidableEq, Repr

variable {C : Type}

/-- The context a builder call received. -/
def BuildCall.ctx : BuildCall C → Nat
  | httpHandlers ctx .. | launchHealthCheck ctx _ | tcpHandlers ctx .. | udpHandlers ctx .. => ctx

/-- What `CreateRouters` acts on outside the factory: the contexts, and the builder calls made
so far. -/
structure Runtime (C : Type) where
  contexts : Contexts
  calls : List (BuildCall C)

/-- `RouterFactory`, with the fields `CreateRouters` reads and writes. -/
structure RouterFactory where
  entryPointsTCP : List String
  entryPointsUDP : List String
  cancelPrevState : Option Nat

/-- The loop body of `NewRouterFactory`: an entry point whose protocol is `"udp"` goes to
`entryPointsUDP`, every other to `entryPointsTCP`. `getProtocol` is `EntryPoint.GetProtocol`,
whose error is only logged. -/
def addEntryPoint {E : Type} (getProtocol : E → String) (f : RouterFactory) (ep : String × E) :
    RouterFactory :=
  if getProtocol ep.2 = "udp" then { f with entryPointsUDP := f.entryPointsUDP ++ [ep.1] }
  else { f with entryPointsTCP := f.entryPointsTCP ++ [ep.1] }

/-- `NewRouterFactory`, over the static entry points in iteration order. -/
def newRouterFactory {E : Type} (getProtocol : E → String) (entryPoints : List (String × E)) :
    RouterFactory :=
  entryPoints.foldl (addEntryPoint getProtocol) ⟨[], [], none⟩

theorem foldl_addEntryPoint {E : Type} (getProtocol : E → String)
    (entryPoints : List (String × E)) (f : RouterFactory) :
    entryPoints.foldl (addEntryPoint getProtocol) f =
      ⟨f.entryPointsTCP ++ (entryPoints.filter (getProtocol ·.2 ≠ "udp")).map (·.1),
        f.entryPointsUDP ++ (entryPoints.filter (getProtocol ·.2 = "udp")).map (·.1),
        f.cancelPrevState⟩ := by
  induction entryPoints generalizing f with
  | nil => simp
  | cons ep eps ih =>
    rw [List.foldl_cons, ih]
    by_cases hp : getProtocol ep.2 = "udp" <;> simp [addEntryPoint, hp]

/-- `NewRouterFactory` splits the entry points by protocol, in order, and has no previous
state to cancel. -/
theorem newRouterFactory_eq {E : Type} (getProtocol : E → String)
    (entryPoints : List (String × E)) :
    newRouterFactory getProtocol entryPoints =
      ⟨(entryPoints.filter (getProtocol ·.2 ≠ "udp")).map (·.1),
        (entryPoints.filter (getProtocol ·.2 = "udp")).map (·.1), none⟩ := by
  simp [newRouterFactory, foldl_addEntryPoint]

namespace RouterFactory

/-- The builder calls of one generation, in the order `CreateRouters` makes them. -/
def generationCalls (f : RouterFactory) (rtConf : C) (ctx : Nat) : List (BuildCall C) :=
  [.httpHandlers ctx rtConf f.entryPointsTCP false, .httpHandlers ctx rtConf f.entryPointsTCP true,
    .launchHealthCheck ctx rtConf, .tcpHandlers ctx rtConf f.entryPointsTCP,
    .udpHandlers ctx rtConf f.entryPointsUDP]

/-- `CreateRouters`: the context of the new generation, the factory and the runtime after the
call. -/
def createRouters (f : RouterFactory) (rt : Runtime C) (rtConf : C) :
    Nat × RouterFactory × Runtime C :=
  let contexts := match f.cancelPrevState with
    | some cancelPrevState => rt.contexts.cancel cancelPrevState
    | none => rt.contexts
  let (ctx, contexts) := contexts.withCancel
  (ctx, { f with cancelPrevState := some ctx }, ⟨contexts, rt.calls ++ generationCalls f rtConf ctx⟩)

/-- Sequential `CreateRouters` calls, one per configuration: the contexts they created, in
order, and the final factory and runtime. -/
def createRoutersRun (f : RouterFactory) (rt : Runtime C) :
    List C → List Nat × RouterFactory × Runtime C
  | [] => ([], f, rt)
  | rtConf :: confs =>
    let r := f.createRouters rt rtConf
    let rs := r.2.1.createRoutersRun r.2.2 confs
    (r.1 :: rs.1, rs.2)

end RouterFactory

namespace RouterFactory

variable (f : RouterFactory) (rt : Runtime C) (rtConf : C)

/-! One lemma per output of `CreateRouters`: the new context is the next index, the factory
now cancels it, the builder calls append one generation, and the previous context is the only
one newly cancelled. -/

/-- `CreateRouters` in one equation; the case split on `cancelPrevState` is made here once. -/
theorem createRouters_eq : f.createRouters rt rtConf =
    (rt.contexts.done.length, { f with cancelPrevState := some rt.contexts.done.length },
      ⟨(f.cancelPrevState.elim rt.contexts rt.contexts.cancel).withCancel.2,
        rt.calls ++ f.generationCalls rtConf rt.contexts.done.length⟩) := by
  unfold createRouters
  cases f.cancelPrevState <;> simp [Contexts.withCancel]

@[simp] theorem createRouters_fst : (f.createRouters rt rtConf).1 = rt.contexts.done.length := by
  rw [createRouters_eq]

@[simp] theorem createRouters_cancelPrevState :
    (f.createRouters rt rtConf).2.1.cancelPrevState = some rt.contexts.done.length := by
  rw [createRouters_eq]

@[simp] theorem createRouters_calls :
    (f.createRouters rt rtConf).2.2.calls =
      rt.calls ++ f.generationCalls rtConf rt.contexts.done.length := by
  rw [createRouters_eq]

@[simp] theorem length_createRouters :
    (f.createRouters rt rtConf).2.2.contexts.done.length = rt.contexts.done.length + 1 := by
  rw [createRouters_eq]
  cases f.cancelPrevState <;> simp

@[simp] theorem createRouters_entryPoints :
    (f.createRouters rt rtConf).2.1.entryPointsTCP = f.entryPointsTCP ∧
      (f.createRouters rt rtConf).2.1.entryPointsUDP = f.entryPointsUDP := by
  rw [createRouters_eq]
  exact ⟨rfl, rfl⟩

theorem isCancelled_createRouters
    (hp : ∀ p, f.cancelPrevState = some p → p < rt.contexts.done.length) (j : Nat) :
    (f.createRouters rt rtConf).2.2.contexts.isCancelled j =
      (decide (f.cancelPrevState = some j) || rt.contexts.isCancelled j) := by
  rw [createRouters_eq, Contexts.isCancelled_withCancel]
  rcases hc : f.cancelPrevState with _ | p
  · simp
  · simp [Contexts.isCancelled_cancel _ (hp p hc), eq_comm]

@[simp] theorem ctx_of_mem_generationCalls {call : BuildCall C} {ctx : Nat}
    (h : call ∈ f.generationCalls rtConf ctx) : call.ctx = ctx := by
  simp only [generationCalls, List.mem_cons, List.mem_singleton, List.not_mem_nil, or_false] at h
  rcases h with rfl | rfl | rfl | rfl | rfl <;> rfl

/-- The builder calls of a generation depend only on the factory's entry points, which
`CreateRouters` keeps. -/
theorem generationCalls_createRouters (c : C) (ctx : Nat) :
    (f.createRouters rt rtConf).2.1.generationCalls c ctx = f.generationCalls c ctx := by
  rw [createRouters_eq]
  rfl

/-- A run appends to the builder calls only calls of the factory's generations. -/
theorem calls_createRoutersRun (confs : List C) :
    ∃ L, (f.createRoutersRun rt confs).2.2.calls = rt.calls ++ L ∧
      ∀ call ∈ L, ∃ rtConf ctx, call ∈ f.generationCalls rtConf ctx := by
  induction confs generalizing f rt with
  | nil => exact ⟨[], by simp [createRoutersRun], by simp⟩
  | cons rtConf confs ih =>
    obtain ⟨L, hL, hmem⟩ := ih (f.createRouters rt rtConf).2.1 (f.createRouters rt rtConf).2.2
    refine ⟨f.generationCalls rtConf rt.contexts.done.length ++ L, ?_, fun call hc => ?_⟩
    · rw [createRoutersRun, hL, createRouters_calls, List.append_assoc]
    · rcases List.mem_append.1 hc with hc | hc
      · exact ⟨rtConf, _, hc⟩
      · simpa only [generationCalls_createRouters] using hmem call hc

end RouterFactory

/-! ## Generations -/

/-- The invariant of a run made after the builder calls `pre`: `ctxs` are the contexts created by
its calls, one per configuration of `confs` and all in the runtime; every one but the last is
cancelled; `cancelPrevState` cancels the last; and the builder calls made since `pre` are, in
order, those of each generation, with its configuration and its own context. -/
structure Generations (f : RouterFactory) (rt : Runtime C) (pre : List (BuildCall C))
    (confs : List C) (ctxs : List Nat) : Prop where
  lt_length : ∀ ctx ∈ ctxs, ctx < rt.contexts.done.length
  current : f.cancelPrevState = ctxs.getLast?
  isCancelled_iff : ∀ i (hi : i < ctxs.length),
    rt.contexts.isCancelled ctxs[i] = true ↔ i + 1 < ctxs.length
  length_eq : ctxs.length = confs.length
  calls_eq : rt.calls = pre ++ (confs.zip ctxs).flatMap fun p => f.generationCalls p.1 p.2

namespace Generations

variable {f : RouterFactory} {rt : Runtime C} {pre : List (BuildCall C)} {confs : List C}
  {ctxs : List Nat}

/-- A factory that never created a context starts a run with no generations. -/
theorem initial (f : RouterFactory) (rt : Runtime C) (h : f.cancelPrevState = none) :
    Generations f rt rt.calls [] [] :=
  ⟨by simp, by simp [h], by simp, rfl, by simp⟩

theorem cancelPrevState_lt (h : Generations f rt pre confs ctxs) :
    ∀ p, f.cancelPrevState = some p → p < rt.contexts.done.length := fun p hp =>
  h.lt_length p (List.mem_of_getLast?_eq_some (h.current ▸ hp))

/-- One `CreateRouters` call keeps the invariant, with its configuration and its own context
appended: it cancels the previous generation, creates a live one, and hands the new context to
every builder it calls. -/
theorem createRouters (h : Generations f rt pre confs ctxs) (rtConf : C) :
    Generations (f.createRouters rt rtConf).2.1 (f.createRouters rt rtConf).2.2 pre
      (confs ++ [rtConf]) (ctxs ++ [rt.contexts.done.length]) where
  lt_length ctx hc := by
    rcases List.mem_append.1 hc with hc | hc
    · have := h.lt_length ctx hc
      simp only [RouterFactory.length_createRouters]
      omega
    · simp_all
  current := by simp
  isCancelled_iff i hi := by
    rw [RouterFactory.isCancelled_createRouters _ _ _ h.cancelPrevState_lt]
    simp only [List.length_append, List.length_singleton] at hi ⊢
    rcases Nat.lt_succ_iff_lt_or_eq.1 hi with hi | rfl
    · rw [List.getElem_append_left hi]
      by_cases hl : i + 1 < ctxs.length
      · simp [(h.isCancelled_iff i hi).2 hl, hi]
      · have hlast : ctxs.getLast? = some ctxs[i] := by
          rw [List.getLast?_eq_getElem?, List.getElem?_eq_getElem (by omega)]
          congr 2
          omega
        simp [h.current, hlast, hi]
    · rw [List.getElem_append_right (Nat.le_refl _)]
      have hne : f.cancelPrevState ≠ some rt.contexts.done.length := fun hc =>
        (Nat.lt_irrefl _) (h.cancelPrevState_lt _ hc)
      simp [hne, Contexts.isCancelled_of_length_le]
  length_eq := by simp [h.length_eq]
  calls_eq := by
    simp only [RouterFactory.createRouters_calls, RouterFactory.generationCalls_createRouters,
      List.zip_append h.length_eq.symm, List.flatMap_append, h.calls_eq, List.append_assoc]
    simp

/-- Every run of calls keeps the invariant, with its configurations and the contexts of its
calls appended. -/
theorem createRoutersRun (h : Generations f rt pre confs ctxs) (confs' : List C) :
    Generations (f.createRoutersRun rt confs').2.1 (f.createRoutersRun rt confs').2.2 pre
      (confs ++ confs') (ctxs ++ (f.createRoutersRun rt confs').1) := by
  induction confs' generalizing f rt confs ctxs with
  | nil => simpa [RouterFactory.createRoutersRun] using h
  | cons rtConf confs' ih =>
    simpa [RouterFactory.createRoutersRun] using ih (h.createRouters rtConf)

end Generations

/-- After `n ≥ 1` sequential `CreateRouters` calls on a factory from `NewRouterFactory`, with
any configurations: the run created one context per call; the contexts of calls `1..n-1` are
cancelled and that of call `n` is live; the factory holds the cancel function of call `n`; and
the builder calls of the run are, generation after generation, the HTTP handlers without and
with TLS, the health checks, the TCP and the UDP handlers, each given its own generation's
configuration and context. So every builder of an earlier generation runs under a cancelled
context, and only the latest generation's are live. -/
theorem generations_createRoutersRun {E : Type} (getProtocol : E → String)
    (entryPoints : List (String × E)) (rt : Runtime C) (rtConf : C) (confs : List C) :
    match (newRouterFactory getProtocol entryPoints).createRoutersRun rt (rtConf :: confs) with
    | (ctxs, f, rt') =>
      ctxs.length = confs.length + 1 ∧ f.cancelPrevState = ctxs.getLast? ∧
        (∀ i (hi : i < ctxs.length),
          rt'.contexts.isCancelled ctxs[i] = true ↔ i + 1 < ctxs.length) ∧
        rt'.calls = rt.calls ++ ((rtConf :: confs).zip ctxs).flatMap fun p =>
          [.httpHandlers p.2 p.1 f.entryPointsTCP false, .httpHandlers p.2 p.1 f.entryPointsTCP true,
            .launchHealthCheck p.2 p.1, .tcpHandlers p.2 p.1 f.entryPointsTCP,
            .udpHandlers p.2 p.1 f.entryPointsUDP] := by
  have hgen := (Generations.initial (newRouterFactory getProtocol entryPoints) rt
    (by simp [newRouterFactory_eq])).createRoutersRun (rtConf :: confs)
  rw [List.nil_append, List.nil_append] at hgen
  generalize (newRouterFactory getProtocol entryPoints).createRoutersRun rt (rtConf :: confs) = r
    at hgen
  obtain ⟨ctxs, f, rt'⟩ := r
  exact ⟨by simpa using hgen.length_eq, hgen.current, hgen.isCancelled_iff, hgen.calls_eq⟩

/-- `NewRouterFactory` splits the configured entry points between the TCP and the UDP builders:
together they receive every entry point once, the UDP builder exactly those whose protocol is
`udp`; and every builder call of any run of `CreateRouters` on the factory receives one of the
two lists. -/
theorem entryPoints_createRoutersRun {E : Type} (getProtocol : E → String)
    (entryPoints : List (String × E)) (rt : Runtime C) (confs : List C) :
    ∃ tcp udp, (tcp ++ udp).Perm (entryPoints.map (·.1)) ∧
      (∀ name, name ∈ udp ↔ ∃ e, (name, e) ∈ entryPoints ∧ getProtocol e = "udp") ∧
      ∀ call ∈ ((newRouterFactory getProtocol entryPoints).createRoutersRun rt confs).2.2.calls.drop
          rt.calls.length,
        ∃ rtConf ctx, call ∈ RouterFactory.generationCalls ⟨tcp, udp, none⟩ rtConf ctx := by
  refine ⟨(entryPoints.filter (getProtocol ·.2 ≠ "udp")).map (·.1),
    (entryPoints.filter (getProtocol ·.2 = "udp")).map (·.1), ?_, fun name => ?_, fun call hc => ?_⟩
  · rw [← List.map_append]
    refine List.Perm.map _ (List.perm_append_comm.trans ?_)
    simpa using List.filter_append_perm (fun ep : String × E => getProtocol ep.2 = "udp") entryPoints
  · simp [and_comm]
  · obtain ⟨L, hL, hmem⟩ :=
      RouterFactory.calls_createRoutersRun (newRouterFactory getProtocol entryPoints) rt confs
    rw [hL, List.drop_left] at hc
    simpa only [newRouterFactory_eq] using hmem call hc

end Traefik.Server

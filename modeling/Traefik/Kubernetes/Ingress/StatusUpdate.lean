import Traefik.Kubernetes.Ingress.Client

/-!
# Repeated ingress status updates

Reference: `pkg/provider/kubernetes/ingress/client.go` (`UpdateIngressStatus`).

`UpdateIngressStatus` reads the ingress through the informer's lister and skips the API write
when `isLoadBalancerIngressEquals` finds the stored status equal to the new one. Here the cluster
is a store of ingresses that the lister reads and a successful `UpdateStatus` writes, each write
visible to the next read. Over any sequence of calls for one ingress whose statuses only reorder
one another, at most one call writes (`updateRun_writes_le_one`): a load balancer that reports
its addresses in a changing order does not make the client rewrite the status.
-/

namespace Traefik.Kubernetes.Ingress.ClientWrapper

/-- The ingresses of the cluster, by namespace and name. -/
abbrev IngressStore := AList fun _ : String × String => Ingress

/-- Whether `UpdateIngressStatus` wrote the status. -/
def UpdateResult.isUpdated : UpdateResult → Bool
  | .updated _ => true
  | _ => false

/-- The ingress lister over the store. -/
def listerOf (store : IngressStore) (ns name : String) : Except String Ingress :=
  match store.lookup (ns, name) with
  | some ing => .ok ing
  | none => .error "not found"

/-- One `UpdateIngressStatus` call against the store: the store after it, and the call's
result. A write stores the written ingress where the lister read it, under the namespace and
name of `src`. -/
def updateStep (c : ClientWrapper) (updateStatus : Ingress → Except String Unit) (src : Ingress)
    (store : IngressStore) (ingStatus : List IngressLoadBalancerIngress) :
    IngressStore × UpdateResult :=
  match c.updateIngressStatus (fun _ => listerOf store) updateStatus src ingStatus with
  | .updated ing => (store.insert (src.ns, src.name) ing, .updated ing)
  | r => (store, r)

/-- Sequential calls for one ingress, one per status: their results, in order. -/
def updateRun (c : ClientWrapper) (updateStatus : Ingress → Except String Unit) (src : Ingress)
    (store : IngressStore) : List (List IngressLoadBalancerIngress) → List UpdateResult
  | [] => []
  | s :: ss =>
    (c.updateStep updateStatus src store s).2 ::
      c.updateRun updateStatus src (c.updateStep updateStatus src store s).1 ss

variable {c : ClientWrapper} {updateStatus : Ingress → Except String Unit} {src : Ingress}
  {store : IngressStore}

/-- A call that does not write leaves the store as it was. -/
theorem updateStep_store_of_not_updated {s : List IngressLoadBalancerIngress}
    (h : (c.updateStep updateStatus src store s).2.isUpdated = false) :
    (c.updateStep updateStatus src store s).1 = store := by
  unfold updateStep at h ⊢
  split
  · simp_all [UpdateResult.isUpdated]
  · rfl

/-- An `UpdateIngressStatus` call that writes, writes the new status. -/
theorem status_of_updateIngressStatus_eq_updated
    {getIngress : SharedInformerFactory → String → String → Except String Ingress}
    {ingStatus : List IngressLoadBalancerIngress} {ing : Ingress}
    (h : c.updateIngressStatus getIngress updateStatus src ingStatus = .updated ing) :
    ing.status = ingStatus := by
  unfold updateIngressStatus at h
  repeat' split at h
  all_goals cases h; try rfl

/-- A call that writes stores the ingress with the new status. -/
theorem updateStep_of_updated {s : List IngressLoadBalancerIngress}
    (h : (c.updateStep updateStatus src store s).2.isUpdated = true) :
    ∃ ing, (c.updateStep updateStatus src store s).1 = store.insert (src.ns, src.name) ing ∧
      ing.status = s := by
  unfold updateStep at h ⊢
  split
  · next ing hu => exact ⟨ing, rfl, status_of_updateIngressStatus_eq_updated hu⟩
  · next r hr => cases r <;> simp_all [UpdateResult.isUpdated]

/-- When the stored ingress's status is a reordering of the new one, the call does not write:
it fails at the guard, panics, or skips the write. -/
theorem updateStep_not_updated_of_perm {ing : Ingress}
    (hs : store.lookup (src.ns, src.name) = some ing) {t : List IngressLoadBalancerIngress}
    (ht : t.Perm ing.status) : (c.updateStep updateStatus src store t).2.isUpdated = false := by
  have heq : isLoadBalancerIngressEquals ing.status t = true :=
    (isLoadBalancerIngressEquals_iff _ _).2 ⟨ht.length_eq.symm, fun b hb => ⟨b, ht.subset hb, rfl⟩⟩
  unfold updateStep updateIngressStatus
  split
  · next ing' hu =>
    split at hu
    · cases hu
    · cases hu
    · simp only [listerOf, hs, heq, if_true] at hu
      cases hu
  · next r hr => cases r <;> simp_all [UpdateResult.isUpdated]

/-- From a store whose ingress holds a status that every later one reorders, no call writes. -/
theorem updateRun_no_write {ing : Ingress} (hs : store.lookup (src.ns, src.name) = some ing)
    {ts : List (List IngressLoadBalancerIngress)} (hts : ∀ t ∈ ts, t.Perm ing.status) :
    (c.updateRun updateStatus src store ts).countP UpdateResult.isUpdated = 0 := by
  induction ts with
  | nil => rfl
  | cons t ts ih =>
    have hn : (c.updateStep updateStatus src store t).2.isUpdated = false :=
      updateStep_not_updated_of_perm hs (hts t (List.mem_cons_self _ _))
    rw [updateRun, List.countP_cons, hn, updateStep_store_of_not_updated hn,
      ih fun t' ht' => hts t' (List.mem_cons_of_mem _ ht')]
    rfl

/-- Calls for one ingress whose statuses all reorder one another write at most once, whatever
the store holds at first and whatever the API answers. -/
theorem updateRun_writes_le_one (c : ClientWrapper) (updateStatus : Ingress → Except String Unit)
    (src : Ingress) (store : IngressStore) (ts : List (List IngressLoadBalancerIngress))
    (hts : ∀ s ∈ ts, ∀ t ∈ ts, s.Perm t) :
    (c.updateRun updateStatus src store ts).countP UpdateResult.isUpdated ≤ 1 := by
  induction ts generalizing store with
  | nil => simp [updateRun]
  | cons s ss ih =>
    have hss : ∀ a ∈ ss, ∀ b ∈ ss, a.Perm b := fun a ha b hb =>
      hts a (List.mem_cons_of_mem _ ha) b (List.mem_cons_of_mem _ hb)
    rw [updateRun]
    cases hu : (c.updateStep updateStatus src store s).2.isUpdated
    · rw [List.countP_cons, hu, updateStep_store_of_not_updated hu]
      exact ih store hss
    · obtain ⟨ing, hst, hstatus⟩ := updateStep_of_updated hu
      rw [List.countP_cons, hu, hst, updateRun_no_write (AList.lookup_insert _) fun t ht =>
        hstatus ▸ hts t (List.mem_cons_of_mem _ ht) s (List.mem_cons_self _ _)]
      rfl

/-- `updateRun_writes_le_one` on two addresses reported three times in alternating order. -/
theorem updateRun_alternating_order :
    (∀ s ∈ [[⟨"", "10.0.0.1"⟩, ⟨"", "10.0.0.2"⟩], [⟨"", "10.0.0.2"⟩, ⟨"", "10.0.0.1"⟩],
        [⟨"", "10.0.0.1"⟩, ⟨"", "10.0.0.2"⟩]], ∀ t ∈ [[⟨"", "10.0.0.1"⟩, ⟨"", "10.0.0.2"⟩],
        [⟨"", "10.0.0.2"⟩, ⟨"", "10.0.0.1"⟩], [⟨"", "10.0.0.1"⟩, ⟨"", "10.0.0.2"⟩]],
        (s : List IngressLoadBalancerIngress).Perm t) ∧
      ((newClientImpl.watchAll ["default"] ⟨"v1.28.0", fun _ => none⟩).1.updateRun
          (fun _ => .ok ()) ⟨"default", "whoami", []⟩
          ((∅ : IngressStore).insert ("default", "whoami") ⟨"default", "whoami", []⟩)
          [[⟨"", "10.0.0.1"⟩, ⟨"", "10.0.0.2"⟩], [⟨"", "10.0.0.2"⟩, ⟨"", "10.0.0.1"⟩],
            [⟨"", "10.0.0.1"⟩, ⟨"", "10.0.0.2"⟩]]).countP UpdateResult.isUpdated ≤ 1 :=
  ⟨by decide, updateRun_writes_le_one _ _ _ _ _ (by decide)⟩

end Traefik.Kubernetes.Ingress.ClientWrapper

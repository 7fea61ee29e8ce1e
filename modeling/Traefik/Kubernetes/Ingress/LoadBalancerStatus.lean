import Mathlib.Data.List.Perm.Subperm

/-!
# Comparing ingress load-balancer statuses

Reference: `pkg/provider/kubernetes/ingress/client.go`.

`isLoadBalancerIngressEquals` decides whether `UpdateIngressStatus` may skip a write. It checks
that the two slices have the same length and that every entry of the second has its
`Hostname + IP` among those of the first. `isLoadBalancerIngressEquals_iff` states exactly that.

Every permutation passes (`isLoadBalancerIngressEquals_of_perm`), but the test is weaker than
one: repeated entries are not counted, and the concatenation `Hostname + IP` does not tell an IP
from a host name with the same text (`isLoadBalancerIngressEquals_not_perm`).
-/

namespace Traefik.Kubernetes.Ingress

/-- `netv1.IngressLoadBalancerIngress`, with the fields the comparison reads. -/
structure IngressLoadBalancerIngress where
  hostname : String
  ip : String
  deriving DecidableEq, Repr

/-- The map key of an entry: `Hostname + IP`. -/
def IngressLoadBalancerIngress.key (i : IngressLoadBalancerIngress) : String := i.hostname ++ i.ip

/-- The pair an entry is meant to be compared by. -/
def IngressLoadBalancerIngress.pair (i : IngressLoadBalancerIngress) : String × String :=
  (i.hostname, i.ip)

/-- `isLoadBalancerIngressEquals`: `aMap` is the set of keys of `aSlice`, and the loop over
`bSlice` returns `false` at the first key missing from it. -/
def isLoadBalancerIngressEquals (aSlice bSlice : List IngressLoadBalancerIngress) : Bool :=
  if aSlice.length ≠ bSlice.length then false
  else
    let aMap := aSlice.map IngressLoadBalancerIngress.key
    bSlice.all fun bIngress => aMap.contains bIngress.key

/-- What the comparison tests: equal lengths, and every key of `bSlice` a key of `aSlice`. -/
theorem isLoadBalancerIngressEquals_iff (aSlice bSlice : List IngressLoadBalancerIngress) :
    isLoadBalancerIngressEquals aSlice bSlice = true ↔
      aSlice.length = bSlice.length ∧
        ∀ b ∈ bSlice, ∃ a ∈ aSlice, a.key = b.key := by
  unfold isLoadBalancerIngressEquals
  split_ifs with h
  · simp [h]
  · simp [not_not.1 h, List.all_eq_true, List.elem_iff]

/-- A slice and any permutation of it compare equal, so a status that only reorders the stored
one is never rewritten. -/
theorem isLoadBalancerIngressEquals_of_perm {aSlice bSlice : List IngressLoadBalancerIngress}
    (h : bSlice.Perm aSlice) : isLoadBalancerIngressEquals aSlice bSlice = true :=
  (isLoadBalancerIngressEquals_iff _ _).2
    ⟨h.length_eq.symm, fun b hb => ⟨b, h.subset hb, rfl⟩⟩

/-- A status with its two entries swapped compares equal to the stored one. -/
theorem isLoadBalancerIngressEquals_swapped :
    ([⟨"lb.example.com", ""⟩, ⟨"", "10.0.0.1"⟩] : List IngressLoadBalancerIngress).Perm
        [⟨"", "10.0.0.1"⟩, ⟨"lb.example.com", ""⟩] ∧
      isLoadBalancerIngressEquals [⟨"", "10.0.0.1"⟩, ⟨"lb.example.com", ""⟩]
        [⟨"lb.example.com", ""⟩, ⟨"", "10.0.0.1"⟩] = true :=
  ⟨.swap _ _ _, isLoadBalancerIngressEquals_of_perm (.swap _ _ _)⟩

/-- When the keys of `bSlice` are distinct, the comparison is exactly a permutation test on
keys. -/
theorem isLoadBalancerIngressEquals_iff_perm_keys (aSlice : List IngressLoadBalancerIngress)
    {bSlice : List IngressLoadBalancerIngress}
    (hb : (bSlice.map IngressLoadBalancerIngress.key).Nodup) :
    isLoadBalancerIngressEquals aSlice bSlice = true ↔
      (bSlice.map IngressLoadBalancerIngress.key).Perm
        (aSlice.map IngressLoadBalancerIngress.key) := by
  rw [isLoadBalancerIngressEquals_iff]
  constructor
  · rintro ⟨hlen, hsub⟩
    refine (hb.subperm fun k hk => ?_).perm_of_length_le (by simp [hlen])
    obtain ⟨b, hb, rfl⟩ := List.mem_map.1 hk
    exact List.mem_map.2 (hsub b hb)
  · intro hp
    exact ⟨by simpa using hp.length_eq.symm,
      fun b hb => List.mem_map.1 (hp.subset (List.mem_map_of_mem _ hb))⟩

/-- `isLoadBalancerIngressEquals_iff_perm_keys` on two distinct IPs. -/
theorem isLoadBalancerIngressEquals_iff_perm_keys_two_ips :
    ([⟨"", "10.0.0.2"⟩, ⟨"", "10.0.0.1"⟩].map IngressLoadBalancerIngress.key).Nodup ∧
      (isLoadBalancerIngressEquals [⟨"", "10.0.0.1"⟩, ⟨"", "10.0.0.2"⟩]
          [⟨"", "10.0.0.2"⟩, ⟨"", "10.0.0.1"⟩] = true ↔
        ([⟨"", "10.0.0.2"⟩, ⟨"", "10.0.0.1"⟩].map IngressLoadBalancerIngress.key).Perm
          ([⟨"", "10.0.0.1"⟩, ⟨"", "10.0.0.2"⟩].map IngressLoadBalancerIngress.key)) :=
  ⟨by decide, isLoadBalancerIngressEquals_iff_perm_keys _ (by decide)⟩

/-- Two statuses the comparison calls equal although neither is a permutation of the other by
`(Hostname, IP)`: a repeated entry against two distinct ones, and an IP against a host name of
the same text. -/
theorem isLoadBalancerIngressEquals_not_perm :
    isLoadBalancerIngressEquals [⟨"", "10.0.0.1"⟩, ⟨"", "10.0.0.2"⟩]
        [⟨"", "10.0.0.1"⟩, ⟨"", "10.0.0.1"⟩] = true ∧
      ¬([⟨"", "10.0.0.1"⟩, ⟨"", "10.0.0.1"⟩].map IngressLoadBalancerIngress.pair).Perm
        ([⟨"", "10.0.0.1"⟩, ⟨"", "10.0.0.2"⟩].map IngressLoadBalancerIngress.pair) ∧
      isLoadBalancerIngressEquals [⟨"", "10.0.0.1"⟩] [⟨"10.0.0.1", ""⟩] = true ∧
      ¬([⟨"10.0.0.1", ""⟩].map IngressLoadBalancerIngress.pair).Perm
        ([⟨"", "10.0.0.1"⟩].map IngressLoadBalancerIngress.pair) := by
  decide

end Traefik.Kubernetes.Ingress

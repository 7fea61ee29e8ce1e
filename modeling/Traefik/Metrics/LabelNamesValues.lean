import Mathlib.Data.List.Range

/-!
# OpenTelemetry label lists

Reference: `pkg/metrics/opentelemetry.go`.

An `otelLabelNamesValues` is a flat list `[name₀, value₀, name₁, value₁, …]`. `With` pads an
odd-length argument with `"unknown"` and appends it; `ToLabels` reads the list two entries at a
time, by index. `toLabels_eq_labelPairs` replaces the index loop by a structural reading,
`labelPairs`, after which every law about label lists is an induction on the list.

Every list reachable from the empty list by `With` calls has even length, so `ToLabels`
distributes over each appended block: no label value is dropped or paired with the wrong name.
The counter and histogram handles record their measurements through the same list.

Label lists are values here. In the code they are slices that may share a backing array;
`Slices.lean` models that, and `Handles.lean` shows when this model is what the code computes.
-/

namespace Traefik.Metrics

/-- `otelLabelNamesValues`: label names and values, alternating. -/
abbrev OtelLabelNamesValues := List String

/-- An `attribute.KeyValue` built by `attribute.String`. -/
structure KeyValue where
  key : String
  value : String
  deriving DecidableEq, Repr

namespace OtelLabelNamesValues

/-- The label values `With` appends: its argument, padded with `"unknown"` when its length is
odd. -/
def padLabelValues (labelValues : List String) : List String :=
  if labelValues.length % 2 ≠ 0 then labelValues ++ ["unknown"] else labelValues

/-- `With` (the source's name: `with` is a keyword of Lean). -/
def With (lvs : OtelLabelNamesValues) (labelValues : List String) : OtelLabelNamesValues :=
  lvs ++ padLabelValues labelValues

/-- `ToLabels`: entry `i` pairs `lvs[2*i]` with `lvs[2*i+1]`, for `i < len(lvs)/2`. The two
reads carry their bound proofs, so the loop never indexes past the end. -/
def toLabels (lvs : OtelLabelNamesValues) : List KeyValue :=
  (List.range (lvs.length / 2)).attach.map fun ⟨i, hi⟩ =>
    have := List.mem_range.1 hi
    ⟨lvs.get ⟨2 * i, by omega⟩, lvs.get ⟨2 * i + 1, by omega⟩⟩

/-- Consecutive `(name, value)` pairs of a flat list; an unpaired last entry is dropped. -/
def labelPairs : List String → List KeyValue
  | k :: v :: rest => ⟨k, v⟩ :: labelPairs rest
  | _ => []

/-- The flat list of a list of attributes: the inverse of `labelPairs` on even lists. -/
def flattenLabels (kvs : List KeyValue) : List String :=
  kvs.flatMap fun kv => [kv.key, kv.value]

/-! ## The index loop reads consecutive pairs -/

@[simp] theorem labelPairs_nil : labelPairs [] = [] := rfl

@[simp] theorem labelPairs_singleton (k : String) : labelPairs [k] = [] := rfl

@[simp] theorem labelPairs_cons_cons (k v : String) (rest : List String) :
    labelPairs (k :: v :: rest) = ⟨k, v⟩ :: labelPairs rest := rfl

@[simp] theorem length_labelPairs : ∀ l : List String, (labelPairs l).length = l.length / 2
  | [] | [_] => by simp
  | _ :: _ :: rest => by simp [length_labelPairs rest]; omega

theorem lt_length_of_lt_labelPairs {l : List String} {i : Nat}
    (h : i < (labelPairs l).length) : 2 * i + 1 < l.length := by
  rw [length_labelPairs] at h
  omega

theorem get_labelPairs : ∀ (l : List String) (i : Nat) (h : i < (labelPairs l).length),
    (labelPairs l).get ⟨i, h⟩ =
      ⟨l.get ⟨2 * i, Nat.lt_of_succ_lt (lt_length_of_lt_labelPairs h)⟩,
        l.get ⟨2 * i + 1, lt_length_of_lt_labelPairs h⟩⟩
  | _ :: _ :: _, 0, _ => rfl
  | _ :: _ :: rest, i + 1, h => by
    simpa [Nat.mul_succ] using get_labelPairs rest i (by simp at h ⊢; omega)
  | [], _, h | [_], _, h => absurd h (by simp)

/-- The index loop of `ToLabels` is the structural pairing. -/
theorem toLabels_eq_labelPairs (lvs : OtelLabelNamesValues) : toLabels lvs = labelPairs lvs := by
  apply List.ext_get (by simp [toLabels])
  intro i h₁ h₂
  rw [get_labelPairs]
  simp [toLabels]

/-- Pairing distributes over an append whose first block has even length. -/
theorem labelPairs_append : ∀ (l₁ l₂ : List String), l₁.length % 2 = 0 →
    labelPairs (l₁ ++ l₂) = labelPairs l₁ ++ labelPairs l₂
  | [], _, _ => rfl
  | [_], _, h => absurd h (by simp)
  | k :: v :: rest, l₂, h => by
    simp [labelPairs_append rest l₂ (by simp at h; omega)]

/-- On an even list, flattening the pairs gives the list back. -/
theorem flattenLabels_labelPairs : ∀ l : List String, l.length % 2 = 0 →
    flattenLabels (labelPairs l) = l
  | [], _ => rfl
  | [_], h => absurd h (by simp)
  | k :: v :: rest, h => by
    have ih := flattenLabels_labelPairs rest (by simp at h; omega)
    simp only [flattenLabels] at ih ⊢
    simp [ih]

/-! ## `With` keeps label lists even -/

theorem length_padLabelValues_mod (labelValues : List String) :
    (padLabelValues labelValues).length % 2 = 0 := by
  unfold padLabelValues
  split
  · simp only [List.length_append, List.length_singleton]; omega
  · omega

theorem length_With_mod {lvs : OtelLabelNamesValues} (h : lvs.length % 2 = 0)
    (labelValues : List String) : (lvs.With labelValues).length % 2 = 0 := by
  have := length_padLabelValues_mod labelValues
  simp only [With, List.length_append]
  omega

/-- The label lists a metric handle can carry: the empty list, extended by `With` calls. -/
inductive Reachable : OtelLabelNamesValues → Prop
  | nil : Reachable []
  | With {lvs : OtelLabelNamesValues} (labelValues : List String) :
      Reachable lvs → Reachable (lvs.With labelValues)

theorem Reachable.length_mod {lvs : OtelLabelNamesValues} (h : Reachable lvs) :
    lvs.length % 2 = 0 := by
  induction h with
  | nil => rfl
  | With labelValues _ ih => exact length_With_mod ih labelValues

theorem toLabels_With_of_even {lvs : OtelLabelNamesValues} (h : lvs.length % 2 = 0)
    (labelValues : List String) :
    toLabels (lvs.With labelValues) = toLabels lvs ++ labelPairs (padLabelValues labelValues) := by
  rw [toLabels_eq_labelPairs, toLabels_eq_labelPairs, With, labelPairs_append _ _ h]

/-- `ToLabels` after `With` is the old attributes followed by the pairs of the padded values:
every passed value lands in its own pair, after the ones already there. -/
theorem toLabels_With {lvs : OtelLabelNamesValues} (h : Reachable lvs)
    (labelValues : List String) :
    (lvs.With labelValues).length % 2 = 0 ∧
      toLabels (lvs.With labelValues) = toLabels lvs ++
        labelPairs (if labelValues.length % 2 = 1 then labelValues ++ ["unknown"]
          else labelValues) := by
  refine ⟨length_With_mod h.length_mod labelValues, ?_⟩
  have hpad : padLabelValues labelValues = if labelValues.length % 2 = 1
      then labelValues ++ ["unknown"] else labelValues := by
    simp only [padLabelValues, Nat.mod_two_ne_zero]
  rw [toLabels_With_of_even h.length_mod, hpad]

/-- `toLabels_With` after one call with an even and one with an odd number of values. -/
theorem toLabels_With_entrypoint :
    Reachable (OtelLabelNamesValues.With [] ["entrypoint", "web"]) ∧
      ((OtelLabelNamesValues.With [] ["entrypoint", "web"]).With ["code"]).length % 2 = 0 ∧
      toLabels ((OtelLabelNamesValues.With [] ["entrypoint", "web"]).With ["code"]) =
        toLabels (OtelLabelNamesValues.With [] ["entrypoint", "web"]) ++
          labelPairs (if ["code"].length % 2 = 1 then ["code"] ++ ["unknown"] else ["code"]) :=
  ⟨.With _ .nil, toLabels_With (.With _ .nil) ["code"]⟩

example : toLabels (OtelLabelNamesValues.With [] ["entrypoint", "web", "code"]) =
    [⟨"entrypoint", "web"⟩, ⟨"code", "unknown"⟩] := by decide

/-- On a reachable list, `ToLabels` loses nothing: flattening its attributes gives the list. -/
theorem flattenLabels_toLabels {lvs : OtelLabelNamesValues} (h : Reachable lvs) :
    flattenLabels (toLabels lvs) = lvs := by
  rw [toLabels_eq_labelPairs, flattenLabels_labelPairs _ h.length_mod]

/-- `flattenLabels_toLabels` after one `With` with an odd number of values. -/
theorem flattenLabels_toLabels_entrypoint :
    Reachable (OtelLabelNamesValues.With [] ["entrypoint", "web", "code"]) ∧
      flattenLabels (toLabels (OtelLabelNamesValues.With [] ["entrypoint", "web", "code"])) =
        OtelLabelNamesValues.With [] ["entrypoint", "web", "code"] :=
  ⟨.With _ .nil, flattenLabels_toLabels (.With _ .nil)⟩

end OtelLabelNamesValues

/-! ## Counter and histogram handles

`otelCounter` and `otelHistogram` carry the same two fields and extend their labels by the same
`With`; `Add` and `Observe` hand one measurement to the instrument under `ToLabels`. The value
type is a parameter (`float64` in the source): the handles pass it through untouched. -/

/-- An instrument created by the meter: its name, description and unit. -/
structure Instrument where
  name : String
  description : String
  unit : String
  deriving DecidableEq, Repr

/-- One measurement handed to an instrument, with the attributes it is recorded under. -/
structure Measurement (V : Type) where
  instrument : Instrument
  value : V
  attributes : List KeyValue

/-- `otelCounter` and `otelHistogram`: a label list and the instrument `ip` they record to. -/
structure OtelHandle where
  labelNamesValues : OtelLabelNamesValues
  ip : Instrument

/-- `newOTLPCounterFrom`: a counter of unit `"1"` with no labels. -/
def newOTLPCounterFrom (name desc : String) : OtelHandle := ⟨[], ⟨name, desc, "1"⟩⟩

/-- `newOTLPHistogramFrom`: a histogram with no labels. -/
def newOTLPHistogramFrom (name desc unit : String) : OtelHandle := ⟨[], ⟨name, desc, unit⟩⟩

namespace OtelHandle

open OtelLabelNamesValues

/-- `otelCounter.With` and `otelHistogram.With`: the same instrument, more labels. -/
def With (h : OtelHandle) (labelValues : List String) : OtelHandle :=
  ⟨h.labelNamesValues.With labelValues, h.ip⟩

/-- The measurement that `ip.Add` and `ip.Record` receive. -/
def record {V : Type} (h : OtelHandle) (v : V) : Measurement V :=
  ⟨h.ip, v, h.labelNamesValues.toLabels⟩

/-- `otelCounter.Add`. -/
def add {V : Type} (c : OtelHandle) (delta : V) : Measurement V := c.record delta

/-- `otelHistogram.Observe`. -/
def observe {V : Type} (h : OtelHandle) (incr : V) : Measurement V := h.record incr

end OtelHandle

end Traefik.Metrics

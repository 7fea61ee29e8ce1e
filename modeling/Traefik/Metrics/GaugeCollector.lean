import Traefik.Metrics.LabelNamesValues
import Mathlib.Data.List.AList

/-!
# The OpenTelemetry gauge collector

Reference: `pkg/metrics/opentelemetry.go`.

OpenTelemetry gauges are observed, not set: `otelGauge.Set` and `otelGauge.Add` write into the
process-wide `gaugeCollector`, and the callback registered by `newOTLPGaugeFrom` reports every
entry stored under the gauge's name. Within a name, an entry is keyed by
`strings.Join(attributes, "")`, the label names and values concatenated with no separator.

`entry_apply` says once what one `Set` or `Add` does to every entry, and `entry_run` extends it to
any sequence of calls: the entry under `(name, key)` is the fold of exactly the calls whose name
and joined labels are `name` and `key`. Two label lists with the same concatenation share a key,
so the collector keeps one entry for both (`observe_set_collision`). When no call on a name
collides with a label list `L`, the entry for `L` is the reference value of `L`
(`entry_run_of_noCollision`).

Label lists are values here. The code stores the caller's slice in each entry and reads it when
the callback observes; `Handles.lean` models that, and shows that it refines this model along every
run in which no `With` writes over the labels of another handle.

Every method holds `mu` for its whole body, so one call is one atomic step of the model and the
mutex itself is left out. The value type is a parameter (`float64` in the source).
-/

namespace Traefik.Metrics

open OtelLabelNamesValues

variable {V : Type}

/-- `gaugeValue`: the attributes an entry was last written with, and its value. -/
structure GaugeValue (V : Type) where
  attributes : OtelLabelNamesValues
  value : V

/-- The entries of one gauge name, by key (`map[string]gaugeValue`). -/
abbrev GaugeValues (V : Type) := AList fun _ : String => GaugeValue V

/-- `gaugeCollector`: the entries of every gauge name. -/
structure GaugeCollector (V : Type) where
  values : AList fun _ : String => GaugeValues V

/-- `newOpenTelemetryGaugeCollector`. -/
def newOpenTelemetryGaugeCollector : GaugeCollector V := ⟨∅⟩

/-- The key of an entry: `strings.Join(attributes, "")`. -/
def gaugeKey (attributes : OtelLabelNamesValues) : String := String.intercalate "" attributes

namespace GaugeCollector

/-- `gaugeCollector.add`. -/
def add [Add V] (c : GaugeCollector V) (name : String) (delta : V)
    (attributes : OtelLabelNamesValues) : GaugeCollector V :=
  let str := gaugeKey attributes
  match c.values.lookup name with
  | none => ⟨c.values.insert name ((∅ : GaugeValues V).insert str ⟨attributes, delta⟩)⟩
  | some m =>
    match m.lookup str with
    | none => ⟨c.values.insert name (m.insert str ⟨attributes, delta⟩)⟩
    | some v => ⟨c.values.insert name (m.insert str ⟨attributes, v.value + delta⟩)⟩

/-- `gaugeCollector.set`. -/
def set (c : GaugeCollector V) (name : String) (value : V)
    (attributes : OtelLabelNamesValues) : GaugeCollector V :=
  let m := match c.values.lookup name with
    | none => ∅
    | some m => m
  ⟨c.values.insert name (m.insert (gaugeKey attributes) ⟨attributes, value⟩)⟩

/-- The callback `newOTLPGaugeFrom` registers: one observation per entry of the gauge's name. -/
def observe (c : GaugeCollector V) (name : String) (ip : Instrument) : List (Measurement V) :=
  match c.values.lookup name with
  | none => []
  | some values => values.entries.map fun e => ⟨ip, e.2.value, e.2.attributes.toLabels⟩

/-- The entries stored under a gauge name; an absent name has none. -/
def namedValues (c : GaugeCollector V) (name : String) : GaugeValues V :=
  (c.values.lookup name).getD ∅

/-- The entry stored under a gauge name and a key. -/
def entry (c : GaugeCollector V) (name key : String) : Option (GaugeValue V) :=
  (c.namedValues name).lookup key

end GaugeCollector

/-- The value `add` leaves: the delta on an absent entry, the sum otherwise. -/
def addValue [Add V] (delta : V) : Option V → V
  | none => delta
  | some x => x + delta

namespace GaugeCollector

/-! ## What one call does to each entry -/

@[simp] theorem namedValues_insert_self (c : GaugeCollector V) (name : String)
    (m : GaugeValues V) : namedValues ⟨c.values.insert name m⟩ name = m := by
  simp [namedValues]

@[simp] theorem namedValues_insert_ne (c : GaugeCollector V) {name name' : String}
    (m : GaugeValues V) (h : name' ≠ name) :
    namedValues ⟨c.values.insert name m⟩ name' = c.namedValues name' := by
  simp [namedValues, AList.lookup_insert_ne h]

/-- `add` writes one entry of its name: the sum with the old value, or the delta. -/
theorem add_eq [Add V] (c : GaugeCollector V) (name : String) (delta : V)
    (attributes : OtelLabelNamesValues) :
    c.add name delta attributes = ⟨c.values.insert name ((c.namedValues name).insert
      (gaugeKey attributes) ⟨attributes, addValue delta (((c.namedValues name).lookup
        (gaugeKey attributes)).map (·.value))⟩)⟩ := by
  unfold add namedValues
  rcases h1 : c.values.lookup name with _ | m
  · rfl
  · rcases h2 : m.lookup (gaugeKey attributes) with _ | v <;> simp [h2, addValue]

/-- `set` writes one entry of its name. -/
theorem set_eq (c : GaugeCollector V) (name : String) (value : V)
    (attributes : OtelLabelNamesValues) :
    c.set name value attributes = ⟨c.values.insert name ((c.namedValues name).insert
      (gaugeKey attributes) ⟨attributes, value⟩)⟩ := by
  unfold set namedValues
  rcases c.values.lookup name with _ | m <;> rfl

/-- The entries of a name after writing one entry of some name. -/
theorem entry_write (c : GaugeCollector V) (name key : String) (gv : GaugeValue V)
    (name' key' : String) :
    entry ⟨c.values.insert name ((c.namedValues name).insert key gv)⟩ name' key' =
      if name' = name ∧ key' = key then some gv else c.entry name' key' := by
  by_cases hn : name' = name
  · subst hn
    by_cases hk : key' = key
    · subst hk; simp [entry]
    · simp [entry, hk, AList.lookup_insert_ne hk]
  · simp [entry, hn]

theorem entry_add [Add V] (c : GaugeCollector V) (name : String) (delta : V)
    (attributes : OtelLabelNamesValues) (name' key : String) :
    (c.add name delta attributes).entry name' key =
      if name' = name ∧ key = gaugeKey attributes then
        some ⟨attributes, addValue delta ((c.entry name' key).map (·.value))⟩
      else c.entry name' key := by
  rw [add_eq, entry_write]
  split_ifs with h
  · obtain ⟨rfl, rfl⟩ := h
    rfl
  · rfl

theorem entry_set (c : GaugeCollector V) (name : String) (value : V)
    (attributes : OtelLabelNamesValues) (name' key : String) :
    (c.set name value attributes).entry name' key =
      if name' = name ∧ key = gaugeKey attributes then some ⟨attributes, value⟩
      else c.entry name' key := by
  rw [set_eq, entry_write]

end GaugeCollector

/-- `otelGauge`: a label list, the observable instrument, and the gauge's name. -/
structure OtelGauge where
  labelNamesValues : OtelLabelNamesValues
  ip : Instrument
  name : String

/-- `newOTLPGaugeFrom`: reset the entries of `name` (`values[name] = make(...)`) and return the
gauge. The callback it registers is `GaugeCollector.observe` at `name` and the instrument. -/
def newOTLPGaugeFrom (c : GaugeCollector V) (name desc unit : String) :
    GaugeCollector V × OtelGauge :=
  (⟨c.values.insert name ∅⟩, ⟨[], ⟨name, desc, unit⟩, name⟩)

namespace OtelGauge

/-- `otelGauge.With`. -/
def With (g : OtelGauge) (labelValues : List String) : OtelGauge :=
  ⟨g.labelNamesValues.With labelValues, g.ip, g.name⟩

/-- `otelGauge.Add`. -/
def add [Add V] (g : OtelGauge) (c : GaugeCollector V) (delta : V) : GaugeCollector V :=
  c.add g.name delta g.labelNamesValues

/-- `otelGauge.Set`. -/
def set (g : OtelGauge) (c : GaugeCollector V) (value : V) : GaugeCollector V :=
  c.set g.name value g.labelNamesValues

end OtelGauge

/-! ## Runs of `Set` and `Add` calls -/

/-- A call on a gauge handle. -/
inductive GaugeOp (V : Type)
  | set (g : OtelGauge) (value : V)
  | add (g : OtelGauge) (delta : V)

namespace GaugeOp

/-- The handle the call is made on. -/
def gauge : GaugeOp V → OtelGauge
  | set g _ | add g _ => g

/-- The call, on the collector. -/
def apply [Add V] (c : GaugeCollector V) : GaugeOp V → GaugeCollector V
  | set g value => g.set c value
  | add g delta => g.add c delta

/-- The value the call leaves, from the value before it: `Set` overwrites, `Add` adds its delta,
and an absent value starts from the delta. -/
def update [Add V] : GaugeOp V → Option V → V
  | set _ value, _ => value
  | add _ delta, old => addValue delta old

/-- What the call makes of the entry under `(name, key)`. -/
def stepEntry [Add V] (name key : String) (e : Option (GaugeValue V)) (op : GaugeOp V) :
    Option (GaugeValue V) :=
  if name = op.gauge.name ∧ key = gaugeKey op.gauge.labelNamesValues then
    some ⟨op.gauge.labelNamesValues, op.update (e.map (·.value))⟩
  else e

/-- What the call makes of the reference value of `(name, L)`. -/
def stepRef [Add V] (name : String) (L : OtelLabelNamesValues) (v : Option V) (op : GaugeOp V) :
    Option V :=
  if name = op.gauge.name ∧ L = op.gauge.labelNamesValues then some (op.update v) else v

end GaugeOp

/-- A sequence of calls, in order. -/
def GaugeCollector.run [Add V] (c : GaugeCollector V) (ops : List (GaugeOp V)) :
    GaugeCollector V :=
  ops.foldl GaugeOp.apply c

/-- The reference the collector stands for: a finite map keyed by the gauge name and the exact
label list, whose value at `(name, L)` applies in order only the calls made on `(name, L)`. -/
def refValue [Add V] (ops : List (GaugeOp V)) (name : String) (L : OtelLabelNamesValues) :
    Option V :=
  ops.foldl (GaugeOp.stepRef name L) none

/-- No call on `name` writes a label list other than `L` under the key of `L`. -/
def NoCollision (ops : List (GaugeOp V)) (name : String) (L : OtelLabelNamesValues) : Prop :=
  ∀ op ∈ ops, op.gauge.name = name → gaugeKey op.gauge.labelNamesValues = gaugeKey L →
    op.gauge.labelNamesValues = L

instance (ops : List (GaugeOp V)) (name : String) (L : OtelLabelNamesValues) :
    Decidable (NoCollision ops name L) :=
  inferInstanceAs (Decidable (∀ op ∈ ops, op.gauge.name = name →
    gaugeKey op.gauge.labelNamesValues = gaugeKey L → op.gauge.labelNamesValues = L))

namespace GaugeCollector

theorem entry_apply [Add V] (c : GaugeCollector V) (op : GaugeOp V) (name key : String) :
    (op.apply c).entry name key = op.stepEntry name key (c.entry name key) := by
  cases op with
  | set g value => exact entry_set c g.name value g.labelNamesValues name key
  | add g delta => exact entry_add c g.name delta g.labelNamesValues name key

/-- After any sequence of calls, the entry under `(name, key)` is the fold of the calls over the
entry before them. -/
theorem entry_run [Add V] (c : GaugeCollector V) (ops : List (GaugeOp V)) (name key : String) :
    (c.run ops).entry name key = ops.foldl (GaugeOp.stepEntry name key) (c.entry name key) := by
  induction ops generalizing c with
  | nil => rfl
  | cons op ops ih => rw [run, List.foldl_cons, ← run, ih, entry_apply, List.foldl_cons]

theorem stepEntry_map [Add V] {op : GaugeOp V} {name : String} {L : OtelLabelNamesValues}
    (h : op.gauge.name = name → gaugeKey op.gauge.labelNamesValues = gaugeKey L →
      op.gauge.labelNamesValues = L) (v : Option V) :
    op.stepEntry name (gaugeKey L) (v.map (⟨L, ·⟩)) = (op.stepRef name L v).map (⟨L, ·⟩) := by
  unfold GaugeOp.stepEntry GaugeOp.stepRef
  by_cases hk : name = op.gauge.name ∧ gaugeKey L = gaugeKey op.gauge.labelNamesValues
  · have hL := h hk.1.symm hk.2.symm
    rw [if_pos hk, if_pos ⟨hk.1, hL.symm⟩, hL, Option.map_map]
    cases v <;> rfl
  · rw [if_neg hk, if_neg fun hr => hk ⟨hr.1, by rw [hr.2]⟩]

theorem foldl_stepEntry_of_noCollision [Add V] {ops : List (GaugeOp V)} {name : String}
    {L : OtelLabelNamesValues} (h : NoCollision ops name L) (v : Option V) :
    ops.foldl (GaugeOp.stepEntry name (gaugeKey L)) (v.map (⟨L, ·⟩)) =
      (ops.foldl (GaugeOp.stepRef name L) v).map (⟨L, ·⟩) := by
  induction ops generalizing v with
  | nil => rfl
  | cons op ops ih =>
    rw [List.foldl_cons, List.foldl_cons, stepEntry_map (h op (List.mem_cons_self _ _)),
      ih fun o ho => h o (List.mem_cons_of_mem _ ho)]

/-- When no call on `name` collides with `L`, the collector refines the reference: starting
from no entry, the entry under the key of `L` carries `L` and its reference value. -/
theorem entry_run_of_noCollision [Add V] {c : GaugeCollector V} {ops : List (GaugeOp V)}
    {name : String} {L : OtelLabelNamesValues} (h0 : c.entry name (gaugeKey L) = none)
    (h : NoCollision ops name L) :
    (c.run ops).entry name (gaugeKey L) = (refValue ops name L).map (⟨L, ·⟩) := by
  rw [entry_run, h0, refValue, ← foldl_stepEntry_of_noCollision h]
  rfl

end GaugeCollector

/-- On any collector, registering a gauge and setting `["a", "bc"]` and then `["ab", "c"]` on
it leaves one observation, for the second list, where the reference keeps `1.0` for the first:
both lists have the key `"abc"`. -/
theorem observe_set_collision (c : GaugeCollector Float) (name desc unit : String) :
    match newOTLPGaugeFrom c name desc unit with
    | (c, g) =>
      (c.run [.set (g.With ["a", "bc"]) 1.0, .set (g.With ["ab", "c"]) 2.0]).observe name g.ip =
          [⟨g.ip, 2.0, [⟨"ab", "c"⟩]⟩] ∧
        refValue [.set (g.With ["a", "bc"]) (1.0 : Float), .set (g.With ["ab", "c"]) 2.0] name
          ["a", "bc"] = some 1.0 := by
  have k₁ : gaugeKey (OtelLabelNamesValues.With [] ["a", "bc"]) = "abc" := rfl
  have k₂ : gaugeKey (OtelLabelNamesValues.With [] ["ab", "c"]) = "abc" := rfl
  have l₂ : (OtelLabelNamesValues.With [] ["ab", "c"]).toLabels = [⟨"ab", "c"⟩] := by decide
  constructor
  · simp [newOTLPGaugeFrom, GaugeCollector.run, GaugeOp.apply, OtelGauge.set, OtelGauge.With,
      GaugeCollector.set_eq, k₁, k₂, l₂, GaugeCollector.observe]
  · simp [refValue, GaugeOp.stepRef, GaugeOp.update, GaugeOp.gauge, OtelGauge.With,
      newOTLPGaugeFrom, OtelLabelNamesValues.With, padLabelValues]

end Traefik.Metrics

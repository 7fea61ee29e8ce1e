import Traefik.Metrics.Slices
import Traefik.Metrics.GaugeCollector

/-!
# Metric handles over shared label arrays

Reference: `pkg/metrics/opentelemetry.go` (`otelCounter`, `otelHistogram`, `otelGauge`,
`gaugeCollector`).

The handles of the package carry their labels as an `otelLabelNamesValues` slice, and the gauge
collector keeps the slice each entry was written with: `add` and `set` key the entry by
`strings.Join(attributes, "")` when they are called, and the callback reads `ToLabels()` of the
stored slice when it observes. Here a program's handles form a table. `CodeState` runs calls on
it over the heap of `Slices.lean`; `ValueState` runs the same calls with label lists as values,
through the model of `LabelNamesValues.lean` and `GaugeCollector.lean`.

`Refines.run` says that the first simulates the second along every run in which no `With` call
writes in place over cells another handle reads (`NoClobberRun`): each handle reads the value
model's label list, the collector read through the heap is the value model's collector, and the
same measurements are recorded. So along such runs the counters and histograms record what the
value model records (`measurements_run_of_noClobber`), and a gauge entry carries the reference
value of its label list (`entry_run_of_noClobber`). Along other runs they need not: a handle can
read the labels of a sibling `With` (`read_With_sibling`).
-/

namespace Traefik.Metrics

open OtelLabelNamesValues

variable {V : Type}

/-! ## The values of an association list through a function -/

section MapValues

variable {β γ : Type}

/-- The association list with every value mapped by `f`. -/
def mapValues (f : β → γ) (m : AList fun _ : String => β) : AList fun _ : String => γ :=
  ⟨m.entries.map fun e => ⟨e.1, f e.2⟩, by
    simpa [List.NodupKeys, List.keys, Function.comp_def] using m.nodupKeys⟩

theorem lookup_mapValues (f : β → γ) (m : AList fun _ : String => β) (k : String) :
    (mapValues f m).lookup k = (m.lookup k).map f :=
  List.dlookup_map₂ (l := m.entries) (f := fun _ => f) k

theorem kerase_map_values (f : β → γ) (k : String) :
    ∀ l : List (Σ _ : String, β), (l.map fun e => (⟨e.1, f e.2⟩ : Σ _ : String, γ)).kerase k =
      (l.kerase k).map fun e => ⟨e.1, f e.2⟩
  | [] => rfl
  | e :: l => by
    by_cases h : k = e.1
    · rw [List.map_cons, List.kerase_cons_eq (s := (⟨e.1, f e.2⟩ : Σ _ : String, γ)) h,
        List.kerase_cons_eq h]
    · rw [List.map_cons, List.kerase_cons_ne (s := (⟨e.1, f e.2⟩ : Σ _ : String, γ)) h,
        List.kerase_cons_ne h, List.map_cons, kerase_map_values f k l]

theorem mapValues_insert (f : β → γ) (m : AList fun _ : String => β) (k : String) (v : β) :
    mapValues f (m.insert k v) = (mapValues f m).insert k (f v) :=
  AList.ext (by simp only [mapValues, AList.insert_entries, List.map_cons, kerase_map_values])

theorem mapValues_empty (f : β → γ) : mapValues f ∅ = ∅ := rfl

theorem mapValues_congr {f g : β → γ} {m : AList fun _ : String => β}
    (h : ∀ e ∈ m.entries, f e.2 = g e.2) : mapValues f m = mapValues g m :=
  AList.ext (List.map_congr_left fun e he => by rw [h e he])

end MapValues

/-! ## The collector as the code holds it -/

/-- `gaugeValue` as the code stores it: the caller's `attributes` slice, and the value. -/
structure SliceGaugeValue (V : Type) where
  attributes : Slice
  value : V

/-- `gaugeCollector` as the code holds it: each entry keeps the slice it was written with. -/
structure SliceCollector (V : Type) where
  values : AList fun _ : String => AList fun _ : String => SliceGaugeValue V

namespace SliceCollector

/-- `gaugeCollector.add`: the key is `strings.Join(attributes, "")` of the list the slice reads
when the call is made; the entry keeps the slice itself. -/
def add [Add V] (heap : Heap) (c : SliceCollector V) (name : String) (delta : V)
    (attributes : Slice) : SliceCollector V :=
  let str := gaugeKey (attributes.read heap)
  match c.values.lookup name with
  | none => ⟨c.values.insert name ((∅ : AList fun _ : String => SliceGaugeValue V).insert str
      ⟨attributes, delta⟩)⟩
  | some m =>
    match m.lookup str with
    | none => ⟨c.values.insert name (m.insert str ⟨attributes, delta⟩)⟩
    | some v => ⟨c.values.insert name (m.insert str ⟨attributes, v.value + delta⟩)⟩

/-- `gaugeCollector.set`. -/
def set (heap : Heap) (c : SliceCollector V) (name : String) (value : V)
    (attributes : Slice) : SliceCollector V :=
  let m := match c.values.lookup name with
    | none => ∅
    | some m => m
  ⟨c.values.insert name (m.insert (gaugeKey (attributes.read heap)) ⟨attributes, value⟩)⟩

/-- The callback `newOTLPGaugeFrom` registers, run under a heap: one observation per entry of the
gauge's name, with `ToLabels()` of the stored slice as it reads then. -/
def observe (heap : Heap) (c : SliceCollector V) (name : String) (ip : Instrument) :
    List (Measurement V) :=
  match c.values.lookup name with
  | none => []
  | some values =>
    values.entries.map fun e => ⟨ip, e.2.value, (e.2.attributes.read heap).toLabels⟩

/-- The collector under a heap: every stored slice read. -/
def view (heap : Heap) (c : SliceCollector V) : GaugeCollector V :=
  ⟨mapValues (mapValues fun gv => ⟨gv.attributes.read heap, gv.value⟩) c.values⟩

/-- The slices the collector keeps. -/
def stored (c : SliceCollector V) : List Slice :=
  c.values.entries.flatMap fun e => e.2.entries.map (·.2.attributes)

/-! ### Read through the heap, the collector is the value model's -/

/-- The callback observes what the value model's callback observes on the collector's view. -/
theorem observe_eq_view (heap : Heap) (c : SliceCollector V) (name : String) (ip : Instrument) :
    c.observe heap name ip = (c.view heap).observe name ip := by
  unfold observe view GaugeCollector.observe
  rw [lookup_mapValues]
  rcases c.values.lookup name with _ | values
  · rfl
  · simp [mapValues]

theorem view_add [Add V] (heap : Heap) (c : SliceCollector V) (name : String) (delta : V)
    (attributes : Slice) :
    (c.add heap name delta attributes).view heap =
      (c.view heap).add name delta (attributes.read heap) := by
  simp only [add, view, GaugeCollector.add, lookup_mapValues]
  rcases c.values.lookup name with _ | m
  · simp only [Option.map_none', mapValues_insert, mapValues_empty]
  · simp only [Option.map_some', lookup_mapValues]
    rcases m.lookup (gaugeKey (attributes.read heap)) with _ | v <;> simp [mapValues_insert]

theorem view_set (heap : Heap) (c : SliceCollector V) (name : String) (value : V)
    (attributes : Slice) :
    (c.set heap name value attributes).view heap =
      (c.view heap).set name value (attributes.read heap) := by
  simp only [set, view, GaugeCollector.set, lookup_mapValues]
  rcases c.values.lookup name with _ | m <;>
    simp only [Option.map_none', Option.map_some', mapValues_insert, mapValues_empty]

/-- The view changes with the heap only through the stored slices. -/
theorem view_congr {heap heap' : Heap} {c : SliceCollector V}
    (h : ∀ s ∈ c.stored, s.read heap' = s.read heap) : c.view heap' = c.view heap := by
  unfold view
  congr 1
  refine mapValues_congr fun e he => mapValues_congr fun e' he' => ?_
  rw [h _ (List.mem_flatMap.2 ⟨e, he, List.mem_map_of_mem _ he'⟩)]

/-! ### The slices a write stores -/

theorem mem_stored_insert {c : SliceCollector V} {name key : String}
    {m : AList fun _ : String => SliceGaugeValue V} {gv : SliceGaugeValue V}
    (hm : m = ∅ ∨ c.values.lookup name = some m) {s : Slice}
    (hs : s ∈ (⟨c.values.insert name (m.insert key gv)⟩ : SliceCollector V).stored) :
    s = gv.attributes ∨ s ∈ c.stored := by
  simp only [stored, AList.insert_entries, List.flatMap_cons, List.map_cons, List.mem_append,
    List.mem_cons, List.mem_map, List.mem_flatMap] at hs
  rcases hs with (rfl | ⟨e, he, rfl⟩) | ⟨e, he, e', he', rfl⟩
  · exact .inl rfl
  · refine .inr ?_
    have he := (List.kerase_sublist _ _).subset he
    rcases hm with rfl | hm
    · exact absurd he (List.not_mem_nil _)
    · exact List.mem_flatMap.2 ⟨⟨name, m⟩, AList.mem_lookup_iff.1 hm, List.mem_map_of_mem _ he⟩
  · exact .inr (List.mem_flatMap.2
      ⟨e, (List.kerase_sublist _ _).subset he, List.mem_map.2 ⟨e', he', rfl⟩⟩)

theorem mem_stored_add [Add V] {heap : Heap} {c : SliceCollector V} {name : String} {delta : V}
    {attributes s : Slice} (hs : s ∈ (c.add heap name delta attributes).stored) :
    s = attributes ∨ s ∈ c.stored := by
  unfold add at hs
  rcases hn : c.values.lookup name with _ | m <;> simp only [hn] at hs
  · exact mem_stored_insert (.inl rfl) hs
  · rcases hk : m.lookup (gaugeKey (attributes.read heap)) with _ | v <;> simp only [hk] at hs <;>
      exact mem_stored_insert (.inr hn) hs

theorem mem_stored_set {heap : Heap} {c : SliceCollector V} {name : String} {value : V}
    {attributes s : Slice} (hs : s ∈ (c.set heap name value attributes).stored) :
    s = attributes ∨ s ∈ c.stored := by
  unfold set at hs
  rcases hn : c.values.lookup name with _ | m <;> simp only [hn] at hs
  · exact mem_stored_insert (.inl rfl) hs
  · exact mem_stored_insert (.inr hn) hs

end SliceCollector

/-! ## A program's handles -/

/-- The type of a metric handle: `otelCounter`, `otelHistogram`, or `otelGauge` with its name. -/
inductive HandleKind
  | counter
  | histogram
  | gauge (name : String)
  deriving DecidableEq, Repr

/-- A metric handle, over a representation `A` of its label list: the labels, the instrument `ip`,
and its type. -/
structure MetricHandle (A : Type) where
  labelNamesValues : A
  ip : Instrument
  kind : HandleKind

/-- A handle with its labels read in a heap. -/
def MetricHandle.read (heap : Heap) (h : MetricHandle Slice) : MetricHandle OtelLabelNamesValues :=
  ⟨h.labelNamesValues.read heap, h.ip, h.kind⟩

/-- A call on the handle at an index of the program's table: `With`, whose result joins the
table, `Add`, `Set` or `Observe`. A method the handle's type lacks does nothing. -/
inductive HandleCall (V : Type)
  | With (i : Nat) (labelValues : List String)
  | add (i : Nat) (delta : V)
  | set (i : Nat) (value : V)
  | observe (i : Nat) (incr : V)

/-- The program's memory as the code has it: the heap, the handles, the gauge collector, and the
measurements handed to the counters and histograms so far. -/
structure CodeState (V : Type) where
  heap : Heap
  handles : List (MetricHandle Slice)
  collector : SliceCollector V
  measurements : List (Measurement V)

/-- The same with label lists as values, and the gauge calls made so far. -/
structure ValueState (V : Type) where
  handles : List (MetricHandle OtelLabelNamesValues)
  collector : GaugeCollector V
  ops : List (GaugeOp V)
  measurements : List (Measurement V)

namespace CodeState

/-- Handles created by `newOTLPCounterFrom`, `newOTLPHistogramFrom` and `newOTLPGaugeFrom`, with
no labels, over an empty heap and collector. -/
def init (roots : List (Instrument × HandleKind)) : CodeState V :=
  ⟨Heap.empty, roots.map fun r => ⟨Slice.nil, r.1, r.2⟩, ⟨∅⟩, []⟩

/-- `otelCounter.Add` and `otelHistogram.Observe`: `ip.Add` or `ip.Record` under `ToLabels()` of
the labels as they read at the call. -/
def record (st : CodeState V) (ip : Instrument) (v : V) (lvs : Slice) : CodeState V :=
  { st with measurements := st.measurements ++ [⟨ip, v, (lvs.read st.heap).toLabels⟩] }

/-- One call. -/
def step [Add V] (growth : Growth) (st : CodeState V) : HandleCall V → CodeState V
  | .With i labelValues =>
    match st.handles[i]? with
    | some h =>
      { st with heap := (h.labelNamesValues.With growth st.heap labelValues).1,
                handles := st.handles ++
                  [⟨(h.labelNamesValues.With growth st.heap labelValues).2, h.ip, h.kind⟩] }
    | none => st
  | .add i delta =>
    match st.handles[i]? with
    | some ⟨lvs, ip, .counter⟩ => st.record ip delta lvs
    | some ⟨lvs, _, .gauge name⟩ => { st with collector := st.collector.add st.heap name delta lvs }
    | _ => st
  | .set i value =>
    match st.handles[i]? with
    | some ⟨lvs, _, .gauge name⟩ => { st with collector := st.collector.set st.heap name value lvs }
    | _ => st
  | .observe i incr =>
    match st.handles[i]? with
    | some ⟨lvs, ip, .histogram⟩ => st.record ip incr lvs
    | _ => st

/-- A sequence of calls, in order. -/
def run [Add V] (growth : Growth) (st : CodeState V) (calls : List (HandleCall V)) : CodeState V :=
  calls.foldl (step growth) st

end CodeState

namespace ValueState

/-- The value model's start from the same handles. -/
def init (roots : List (Instrument × HandleKind)) : ValueState V :=
  ⟨roots.map fun r => ⟨[], r.1, r.2⟩, newOpenTelemetryGaugeCollector, [], []⟩

/-- A measurement handed to a counter or a histogram. -/
def record (st : ValueState V) (m : Measurement V) : ValueState V :=
  { st with measurements := st.measurements ++ [m] }

/-- A gauge call: applied to the collector, and logged. -/
def gauge [Add V] (st : ValueState V) (op : GaugeOp V) : ValueState V :=
  { st with collector := op.apply st.collector, ops := st.ops ++ [op] }

/-- One call, with the value model's handles. -/
def step [Add V] (st : ValueState V) : HandleCall V → ValueState V
  | .With i labelValues =>
    match st.handles[i]? with
    | some h => { st with handles := st.handles ++ [⟨h.labelNamesValues.With labelValues, h.ip, h.kind⟩] }
    | none => st
  | .add i delta =>
    match st.handles[i]? with
    | some ⟨lvs, ip, .counter⟩ => st.record ((OtelHandle.mk lvs ip).add delta)
    | some ⟨lvs, ip, .gauge name⟩ => st.gauge (.add ⟨lvs, ip, name⟩ delta)
    | _ => st
  | .set i value =>
    match st.handles[i]? with
    | some ⟨lvs, ip, .gauge name⟩ => st.gauge (.set ⟨lvs, ip, name⟩ value)
    | _ => st
  | .observe i incr =>
    match st.handles[i]? with
    | some ⟨lvs, ip, .histogram⟩ => st.record ((OtelHandle.mk lvs ip).observe incr)
    | _ => st

/-- A sequence of calls, in order. -/
def run [Add V] (st : ValueState V) (calls : List (HandleCall V)) : ValueState V :=
  calls.foldl step st

end ValueState

/-! ## Runs in which no `With` writes over another handle's labels -/

/-- A call that writes over no cell another handle reads: a `With` whose append, if in place,
stays past every handle on the same array. -/
def NoClobber (st : CodeState V) : HandleCall V → Prop
  | .With i labelValues => ∀ h ∈ st.handles[i]?, ∀ q ∈ st.handles,
    ¬ h.labelNamesValues.Clobbers (padLabelValues labelValues).length q.labelNamesValues
  | _ => True

instance (st : CodeState V) : (call : HandleCall V) → Decidable (NoClobber st call)
  | .With i labelValues => inferInstanceAs (Decidable (∀ h ∈ st.handles[i]?, ∀ q ∈ st.handles,
    ¬ h.labelNamesValues.Clobbers (padLabelValues labelValues).length q.labelNamesValues))
  | .add .. | .set .. | .observe .. => isTrue trivial

/-- Every call of a run is a `NoClobber` call in the state it is made in. -/
def NoClobberRun [Add V] (growth : Growth) : CodeState V → List (HandleCall V) → Prop
  | _, [] => True
  | st, call :: calls => NoClobber st call ∧ NoClobberRun growth (st.step growth call) calls

instance decNoClobberRun [Add V] (growth : Growth) :
    (st : CodeState V) → (calls : List (HandleCall V)) → Decidable (NoClobberRun growth st calls)
  | _, [] => isTrue trivial
  | st, call :: calls =>
    haveI := decNoClobberRun growth (st.step growth call) calls
    inferInstanceAs (Decidable (NoClobber st call ∧ NoClobberRun growth (st.step growth call) calls))

/-! ## The code refines the value model -/

/-- The code's memory read through its heap is the value model's: the handles read its label
lists, every handle and stored slice is backed, the collector stores only handles' slices and
reads as the value collector, and the measurements are the same. -/
structure Refines (cs : CodeState V) (vs : ValueState V) : Prop where
  handles : cs.handles.map (MetricHandle.read cs.heap) = vs.handles
  backed : ∀ h ∈ cs.handles, h.labelNamesValues.Backed cs.heap
  stored : ∀ s ∈ cs.collector.stored, ∃ h ∈ cs.handles, h.labelNamesValues = s
  collector : cs.collector.view cs.heap = vs.collector
  measurements : cs.measurements = vs.measurements

theorem refines_init (roots : List (Instrument × HandleKind)) :
    Refines (CodeState.init roots : CodeState V) (ValueState.init roots) where
  handles := by simp [CodeState.init, ValueState.init, MetricHandle.read, Slice.read, Slice.nil]
  backed := by
    simp only [CodeState.init, List.mem_map]
    rintro h ⟨r, -, rfl⟩
    exact ⟨le_rfl, fun hc => absurd hc (lt_irrefl 0)⟩
  stored := by simp [CodeState.init, SliceCollector.stored]
  collector := rfl
  measurements := rfl

section Step

variable (growth : Growth) {cs : CodeState V} {vs : ValueState V}

theorem Refines.getElem? (hr : Refines cs vs) (i : Nat) :
    vs.handles[i]? = cs.handles[i]?.map (MetricHandle.read cs.heap) := by
  rw [← hr.handles, List.getElem?_map]

/-- A `With` that writes over no handle's labels adds the handle the value model adds, and leaves
every other reading as it was. -/
theorem Refines.With (hr : Refines cs vs) {h : MetricHandle Slice} (hh : h ∈ cs.handles)
    (labelValues : List String)
    (hn : ∀ q ∈ cs.handles,
      ¬ h.labelNamesValues.Clobbers (padLabelValues labelValues).length q.labelNamesValues) :
    Refines
      { cs with heap := (h.labelNamesValues.With growth cs.heap labelValues).1,
                handles := cs.handles ++
                  [⟨(h.labelNamesValues.With growth cs.heap labelValues).2, h.ip, h.kind⟩] }
      { vs with handles := vs.handles ++
          [⟨(h.labelNamesValues.read cs.heap).With labelValues, h.ip, h.kind⟩] } := by
  have hb := hr.backed h hh
  have hread : ∀ q ∈ cs.handles, q.labelNamesValues.read
      (h.labelNamesValues.With growth cs.heap labelValues).1 = q.labelNamesValues.read cs.heap :=
    fun q hq => Slice.read_append_of_not_clobbers growth (hr.backed q hq) hb (hn q hq)
  refine ⟨?_, ?_, ?_, ?_, hr.measurements⟩
  · rw [List.map_append, ← hr.handles, List.map_singleton, MetricHandle.read,
      Slice.read_With growth hb]
    congr 1
    exact List.map_congr_left fun q hq => by rw [MetricHandle.read, MetricHandle.read, hread q hq]
  · intro q hq
    rcases List.mem_append.1 hq with hq | hq
    · exact (hr.backed q hq).append growth hb _
    · rw [List.mem_singleton.1 hq]
      exact Slice.backed_append growth hb _
  · intro s hs
    obtain ⟨q, hq, rfl⟩ := hr.stored s hs
    exact ⟨q, List.mem_append_left _ hq, rfl⟩
  · rw [← hr.collector]
    refine SliceCollector.view_congr fun s hs => ?_
    obtain ⟨q, hq, rfl⟩ := hr.stored s hs
    exact hread q hq

theorem Refines.record (hr : Refines cs vs) (ip : Instrument) (v : V) (lvs : Slice) :
    Refines (cs.record ip v lvs) (vs.record ⟨ip, v, (lvs.read cs.heap).toLabels⟩) :=
  { hr with measurements := by rw [CodeState.record, ValueState.record, hr.measurements] }

/-- A gauge call on a handle of the table writes the collector as the value model's call does. -/
theorem Refines.gauge [Add V] (hr : Refines cs vs) {c : SliceCollector V} {op : GaugeOp V}
    {lvs : Slice} (hl : ∃ h ∈ cs.handles, h.labelNamesValues = lvs)
    (hview : c.view cs.heap = op.apply (cs.collector.view cs.heap))
    (hstored : ∀ s ∈ c.stored, s = lvs ∨ s ∈ cs.collector.stored) :
    Refines { cs with collector := c } (vs.gauge op) := by
  refine ⟨hr.handles, hr.backed, fun s hs => ?_, by rw [hview, hr.collector]; rfl,
    hr.measurements⟩
  rcases hstored s hs with rfl | hs
  · exact hl
  · exact hr.stored s hs

/-- One call that writes over no handle's labels keeps the code refining the value model. -/
theorem Refines.step [Add V] (hr : Refines cs vs) {call : HandleCall V} (hn : NoClobber cs call) :
    Refines (cs.step growth call) (vs.step call) := by
  cases call with
  | With i labelValues =>
    rcases hi : cs.handles[i]? with _ | h <;>
      simp only [CodeState.step, ValueState.step, hi, hr.getElem? i, Option.map_none',
        Option.map_some'] <;> try exact hr
    exact hr.With growth (List.getElem?_mem hi) labelValues (hn h hi)
  | add i delta =>
    rcases hi : cs.handles[i]? with _ | ⟨lvs, ip, _ | _ | name⟩ <;>
      simp only [CodeState.step, ValueState.step, hi, hr.getElem? i, Option.map_none',
        Option.map_some', MetricHandle.read] <;> try exact hr
    · exact hr.record ip delta lvs
    · exact hr.gauge ⟨_, List.getElem?_mem hi, rfl⟩ (SliceCollector.view_add ..)
        fun _ => SliceCollector.mem_stored_add
  | set i value =>
    rcases hi : cs.handles[i]? with _ | ⟨lvs, ip, _ | _ | name⟩ <;>
      simp only [CodeState.step, ValueState.step, hi, hr.getElem? i, Option.map_none',
        Option.map_some', MetricHandle.read] <;> try exact hr
    exact hr.gauge ⟨_, List.getElem?_mem hi, rfl⟩ (SliceCollector.view_set ..)
      fun _ => SliceCollector.mem_stored_set
  | observe i incr =>
    rcases hi : cs.handles[i]? with _ | ⟨lvs, ip, _ | _ | name⟩ <;>
      simp only [CodeState.step, ValueState.step, hi, hr.getElem? i, Option.map_none',
        Option.map_some', MetricHandle.read] <;> try exact hr
    exact hr.record ip incr lvs

/-- Along a run of calls that write over no handle's labels, the code refines the value model. -/
theorem Refines.run [Add V] (hr : Refines cs vs) {calls : List (HandleCall V)}
    (hn : NoClobberRun growth cs calls) : Refines (cs.run growth calls) (vs.run calls) := by
  induction calls generalizing cs vs with
  | nil => exact hr
  | cons call calls ih => exact ih (hr.step growth hn.1) hn.2

end Step

/-! ## What the value model keeps along a run -/

namespace ValueState

variable [Add V]

theorem run_invariant (P : ValueState V → Prop) (hstep : ∀ vs, P vs → ∀ call, P (vs.step call))
    {vs : ValueState V} (h : P vs) (calls : List (HandleCall V)) : P (vs.run calls) := by
  induction calls generalizing vs with
  | nil => exact h
  | cons call calls ih => exact ih (hstep vs h call)

/-- The value collector is the initial one run through the logged gauge calls. -/
theorem collector_step {vs : ValueState V} {c₀ : GaugeCollector V} (h : vs.collector = c₀.run vs.ops)
    (call : HandleCall V) : (vs.step call).collector = c₀.run (vs.step call).ops := by
  have hgauge : ∀ op, (vs.gauge op).collector = c₀.run (vs.gauge op).ops := fun op => by
    show op.apply vs.collector = (vs.ops ++ [op]).foldl GaugeOp.apply c₀
    rw [List.foldl_append, h]
    rfl
  cases call <;> simp only [step] <;> split <;> first | exact hgauge _ | exact h

/-- Every label list of the value model is reached from the empty list by `With`. -/
theorem reachable_step {vs : ValueState V}
    (h : ∀ hd ∈ vs.handles, Reachable hd.labelNamesValues) (call : HandleCall V) :
    ∀ hd ∈ (vs.step call).handles, Reachable hd.labelNamesValues := by
  cases call with
  | With i labelValues =>
    rcases hi : vs.handles[i]? with _ | hd <;> simp only [step, hi]
    · exact h
    · intro q hq
      rcases List.mem_append.1 hq with hq | hq
      · exact h q hq
      · rw [List.mem_singleton.1 hq]
        exact (h hd (List.getElem?_mem hi)).With labelValues
  | add _ _ | set _ _ | observe _ _ => simp only [step]; split <;> exact h

end ValueState

/-! ## Counters, histograms and gauges along runs that write over no labels -/

/-- Along every run of calls on handles created with no labels in which no `With` writes over
another handle's labels, each handle reads the label list the value model gives it, a list reached
from the empty list by `With`, and the counters and histograms receive exactly the value model's
measurements. -/
theorem measurements_run_of_noClobber [Add V] (growth : Growth)
    (roots : List (Instrument × HandleKind)) (calls : List (HandleCall V))
    (hn : NoClobberRun growth (CodeState.init roots) calls) :
    ((CodeState.init roots).run growth calls).handles.map
        (MetricHandle.read ((CodeState.init roots).run growth calls).heap) =
      ((ValueState.init roots).run calls).handles ∧
    (∀ h ∈ ((ValueState.init roots).run calls).handles, Reachable h.labelNamesValues) ∧
    ((CodeState.init roots).run growth calls).measurements =
      ((ValueState.init roots).run calls).measurements := by
  have hr := (refines_init roots).run growth hn
  refine ⟨hr.handles, ValueState.run_invariant (fun vs => ∀ h ∈ vs.handles,
    Reachable h.labelNamesValues) (fun _ => ValueState.reachable_step) ?_ calls, hr.measurements⟩
  simp only [ValueState.init, List.mem_map]
  rintro h ⟨r, -, rfl⟩
  exact .nil

/-- `measurements_run_of_noClobber` on a request counter given a status code, counted, then given
another status code from the root and counted again. -/
theorem measurements_run_requests_counter :
    NoClobberRun goGrowth (CodeState.init [(⟨"requests", "", "1"⟩, .counter)])
        [.With 0 ["code", "200"], .add 1 1, .With 0 ["code", "404"], .add 2 (1 : Nat)] ∧
      ((CodeState.init [(⟨"requests", "", "1"⟩, .counter)]).run goGrowth
          [.With 0 ["code", "200"], .add 1 1, .With 0 ["code", "404"], .add 2 (1 : Nat)]).handles.map
          (MetricHandle.read ((CodeState.init [(⟨"requests", "", "1"⟩, .counter)]).run goGrowth
            [.With 0 ["code", "200"], .add 1 1, .With 0 ["code", "404"], .add 2 (1 : Nat)]).heap) =
        ((ValueState.init [(⟨"requests", "", "1"⟩, .counter)]).run
          [.With 0 ["code", "200"], .add 1 1, .With 0 ["code", "404"], .add 2 (1 : Nat)]).handles ∧
      (∀ h ∈ ((ValueState.init [(⟨"requests", "", "1"⟩, .counter)]).run
          [.With 0 ["code", "200"], .add 1 1, .With 0 ["code", "404"], .add 2 (1 : Nat)]).handles,
        Reachable h.labelNamesValues) ∧
      ((CodeState.init [(⟨"requests", "", "1"⟩, .counter)]).run goGrowth
          [.With 0 ["code", "200"], .add 1 1, .With 0 ["code", "404"], .add 2 (1 : Nat)]).measurements =
        ((ValueState.init [(⟨"requests", "", "1"⟩, .counter)]).run
          [.With 0 ["code", "200"], .add 1 1, .With 0 ["code", "404"], .add 2 (1 : Nat)]).measurements :=
  ⟨by decide, measurements_run_of_noClobber goGrowth _ _ (by decide)⟩

/-- Without the condition the code leaves the value model: on the chain `a=1, b=2, c=3`,
`With("d", "5")` and then `With("d", "4")`, an `Add` on the first records `d=4` where the value
model records `d=5`. -/
example :
    ¬ NoClobberRun goGrowth (CodeState.init [(⟨"requests", "", "1"⟩, .counter)])
        [.With 0 ["a", "1"], .With 1 ["b", "2"], .With 2 ["c", "3"], .With 3 ["d", "5"],
          .With 3 ["d", "4"], .add 4 (1 : Nat)] ∧
      ((CodeState.init [(⟨"requests", "", "1"⟩, .counter)]).run goGrowth
          [.With 0 ["a", "1"], .With 1 ["b", "2"], .With 2 ["c", "3"], .With 3 ["d", "5"],
            .With 3 ["d", "4"], .add 4 (1 : Nat)]).measurements.map (·.attributes) =
        [[⟨"a", "1"⟩, ⟨"b", "2"⟩, ⟨"c", "3"⟩, ⟨"d", "4"⟩]] ∧
      ((ValueState.init [(⟨"requests", "", "1"⟩, .counter)]).run
          [.With 0 ["a", "1"], .With 1 ["b", "2"], .With 2 ["c", "3"], .With 3 ["d", "5"],
            .With 3 ["d", "4"], .add 4 (1 : Nat)]).measurements.map (·.attributes) =
        [[⟨"a", "1"⟩, ⟨"b", "2"⟩, ⟨"c", "3"⟩, ⟨"d", "5"⟩]] := by
  decide

/-- Along every run that writes over no labels, the entry the gauge collector keeps under a
gauge name and the key of a label list `L`, its stored slice read when the callback observes it,
is the reference value of `(name, L)` of the value model's gauge calls, when none of those calls
on that name collides with `L`. -/
theorem entry_run_of_noClobber [Add V] (growth : Growth) (roots : List (Instrument × HandleKind))
    (calls : List (HandleCall V)) (name : String) (L : OtelLabelNamesValues)
    (hn : NoClobberRun growth (CodeState.init roots) calls)
    (hc : NoCollision ((ValueState.init roots).run calls).ops name L) :
    (((CodeState.init roots).run growth calls).collector.view
        ((CodeState.init roots).run growth calls).heap).entry name (gaugeKey L) =
      (refValue ((ValueState.init roots).run calls).ops name L).map (⟨L, ·⟩) := by
  rw [((refines_init roots).run growth hn).collector,
    ValueState.run_invariant (fun vs => vs.collector = newOpenTelemetryGaugeCollector.run vs.ops)
      (fun _ => ValueState.collector_step) rfl calls]
  exact GaugeCollector.entry_run_of_noCollision rfl hc

/-- `entry_run_of_noClobber` on the open-connections gauge of two entry points. -/
theorem entry_run_open_connections :
    NoClobberRun goGrowth (CodeState.init [(⟨"conns", "", "1"⟩, .gauge "conns")])
        [.With 0 ["entrypoint", "web"], .add 1 2, .With 0 ["entrypoint", "websecure"], .add 2 1,
          .set 1 (5 : Nat)] ∧
      NoCollision ((ValueState.init [(⟨"conns", "", "1"⟩, .gauge "conns")]).run
          [.With 0 ["entrypoint", "web"], .add 1 2, .With 0 ["entrypoint", "websecure"], .add 2 1,
            .set 1 (5 : Nat)]).ops "conns" ["entrypoint", "web"] ∧
      (((CodeState.init [(⟨"conns", "", "1"⟩, .gauge "conns")]).run goGrowth
          [.With 0 ["entrypoint", "web"], .add 1 2, .With 0 ["entrypoint", "websecure"], .add 2 1,
            .set 1 (5 : Nat)]).collector.view
          ((CodeState.init [(⟨"conns", "", "1"⟩, .gauge "conns")]).run goGrowth
            [.With 0 ["entrypoint", "web"], .add 1 2, .With 0 ["entrypoint", "websecure"], .add 2 1,
              .set 1 (5 : Nat)]).heap).entry "conns" (gaugeKey ["entrypoint", "web"]) =
        (refValue ((ValueState.init [(⟨"conns", "", "1"⟩, .gauge "conns")]).run
          [.With 0 ["entrypoint", "web"], .add 1 2, .With 0 ["entrypoint", "websecure"], .add 2 1,
            .set 1 (5 : Nat)]).ops "conns" ["entrypoint", "web"]).map (⟨["entrypoint", "web"], ·⟩) :=
  ⟨by decide, by decide, entry_run_of_noClobber goGrowth _ _ _ _ (by decide) (by decide)⟩

end Traefik.Metrics

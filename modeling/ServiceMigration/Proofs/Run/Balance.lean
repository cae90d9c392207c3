import Mathlib.Algebra.Ring.Nat
import ServiceMigration.Proofs.Run.Effects
import ServiceMigration.Proofs.Run.Fallback
/-!
# The counters of a run

The counters of a run balance: what gave a fragment was found, answered, mapped by rule or
cancelled, and every call came to an answer, to a split or to a mapping by rule.  These laws hold
before the first item, and whatever is done with an item keeps them (`Stats.Balanced.count`); so
they hold at any time of a run (`Finished.balanced`), and of the counters that it leaves
(`counters_balance`).
-/

namespace ServiceMigration.Run

open Completion

variable {σ : Type} {b : Backend σ} {signal : Option (Nat → Bool)} {plan : Plan}
  {m : ModuleSpec} {s : σ}

/-! ### One item more -/

/-- The laws of the counters after so many answers of the model and so many fragments. -/
structure Stats.Balanced (stats : Stats) (answers fragments : Nat) : Prop where
  fragments : fragments = stats.cacheHits + answers + stats.fallbacks + stats.cancelled
  calls : stats.calls = answers + stats.splits + stats.fallbacks
  failures : stats.failures.length = stats.splits + stats.fallbacks
  tooLong : stats.splits ≤ stats.failures.count .inputSizeExceeded

theorem Stats.Balanced.count {stats : Stats} {answers fragments : Nat}
    (hs : stats.Balanced answers fragments) (item : WorkItem) (h : Handling) :
    (stats.count h).Balanced (answers + (answered? (item, h)).toList.length)
      (fragments + (h.fragment? item.chunk).toList.length) := by
  obtain ⟨hfragments, hcalls, hfailures, htooLong⟩ := hs
  cases h with
  | cached answer =>
    change Balanced { stats with cacheHits := stats.cacheHits + 1 } answers (fragments + 1)
    constructor <;> dsimp only <;> omega
  | answered answer =>
    change Balanced { stats with calls := stats.calls + 1 } (answers + 1) (fragments + 1)
    constructor <;> dsimp only <;> omega
  | split =>
    change Balanced (stats.count .split) answers fragments
    constructor <;> simp only [Stats.count, List.length_cons, List.count_cons_self] <;> omega
  | mapped kind =>
    have hmore : stats.failures.count .inputSizeExceeded ≤
        (kind :: stats.failures).count .inputSizeExceeded := List.count_le_count_cons
    change Balanced (stats.count (.mapped kind)) answers (fragments + 1)
    constructor <;> simp only [Stats.count, List.length_cons] <;> omega
  | cancelled =>
    change Balanced { stats with cancelled := stats.cancelled + 1 } answers (fragments + 1)
    constructor <;> dsimp only <;> omega

/-! ### Any number of items -/

/-- The counters so far balance with the answers and the fragments so far. -/
def Progress.Balanced (p : Progress σ) : Prop :=
  p.stats.Balanced (p.handled.filterMap answered?).length p.fragments.length

theorem Progress.Balanced.note {p : Progress σ} (hp : p.Balanced) (t : σ) (item : WorkItem)
    (rest : List WorkItem) (h : Handling) : (p.note t item rest h).Balanced := by
  have hanswers : ((p.note t item rest h).handled.filterMap answered?).length =
      (p.handled.filterMap answered?).length + (answered? (item, h)).toList.length := by
    rw [Progress.note, List.filterMap_append, List.length_append, List.filterMap_cons,
      List.filterMap_nil]
    cases answered? (item, h) <;> rfl
  have hfragments : (p.note t item rest h).fragments.length =
      p.fragments.length + (h.fragment? item.chunk).toList.length := by
    rw [Progress.note, List.length_append]
    cases h.fragment? item.chunk <;> rfl
  rw [Balanced, hanswers, hfragments]
  exact Stats.Balanced.count hp item h

theorem Finished.balanced {p : Progress σ} {r : Except Failure Unit × Progress σ}
    (h : Finished b signal p r) (hp : p.Balanced) : r.2.Balanced := by
  apply h.invariant hp
  · intro p hp
    rw [Progress.Balanced, Progress.poll_stats, Progress.poll_handled, Progress.poll_fragments]
    exact hp
  · intro p item rest r _ hp hs
    cases hs with
    | cancelled | handled => exact hp.note _ _ _ _
    | failed => exact hp

/-- Also a run that is broken off leaves counters that balance. -/
theorem balanced_transform (b : Backend σ) (hsize : 1 ≤ plan.size) (m : ModuleSpec) (s : σ) :
    (transform b plan m s).progress.Balanced := by
  have hstart : (startOf plan m s).Balanced := by constructor <;> rfl
  rcases transform_cases b m s hsize with ⟨q, hq, ho⟩ | ⟨e, q, hq, ho⟩
  · obtain ⟨hfragments, hcalls, hfailures, htooLong⟩ := hq.balanced hstart
    rw [ho]
    exact ⟨hfragments, hcalls, hfailures, htooLong⟩
  · rw [ho]
    exact hq.balanced hstart

/-! ### Failures by kind -/

/-- Every counted failure is of one of the kinds. -/
theorem Stats.sum_failuresOf (stats : Stats) :
    (FailureKind.all.map stats.failuresOf).sum = stats.failures.length := by
  simp only [FailureKind.all, List.map_cons, List.map_nil, List.sum_cons, List.sum_nil, failuresOf]
  induction stats.failures with
  | nil => rfl
  | cons kind rest ih =>
    simp only [List.count_cons, List.length_cons]
    cases kind <;> simp <;> omega

/-- How a call failed, if it did and the run could go on. -/
def Effect.failure? : Effect → Option FailureKind
  | .asked _ (.ok (.failed kind _)) => some kind
  | _ => none

theorem Showing.failures {handled : List (WorkItem × Handling)} {shown : List Effect}
    (h : Showing handled shown) :
    shown.filterMap Effect.failure? = handled.filterMap (·.2.failure?) := by
  induction h with
  | nil => rfl
  | snoc _ hpart ih =>
    rw [List.filterMap_append, List.filterMap_append, ih]
    cases hpart <;> rfl

/-- The failures that a run counts are those that its calls came back with. -/
theorem failures_effects (hsize : 1 ≤ plan.size) {api : ApiSpec}
    (hok : (transform b plan m s).result = .ok api) :
    (transform b plan m s).progress.stats.failures.reverse =
      (effects b plan m s).filterMap Effect.failure? := by
  obtain ⟨before, last, hshowing, heffects, hlast, -⟩ := showing_effects b hsize m s
  obtain ⟨chunks, hstats⟩ := stats_transform b hsize m s
  rw [hstats, heffects, hlast ⟨api, hok⟩, List.append_nil, hshowing.failures]
  exact List.reverse_reverse _

/-! ### The counters of a run that is over -/

/-- The final counters of a run that returns, against what it asked of the model and the fragments
that it merged. -/
structure Balances (o : Outcome σ) (shown : List Effect) : Prop where
  calls : o.progress.stats.calls = shown.countP Effect.isCall
  merged : o.result = .ok (ApiSpec.merge (o.progress.fragments.map Fragment.answer))
  chunks : o.progress.stats.chunks = o.progress.fragments.length
  sources : o.progress.stats.chunks = o.progress.stats.cacheHits +
    (shown.filterMap Effect.success?).length + o.progress.stats.fallbacks +
      o.progress.stats.cancelled
  ends : o.progress.stats.calls =
    (shown.filterMap Effect.success?).length + o.progress.stats.splits + o.progress.stats.fallbacks
  kinds : ∀ kind, o.progress.stats.failuresOf kind = (shown.filterMap Effect.failure?).count kind
  failures : (FailureKind.all.map o.progress.stats.failuresOf).sum =
    o.progress.stats.splits + o.progress.stats.fallbacks
  tooLong : o.progress.stats.splits ≤ o.progress.stats.failuresOf .inputSizeExceeded
  total : o.progress.stats.chunks + o.progress.stats.splits =
    o.progress.stats.cacheHits + o.progress.stats.calls + o.progress.stats.cancelled

/-- A run that returns has had a size for its chunks. -/
theorem one_le_size_of_ok {api : ApiSpec} (hok : (transform b plan m s).result = .ok api) :
    1 ≤ plan.size := by
  by_contra hsize
  rw [transform_of_lt_one b m s hsize] at hok
  simp at hok

theorem merged_of_ok {api : ApiSpec} (hok : (transform b plan m s).result = .ok api) :
    (transform b plan m s).result =
        .ok (ApiSpec.merge ((transform b plan m s).progress.fragments.map Fragment.answer)) ∧
      (transform b plan m s).progress.stats.chunks =
        (transform b plan m s).progress.fragments.length := by
  rcases transform_cases b m s (one_le_size_of_ok hok) with ⟨q, -, ho⟩ | ⟨e, q, -, ho⟩
  · rw [ho]
    exact ⟨rfl, rfl⟩
  · rw [ho] at hok
    simp at hok

/-- Whatever storage, model and signal do, the counters of a run that returns balance. -/
theorem counters_balance (b : Backend σ) (plan : Plan) (m : ModuleSpec) (s : σ) {api : ApiSpec}
    (hok : (transform b plan m s).result = .ok api) :
    Balances (transform b plan m s) (effects b plan m s) := by
  have hsize := one_le_size_of_ok hok
  obtain ⟨hmerged, hchunks⟩ := merged_of_ok hok
  obtain ⟨hfragments, hends, hfailures, htooLong⟩ := balanced_transform b hsize m s
  have hsuccesses := answers_effects hsize hok
  rw [← hsuccesses] at hfragments hends
  have hcalls : (transform b plan m s).progress.stats.calls =
      (effects b plan m s).countP Effect.isCall := by
    obtain ⟨chunks, hstats⟩ := stats_transform b hsize m s
    rw [calls_effects hsize hok, hstats]
    rfl
  constructor
  · exact hcalls
  · exact hmerged
  · exact hchunks
  · rw [hchunks, hfragments]
  · exact hends
  · intro kind
    rw [← failures_effects hsize hok, List.count_reverse]
    rfl
  · rw [Stats.sum_failuresOf, hfailures]
  · exact htooLong
  · omega

theorem silent_overwhelmed : overwhelmed.Silent (fun _ => True) fun _ => False where
  lookup _ s _ _ := ⟨s, rfl, trivial⟩
  bars _ _ _ hbarred := hbarred.elim
  generate _ s _ := ⟨_, _, s, rfl, trivial⟩
  record _ _ _ := trivial

/-- Four endpoints and a model that finds every chunk too long: the run splits and maps by rule. -/
theorem counters_balance_overwhelmed :
    ∃ api, (transform overwhelmed { size := 4 } itemModule ()).result = .ok api ∧
      Balances (transform overwhelmed { size := 4 } itemModule ())
        (effects overwhelmed { size := 4 } itemModule ()) := by
  obtain ⟨api, hok⟩ : ∃ api, (transform overwhelmed { size := 4 } itemModule ()).result = .ok api :=
    silent_overwhelmed.succeeds trivial (by decide) fun _ _ => id
  exact ⟨api, hok, counters_balance overwhelmed { size := 4 } itemModule () hok⟩

end ServiceMigration.Run

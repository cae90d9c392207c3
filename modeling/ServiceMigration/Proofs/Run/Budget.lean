import Mathlib.Algebra.Group.Nat.Defs
import ServiceMigration.Proofs.Run.Effects
import ServiceMigration.Proofs.Run.Provenance
/-!
# Budgets that never bind

The budget of an item is ample if its chunk can be halved that often, down to single endpoints.  A
split takes one off the budget and halves the endpoints, so the parts of an item have ample budgets
again.  An item whose budget is ample is handled as its chunk alone demands, and so two runs whose
items have different budgets, but ample ones, do the same at every step
(`Progress.AgreesWith.finish`).  The budget that a plan gives by default is ample
(`default_budget_never_binds`).
-/

namespace ServiceMigration.Run

open Completion

variable {σ : Type} {b : Backend σ} {signal : Option (Nat → Bool)} {m : ModuleSpec}
  {item item' : WorkItem} {rest rest' : List WorkItem}

/-! ### Ample budgets -/

/-- The chunk can be halved as often as the budget allows, and has single endpoints then. -/
def WorkItem.IsAmple (item : WorkItem) : Prop := item.size < 2 ^ item.splitsLeft.toNat

namespace WorkItem.IsAmple

/-- An item with several endpoints has a split left. -/
theorem exists_splitsLeft (h : item.IsAmple) (hsize : 1 < item.size) :
    ∃ left : Nat, item.splitsLeft = left + 1 := by
  by_cases hpos : 0 < item.splitsLeft
  · exact ⟨item.splitsLeft.toNat - 1, by omega⟩
  · have hzero : item.splitsLeft.toNat = 0 := by omega
    rw [IsAmple, hzero] at h
    omega

/-- The budget has no say in whether the item can be split. -/
theorem canSplit_eq (h : item.IsAmple) : item.canSplit = decide (1 < item.size) := by
  by_cases hsize : 1 < item.size
  · obtain ⟨left, hleft⟩ := h.exists_splitsLeft hsize
    have hpos : 0 < item.splitsLeft := by omega
    simp [canSplit, hsize, hpos]
  · simp [canSplit, hsize]

theorem part {part : WorkItem} (h : item.IsAmple) (hsize : 1 < item.size)
    (hpart : part ∈ item.parts) :
    part.IsAmple := by
  obtain ⟨left, hleft⟩ := h.exists_splitsLeft hsize
  obtain ⟨chunk, hchunk, rfl⟩ := List.mem_map.mp hpart
  have hhalf : chunk.endpoints.length ≤ item.size / 2 := by
    have hpartSize : item.partSize = item.size / 2 := by
      rw [partSize]
      omega
    rw [← hpartSize]
    rcases ModuleSpec.mem_chunks item.partSize_pos hchunk with ⟨rfl, hfits⟩ | ⟨-, hlength, -⟩
    · exact hfits
    · exact hlength
  have hwhole : item.size < 2 ^ (left + 1) := by
    rwa [IsAmple, hleft] at h
  have hleft' : (item.splitsLeft - 1).toNat = left := by omega
  rw [Nat.pow_succ] at hwhole
  change chunk.endpoints.length < 2 ^ (item.splitsLeft - 1).toNat
  rw [hleft']
  omega

theorem next {part : WorkItem} {handling : Handling} (h : item.IsAmple)
    (hpart : part ∈ item.next handling) : part.IsAmple := by
  cases handling with
  | split =>
    rw [WorkItem.next] at hpart
    split at hpart
    · next hsize => exact h.part hsize hpart
    · simp at hpart
  | cached | answered | mapped | cancelled => simp [WorkItem.next] at hpart

end WorkItem.IsAmple

/-- All items have ample budgets, and of those that the model found too long only single endpoints
were mapped by rule. -/
structure Progress.Ample (p : Progress σ) : Prop where
  items : ∀ item ∈ p.items, item.IsAmple
  mapped : ∀ e ∈ p.handled, e.2 = .mapped .inputSizeExceeded → e.1.size ≤ 1

namespace Progress.Ample

variable {p : Progress σ}

theorem poll (h : p.Ample) : (p.poll b signal).Ample := by
  constructor
  · intro item hitem
    exact h.items item (by simpa [Progress.items] using hitem)
  · intro e he
    exact h.mapped e (by simpa using he)

theorem note (h : p.Ample) (hp : p.pending = item :: rest) (s : σ) {handling : Handling}
    (hmapped : handling = .mapped .inputSizeExceeded → item.canSplit = false) :
    (p.note s item rest handling).Ample := by
  have hitem : item.IsAmple := h.items item (by simp [Progress.items, hp])
  constructor
  · intro part hpart
    simp only [Progress.items, Progress.note, List.map_append, List.map_cons, List.map_nil,
      List.mem_append, List.mem_singleton] at hpart
    rcases hpart with (hhandled | rfl) | hnext | hrest
    · exact h.items part (List.mem_append_left _ hhandled)
    · exact hitem
    · exact hitem.next hnext
    · exact h.items part (by simp [Progress.items, hp, hrest])
  · intro e he hlong
    rcases List.mem_append.mp he with hold | hnew
    · exact h.mapped e hold hlong
    · obtain rfl := List.mem_singleton.mp hnew
      have hcannot := hmapped hlong
      rw [hitem.canSplit_eq] at hcannot
      simpa using hcannot

theorem step {r : Except Failure Unit × Progress σ} (h : p.Ample) (hp : p.pending = item :: rest)
    (hs : Stepped b p item rest r) : r.2.Ample := by
  cases hs with
  | cancelled =>
    apply h.note hp
    simp
  | handled _ hattempt =>
    apply h.note hp
    intro hlong
    cases hattempt with
    | mapped _ _ hkeep => exact hkeep (Handling.mapped.inj hlong)
    | cached | answered | split => simp at hlong
  | failed => exact ⟨h.items, h.mapped⟩

end Progress.Ample

theorem Finished.ample {p : Progress σ} {r : Except Failure Unit × Progress σ}
    (h : Finished b signal p r) (hp : p.Ample) : r.2.Ample :=
  h.invariant hp (fun _ => Progress.Ample.poll) fun _ _ _ _ hpending hp hs => hp.step hpending hs

/-! ### Runs that differ in their budgets -/

/-- An attempt sees of a budget only whether the item can be split. -/
theorem attempt_congr (b : Backend σ) (s : σ) (hchunk : item.chunk = item'.chunk)
    (hsplit : item.canSplit = item'.canSplit) : attempt b item s = attempt b item' s := by
  have hsize : item.size = item'.size := congrArg (·.endpoints.length) hchunk
  have hpartSize : item.partSize = item'.partSize := by
    rw [WorkItem.partSize, WorkItem.partSize, hsize]
  simp only [attempt, hchunk, hsplit, WorkItem.splitRecord, WorkItem.fallbackRecord,
    hsize, hpartSize]

theorem next_congr {handling : Handling} (hchunk : item.chunk = item'.chunk) :
    (item.next handling).map (·.chunk) = (item'.next handling).map (·.chunk) := by
  have hsize : item.size = item'.size := congrArg (·.endpoints.length) hchunk
  cases handling with
  | split =>
    by_cases hseveral : 1 < item'.size
    · simp [WorkItem.next, hsize, hseveral, WorkItem.parts, WorkItem.partSize, hchunk,
        Function.comp_def]
    · simp [WorkItem.next, hsize, hseveral]
  | cached | answered | mapped | cancelled => rfl

/-- Two runs have got to the same place, but for the budgets of their items. -/
structure Progress.AgreesWith (p q : Progress σ) : Prop where
  state : p.state = q.state
  pending : p.pending.map (·.chunk) = q.pending.map (·.chunk)
  fragments : p.fragments = q.fragments
  handled : p.handled.map (fun e => (e.1.chunk, e.2)) = q.handled.map fun e => (e.1.chunk, e.2)
  stats : p.stats = q.stats
  polls : p.polls = q.polls
  isCancelled : p.isCancelled = q.isCancelled

namespace Progress.AgreesWith

variable {p q : Progress σ}

theorem poll (h : p.AgreesWith q) (b : Backend σ) (signal : Option (Nat → Bool)) :
    (p.poll b signal).AgreesWith (q.poll b signal) := by
  obtain ⟨hstate, hpending, hfragments, hhandled, hstats, hpolls, hcancelled⟩ := h
  cases signal with
  | none => exact ⟨hstate, hpending, hfragments, hhandled, hstats, hpolls, hcancelled⟩
  | some asked =>
    by_cases hdone : q.isCancelled = true
    · simp only [Progress.poll, hcancelled, hdone, if_true]
      exact ⟨hstate, hpending, hfragments, hhandled, hstats, hpolls, hcancelled⟩
    · by_cases hasked : asked q.polls = true
      · simp only [Progress.poll, hcancelled, hpolls, hdone, hasked, if_true,
          Bool.false_eq_true, if_false]
        exact ⟨by rw [hstate], hpending, hfragments, hhandled, hstats, rfl, rfl⟩
      · simp only [Progress.poll, hcancelled, hpolls, hdone, hasked, Bool.false_eq_true, if_false]
        exact ⟨hstate, hpending, hfragments, hhandled, hstats, rfl, rfl⟩

theorem note (h : p.AgreesWith q) (hchunk : item.chunk = item'.chunk)
    (hrest : rest.map (·.chunk) = rest'.map (·.chunk)) {s s' : σ} (hs : s = s')
    (handling : Handling) :
    (p.note s item rest handling).AgreesWith (q.note s' item' rest' handling) where
  state := hs
  pending := by simp only [Progress.note, List.map_append, next_congr hchunk, hrest]
  fragments := by simp only [Progress.note, h.fragments, hchunk]
  handled := by simp only [Progress.note, List.map_append, h.handled, List.map_cons,
    List.map_nil, hchunk]
  stats := by simp only [Progress.note, h.stats]
  polls := h.polls
  isCancelled := h.isCancelled

theorem step (h : p.AgreesWith q) (b : Backend σ) (hchunk : item.chunk = item'.chunk)
    (hsplit : item.canSplit = item'.canSplit) (hrest : rest.map (·.chunk) = rest'.map (·.chunk)) :
    (p.step b item rest).1 = (q.step b item' rest').1 ∧
      (p.step b item rest).2.AgreesWith (q.step b item' rest').2 := by
  have hattempt : attempt b item p.state = attempt b item' q.state := by
    rw [h.state, attempt_congr b q.state hchunk hsplit]
  unfold Progress.step
  rw [h.isCancelled, hattempt]
  by_cases hdone : q.isCancelled = true
  · rw [if_pos hdone, if_pos hdone]
    exact ⟨rfl, h.note hchunk hrest h.state .cancelled⟩
  · rw [if_neg hdone, if_neg hdone]
    rcases attempt b item' q.state with ⟨e | handling, s⟩
    · exact ⟨rfl, rfl, h.pending, h.fragments, h.handled, h.stats, h.polls, rfl⟩
    · exact ⟨rfl, h.note hchunk hrest rfl handling⟩

/-- What is first in the one run is first in the other, in an item of its own, and where both items
are ample the step is the same. -/
theorem step_first (h : p.AgreesWith q) (hp : p.Ample) (hq : q.Ample) (b : Backend σ)
    (signal : Option (Nat → Bool)) (hpending : p.pending = item :: rest) :
    ∃ item' rest', q.pending = item' :: rest' ∧
      ((p.poll b signal).step b item rest).1 = ((q.poll b signal).step b item' rest').1 ∧
      ((p.poll b signal).step b item rest).2.AgreesWith
        ((q.poll b signal).step b item' rest').2 := by
  have hchunks := h.pending
  rw [hpending, List.map_cons, eq_comm, List.map_eq_cons_iff] at hchunks
  obtain ⟨item', rest', hother, hchunk, hrest⟩ := hchunks
  have hitem : item.IsAmple := hp.items item (by simp [Progress.items, hpending])
  have hitem' : item'.IsAmple := hq.items item' (by simp [Progress.items, hother])
  have hsplit : item.canSplit = item'.canSplit := by
    have hsize : item.size = item'.size := congrArg (·.endpoints.length) hchunk.symm
    rw [hitem.canSplit_eq, hitem'.canSplit_eq, hsize]
  exact ⟨item', rest', hother, (h.poll b signal).step b hchunk.symm hsplit hrest.symm⟩

theorem finish (h : p.AgreesWith q) (hp : p.Ample) (hq : q.Ample) :
    (p.finish b signal).1 = (q.finish b signal).1 ∧
      (p.finish b signal).2.AgreesWith (q.finish b signal).2 := by
  fun_induction Progress.finish b signal p generalizing q with
  | case1 p hpending =>
    have hnone : q.pending = [] := by simpa [hpending] using h.pending.symm
    rw [finish_nil hnone]
    exact ⟨rfl, h⟩
  | case2 p item rest hpending e p' hstep =>
    obtain ⟨item', rest', hother, hresult, hagree⟩ := h.step_first hp hq b signal hpending
    rw [hstep] at hresult hagree
    have hstep' : (q.poll b signal).step b item' rest' =
        (.error e, ((q.poll b signal).step b item' rest').2) := Prod.ext hresult.symm rfl
    rw [finish_cons_error hother hstep']
    exact ⟨rfl, hagree⟩
  | case3 p item rest hpending p' hstep ih =>
    obtain ⟨item', rest', hother, hresult, hagree⟩ := h.step_first hp hq b signal hpending
    rw [hstep] at hresult hagree
    have hstep' : (q.poll b signal).step b item' rest' =
        (.ok (), ((q.poll b signal).step b item' rest').2) := Prod.ext hresult.symm rfl
    rw [finish_cons hother hstep']
    apply ih hagree
    · have hs := stepped b (p.poll b signal) item rest
      rw [hstep] at hs
      exact hp.poll.step (by simpa using hpending) hs
    · have hs := stepped b (q.poll b signal) item' rest'
      exact hq.poll.step (by simpa using hother) hs

end Progress.AgreesWith

/-! ### The budget of a plan -/

theorem lt_two_pow_bitLength {n : Nat} {size : Int} (h : (n : Int) ≤ size) :
    n < 2 ^ bitLength size := by
  unfold bitLength
  split
  · have hzero : n = 0 := by omega
    simp [hzero]
  · have hlog := Nat.lt_log2_self (n := size.natAbs)
    omega

theorem ample_startOf {plan : Plan} (hsize : 1 ≤ plan.size)
    (hbudget : (bitLength plan.size : Int) ≤ plan.budget)
    (m : ModuleSpec) (s : σ) : (startOf plan m s).Ample := by
  constructor
  · intro item hitem
    obtain ⟨chunk, hchunk, rfl⟩ := List.mem_map.mp (by simpa [Progress.items, startOf] using hitem)
    have hlength : (chunk.endpoints.length : Int) ≤ plan.size := by
      rcases ModuleSpec.mem_chunks (by omega) hchunk with ⟨rfl, hfits⟩ | ⟨-, hshort, -⟩ <;> omega
    have hbits : bitLength plan.size ≤ plan.budget.toNat := by omega
    exact Nat.lt_of_lt_of_le (lt_two_pow_bitLength hlength) (Nat.pow_le_pow_right (by decide) hbits)
  · simp [startOf]

/-- Two plans of one size and one signal, with ample budgets, come to the same. -/
theorem transform_agrees (b : Backend σ) (plan plan' : Plan) (m : ModuleSpec) (s : σ)
    (hsize : 1 ≤ plan.size) (hsame : plan.size = plan'.size) (hsignal : plan.signal = plan'.signal)
    (hbudget : (bitLength plan.size : Int) ≤ plan.budget)
    (hbudget' : (bitLength plan'.size : Int) ≤ plan'.budget) :
    (transform b plan m s).result = (transform b plan' m s).result ∧
      (transform b plan m s).progress.AgreesWith (transform b plan' m s).progress := by
  have hstart : (startOf plan m s).AgreesWith (startOf plan' m s) := by
    refine ⟨rfl, ?_, rfl, rfl, rfl, rfl, rfl⟩
    simp [startOf, hsame, Function.comp_def]
  have hfinish : ((startOf plan m s).finish b plan.signal).1 =
      ((startOf plan' m s).finish b plan'.signal).1 ∧
        ((startOf plan m s).finish b plan.signal).2.AgreesWith
          ((startOf plan' m s).finish b plan'.signal).2 := by
    rw [hsignal]
    exact hstart.finish (ample_startOf hsize hbudget m s)
      (ample_startOf (hsame ▸ hsize) hbudget' m s)
  rw [transform_eq b m s hsize, transform_eq b m s (hsame ▸ hsize)]
  revert hfinish
  rcases (startOf plan m s).finish b plan.signal with ⟨e | u, p⟩ <;>
    rcases (startOf plan' m s).finish b plan'.signal with ⟨e' | u', q⟩
  · rintro ⟨hresult, hagree⟩
    obtain rfl := Except.error.inj hresult
    exact ⟨rfl, hagree⟩
  · rintro ⟨hresult, -⟩
    simp at hresult
  · rintro ⟨hresult, -⟩
    simp at hresult
  · rintro ⟨-, hagree⟩
    have hagree : p.AgreesWith q := hagree
    have hstats : p.finalStats = q.finalStats := by
      rw [Progress.finalStats, Progress.finalStats, hagree.stats, hagree.fragments]
    constructor
    · simp only [Progress.conclude, hagree.fragments]
    · refine ⟨?_, hagree.pending, hagree.fragments, hagree.handled, hstats, hagree.polls,
        hagree.isCancelled⟩
      simp only [Progress.conclude, hagree.fragments, hagree.state, hstats]

/-- Without a limit for splits a run does what it does with any limit from the number of binary
digits of its size on: it takes up the same chunks in the same order, looks up, asks and stores the
same, and comes to the same.  So a chunk that the model finds too long is only mapped by rule when
it cannot be split. -/
theorem default_budget_never_binds (b : Backend σ) {size depth : Int} (signal : Option (Nat → Bool))
    (m : ModuleSpec) (s : σ) (hsize : 1 ≤ size) (hdepth : (bitLength size : Int) ≤ depth) :
    (transform b { size, signal } m s).result =
      (transform b { size, depth := some depth, signal } m s).result ∧
      (transform b { size, signal } m s).progress.AgreesWith
        (transform b { size, depth := some depth, signal } m s).progress ∧
      effects b { size, signal } m s = effects b { size, depth := some depth, signal } m s ∧
      ∀ e ∈ (transform b { size, signal } m s).progress.handled,
        e.2 = .mapped .inputSizeExceeded → e.1.size ≤ 1 := by
  let plan : Plan := { size, signal }
  let plan' : Plan := { size, depth := some depth, signal }
  have hdefault : (bitLength plan.size : Int) ≤ plan.budget := Int.le_refl _
  obtain ⟨hresult, hagree⟩ := transform_agrees b plan plan' m s hsize rfl rfl hdefault hdepth
  have htraced := transform_agrees b.traced plan plan' m (s, []) hsize rfl rfl hdefault hdepth
  refine ⟨hresult, hagree, congrArg Prod.snd htraced.2.state, ?_⟩
  obtain ⟨r, hr, -, -, hhandled, -⟩ := transform_finished b m s (show 1 ≤ plan.size from hsize)
  rw [hhandled]
  exact (hr.ample (ample_startOf hsize hdefault m s)).mapped

/-- A model that finds every chunk too long, with more splits at hand than a run needs. -/
theorem default_budget_never_binds_itemModule :
    (1 : Int) ≤ 3 ∧ (bitLength 3 : Int) ≤ 7 ∧
      (transform overwhelmed { size := 3 } itemModule ()).result =
        (transform overwhelmed { size := 3, depth := some 7 } itemModule ()).result ∧
      effects overwhelmed { size := 3 } itemModule () =
        effects overwhelmed { size := 3, depth := some 7 } itemModule () := by
  have hdepth : (bitLength 3 : Int) ≤ 7 := by simp [bitLength, Nat.log2_def]
  obtain ⟨hresult, -, heffects, -⟩ :=
    default_budget_never_binds overwhelmed none itemModule () (by decide) hdepth
  exact ⟨by decide, hdepth, hresult, heffects⟩

end ServiceMigration.Run

import ServiceMigration.Text.Case
/-!
# Upper case of upper case

The upper case of a text is its own upper case (`upper_upper`).  For a single character this is a
fact about the tables: no code point that a run leads to is led on by a run or by an expansion.
Runs are compared as a whole, by where they begin and end, and those that lie among each other by
turns by the parity of their points.
-/

namespace ServiceMigration.Text

namespace CaseRun

/-- The code point that a run leads to from one of its own. -/
def target (r : CaseRun) (n : Nat) : Nat := ((n : Int) + r.shift).toNat

/-- None of the points that `r` leads to, from `first` to `last`, is covered by `r'`: it ends before
them, begins after them, or has every second point and they are the points between. -/
def missedBy (first last : Nat) (r r' : CaseRun) : Bool :=
  last.blt r'.first || (r'.last.blt first ||
    (r'.step.beq 2 && ((r.step.beq 2 || r.first.beq r.last) && ((first + r'.first) % 2).beq 1)))

/-- The run does not lead to a point that one of the others covers. -/
def avoids (rs : List CaseRun) (r : CaseRun) : Bool :=
  rs.all (missedBy (r.target r.first) (r.target r.last) r)

/-- The run leads to characters above ASCII. -/
def landsHigh (r : CaseRun) : Bool :=
  128 ≤ r.first + r.shift &&
    (r.last + r.shift < 0xD800 || (0xE000 ≤ r.first + r.shift && r.last + r.shift < 0x110000))

variable {r r' : CaseRun} {rs : List CaseRun} {n k : Nat}

theorem image?_eq_some_iff :
    r.image? n = some k ↔ r.first ≤ n ∧ n ≤ r.last ∧ (n - r.first) % r.step = 0 ∧
    r.target n = k := by
  unfold image? target
  split
  · next h =>
    simp only [Bool.and_eq_true, decide_eq_true_eq, beq_iff_eq] at h
    simp [h]
  · next h =>
    simp only [Bool.and_eq_true, decide_eq_true_eq, beq_iff_eq] at h
    constructor
    · intro hnone
      simp at hnone
    · rintro ⟨hfirst, hlast, hstep, -⟩
      exact absurd ⟨⟨hfirst, hlast⟩, hstep⟩ h

theorem image?_eq_none_of_avoids (hland : 0 ≤ r.first + r.shift) (h : r.avoids rs = true)
    (hr : r' ∈ rs) (hn : r.image? n = some k) : r'.image? k = none := by
  obtain ⟨hfirst, hlast, hstep, hk⟩ := image?_eq_some_iff.mp hn
  have hmissed := List.all_eq_true.mp h r' hr
  simp only [missedBy, target, Bool.or_eq_true, Bool.and_eq_true, Nat.blt_eq,
    Nat.beq_eq] at hmissed hk
  rw [Option.eq_none_iff_forall_ne_some]
  intro j hj
  obtain ⟨hfirst', hlast', hstep', -⟩ := image?_eq_some_iff.mp hj
  rcases hmissed with hbefore | hafter | ⟨htwo, hsparse, hodd⟩
  · omega
  · omega
  · rw [htwo] at hstep'
    rcases hsparse with hsparse | hsingle
    · rw [hsparse] at hstep
      omega
    · omega

end CaseRun

/-! ### The tables -/

/-- A character that upper case does not change. -/
def IsUpper (c : Char) : Prop := upperChar c = [c]

instance (c : Char) : Decidable (IsUpper c) := inferInstanceAs (Decidable (_ = _))

/-- One point of an expansion, seen as a run; it has the step of a run among which others may
lie. -/
def pointRun (e : Nat × List Nat) : CaseRun := { first := e.1, last := e.1, step := 2, shift := 0 }

theorem runs_avoid_runs : (upperRuns.all (·.avoids upperRuns)) = true := by decide +kernel

theorem runs_avoid_expansions :
    (upperRuns.all (·.avoids (upperExpansions.map pointRun))) = true := by
  decide +kernel

theorem runs_land : (upperRuns.all fun r => r.landsHigh ||
    (r.first == r.last && 0 ≤ r.first + r.shift &&
      decide (IsUpper (Char.ofNat (r.target r.first))))) = true := by
  decide +kernel

theorem isUpper_expansion : ∀ e ∈ upperExpansions, ∀ n ∈ e.2, IsUpper (Char.ofNat n) := by
  decide +kernel

theorem isUpper_ascii : ∀ n < 128, IsUpper (Char.ofNat n).toUpper := by decide +kernel

/-! ### Characters and texts -/

theorem toNat_ofNat {n : Nat} (h : n < 0xD800 ∨ (0xE000 ≤ n ∧ n < 0x110000)) :
    (Char.ofNat n).toNat = n := by
  have hvalid : n.isValidChar := by
    rcases h with h | h
    · exact .inl h
    · exact .inr ⟨by omega, h.2⟩
  rw [Char.ofNat, dif_pos hvalid]
  rfl

theorem mem_of_lookup_eq_some {es : List (Nat × List Nat)} {n : Nat} {ns : List Nat}
    (h : es.lookup n = some ns) : (n, ns) ∈ es := by
  obtain ⟨before, after, rfl, -⟩ := List.lookup_eq_some_iff.mp h
  simp

/-- A run leads to a character that neither a run nor an expansion leads on. -/
theorem isUpper_of_run {r : CaseRun} (hr : r ∈ upperRuns) {n k : Nat} (hk : r.image? n = some k) :
    IsUpper (Char.ofNat k) := by
  have hruns := List.all_eq_true.mp runs_avoid_runs r hr
  have hexpansions := List.all_eq_true.mp runs_avoid_expansions r hr
  have hland := List.all_eq_true.mp runs_land r hr
  obtain ⟨hfirst, hlast, -, htarget⟩ := CaseRun.image?_eq_some_iff.mp hk
  rw [Bool.or_eq_true] at hland
  rcases hland with hhigh | hsingle
  · simp only [CaseRun.landsHigh, Bool.and_eq_true, Bool.or_eq_true, decide_eq_true_eq] at hhigh
    have hpositive : 0 ≤ (r.first : Int) + r.shift := by omega
    have hnat : (Char.ofNat k).toNat = k := toNat_ofNat (by rw [CaseRun.target] at htarget; omega)
    have habove : ¬(Char.ofNat k).toNat < 128 := by rw [hnat]; rw [CaseRun.target] at htarget; omega
    have hrun : upperRuns.findSome? (·.image? (Char.ofNat k).toNat) = none := by
      rw [hnat, List.findSome?_eq_none_iff]
      intro r' hr'
      exact CaseRun.image?_eq_none_of_avoids hpositive hruns hr' hk
    have hexpansion : upperExpansions.lookup (Char.ofNat k).toNat = none := by
      rw [hnat, List.lookup_eq_none_iff]
      intro e he
      have hmiss :=
        CaseRun.image?_eq_none_of_avoids hpositive hexpansions (List.mem_map_of_mem he) hk
      rw [bne_iff_ne]
      rintro rfl
      simp [CaseRun.image?, pointRun] at hmiss
    rw [IsUpper, upperChar, if_neg habove, caseImage, hrun, hexpansion]
  · simp only [Bool.and_eq_true, beq_iff_eq, decide_eq_true_eq] at hsingle
    obtain rfl : n = r.first := by omega
    rw [← htarget]
    exact hsingle.2

theorem isUpper_of_mem_upperChar {c d : Char} (h : d ∈ upperChar c) : IsUpper d := by
  unfold upperChar at h
  split at h
  · next hascii =>
    rw [List.mem_singleton.mp h]
    simpa using isUpper_ascii c.toNat hascii
  · next habove =>
    unfold caseImage at h
    split at h
    · next k hk =>
      obtain ⟨r, hr, hrk⟩ := List.exists_of_findSome?_eq_some hk
      rw [List.mem_singleton.mp h]
      exact isUpper_of_run hr hrk
    · next hrun =>
      split at h
      · next ns hns =>
        obtain ⟨n, hn, rfl⟩ := List.mem_map.mp h
        exact isUpper_expansion _ (mem_of_lookup_eq_some hns) n hn
      · next hexpansion =>
        rw [List.mem_singleton.mp h, IsUpper, upperChar, if_neg habove, caseImage, hrun, hexpansion]

@[simp] theorem upper_upper (s : String) : upper (upper s) = upper s := by
  have hfixed : ∀ cs : List Char, (∀ c ∈ cs, IsUpper c) → cs.flatMap upperChar = cs := by
    intro cs hcs
    induction cs with
    | nil => rfl
    | cons c cs ih =>
      obtain ⟨hc, hrest⟩ := List.forall_mem_cons.mp hcs
      have hchar : upperChar c = [c] := hc
      rw [List.flatMap_cons, hchar, ih hrest, List.singleton_append]
  rw [upper, upper, String.toList_ofList, hfixed]
  intro c hc
  obtain ⟨b, -, hb⟩ := List.mem_flatMap.mp hc
  exact isUpper_of_mem_upperChar hb

end ServiceMigration.Text

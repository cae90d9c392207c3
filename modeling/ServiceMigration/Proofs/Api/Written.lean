import ServiceMigration.Proofs.Api.Answer
import ServiceMigration.Proofs.Json.Given
/-!
# Answers that can be written

An answer is read from a text, and what was read from a text can be written.  That goes for all of
it: constraints are taken over as they are, and a status is a number of the text, or is spelled by a
text or a double, of which only so many digits are taken.  Main statement:
`ApiSpec.exists_prettyText_of_parse`.
-/

namespace ServiceMigration

open Json (maxDigits)
open Validation Value

variable {v : Value}

/-! ### Whole numbers -/

theorem areDigits_iff {ds : List Char} :
    areDigits ds = true ↔ ds ≠ [] ∧ ∀ c ∈ ds, c.isDigit = true := by
  simp [areDigits]

theorem ensures_intOfDouble (d : Double) :
    (intOfDouble d).Ensures fun i => (Decimal.digits i.natAbs).length ≤ maxDigits := by
  intro i h
  unfold intOfDouble at h
  split at h
  · exact absurd h nofun
  · split at h
    · exact absurd h nofun
    · next n _ =>
      split at h
      · next hrange =>
        obtain rfl := Checked.ok.inj h
        have hbound : n.natAbs ≤ 2 ^ 63 := by
          simp only [Int64.toInt_minValue, Int64.toInt_maxValue, Bool.and_eq_true,
            decide_eq_true_eq] at hrange
          omega
        exact (Decimal.length_digits_le_of_le hbound).trans (by decide)
      · exact absurd h nofun

theorem ensures_parseInt (s : String) :
    (parseInt s).Ensures fun i => (Decimal.digits i.natAbs).length ≤ maxDigits := by
  intro i h
  unfold parseInt at h
  split at h
  next negative body _ =>
  split at h
  · exact absurd h nofun
  · split at h
    · exact absurd h nofun
    · next whole _ =>
      generalize (dropUnderscores? whole).getD whole = ds at h
      dsimp only at h
      split at h
      · exact absurd h nofun
      · next hdigits =>
        split at h
        · exact absurd h nofun
        · next hshort =>
          obtain rfl := Checked.ok.inj h
          obtain ⟨hne, hall⟩ := areDigits_iff.mp (by simpa using hdigits)
          rw [Decimal.natAbs_signed]
          exact (Decimal.length_digits_ofDigits_le hall hne).trans (Nat.not_lt.mp hshort)

theorem ensures_readInt (h : IsDocument (Scalar.FitsJson maxDigits) v) :
    (readInt v).Ensures fun i => (Decimal.digits i.natAbs).length ≤ maxDigits := by
  unfold readInt
  split
  · cases h with
    | scalar hshort => exact ensures_ok hshort
  · next b =>
    refine ensures_ok ?_
    cases b <;> decide
  · exact ensures_intOfDouble _
  · exact ensures_parseInt _
  · exact nofun

/-! ### The parts of an answer -/

theorem ApiField.ensures_read (h : IsDocument (Scalar.FitsJson maxDigits) v) :
    (ApiField.read v).Ensures fun f =>
      IsDocument (Scalar.FitsJson maxDigits) (.object f.constraints) := by
  refine ensures_readModel fun es hes => ?_
  have hvalues := (hes ▸ h).of_mem_entries
  have hconstraints : (defaulted ["constraints"] [] readDocumentMap es).Ensures fun cs =>
      IsDocument (Scalar.FitsJson maxDigits) (.object cs) := by
    refine ensures_defaulted (isDocument_object.mpr ⟨.nil, nofun⟩) fun e he cs hcs => ?_
    rw [object_of_readDocumentMap hcs]
    exact hvalues e he
  exact (((((ensures_map_of_forall _ fun _ _ _ _ _ _ hcs => hcs).skip _).skip _).skip _).skip
    _).seq hconstraints

theorem ApiModel.ensures_read (h : IsDocument (Scalar.FitsJson maxDigits) v) :
    (ApiModel.read v).Ensures fun m => ∀ f ∈ m.fields,
      IsDocument (Scalar.FitsJson maxDigits) (.object f.constraints) := by
  refine ensures_readModel fun es hes => ?_
  have hvalues := (hes ▸ h).of_mem_entries
  have hfields : (defaulted ["fields"] [] (readList ApiField.read) es).Ensures fun fs => ∀ f ∈ fs,
      IsDocument (Scalar.FitsJson maxDigits) (.object f.constraints) := by
    refine ensures_defaulted (List.forall_mem_nil _) fun e he => ?_
    exact ensures_readList fun items hitems w hw =>
      ApiField.ensures_read ((hitems ▸ hvalues e he).of_mem_items w hw)
  exact (ensures_map_of_forall _ fun _ _ hfs => hfs).seq hfields

theorem ApiRoute.ensures_read (h : IsDocument (Scalar.FitsJson maxDigits) v) :
    (ApiRoute.read v).Ensures fun r =>
      ∀ i ∈ r.statusCode, (Decimal.digits i.natAbs).length ≤ maxDigits := by
  refine ensures_readModel fun es hes => ?_
  have hvalues := (hes ▸ h).of_mem_entries
  have hstatus : (defaulted ["statusCode", "status_code"] none (readOptional readInt) es).Ensures
      fun o => ∀ i ∈ o, (Decimal.digits i.natAbs).length ≤ maxDigits :=
    ensures_defaulted nofun fun e he => ensures_readOptional (ensures_readInt (hvalues e he))
  exact ((((((((ensures_map_of_forall _ fun _ _ _ _ _ _ hcode _ _ _ => hcode).skip _).skip _).skip
    _).skip _).seq hstatus).skip _).skip _).skip _

theorem ApiSpec.isWritable_of_read {s : ApiSpec} (h : IsDocument (Scalar.FitsJson maxDigits) v)
    (hread : ApiSpec.read v = .ok s) : s.IsWritable := by
  refine ensures_readModel (p := ApiSpec.IsWritable) (fun es hes => ?_) s hread
  have hvalues := (hes ▸ h).of_mem_entries
  refine .seq (.map (ensures_required fun e he => ensures_readList fun items hitems w hw =>
    ApiModel.ensures_read ((hitems ▸ hvalues e he).of_mem_items w hw)) ?_)
    (ensures_required fun e he => ensures_readList fun items hitems w hw =>
      ApiRoute.ensures_read ((hitems ▸ hvalues e he).of_mem_items w hw))
  exact fun models hmodels routes hroutes => ⟨hmodels, hroutes⟩

/-- Whatever text an answer is read from, it can be written. -/
theorem ApiSpec.exists_prettyText_of_parse {text : String} {s : ApiSpec}
    (h : ApiSpec.parse text = .ok s) : ∃ written, s.prettyText = some written := by
  obtain ⟨-, inner, v, -, hjson, hread⟩ := ApiSpec.parse_eq_ok_iff.mp h
  have hs := ApiSpec.isWritable_of_read (Json.isDocument_of_parse hjson) hread
  obtain ⟨written, hwritten, -⟩ := Json.exists_render (ApiSpec.isDocument hs)
  exact ⟨written, hwritten⟩

end ServiceMigration

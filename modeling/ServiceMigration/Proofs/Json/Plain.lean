import ServiceMigration.Proofs.Json.Number
import ServiceMigration.Proofs.Text.Hex
/-!
# Written documents are plain text

The writer escapes every control character of a text, and the only one that it puts in by itself is
the line feed.  So a written document comes through any treatment of line ends as it is.
-/

namespace ServiceMigration.Json

/-- A character that is no control character, or the line feed. -/
def IsPlain (c : Char) : Prop := c = '\n' ∨ 0x20 ≤ c.toNat

instance : DecidablePred IsPlain := fun _ => inferInstanceAs (Decidable (_ ∨ _))

def AllPlain (cs : List Char) : Prop := ∀ c ∈ cs, IsPlain c

instance (cs : List Char) : Decidable (AllPlain cs) := List.decidableBAll IsPlain cs

variable {cs ds : List Char}

theorem allPlain_nil : AllPlain [] := nofun

@[simp] theorem allPlain_cons {c : Char} : AllPlain (c :: cs) ↔ IsPlain c ∧ AllPlain cs :=
  List.forall_mem_cons

@[simp] theorem allPlain_append : AllPlain (cs ++ ds) ↔ AllPlain cs ∧ AllPlain ds :=
  List.forall_mem_append

theorem AllPlain.of_sublist (h : AllPlain cs) (hds : ds.Sublist cs) : AllPlain ds :=
  fun c hc => h c (hds.subset hc)

theorem allPlain_replicate {c : Char} (h : IsPlain c) (n : Nat) :
    AllPlain (List.replicate n c) := by
  intro d hd
  rw [List.eq_of_mem_replicate hd]
  exact h

theorem AllPlain.notMem_carriageReturn (h : AllPlain cs) : '\r' ∉ cs := fun hmem =>
  absurd (h _ hmem) (by decide)

/-! ### Strings -/

theorem allPlain_hex (width n : Nat) : AllPlain (Text.hex width n) := by
  intro c hc
  have hall : AllPlain Text.hexDigits := by decide
  exact hall c (Text.mem_hexDigits_of_mem_hex hc)

theorem allPlain_escapeChar (c : Char) : AllPlain (escapeChar c) := by
  have hmark : IsPlain '\\' := by decide
  unfold escapeChar
  split
  · next h =>
    have hc : c = '"' ∨ c = '\\' := by simpa using h
    rcases hc with rfl | rfl <;> decide
  · iterate 5
      split
      · decide
    split
    · simp [hmark, allPlain_hex, show IsPlain 'u' by decide]
    · next h =>
      simp only [allPlain_cons]
      exact ⟨.inr (Nat.le_of_not_lt h), allPlain_nil⟩

theorem allPlain_writeString (s : String) : AllPlain (writeString s) := by
  have hmark : IsPlain '"' := by decide
  simp only [writeString, allPlain_cons, allPlain_append]
  refine ⟨hmark, fun c hc => ?_, hmark, allPlain_nil⟩
  obtain ⟨d, -, hc⟩ := List.mem_flatMap.mp hc
  exact allPlain_escapeChar d c hc

/-! ### Numbers -/

theorem isPlain_of_isDigit {c : Char} (h : c.isDigit = true) : IsPlain c := by
  simp only [Char.isDigit, Bool.and_eq_true, decide_eq_true_eq] at h
  have hleast : '0'.toNat ≤ c.toNat := UInt32.le_iff_toNat_le.mp h.1
  exact .inr (Nat.le_trans (by decide) hleast)

theorem allPlain_digits (n : Nat) : AllPlain (Decimal.digits n) := fun _ hc =>
  isPlain_of_isDigit (Decimal.isDigit_of_mem_digits hc)

theorem allPlain_sign (negative : Bool) : AllPlain (sign negative) := by
  cases negative <;> decide

theorem allPlain_positional (h : AllPlain cs) (p : Int) : AllPlain (Numeral.positional cs p) := by
  have hzero : IsPlain '0' := by decide
  have hpoint : IsPlain '.' := by decide
  unfold Numeral.positional
  split
  · simp [hzero, hpoint, h, allPlain_replicate hzero]
  · split
    · simp [hpoint, h.of_sublist (List.take_sublist _ _), h.of_sublist (List.drop_sublist _ _)]
    · simp [hzero, hpoint, h, allPlain_replicate hzero, allPlain_nil]

theorem allPlain_exponentText (width : Nat) (x : Int) :
    AllPlain (Numeral.exponentText width x) := by
  have hsign : IsPlain (if x < 0 then '-' else '+') := by split <;> decide
  simp only [Numeral.exponentText, allPlain_cons, allPlain_append]
  exact ⟨by decide, hsign, allPlain_replicate (by decide) _, allPlain_digits _⟩

theorem allPlain_scientific (h : AllPlain cs) (width : Nat) (x : Int) :
    AllPlain (Numeral.scientific width cs x) := by
  have hpoint : IsPlain '.' := by decide
  unfold Numeral.scientific
  split
  · decide
  · simpa [allPlain_exponentText, allPlain_nil] using h
  · simpa [hpoint, allPlain_exponentText] using h

theorem allPlain_ofDecimal (f : Numeral) (d : Decimal) : AllPlain (f.ofDecimal d) := by
  unfold Numeral.ofDecimal
  split
  · decide
  · have hdigits : AllPlain (Decimal.dropZeros (Decimal.digits d.coefficient) d.exponent).1 :=
      (allPlain_digits _).of_sublist (List.take_sublist _ _)
    dsimp only
    split
    · exact allPlain_positional hdigits _
    · exact allPlain_scientific hdigits _ _

theorem allPlain_ofDouble (d : Double) : AllPlain (numeral.ofDouble d) := by
  cases d with
  | nan => decide
  | infinite negative => cases negative <;> decide
  | finite negative m e h =>
    exact allPlain_append.mpr ⟨allPlain_sign negative, allPlain_ofDecimal _ _⟩

/-! ### Documents -/

theorem allPlain_writeScalar (s : Scalar) : AllPlain (writeScalar s) := by
  cases s with
  | null => decide
  | bool b => cases b <;> decide
  | int i =>
    rw [writeScalar, writeInt]
    split
    · exact allPlain_cons.mpr ⟨by decide, allPlain_digits _⟩
    · exact allPlain_digits _
  | float d => exact allPlain_ofDouble d
  | str s => exact allPlain_writeString s
  | moment m => exact allPlain_writeString m.text

theorem allPlain_writeKey (k : Scalar) : AllPlain (writeKey k) := by
  cases k <;> exact allPlain_writeString _

theorem allPlain_newline (level : Nat) : AllPlain (newline level) :=
  allPlain_cons.mpr ⟨by decide, allPlain_replicate (by decide) _⟩

mutual

theorem allPlain_write (level : Nat) : (v : Value) → AllPlain (write level v)
  | .scalar s => allPlain_writeScalar s
  | .list [] => by
    have hempty : AllPlain ['[', ']'] := by decide
    rwa [write]
  | .list (v :: vs) => by
    have hopening : IsPlain '[' := by decide
    have hclosing : IsPlain ']' := by decide
    simp only [write, allPlain_cons, allPlain_append]
    exact ⟨hopening, ⟨⟨allPlain_newline _, allPlain_writeItems (level + 1) (v :: vs)⟩,
      allPlain_newline _⟩,
      hclosing, allPlain_nil⟩
  | .dict [] => by
    have hempty : AllPlain ['{', '}'] := by decide
    rwa [write]
  | .dict (e :: es) => by
    have hopening : IsPlain '{' := by decide
    have hclosing : IsPlain '}' := by decide
    simp only [write, allPlain_cons, allPlain_append]
    exact ⟨hopening, ⟨⟨allPlain_newline _, allPlain_writeEntries (level + 1) (e :: es)⟩,
      allPlain_newline _⟩,
      hclosing, allPlain_nil⟩

theorem allPlain_writeItems (level : Nat) : (vs : List Value) → AllPlain (writeItems level vs)
  | [] => allPlain_nil
  | [v] => allPlain_write level v
  | v :: w :: rest => by
    have hcomma : IsPlain ',' := by decide
    simp only [writeItems, allPlain_cons, allPlain_append]
    exact ⟨allPlain_write level v, hcomma, allPlain_newline _,
      allPlain_writeItems level (w :: rest)⟩

theorem allPlain_writeEntries (level : Nat) :
    (es : List (Scalar × Value)) → AllPlain (writeEntries level es)
  | [] => allPlain_nil
  | [(k, v)] => by
    have hcolon : IsPlain ':' := by decide
    have hblank : IsPlain ' ' := by decide
    simp only [writeEntries, allPlain_cons, allPlain_append]
    exact ⟨allPlain_writeKey k, hcolon, hblank, allPlain_write level v⟩
  | (k, v) :: e :: rest => by
    have hcolon : IsPlain ':' := by decide
    have hblank : IsPlain ' ' := by decide
    have hcomma : IsPlain ',' := by decide
    simp only [writeEntries, allPlain_cons, allPlain_append]
    exact ⟨allPlain_writeKey k, hcolon, hblank, allPlain_write level v, hcomma, allPlain_newline _,
      allPlain_writeEntries level (e :: rest)⟩

end

/-- A written document has no control character but the line feed. -/
theorem allPlain_layout (v : Value) : AllPlain (layout v).toList := by
  rw [layout, String.toList_ofList]
  exact allPlain_write 0 v

end ServiceMigration.Json

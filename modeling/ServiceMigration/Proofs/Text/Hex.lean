import ServiceMigration.Text.Hex
/-!
# Numbers in base sixteen

A number that is written in base sixteen has no other characters than the digits, and the digits
spell the number, however many zeros stand before it.
-/

namespace ServiceMigration.Text

def hexDigits : List Char := "0123456789abcdef".toList

theorem digitChar_mem_hexDigits {n : Nat} (h : n < 16) : n.digitChar ∈ hexDigits := by
  revert n
  decide

theorem mem_hexDigits_of_mem_toDigits {c : Char} (n : Nat) (h : c ∈ Nat.toDigits 16 n) :
    c ∈ hexDigits := by
  induction n using Nat.strongRecOn with
  | _ n ih =>
    rw [Nat.toDigits_eq_if (by decide)] at h
    split at h
    · next hlt =>
      rw [List.mem_singleton.mp h]
      exact digitChar_mem_hexDigits hlt
    · next hge =>
      rcases List.mem_append.mp h with h | h
      · exact ih (n / 16) (by omega) h
      · rw [List.mem_singleton.mp h]
        exact digitChar_mem_hexDigits (Nat.mod_lt n (by decide))

theorem mem_hexDigits_of_mem_hex {c : Char} {width n : Nat} (h : c ∈ hex width n) :
    c ∈ hexDigits := by
  rcases List.mem_append.mp h with h | h
  · rw [List.eq_of_mem_replicate h]
    decide
  · exact mem_hexDigits_of_mem_toDigits n h

/-- A number that has no more digits than asked for is written with as many as asked for. -/
theorem length_hex {width n : Nat} (h : (Nat.toDigits 16 n).length ≤ width) :
    (hex width n).length = width := by
  simp only [hex, List.length_append, List.length_replicate]
  omega

/-- The number that digits of base sixteen spell. -/
def hexValue (cs : List Char) : Nat := cs.foldl (fun n c => 16 * n + hexDigits.idxOf c) 0

theorem idxOf_digitChar {n : Nat} (h : n < 16) : hexDigits.idxOf n.digitChar = n := by
  revert n
  decide

theorem hexValue_toDigits (n : Nat) : hexValue (Nat.toDigits 16 n) = n := by
  induction n using Nat.strongRecOn with
  | _ n ih =>
    rw [Nat.toDigits_eq_if (by decide)]
    split
    · next hlt => simp [hexValue, idxOf_digitChar hlt]
    · next hge =>
      have hrest := ih (n / 16) (by omega)
      have hlast := idxOf_digitChar (Nat.mod_lt n (show 0 < 16 by decide))
      rw [hexValue] at hrest ⊢
      rw [List.foldl_append, hrest, List.foldl_cons, List.foldl_nil, hlast]
      omega

theorem hexValue_hex (width n : Nat) : hexValue (hex width n) = n := by
  have hzeros : ∀ k, (List.replicate k '0').foldl (fun n c => 16 * n + hexDigits.idxOf c) 0 =
      0 := by
    intro k
    induction k with
    | zero => rfl
    | succ k ih =>
      rw [List.replicate_succ, List.foldl_cons]
      exact ih
  rw [hex, hexValue, List.foldl_append, hzeros]
  exact hexValue_toDigits n

end ServiceMigration.Text

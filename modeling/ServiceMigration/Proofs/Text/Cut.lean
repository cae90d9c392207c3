import Mathlib.Data.List.TakeWhile
import ServiceMigration.Text.Blank
import ServiceMigration.Text.Cut
/-!
# What is left when a text is cut

Cutting at a mark and trimming keep a piece of a text.  The lemmas say what stands around that
piece: the text is the piece with a rest before or after it, and the rest begins or ends where the
cut was made.
-/

namespace ServiceMigration.Text

/-! ### Before the first mark -/

/-- What is cut off at the first mark is nothing, or it begins with the mark. -/
theorem exists_eq_beforeFirst_append (mark : Char) (cs : List Char) :
    ∃ rest, cs = beforeFirst mark cs ++ rest ∧ ∀ c ∈ rest.head?, c = mark := by
  refine ⟨cs.dropWhile (· != mark), List.takeWhile_append_dropWhile.symm, ?_⟩
  intro c hc
  have hstop := List.head?_dropWhile_not (· != mark) cs
  rw [Option.mem_def.mp hc] at hstop
  simpa using hstop

theorem not_mem_beforeFirst (mark : Char) (cs : List Char) : mark ∉ beforeFirst mark cs := by
  intro hmem
  have := List.mem_takeWhile_imp hmem
  simp at this

theorem beforeFirst_eq_self {mark : Char} {cs : List Char} (h : mark ∉ cs) :
    beforeFirst mark cs = cs := by
  refine List.takeWhile_eq_self_iff.mpr ?_
  intro c hc
  have hne : c ≠ mark := fun he => h (he ▸ hc)
  simpa using hne

/-! ### After the last mark -/

theorem not_mem_afterLast (mark : Char) (cs : List Char) : mark ∉ afterLast mark cs := by
  intro hmem
  rw [afterLast, List.mem_reverse] at hmem
  have := List.mem_takeWhile_imp hmem
  simp at this

/-- What is cut off at the last mark is nothing, or it ends in the mark. -/
theorem exists_eq_append_afterLast (mark : Char) (cs : List Char) :
    cs = afterLast mark cs ∨ ∃ before, cs = before ++ mark :: afterLast mark cs := by
  have hsplit : cs = (cs.reverse.dropWhile (· != mark)).reverse ++ afterLast mark cs := by
    rw [afterLast, ← List.reverse_append, List.takeWhile_append_dropWhile, List.reverse_reverse]
  cases hrest : cs.reverse.dropWhile (· != mark) with
  | nil =>
    left
    rw [hrest] at hsplit
    simpa using hsplit
  | cons c rest =>
    right
    have hstop := List.head?_dropWhile_not (· != mark) cs.reverse
    rw [hrest] at hstop
    have hc : c = mark := by simpa using hstop
    refine ⟨rest.reverse, ?_⟩
    rw [hrest, hc] at hsplit
    simpa using hsplit

theorem afterLast_eq_self {mark : Char} {cs : List Char} (h : mark ∉ cs) :
    afterLast mark cs = cs := by
  rcases exists_eq_append_afterLast mark cs with heq | ⟨before, heq⟩
  · exact heq.symm
  · refine absurd ?_ h
    rw [heq]
    simp

theorem afterLast_append_cons {mark : Char} {cs : List Char} (before : List Char)
    (h : mark ∉ cs) : afterLast mark (before ++ mark :: cs) = cs := by
  have hall : ∀ c ∈ cs.reverse, (c != mark) = true := by
    intro c hc
    have hne : c ≠ mark := fun he => h (he ▸ List.mem_reverse.mp hc)
    simpa using hne
  simp [afterLast, List.takeWhile_append_of_pos hall]

theorem afterLast_suffix (mark : Char) (cs : List Char) : afterLast mark cs <:+ cs := by
  rcases exists_eq_append_afterLast mark cs with heq | ⟨before, heq⟩
  · exact ⟨[], heq.symm⟩
  · exact ⟨before ++ [mark], by simpa using heq.symm⟩

/-! ### Between two marks -/

theorem afterFirst?_append_cons {mark : Char} {before : List Char} (h : mark ∉ before)
    (rest : List Char) : afterFirst? mark (before ++ mark :: rest) = some rest := by
  have hall : ∀ c ∈ before, (c != mark) = true := by
    intro c hc
    have hne : c ≠ mark := fun he => h (he ▸ hc)
    simpa using hne
  simp [afterFirst?, List.dropWhile_append_of_pos hall]

theorem beforeLast?_append_cons {mark : Char} {after : List Char} (before : List Char)
    (h : mark ∉ after) : beforeLast? mark (before ++ mark :: after) = some before := by
  have hreverse : (before ++ mark :: after).reverse = after.reverse ++ mark :: before.reverse := by
    simp
  rw [beforeLast?, hreverse, afterFirst?_append_cons (by simpa using h), Option.map_some,
    List.reverse_reverse]

theorem between?_append {opening closing : Char} {before after : List Char}
    (hbefore : opening ∉ before) (inner : List Char) (hafter : closing ∉ after) :
    between? opening closing (before ++ opening :: (inner ++ closing :: after)) = some inner := by
  rw [between?, afterFirst?_append_cons hbefore, Option.bind_some,
    beforeLast?_append_cons inner hafter]

/-- Something stands between two marks if the second occurs after some occurrence of the first. -/
theorem exists_between? {opening closing : Char} {rest : List Char} (before : List Char)
    (h : closing ∈ rest) : ∃ inner, between? opening closing (before ++ opening :: rest) =
      some inner := by
  have hmem : opening ∈ before ++ opening :: rest := by simp
  obtain ⟨front, tail, hcut, hfront⟩ := List.eq_append_cons_of_mem hmem
  have htail : closing ∈ tail := by
    rcases List.append_eq_append_iff.mp hcut with ⟨more, hmore, hsame⟩ | ⟨more, -, hsame⟩
    · cases more with
      | nil => exact (List.cons.inj hsame).2 ▸ h
      | cons c more =>
        obtain ⟨rfl, -⟩ := List.cons.inj hsame
        rw [hmore] at hfront
        simp at hfront
    · cases more with
      | nil => exact (List.cons.inj hsame).2 ▸ h
      | cons c more =>
        rw [(List.cons.inj hsame).2]
        simp [h]
  obtain ⟨after, inner, hlast, hafter⟩ := List.eq_append_cons_of_mem (List.mem_reverse.mpr htail)
  have hsplit : tail = inner.reverse ++ closing :: after.reverse := by
    rw [← List.reverse_reverse tail, hlast]
    simp
  rw [hcut, hsplit]
  exact ⟨_, between?_append hfront _ (by simpa using hafter)⟩

/-! ### Trimming -/

/-- Only characters of the class are trimmed off. -/
theorem exists_eq_trimBoth_append (p : Char → Bool) (cs : List Char) :
    ∃ lead trail, cs = lead ++ (trimBoth p cs ++ trail) ∧
      (∀ c ∈ lead, p c = true) ∧ ∀ c ∈ trail, p c = true := by
  refine ⟨cs.takeWhile p, ((cs.dropWhile p).reverse.takeWhile p).reverse, ?_, ?_, ?_⟩
  · rw [trimBoth, ← List.reverse_append, List.takeWhile_append_dropWhile, List.reverse_reverse,
      List.takeWhile_append_dropWhile]
  · exact fun c hc => List.mem_takeWhile_imp hc
  · exact fun c hc => List.mem_takeWhile_imp (List.mem_reverse.mp hc)

theorem trimBoth_isInfix (p : Char → Bool) (cs : List Char) : trimBoth p cs <:+: cs := by
  obtain ⟨lead, trail, heq, -, -⟩ := exists_eq_trimBoth_append p cs
  exact ⟨lead, trail, by simpa using heq.symm⟩

/-- A trimmed text does not begin with a character of the class. -/
theorem head?_trimBoth (p : Char → Bool) (cs : List Char) :
    ∀ c ∈ (trimBoth p cs).head?, p c = false := by
  intro c hc
  obtain ⟨kept, hkept⟩ : trimBoth p cs <+: cs.dropWhile p := by
    rw [trimBoth, ← List.reverse_suffix, List.reverse_reverse]
    exact List.dropWhile_suffix p
  have hstop := List.head?_dropWhile_not p cs
  rw [← hkept, List.head?_append, Option.mem_def.mp hc, Option.some_or] at hstop
  simpa using hstop

/-- A trimmed text does not end in a character of the class. -/
theorem getLast?_trimBoth (p : Char → Bool) (cs : List Char) :
    ∀ c ∈ (trimBoth p cs).getLast?, p c = false := by
  intro c hc
  have hstop := List.head?_dropWhile_not p (cs.dropWhile p).reverse
  rw [trimBoth, List.getLast?_reverse] at hc
  rw [Option.mem_def.mp hc] at hstop
  simpa using hstop

theorem trimBoth_eq_self {p : Char → Bool} {cs : List Char}
    (hfirst : ∀ c ∈ cs.head?, p c = false) (hlast : ∀ c ∈ cs.getLast?, p c = false) :
    trimBoth p cs = cs := by
  have hdrop : ∀ ds : List Char, (∀ c ∈ ds.head?, p c = false) → ds.dropWhile p = ds := by
    intro ds hds
    cases ds with
    | nil => rfl
    | cons d ds => simp [hds d (by simp)]
  rw [trimBoth, hdrop cs hfirst, hdrop cs.reverse (by simpa using hlast), List.reverse_reverse]

/-! ### Pieces end to end -/

theorem joinWith_cons {mark : List Char} {pieces : List (List Char)} (piece : List Char)
    (h : pieces ≠ []) :
    joinWith mark (piece :: pieces) = piece ++ mark ++ joinWith mark pieces := by
  cases pieces with
  | nil => exact absurd rfl h
  | cons next rest => rfl

theorem joinWith_append {mark : List Char} {front back : List (List Char)} (hfront : front ≠ [])
    (hback : back ≠ []) :
    joinWith mark (front ++ back) = joinWith mark front ++ mark ++ joinWith mark back := by
  induction front with
  | nil => exact absurd rfl hfront
  | cons piece rest ih =>
    by_cases hrest : rest = []
    · rw [hrest, List.singleton_append, joinWith_cons piece hback, joinWith]
    · rw [List.cons_append, joinWith_cons piece (List.append_ne_nil_of_left_ne_nil hrest back),
        ih hrest, joinWith_cons piece hrest]
      simp only [List.append_assoc]

/-- Some of the pieces may be laid end to end before the others are. -/
theorem joinWith_append_joinWith_cons (mark : List Char) (before : List (List Char))
    {inner : List (List Char)} (hinner : inner ≠ []) (after : List (List Char)) :
    joinWith mark (before ++ joinWith mark inner :: after) =
      joinWith mark (before ++ inner ++ after) := by
  induction before with
  | nil =>
    by_cases hafter : after = []
    · rw [hafter, List.nil_append, List.nil_append, List.append_nil, joinWith]
    · rw [List.nil_append, List.nil_append, joinWith_cons _ hafter, joinWith_append hinner hafter]
  | cons piece rest ih =>
    have hright : rest ++ inner ++ after ≠ [] := by simp [hinner]
    rw [List.cons_append, joinWith_cons piece (by simp), ih, List.cons_append, List.cons_append,
      joinWith_cons piece hright]

/-! ### Occurrences -/

theorem dropExact?_isSome_iff {needle cs : List Char} : (dropExact? needle cs).isSome ↔
    needle <+: cs := by
  constructor
  · intro h
    obtain ⟨rest, hrest⟩ := Option.isSome_iff_exists.mp h
    exact ⟨rest, (eq_append_of_dropExact? hrest).symm⟩
  · rintro ⟨rest, rfl⟩
    rw [dropExact?_self]
    rfl

theorem occursIn_iff {needle cs : List Char} : occursIn needle cs = true ↔ needle <:+: cs := by
  induction cs with
  | nil => rw [occursIn, List.isEmpty_iff, List.infix_nil]
  | cons c rest ih => rw [occursIn, Bool.or_eq_true, dropExact?_isSome_iff, ih, List.infix_cons_iff]

end ServiceMigration.Text

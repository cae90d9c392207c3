import ServiceMigration.Chunk.Closure
import ServiceMigration.Proofs.Text.Cut
/-!
# The names in a text, and the name of a text

A mention of a type is read in two ways.  The mapping resolves it by the simple name of the whole
text; the closure of a chunk admits the simple names of the identifiers that a scan finds in it.
Main statements: where the simple name of a text is an identifier, the scan finds it whatever stands
around it (`simpleName_mem_namesIn`), and every other simple name belongs to a text in which the
scan does not find it (`forall_mem_namesIn_iff`).
-/

namespace ServiceMigration.Chunk

open Text

/-! ### Characters -/

theorem continuesIdentifier_of_startsIdentifier {c : Char} (h : startsIdentifier c = true) :
    continuesIdentifier c = true := by
  simp only [startsIdentifier, Bool.or_eq_true, Bool.and_eq_true, decide_eq_true_eq,
    beq_iff_eq] at h
  rcases h with (⟨hascii, halpha⟩ | rfl) | rfl
  · have hword : isWordChar c = true :=
      isWordChar_of_isAlphanum hascii (by simp [Char.isAlphanum, halpha])
    simp [continuesIdentifier, hword]
  · decide
  · decide

/-- No range of one table meets a range of the other. -/
def areApart (as bs : List (Nat × Nat)) : Bool :=
  as.all fun a => bs.all fun b => a.2 < b.1 || b.2 < a.1

theorem inRanges_eq_false_of_areApart {as bs : List (Nat × Nat)} {n : Nat}
    (hapart : areApart as bs = true) (h : inRanges as n = true) : inRanges bs n = false := by
  obtain ⟨a, ha, han⟩ := List.any_eq_true.mp h
  refine List.any_eq_false.mpr fun b hb hbn => ?_
  have hab := List.all_eq_true.mp (List.all_eq_true.mp hapart a ha) b hb
  simp only [Bool.and_eq_true, Bool.or_eq_true, decide_eq_true_eq] at han hbn hab
  omega

def blankRanges : List (Nat × Nat) := [
  (0x85, 0x85), (0xA0, 0xA0), (0x1680, 0x1680), (0x2000, 0x200A), (0x2028, 0x2029),
    (0x202F, 0x202F),
  (0x205F, 0x205F), (0x3000, 0x3000)]

theorem inRanges_blankRanges {c : Char} (h : isBlank c = true) (hc : ¬ c.toNat < 128) :
    inRanges blankRanges c.toNat = true := by
  simp only [isBlank, isWhiteSpace, Bool.or_eq_true, Bool.and_eq_true, decide_eq_true_eq,
    beq_iff_eq] at h
  simp only [inRanges, blankRanges, List.any_cons, List.any_nil, Bool.or_eq_true, Bool.and_eq_true,
    decide_eq_true_eq]
  omega

theorem areApart_blankRanges_wordRanges : areApart blankRanges wordRanges = true := by
  decide +kernel

theorem continuesIdentifier_eq_false_of_isBlank {c : Char} (h : isBlank c = true) :
    continuesIdentifier c = false := by
  by_cases hascii : c.toNat < 128
  · have hall : ∀ n < 128, isBlank (Char.ofNat n) = true →
        continuesIdentifier (Char.ofNat n) = false := by decide
    simpa [h] using hall c.toNat hascii
  · have hword := inRanges_eq_false_of_areApart areApart_blankRanges_wordRanges
      (inRanges_blankRanges h hascii)
    have hdollar : c ≠ '$' := by
      rintro rfl
      exact hascii (by decide)
    have hdot : c ≠ '.' := by
      rintro rfl
      exact hascii (by decide)
    simp [continuesIdentifier, isWordChar, hascii, hword, hdollar, hdot]

/-- An identifier: its first character begins one, and the others go on with it. -/
def isIdentifier : List Char → Bool
  | [] => false
  | c :: rest => startsIdentifier c && rest.all continuesIdentifier

theorem continuesIdentifier_of_mem {w : List Char} (h : isIdentifier w = true) :
    ∀ c ∈ w, continuesIdentifier c = true := by
  cases w with
  | nil => simp
  | cons d rest =>
    simp only [isIdentifier, Bool.and_eq_true, List.all_eq_true] at h
    intro c hc
    rcases List.mem_cons.mp hc with rfl | hc
    · exact continuesIdentifier_of_startsIdentifier h.1
    · exact h.2 c hc

/-- An identifier has no mark and no blank that the simple name of a text is cut at. -/
theorem simpleName_of_isIdentifier {w : List Char} (h : isIdentifier w = true) :
    simpleName (String.ofList w) = String.ofList (afterLast '.' w) := by
  have hgo := continuesIdentifier_of_mem h
  have hmark : '<' ∉ w := fun hmem => absurd (hgo '<' hmem) (by decide)
  have hblank : ∀ c ∈ w, isBlank c = false := by
    intro c hc
    refine Bool.eq_false_iff.mpr fun hb => ?_
    have hstop := continuesIdentifier_eq_false_of_isBlank hb
    rw [hgo c hc] at hstop
    simp at hstop
  rw [simpleName, String.toList_ofList, beforeFirst_eq_self hmark,
    trimBoth_eq_self (fun c hc => hblank c (List.mem_of_mem_head? hc))
      (fun c hc => hblank c (List.mem_of_mem_getLast? hc))]

/-! ### The scan -/

/-- What has been read of an identifier when a scan has gone through a text. -/
def scanState : Option (List Char) → List Char → Option (List Char)
  | state, [] => state
  | none, c :: rest => scanState (if startsIdentifier c then some [c] else none) rest
  | some word, c :: rest =>
    scanState (if continuesIdentifier c then some (c :: word) else none) rest

theorem scanState_append (state : Option (List Char)) (a b : List Char) :
    scanState state (a ++ b) = scanState (scanState state a) b := by
  induction a generalizing state with
  | nil => rfl
  | cons c a ih =>
    cases state with
    | none => simp only [List.cons_append, scanState, ih]
    | some word => simp only [List.cons_append, scanState, ih]

theorem mem_identifiersFrom_append {state : Option (List Char)} {a b w : List Char}
    (h : w ∈ identifiersFrom (scanState state a) b) : w ∈ identifiersFrom state (a ++ b) := by
  induction a generalizing state with
  | nil => simpa [scanState] using h
  | cons c a ih =>
    cases state with
    | none =>
      simp only [scanState] at h
      simp only [List.cons_append, identifiersFrom]
      split at h <;> rename_i hc
      · rw [if_pos hc]
        exact ih h
      · rw [if_neg hc]
        exact ih h
    | some word =>
      simp only [scanState] at h
      simp only [List.cons_append, identifiersFrom]
      split at h <;> rename_i hc
      · rw [if_pos hc]
        exact ih h
      · rw [if_neg hc]
        exact List.mem_cons_of_mem _ (ih h)

theorem mem_identifiersFrom_some (word : List Char) {cs rest : List Char}
    (hgo : ∀ c ∈ cs, continuesIdentifier c = true)
    (hstop : ∀ c ∈ rest.head?, continuesIdentifier c = false) :
    word.reverse ++ cs ∈ identifiersFrom (some word) (cs ++ rest) := by
  induction cs generalizing word with
  | nil =>
    cases rest with
    | nil => simp [identifiersFrom]
    | cons c rest => simp [identifiersFrom, hstop c (by simp)]
  | cons c cs ih =>
    have hc : continuesIdentifier c = true := hgo c (by simp)
    have hrest := ih (c :: word) fun d hd => hgo d (by simp [hd])
    simpa [identifiersFrom, hc] using hrest

theorem mem_identifiersFrom_none {w rest : List Char} (h : isIdentifier w = true)
    (hstop : ∀ c ∈ rest.head?, continuesIdentifier c = false) :
    w ∈ identifiersFrom none (w ++ rest) := by
  cases w with
  | nil => simp [isIdentifier] at h
  | cons c w =>
    simp only [isIdentifier, Bool.and_eq_true, List.all_eq_true] at h
    have hread := mem_identifiersFrom_some [c] h.2 hstop
    simpa [identifiersFrom, h.1] using hread

theorem scanState_concat_of_not_continues {state : Option (List Char)} {a : List Char} {c : Char}
    (hc : continuesIdentifier c = false) : scanState state (a ++ [c]) = none := by
  have hstart : startsIdentifier c = false := by
    refine Bool.eq_false_iff.mpr fun hs => ?_
    have hgo := continuesIdentifier_of_startsIdentifier hs
    rw [hc] at hgo
    simp at hgo
  rw [scanState_append]
  cases scanState state a with
  | none => simp [scanState, hstart]
  | some word => simp [scanState, hc]

/-- Everything that a scan finds is an identifier that stands in the text. -/
theorem infix_of_mem_identifiersFrom (before : List Char) {state : Option (List Char)}
    {cs w : List Char}
    (hstate : ∀ word ∈ state, isIdentifier word.reverse = true ∧ word.reverse <:+ before)
    (h : w ∈ identifiersFrom state cs) : isIdentifier w = true ∧ w <:+: before ++ cs := by
  induction cs generalizing state before with
  | nil =>
    cases state with
    | none => simp [identifiersFrom] at h
    | some word =>
      obtain ⟨hid, hsuffix⟩ := hstate word rfl
      have hw : w = word.reverse := by simpa [identifiersFrom] using h
      exact ⟨hw ▸ hid, by simpa [hw] using hsuffix.isInfix⟩
  | cons c cs ih =>
    have hnext : ∀ state' : Option (List Char),
        (∀ word ∈ state', isIdentifier word.reverse = true ∧ word.reverse <:+ before ++ [c]) →
        w ∈ identifiersFrom state' cs → isIdentifier w = true ∧ w <:+: before ++ c :: cs := by
      intro state' hstate' hw
      simpa using ih (before ++ [c]) hstate' hw
    cases state with
    | none =>
      simp only [identifiersFrom] at h
      split at h <;> rename_i hc
      · refine hnext (some [c]) ?_ h
        rintro word ⟨⟩
        exact ⟨by simp [isIdentifier, hc], List.suffix_append before [c]⟩
      · exact hnext none (by simp) h
    | some word =>
      obtain ⟨hid, hsuffix⟩ := hstate word rfl
      simp only [identifiersFrom] at h
      split at h <;> rename_i hc
      · refine hnext (some (c :: word)) ?_ h
        rintro _ ⟨⟩
        obtain ⟨front, rfl⟩ := hsuffix
        refine ⟨?_, ⟨front, by simp⟩⟩
        cases hrev : word.reverse with
        | nil => simp [hrev, isIdentifier] at hid
        | cons d rest =>
          rw [hrev] at hid
          simp only [isIdentifier, Bool.and_eq_true, List.all_eq_true] at hid
          simp only [List.reverse_cons, hrev, List.cons_append, isIdentifier, Bool.and_eq_true,
            List.all_append, List.all_eq_true]
          exact ⟨hid.1, hid.2, by simpa using hc⟩
      · rcases List.mem_cons.mp h with rfl | h
        · exact ⟨hid, (hsuffix.isInfix).trans ⟨[], c :: cs, by simp⟩⟩
        · exact hnext none (by simp) h

/-! ### The simple name of a text in the scan -/

theorem not_mem_simpleName (name : String) : '.' ∉ (simpleName name).toList := by
  simp [simpleName, not_mem_afterLast]

/-- A simple name stands between the mark or blank that it begins after, and one that it ends
before. -/
theorem exists_around_simpleName (name : String) :
    ∃ before after, name.toList = before ++ ((simpleName name).toList ++ after) ∧
      (∀ c ∈ before.getLast?, isBlank c = true ∨ c = '.') ∧
      ∀ c ∈ after.head?, continuesIdentifier c = false := by
  obtain ⟨rest, hcut, hrest⟩ := exists_eq_beforeFirst_append '<' name.toList
  obtain ⟨lead, trail, htrim, hlead, htrail⟩ :=
    exists_eq_trimBoth_append isBlank (beforeFirst '<' name.toList)
  have hafter : ∀ c ∈ (trail ++ rest).head?, continuesIdentifier c = false := by
    intro c hc
    cases trail with
    | nil =>
      rw [hrest c (by simpa using hc)]
      decide
    | cons d trail =>
      have hd : d = c := by simpa using hc
      exact continuesIdentifier_eq_false_of_isBlank (hd ▸ htrail d (by simp))
  have hlast := exists_eq_append_afterLast '.' (trimBoth isBlank (beforeFirst '<' name.toList))
  have hname : (simpleName name).toList =
      afterLast '.' (trimBoth isBlank (beforeFirst '<' name.toList)) := by
    rw [simpleName, String.toList_ofList]
  rw [← hname] at hlast
  generalize (simpleName name).toList = simple at hlast ⊢
  generalize trimBoth isBlank (beforeFirst '<' name.toList) = raw at htrim hlast
  rw [htrim] at hcut
  rcases hlast with rfl | ⟨front, rfl⟩
  · refine ⟨lead, trail ++ rest, ?_, ?_, hafter⟩
    · simpa using hcut
    · exact fun c hc => .inl (hlead c (List.mem_of_mem_getLast? hc))
  · refine ⟨lead ++ (front ++ ['.']), trail ++ rest, ?_, ?_, hafter⟩
    · simpa using hcut
    · intro c hc
      right
      simpa [← List.append_assoc] using hc.symm

/-- A scan finds the simple name of a text, whatever stands around it, when that is an
identifier. -/
theorem simpleName_mem_namesIn {name : String}
    (h : isIdentifier (simpleName name).toList = true) : simpleName name ∈ namesIn name := by
  obtain ⟨before, after, htext, hbefore, hafter⟩ := exists_around_simpleName name
  have hfound : ∃ w ∈ identifiersFrom none name.toList,
      afterLast '.' w = (simpleName name).toList := by
    rw [htext]
    cases hstate : scanState none before with
    | none =>
      refine ⟨(simpleName name).toList, ?_, afterLast_eq_self (not_mem_simpleName name)⟩
      apply mem_identifiersFrom_append
      rw [hstate]
      exact mem_identifiersFrom_none h hafter
    | some word =>
      -- An identifier that goes on up to here ends in the full stop before the name.
      obtain ⟨front, rfl⟩ : ∃ front, before = front ++ ['.'] := by
        rcases List.eq_nil_or_concat before with rfl | ⟨front, c, rfl⟩
        · simp [scanState] at hstate
        · rcases hbefore c (by simp) with hblank | rfl
          · rw [List.concat_eq_append, scanState_concat_of_not_continues
              (continuesIdentifier_eq_false_of_isBlank hblank)] at hstate
            simp at hstate
          · exact ⟨front, by simp⟩
      obtain ⟨begun, rfl⟩ : ∃ begun, word = '.' :: begun := by
        rw [scanState_append] at hstate
        cases hfront : scanState none front with
        | none =>
          have hdot : startsIdentifier '.' = false := by decide
          simp [hfront, scanState, hdot] at hstate
        | some begun =>
          have hdot : continuesIdentifier '.' = true := by decide
          refine ⟨begun, ?_⟩
          simpa [hfront, scanState, hdot] using hstate.symm
      refine ⟨('.' :: begun).reverse ++ (simpleName name).toList, ?_, ?_⟩
      · apply mem_identifiersFrom_append
        rw [hstate]
        exact mem_identifiersFrom_some _ (continuesIdentifier_of_mem h) hafter
      · simpa using afterLast_append_cons begun.reverse (not_mem_simpleName name)
  obtain ⟨w, hw, hlast⟩ := hfound
  have hid := (infix_of_mem_identifiersFrom [] (by simp) hw).1
  refine List.mem_map.mpr ⟨w, hw, ?_⟩
  rw [simpleName_of_isIdentifier hid, hlast, String.ofList_toList]

theorem mem_referencedNames_of_mem_namesIn {t : TypeRef} {name : String}
    (h : name ∈ namesIn t.contentName) : name ∈ referencedNames t := by
  unfold referencedNames
  unfold TypeRef.contentName at h
  split
  · next c hc =>
    simp only [hc] at h
    have helement : c.element.isEmpty = false := by
      rw [Bool.eq_false_iff]
      intro hempty
      simp [String.isEmpty_iff.mp hempty, namesIn, identifiersFrom] at h
    simp [helement, h]
  · next hc =>
    simpa only [hc] using h

/-- Every name that a scan finds is what an identifier in the text ends in. -/
theorem exists_infix_of_mem_namesIn {name text : String} (h : name ∈ namesIn text) :
    ∃ w, isIdentifier w = true ∧ w <:+: text.toList ∧ name.toList <:+ w := by
  obtain ⟨w, hw, rfl⟩ := List.mem_map.mp h
  obtain ⟨hid, hinfix⟩ := infix_of_mem_identifiersFrom [] (by simp) hw
  refine ⟨w, hid, by simpa using hinfix, ?_⟩
  rw [simpleName_of_isIdentifier hid, String.toList_ofList]
  exact afterLast_suffix '.' w

theorem simpleName_suffix (name : String) :
    (simpleName name).toList <:+ trimBoth isBlank (beforeFirst '<' name.toList) := by
  rw [simpleName, String.toList_ofList]
  exact afterLast_suffix '.' _

/-- A full stop before a simple name leaves it what it is. -/
theorem simpleName_dot_append (name : String) :
    simpleName (String.ofList ('.' :: (simpleName name).toList)) = simpleName name := by
  have hmark : '<' ∉ '.' :: (simpleName name).toList := by
    intro hmem
    rcases List.mem_cons.mp hmem with he | hmem
    · simp at he
    · have hraw := (simpleName_suffix name).subset hmem
      exact not_mem_beforeFirst '<' name.toList ((trimBoth_isInfix _ _).subset hraw)
  have hlast : ∀ c ∈ ('.' :: (simpleName name).toList).getLast?, isBlank c = false := by
    intro c hc
    obtain ⟨front, hraw⟩ := simpleName_suffix name
    cases hname : (simpleName name).toList with
    | nil =>
      have hdot : '.' = c := by simpa [hname] using hc
      rw [← hdot]
      decide
    | cons d rest =>
      refine getLast?_trimBoth isBlank (beforeFirst '<' name.toList) c ?_
      rw [← hraw, hname]
      simpa [hname] using hc
  have htrim := trimBoth_eq_self (p := isBlank) (by simp; decide) hlast
  have hname := afterLast_append_cons [] (not_mem_simpleName name)
  rw [simpleName, String.toList_ofList, beforeFirst_eq_self hmark, htrim]
  rw [List.nil_append] at hname
  rw [hname, String.ofList_toList]

/-- Of the texts that have a simple name, a scan finds the name in every one just when the name is
an identifier. -/
theorem forall_mem_namesIn_iff (name : String) :
    (∀ text, simpleName text = simpleName name → simpleName name ∈ namesIn text) ↔
      isIdentifier (simpleName name).toList = true := by
  constructor
  · intro hall
    -- A full stop begins no identifier, so what is found behind one is the name itself.
    have hmem := hall _ (simpleName_dot_append name)
    obtain ⟨w, hid, hinfix, hsuffix⟩ := exists_infix_of_mem_namesIn hmem
    rw [String.toList_ofList] at hinfix
    have hlength := hsuffix.length_le
    rcases List.infix_cons_iff.mp hinfix with hprefix | hinfix
    · cases w with
      | nil => simp [isIdentifier] at hid
      | cons c w =>
        have hc : c = '.' := (List.cons_prefix_cons.mp hprefix).1
        have hdot : startsIdentifier '.' = false := by decide
        simp [isIdentifier, hc, hdot] at hid
    · rw [hsuffix.eq_of_length (Nat.le_antisymm hlength hinfix.length_le)]
      exact hid
  · intro hid text htext
    rw [← htext] at hid ⊢
    exact simpleName_mem_namesIn hid

end ServiceMigration.Chunk

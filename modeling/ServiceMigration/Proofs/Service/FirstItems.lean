import Mathlib.Data.List.Nodup
import ServiceMigration.Service.Analysis
/-!
# First items

Items that go by an identity are put in one after the other, and one whose identity is taken is
dropped.  What comes of it is the first item of every identity, in order (`insertAll_nil_eq`).  So
every identity is there once and means what it meant first (`find?_firsts`), and it makes no
difference whether items are put in at once or in groups (`firsts_flatMap_firsts`).
-/

namespace ServiceMigration

variable {α β : Type} {id : α → String} {items more : List α} {a : α}

/-- The items whose identity no earlier item has. -/
def firsts (id : α → String) (items : List α) : List α := items.eraseDupsBy fun a b => id a == id b

/-- An identity that is there once means the item that has it. -/
theorem find?_of_mem (h : (items.map id).Nodup) (ha : a ∈ items) :
    items.find? (id · == id a) = some a := by
  induction items with
  | nil => exact absurd ha List.not_mem_nil
  | cons b rest ih =>
    obtain ⟨hnew, hrest⟩ := List.nodup_cons.mp h
    rcases List.mem_cons.mp ha with rfl | ha
    · exact List.find?_cons_of_pos (beq_self_eq_true (id a))
    · have hother : id b ≠ id a := by
        intro hsame
        exact hnew (hsame ▸ List.mem_map_of_mem ha)
      rw [List.find?_cons_of_neg (by simpa using hother)]
      exact ih hrest ha

/-! ### One item -/

theorem insertFirst_of_not_mem (h : id a ∉ items.map id) :
    insertFirst id items a = (items ++ [a], true) := by
  have hnew : ¬(items.any fun b => id b == id a) = true := by
    rw [List.any_eq_true]
    rintro ⟨b, hb, hsame⟩
    exact h (List.mem_map.mpr ⟨b, hb, beq_iff_eq.mp hsame⟩)
  rw [insertFirst, if_neg hnew]

theorem insertFirst_of_mem (h : id a ∈ items.map id) : insertFirst id items a = (items, false) := by
  obtain ⟨b, hb, hsame⟩ := List.mem_map.mp h
  have hthere : (items.any fun b => id b == id a) = true :=
    List.any_eq_true.mpr ⟨b, hb, beq_iff_eq.mpr hsame⟩
  rw [insertFirst, if_pos hthere]

/-- An item is new exactly if no item has its identity. -/
theorem insertFirst_snd_iff : (insertFirst id items a).2 = true ↔ id a ∉ items.map id := by
  by_cases hmem : id a ∈ items.map id
  · simp [insertFirst_of_mem hmem, hmem]
  · simp [insertFirst_of_not_mem hmem, hmem]

theorem nodup_insertFirst (h : (items.map id).Nodup) (a : α) :
    ((insertFirst id items a).1.map id).Nodup := by
  by_cases hmem : id a ∈ items.map id
  · rw [insertFirst_of_mem hmem]
    exact h
  · rw [insertFirst_of_not_mem hmem, List.map_append, List.map_singleton, ← List.concat_eq_append]
    exact List.Nodup.concat hmem h

/-- What an identity means does not change when an item is put in that comes after those that are
there. -/
theorem find?_insertFirst (items : List α) (a : α) (key : String) :
    (insertFirst id items a).1.find? (id · == key) = (items ++ [a]).find? (id · == key) := by
  by_cases hmem : id a ∈ items.map id
  · rw [insertFirst_of_mem hmem, List.find?_append]
    by_cases hkey : id a = key
    · obtain ⟨b, hb, hsame⟩ := List.mem_map.mp hmem
      have hfound : (items.find? (id · == key)).isSome :=
        List.find?_isSome.mpr ⟨b, hb, beq_iff_eq.mpr (hsame.trans hkey)⟩
      obtain ⟨c, hc⟩ := Option.isSome_iff_exists.mp hfound
      rw [hc, Option.some_or]
    · have hother : [a].find? (id · == key) = none := by simp [hkey]
      rw [hother, Option.or_none]
  · rw [insertFirst_of_not_mem hmem]

theorem map_insertFirst (id : α → String) (id' : β → String) {f : α → β}
    (hf : ∀ a, id' (f a) = id a) (items : List α) (a : α) :
    insertFirst id' (items.map f) (f a) =
      ((insertFirst id items a).1.map f, (insertFirst id items a).2) := by
  have hids : (items.map f).map id' = items.map id := by
    rw [List.map_map]
    exact List.map_congr_left fun a _ => hf a
  by_cases hmem : id a ∈ items.map id
  · have hmem' : id' (f a) ∈ (items.map f).map id' := by rwa [hids, hf]
    rw [insertFirst_of_mem hmem, insertFirst_of_mem hmem']
  · have hmem' : id' (f a) ∉ (items.map f).map id' := by rwa [hids, hf]
    rw [insertFirst_of_not_mem hmem, insertFirst_of_not_mem hmem', List.map_append,
      List.map_singleton]

/-! ### Several items -/

theorem insertAll_append (items xs ys : List α) :
    insertAll id items (xs ++ ys) = insertAll id (insertAll id items xs) ys := List.foldl_append

theorem insertAll_cons (items : List α) (a : α) (more : List α) :
    insertAll id items (a :: more) = insertAll id (insertFirst id items a).1 more := rfl

theorem not_mem_of_nodup (h : ((items ++ a :: more).map id).Nodup) : id a ∉ items.map id := by
  rw [List.map_append, List.nodup_append] at h
  obtain ⟨-, -, hapart⟩ := h
  intro hmem
  exact hapart _ hmem _ (by simp) rfl

/-- Where all identities differ, everything is put in, in order. -/
theorem insertAll_eq_append (h : ((items ++ more).map id).Nodup) :
    insertAll id items more = items ++ more := by
  induction more generalizing items with
  | nil => exact (List.append_nil items).symm
  | cons a rest ih =>
    have hstep : ((items ++ [a] ++ rest).map id).Nodup := by simpa using h
    rw [insertAll_cons, insertFirst_of_not_mem (not_mem_of_nodup h), ih hstep, List.append_assoc,
      List.singleton_append]

theorem insertAll_nil (h : (items.map id).Nodup) : insertAll id [] items = items := by
  rw [insertAll_eq_append (by simpa using h), List.nil_append]

theorem nodup_insertAll (h : (items.map id).Nodup) (more : List α) :
    ((insertAll id items more).map id).Nodup := by
  induction more generalizing items with
  | nil => exact h
  | cons a rest ih => exact ih (nodup_insertFirst h a)

theorem find?_insertAll (items more : List α) (key : String) :
    (insertAll id items more).find? (id · == key) = (items ++ more).find? (id · == key) := by
  induction more generalizing items with
  | nil => rw [List.append_nil]; rfl
  | cons a rest ih =>
    rw [insertAll_cons, ih, List.find?_append, find?_insertFirst, ← List.find?_append,
      List.append_assoc, List.singleton_append]

theorem mem_map_insertAll {key : String} :
    key ∈ (insertAll id items more).map id ↔ key ∈ items.map id ∨ key ∈ more.map id := by
  induction more generalizing items with
  | nil => simp [insertAll]
  | cons a rest ih =>
    rw [insertAll_cons, ih, List.map_cons, List.mem_cons, ← or_assoc]
    by_cases hmem : id a ∈ items.map id
    · rw [insertFirst_of_mem hmem]
      constructor
      · exact Or.imp_left .inl
      · rintro ((hkey | rfl) | hkey)
        · exact .inl hkey
        · exact .inl hmem
        · exact .inr hkey
    · rw [insertFirst_of_not_mem hmem, List.map_append, List.mem_append, List.map_singleton,
        List.mem_singleton]

/-- It makes no difference whether items are put in one after the other or are put together
first. -/
theorem insertAll_insertAll (items xs ys : List α) :
    insertAll id items (insertAll id xs ys) = insertAll id (insertAll id items xs) ys := by
  induction ys generalizing xs with
  | nil => rfl
  | cons a rest ih =>
    rw [insertAll_cons, ih, insertAll_cons]
    congr 1
    by_cases hmem : id a ∈ xs.map id
    · have hthere : id a ∈ (insertAll id items xs).map id := mem_map_insertAll.mpr (.inr hmem)
      rw [insertFirst_of_mem hmem, insertFirst_of_mem hthere]
    · rw [insertFirst_of_not_mem hmem, insertAll_append]
      rfl

theorem map_insertAll (id : α → String) (id' : β → String) {f : α → β} (hf : ∀ a, id' (f a) = id a)
    (items more : List α) : insertAll id' (items.map f)
    (more.map f) = (insertAll id items more).map f := by
  induction more generalizing items with
  | nil => rfl
  | cons a rest ih => rw [List.map_cons, insertAll_cons, insertAll_cons,
      map_insertFirst id id' hf, ih]

/-! ### The first items of a list -/

theorem firsts_cons (a : α) (rest : List α) :
    firsts id (a :: rest) = a :: firsts id (rest.filter fun b => id b ≠ id a) := by
  rw [firsts, List.eraseDupsBy_cons, firsts]
  congr 2
  refine List.filter_congr fun b _ => ?_
  by_cases hsame : id b = id a <;> simp [hsame]

theorem insertAll_eq (items more : List α) :
    insertAll id items more = items ++ firsts id (more.filter fun a => id a ∉ items.map id) := by
  induction more generalizing items with
  | nil => simp [insertAll, firsts]
  | cons a rest ih =>
    rw [insertAll_cons]
    by_cases hmem : id a ∈ items.map id
    · rw [insertFirst_of_mem hmem, ih, List.filter_cons_of_neg (by simpa using hmem)]
    · rw [insertFirst_of_not_mem hmem, ih, List.filter_cons_of_pos (by simpa using hmem),
        firsts_cons, List.filter_filter, List.append_assoc, List.singleton_append]
      congr 3
      refine List.filter_congr fun b _ => ?_
      by_cases hsame : id b = id a <;> simp [hsame]

theorem insertAll_nil_eq (items : List α) : insertAll id [] items = firsts id items := by
  rw [insertAll_eq]
  simp

theorem mem_map_firsts {key : String} : key ∈ (firsts id items).map id ↔ key ∈ items.map id := by
  rw [← insertAll_nil_eq, mem_map_insertAll]
  simp

/-- Items whose identities are there already add nothing. -/
theorem insertAll_of_subset (h : more.map id ⊆ items.map id) : insertAll id items more = items := by
  have hnone : more.filter (fun a => id a ∉ items.map id) = [] := by
    refine List.filter_eq_nil_iff.mpr fun a ha => ?_
    simpa using h (List.mem_map_of_mem ha)
  rw [insertAll_eq, hnone]
  simp [firsts]

theorem insertAll_firsts (xs ys : List α) :
    insertAll id (firsts id xs) (firsts id ys) = firsts id (xs ++ ys) := by
  simp only [← insertAll_nil_eq]
  rw [insertAll_insertAll, insertAll_append]
  rfl

theorem nodup_firsts (items : List α) : ((firsts id items).map id).Nodup := by
  have hnone : (([] : List α).map id).Nodup := List.nodup_nil
  rw [← insertAll_nil_eq]
  exact nodup_insertAll hnone items

/-- Among the first items an identity means what it means among all. -/
theorem find?_firsts (items : List α) (key : String) :
    (firsts id items).find? (id · == key) = items.find? (id · == key) := by
  rw [← insertAll_nil_eq, find?_insertAll, List.nil_append]

theorem mem_of_mem_firsts (h : a ∈ firsts id items) : a ∈ items := by
  have hfind := find?_of_mem (nodup_firsts items) h
  rw [find?_firsts] at hfind
  exact List.mem_of_find?_eq_some hfind

/-- The identities come in the order in which they occur first. -/
theorem map_firsts (id : α → String) (items : List α) :
    (firsts id items).map id = (items.map id).eraseDups := by
  rw [← insertAll_nil_eq, ← map_insertAll id (fun key => key) fun _ => rfl, List.map_nil,
    insertAll_nil_eq]
  rfl

theorem firsts_eq_self (h : (items.map id).Nodup) : firsts id items = items := by
  rw [← insertAll_nil_eq, insertAll_nil h]

/-- The first items of groups, taken group by group and then of what is left, are those of all. -/
theorem firsts_flatMap_firsts (groups : List (List α)) :
    firsts id (groups.flatMap (firsts id)) = firsts id groups.flatten := by
  induction groups with
  | nil => rfl
  | cons group rest ih =>
    rw [List.flatMap_cons, List.flatten_cons, ← insertAll_firsts, ← insertAll_firsts, ih,
      firsts_eq_self (nodup_firsts group)]

end ServiceMigration

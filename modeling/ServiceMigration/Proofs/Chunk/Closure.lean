import ServiceMigration.Chunk.Closure
import ServiceMigration.Mapping.Rules
/-!
# What a closure holds

The closure of some endpoints is found breadth first, with as much fuel as there are data-transfer
types.  The invariant of the search says that what is admitted falls into a part that has been
looked into and the part that is pending, and that nothing is left to do about the names that the
first part mentions.  As every step moves one entry from the second part to the first, the fuel
suffices, and the search ends with a list that is closed (`settled_of_mem_fieldNames`).  Two
searches over different tables go alike as long as the tables agree on the names that they meet; so
the closure of some of the endpoints may be taken inside the closure of all of them
(`requiredDtos_requiredDtos`).
-/

namespace ServiceMigration.Chunk

def fieldNames (d : Dto) : List String := (d.fields.map (·.type)).flatMap referencedNames

def seedNames (endpoints : List Endpoint) : List String :=
  (endpoints.flatMap mentions).flatMap referencedNames

/-- A name means the first data-transfer type that is declared under it. -/
theorem lookup_byName (dtos : List Dto) (name : String) :
    (byName dtos).lookup name = dtos.find? fun d => name == simpleName d.name := by
  induction dtos with
  | nil => rfl
  | cons d dtos ih =>
    simp only [byName, List.map_cons, List.lookup_cons, List.find?_cons]
    cases name == simpleName d.name with
    | true => rfl
    | false => exact ih

theorem lookup_byName_eq_none_iff (dtos : List Dto) (name : String) :
    (byName dtos).lookup name = none ↔ name ∉ Mapping.knownNames dtos := by
  rw [lookup_byName, List.find?_eq_none]
  simp only [beq_iff_eq, Mapping.knownNames, List.mem_map, not_exists, not_and]
  exact ⟨fun h d hd he => h d hd he.symm, fun h d hd he => h d hd he.symm⟩

theorem mem_of_lookup_byName {dtos : List Dto} {name : String} {d : Dto}
    (h : (byName dtos).lookup name = some d) : d ∈ dtos ∧ simpleName d.name = name := by
  rw [lookup_byName] at h
  have hname : name = simpleName d.name := by simpa using List.find?_some h
  exact ⟨List.mem_of_find?_eq_some h, hname.symm⟩

namespace Closure

variable {table : List (String × Dto)} {done : List Dto} {c c' : Closure} {name : String}

def names (c : Closure) : List String := c.admitted.map (·.1)

/-- Nothing is left to do about a name: it means nothing, or it has been admitted. -/
def Settled (table : List (String × Dto)) (c : Closure) (name : String) : Prop :=
  table.lookup name = none ∨ name ∈ c.names

theorem Settled.mono (h : Settled table c name) (hle : c.admitted <+: c'.admitted) :
    Settled table c' name :=
  h.imp id fun hmem => (hle.map (·.1)).subset hmem

/-- The search admits no name twice and under every name what it means, and what it has looked into
comes before what is pending. -/
structure Invariant (table : List (String × Dto)) (done : List Dto) (c : Closure) : Prop where
  nodup : c.names.Nodup
  named : ∀ e ∈ c.admitted, table.lookup e.1 = some e.2
  split : c.admitted.map (·.2) = done ++ c.pending

theorem Invariant.length_le (h : Invariant table done c) :
    done.length + c.pending.length ≤ table.length := by
  have hsubset : c.names ⊆ table.map (·.1) := by
    intro name hname
    obtain ⟨e, he, rfl⟩ := List.mem_map.mp hname
    obtain ⟨before, after, htable, -⟩ := List.lookup_eq_some_iff.mp (h.named e he)
    rw [htable]
    simp
  have hle := h.nodup.length_le_of_subset hsubset
  have hlength := congrArg List.length h.split
  simp only [names, List.length_map, List.length_append] at hle hlength
  omega

/-! ### Admitting names -/

theorem take_cases (table : List (String × Dto)) (c : Closure) (name : String) :
    (Settled table c name ∧ take table c name = c) ∨
      ∃ d, name ∉ c.names ∧ table.lookup name = some d ∧
        take table c name =
          { admitted := c.admitted ++ [(name, d)], pending := c.pending ++ [d] } := by
  have hmem : c.admitted.any (·.1 == name) = true ↔ name ∈ c.names := by
    simp [names, List.any_eq_true]
  by_cases hname : name ∈ c.names
  · exact .inl ⟨.inr hname, by rw [take, if_pos (hmem.mpr hname)]⟩
  · cases hd : table.lookup name with
    | none => exact .inl ⟨.inl hd, by rw [take, if_neg (mt hmem.mp hname), hd]⟩
    | some d => exact .inr ⟨d, hname, rfl, by rw [take, if_neg (mt hmem.mp hname), hd]⟩

theorem prefix_take (table : List (String × Dto)) (c : Closure) (name : String) :
    c.admitted <+: (take table c name).admitted := by
  rcases take_cases table c name with ⟨-, heq⟩ | ⟨d, -, -, heq⟩
  · simp [heq]
  · rw [heq]
    exact List.prefix_append _ _

theorem settled_take (table : List (String × Dto)) (c : Closure) (name : String) :
    Settled table (take table c name) name := by
  rcases take_cases table c name with ⟨hsettled, heq⟩ | ⟨d, -, -, heq⟩
  · rwa [heq]
  · rw [heq]
    exact .inr (by simp [names])

theorem Invariant.take (h : Invariant table done c) (name : String) :
    Invariant table done (take table c name) := by
  rcases take_cases table c name with ⟨-, heq⟩ | ⟨d, hnew, hd, heq⟩
  · rwa [heq]
  · rw [heq]
    refine ⟨?_, ?_, ?_⟩
    · rw [names, List.map_append]
      refine List.nodup_append.mpr ⟨h.nodup, by simp, ?_⟩
      intro n hn n' hn' he
      have hn' : n' = name := by simpa using hn'
      exact hnew (hn' ▸ he ▸ hn)
    · intro e he
      rcases List.mem_append.mp he with he | he
      · exact h.named e he
      · rw [List.mem_singleton.mp he]
        exact hd
    · rw [List.map_append, h.split]
      simp

theorem mem_pending_take {d : Dto} (h : d ∈ (Closure.take table c name).pending) :
    d ∈ c.pending ∨ table.lookup name = some d := by
  rcases take_cases table c name with ⟨-, heq⟩ | ⟨d', -, hd, heq⟩
  · exact .inl (heq ▸ h)
  · rw [heq] at h
    rcases List.mem_append.mp h with h | h
    · exact .inl h
    · exact .inr (List.mem_singleton.mp h ▸ hd)

/-! ### Admitting several names -/

theorem prefix_foldl_take (ns : List String) (c : Closure) :
    c.admitted <+: (ns.foldl (Closure.take table) c).admitted := by
  induction ns generalizing c with
  | nil => exact List.prefix_rfl
  | cons n ns ih => exact (prefix_take table c n).trans (ih _)

theorem settled_foldl_take (ns : List String) (c : Closure) :
    ∀ n ∈ ns, Settled table (ns.foldl (Closure.take table) c) n := by
  induction ns generalizing c with
  | nil => simp
  | cons n ns ih =>
    intro m hm
    rcases List.mem_cons.mp hm with rfl | hm
    · exact (settled_take table c m).mono (prefix_foldl_take ns _)
    · exact ih _ m hm

theorem Invariant.foldl_take (ns : List String) (h : Invariant table done c) :
    Invariant table done (ns.foldl (Closure.take table) c) := by
  induction ns generalizing c with
  | nil => exact h
  | cons n ns ih => exact ih (h.take n)

theorem mem_pending_foldl_take {d : Dto} {ns : List String}
    (h : d ∈ (ns.foldl (Closure.take table) c).pending) :
    d ∈ c.pending ∨ ∃ n ∈ ns, table.lookup n = some d := by
  induction ns generalizing c with
  | nil => exact .inl h
  | cons n ns ih =>
    rcases ih h with h | ⟨m, hm, hd⟩
    · exact (mem_pending_take h).imp id fun hd => ⟨n, by simp, hd⟩
    · exact .inr ⟨m, by simp [hm], hd⟩

/-! ### The search -/

theorem run_succ_cons {d : Dto} {rest : List Dto} (fuel : Nat) (h : c.pending = d :: rest) :
    run table (fuel + 1) c =
      run table fuel ((fieldNames d).foldl (Closure.take table) { c with pending := rest }) := by
  rw [run, h]
  rfl

theorem run_of_pending_eq_nil (fuel : Nat) (h : c.pending = []) : run table fuel c = c := by
  cases fuel with
  | zero => rfl
  | succ fuel => rw [run, h]

theorem run_add (a b : Nat) (c : Closure) : run table (a + b) c = run table b (run table a c) := by
  induction a generalizing c with
  | zero => rw [Nat.zero_add, run]
  | succ a ih =>
    cases hp : c.pending with
    | nil => simp only [run_of_pending_eq_nil _ hp]
    | cons d rest => rw [Nat.succ_add, run_succ_cons _ hp, run_succ_cons _ hp, ih]

theorem prefix_run (fuel : Nat) (c : Closure) : c.admitted <+: (run table fuel c).admitted := by
  induction fuel generalizing c with
  | zero => exact List.prefix_rfl
  | succ fuel ih =>
    cases hp : c.pending with
    | nil => simp [run_of_pending_eq_nil _ hp]
    | cons d rest =>
      rw [run_succ_cons _ hp]
      exact (prefix_foldl_take (fieldNames d) { c with pending := rest }).trans (ih _)

/-- With fuel for all that can be admitted, the search looks into everything that it admits. -/
theorem Invariant.run (h : Invariant table done c) (fuel : Nat)
    (hdone : ∀ d ∈ done, ∀ n ∈ fieldNames d, Settled table c n)
    (hfuel : table.length ≤ fuel + done.length) :
    ∃ done', Invariant table done' (run table fuel c) ∧ (run table fuel c).pending = [] ∧
      ∀ d ∈ done', ∀ n ∈ fieldNames d, Settled table (run table fuel c) n := by
  induction fuel generalizing c done with
  | zero =>
    have hlength := h.length_le
    have hp : c.pending = [] := List.length_eq_zero_iff.mp (by omega)
    exact ⟨done, h, hp, hdone⟩
  | succ fuel ih =>
    cases hp : c.pending with
    | nil =>
      rw [run_of_pending_eq_nil _ hp]
      exact ⟨done, h, hp, hdone⟩
    | cons d rest =>
      rw [run_succ_cons _ hp]
      have hopened : Invariant table (done ++ [d]) { c with pending := rest } :=
        ⟨h.nodup, h.named, by simpa [hp] using h.split⟩
      refine ih (hopened.foldl_take (fieldNames d)) ?_ ?_
      · intro d' hd' n hn
        rcases List.mem_append.mp hd' with hd' | hd'
        · exact (hdone d' hd' n hn).mono
            (prefix_foldl_take (fieldNames d) { c with pending := rest })
        · rw [List.mem_singleton.mp hd'] at hn
          exact settled_foldl_take _ _ n hn
      · rw [List.length_append, List.length_singleton]
        omega

/-! ### Searches over two tables -/

theorem foldl_take_congr {table' : List (String × Dto)} {ns : List String} (c : Closure)
    (h : ∀ n ∈ ns, table.lookup n = table'.lookup n) :
    ns.foldl (Closure.take table) c = ns.foldl (Closure.take table') c := by
  induction ns generalizing c with
  | nil => rfl
  | cons n ns ih =>
    have htake : Closure.take table c n = Closure.take table' c n := by
      rw [Closure.take, Closure.take, h n (by simp)]
    rw [List.foldl_cons, List.foldl_cons, htake, ih _ fun m hm => h m (by simp [hm])]

/-- Tables that agree on the names which a search meets lead it the same way. -/
theorem run_congr {table' : List (String × Dto)} (fuel : Nat)
    (hclosed : ∀ n d, table.lookup n = table'.lookup n → table.lookup n = some d →
      ∀ m ∈ fieldNames d, table.lookup m = table'.lookup m)
    (hpending : ∀ d ∈ c.pending, ∀ n ∈ fieldNames d, table.lookup n = table'.lookup n) :
    run table fuel c = run table' fuel c := by
  induction fuel generalizing c with
  | zero => rfl
  | succ fuel ih =>
    cases hp : c.pending with
    | nil => rw [run_of_pending_eq_nil _ hp, run_of_pending_eq_nil _ hp]
    | cons d rest =>
      have hfields := hpending d (by simp [hp])
      rw [run_succ_cons _ hp, run_succ_cons _ hp, ← foldl_take_congr _ hfields]
      refine ih fun d' hd' => ?_
      rcases mem_pending_foldl_take hd' with hd' | ⟨n, hn, hd'⟩
      · exact hpending d' (by simp [hp, show d' ∈ rest from hd'])
      · exact hclosed n d' (hfields n hn) hd'

end Closure

/-! ### The closure of endpoints -/

variable {endpoints : List Endpoint} {dtos : List Dto}

def closure (endpoints : List Endpoint) (dtos : List Dto) : Closure :=
  Closure.run (byName dtos) dtos.length
    ((seedNames endpoints).foldl (Closure.take (byName dtos)) {})

theorem requiredDtos_eq (endpoints : List Endpoint) (dtos : List Dto) :
    requiredDtos endpoints dtos = (closure endpoints dtos).admitted.map (·.2) := rfl

theorem invariant_empty (dtos : List Dto) : Closure.Invariant (byName dtos) [] {} :=
  ⟨by simp [Closure.names], by simp, rfl⟩

theorem closure_spec (endpoints : List Endpoint) (dtos : List Dto) :
    Closure.Invariant (byName dtos) (requiredDtos endpoints dtos) (closure endpoints dtos) ∧
      (closure endpoints dtos).pending = [] ∧
      ∀ d ∈ requiredDtos endpoints dtos, ∀ n ∈ fieldNames d,
        Closure.Settled (byName dtos) (closure endpoints dtos) n := by
  obtain ⟨done, hinv, hpending, hdone⟩ :=
    ((invariant_empty dtos).foldl_take (seedNames endpoints)).run dtos.length (by simp)
      (by simp [byName])
  have hall : requiredDtos endpoints dtos = done := by
    have hsplit := hinv.split
    rw [hpending, List.append_nil] at hsplit
    exact hsplit
  rw [hall]
  exact ⟨hinv, hpending, hdone⟩

theorem settled_of_mem_seedNames {n : String} (h : n ∈ seedNames endpoints) :
    Closure.Settled (byName dtos) (closure endpoints dtos) n :=
  (Closure.settled_foldl_take _ _ n h).mono (Closure.prefix_run _ _)

theorem settled_of_mem_fieldNames {d : Dto} {n : String} (hd : d ∈ requiredDtos endpoints dtos)
    (hn : n ∈ fieldNames d) : Closure.Settled (byName dtos) (closure endpoints dtos) n :=
  (closure_spec endpoints dtos).2.2 d hd n hn

/-- What is admitted is admitted under its own simple name, and is what that name means. -/
theorem simpleName_of_mem_admitted {e : String × Dto} (h : e ∈ (closure endpoints dtos).admitted) :
    simpleName e.2.name = e.1 ∧ (byName dtos).lookup e.1 = some e.2 := by
  have hd := (closure_spec endpoints dtos).1.named e h
  exact ⟨(mem_of_lookup_byName hd).2, hd⟩

theorem lookup_simpleName {d : Dto} (h : d ∈ requiredDtos endpoints dtos) :
    (byName dtos).lookup (simpleName d.name) = some d := by
  obtain ⟨e, he, rfl⟩ := List.mem_map.mp h
  obtain ⟨hname, hd⟩ := simpleName_of_mem_admitted he
  rwa [hname]

theorem subset_requiredDtos (endpoints : List Endpoint) (dtos : List Dto) :
    requiredDtos endpoints dtos ⊆ dtos := by
  intro d hd
  exact (mem_of_lookup_byName (lookup_simpleName hd)).1

theorem byName_requiredDtos (endpoints : List Endpoint) (dtos : List Dto) :
    byName (requiredDtos endpoints dtos) = (closure endpoints dtos).admitted :=
  calc byName (requiredDtos endpoints dtos)
      = (closure endpoints dtos).admitted.map fun e => (simpleName e.2.name, e.2) := by
        rw [requiredDtos_eq, byName, List.map_map]
        rfl
    _ = (closure endpoints dtos).admitted.map id :=
        List.map_congr_left fun e he => by rw [(simpleName_of_mem_admitted he).1, id]
    _ = (closure endpoints dtos).admitted := List.map_id _

theorem knownNames_requiredDtos (endpoints : List Endpoint) (dtos : List Dto) :
    Mapping.knownNames (requiredDtos endpoints dtos) = (closure endpoints dtos).names := by
  rw [Closure.names, ← byName_requiredDtos, byName, List.map_map]
  rfl

theorem nodup_knownNames_requiredDtos (endpoints : List Endpoint) (dtos : List Dto) :
    (Mapping.knownNames (requiredDtos endpoints dtos)).Nodup := by
  rw [knownNames_requiredDtos]
  exact (closure_spec endpoints dtos).1.nodup

theorem length_requiredDtos_le (endpoints : List Endpoint) (dtos : List Dto) :
    (requiredDtos endpoints dtos).length ≤ dtos.length := by
  have hle := (closure_spec endpoints dtos).1.length_le
  rw [byName, List.length_map] at hle
  omega

/-- A name that is settled in a closure means there what it means in the whole. -/
theorem lookup_requiredDtos_of_settled {n : String}
    (h : Closure.Settled (byName dtos) (closure endpoints dtos) n) :
    (byName dtos).lookup n = (byName (requiredDtos endpoints dtos)).lookup n := by
  obtain ⟨hinv, -, -⟩ := closure_spec endpoints dtos
  rw [byName_requiredDtos]
  cases hn : (closure endpoints dtos).admitted.lookup n with
  | none =>
    refine h.resolve_right fun hmem => ?_
    obtain ⟨e, he, rfl⟩ := List.mem_map.mp hmem
    have := List.lookup_eq_none_iff.mp hn e he
    simp at this
  | some d =>
    obtain ⟨before, after, hadmitted, -⟩ := List.lookup_eq_some_iff.mp hn
    exact hinv.named (n, d) (by simp [hadmitted])

theorem lookup_requiredDtos_of_mem_seedNames {n : String} (h : n ∈ seedNames endpoints) :
    (byName dtos).lookup n = (byName (requiredDtos endpoints dtos)).lookup n :=
  lookup_requiredDtos_of_settled (settled_of_mem_seedNames h)

/-- From a name that means the same in a closure and in the whole, only such names are met. -/
theorem lookup_requiredDtos_of_mem_fieldNames {n : String} {d : Dto}
    (hn : (byName dtos).lookup n = (byName (requiredDtos endpoints dtos)).lookup n)
    (hd : (byName dtos).lookup n = some d) :
    ∀ m ∈ fieldNames d,
      (byName dtos).lookup m = (byName (requiredDtos endpoints dtos)).lookup m := by
  intro m hm
  have hmem : d ∈ requiredDtos endpoints dtos := (mem_of_lookup_byName (hn ▸ hd)).1
  exact lookup_requiredDtos_of_settled (settled_of_mem_fieldNames hmem hm)

/-- A closure lacks no data-transfer type that its endpoints or its own fields mention. -/
theorem mem_knownNames_requiredDtos {n : String} (hn : n ∈ Mapping.knownNames dtos)
    (h : n ∈ seedNames endpoints ∨ ∃ d ∈ requiredDtos endpoints dtos, n ∈ fieldNames d) :
    n ∈ Mapping.knownNames (requiredDtos endpoints dtos) := by
  have hsettled : Closure.Settled (byName dtos) (closure endpoints dtos) n := by
    rcases h with hseed | ⟨d, hd, hfield⟩
    · exact settled_of_mem_seedNames hseed
    · exact settled_of_mem_fieldNames hd hfield
  rw [knownNames_requiredDtos]
  exact hsettled.resolve_left fun hnone => (lookup_byName_eq_none_iff dtos n).mp hnone hn

theorem requiredDtos_eq_nil (h : ∀ n ∈ seedNames endpoints, n ∉ Mapping.knownNames dtos) :
    requiredDtos endpoints dtos = [] := by
  have hinv := (invariant_empty dtos).foldl_take (seedNames endpoints)
  have hpending : ((seedNames endpoints).foldl (Closure.take (byName dtos)) {}).pending = [] := by
    refine List.eq_nil_iff_forall_not_mem.mpr fun d hd => ?_
    rcases Closure.mem_pending_foldl_take hd with hd | ⟨n, hn, hd⟩
    · simp at hd
    · obtain ⟨hmem, rfl⟩ := mem_of_lookup_byName hd
      exact h _ hn (List.mem_map_of_mem hmem)
  rw [requiredDtos_eq, closure, Closure.run_of_pending_eq_nil _ hpending, hinv.split, hpending]
  rfl

/-- What some endpoints need is the same inside what more endpoints need as in the whole. -/
theorem requiredDtos_requiredDtos {part whole : List Endpoint} (dtos : List Dto)
    (h : ∀ n ∈ seedNames part, n ∈ seedNames whole) :
    requiredDtos part (requiredDtos whole dtos) = requiredDtos part dtos := by
  have hseeds : ∀ n ∈ seedNames part,
      (byName dtos).lookup n = (byName (requiredDtos whole dtos)).lookup n :=
    fun n hn => lookup_requiredDtos_of_mem_seedNames (h n hn)
  have hrun : closure part dtos =
      Closure.run (byName (requiredDtos whole dtos)) dtos.length
        ((seedNames part).foldl (Closure.take (byName (requiredDtos whole dtos))) {}) := by
    rw [closure, ← Closure.foldl_take_congr _ hseeds]
    refine Closure.run_congr _
      (fun n d hn hd => lookup_requiredDtos_of_mem_fieldNames hn hd) fun d hd => ?_
    rcases Closure.mem_pending_foldl_take hd with hd | ⟨n, hn, hd⟩
    · simp at hd
    · exact lookup_requiredDtos_of_mem_fieldNames (hseeds n hn) hd
  -- The smaller table comes with less fuel, but nothing is pending when that is spent.
  have hfuel : closure part dtos = closure part (requiredDtos whole dtos) := by
    obtain ⟨k, hk⟩ := Nat.exists_eq_add_of_le (length_requiredDtos_le whole dtos)
    rw [hrun, hk, Closure.run_add]
    exact Closure.run_of_pending_eq_nil k (closure_spec part (requiredDtos whole dtos)).2.1
  rw [requiredDtos_eq part dtos, hfuel, requiredDtos_eq part (requiredDtos whole dtos)]

end ServiceMigration.Chunk

import ServiceMigration.Proofs.Value.Document
import ServiceMigration.Validation.Scalars
/-!
# What readers give back, and what they never do

A reader gives back what was written if the readers of its parts do.  And a reader that only looks
at fields ends in a model or in issues: an accident comes in by a preparation, and no combinator
makes one.
-/

namespace ServiceMigration.Validation

open Value

variable {α β : Type} {read : Value → Checked α}

/-! ### Reading what was written -/

theorem readItemsFrom_map {f : α → Value} {as : List α}
    (h : ∀ a ∈ as, read (f a) = .ok a) (i : Nat) :
    readItemsFrom read i (as.map f) = .ok as := by
  induction as generalizing i with
  | nil => rfl
  | cons a as ih =>
    obtain ⟨ha, has⟩ := List.forall_mem_cons.mp h
    rw [List.map_cons, readItemsFrom, ha, ih has]
    rfl

theorem readList_map {f : α → Value} {as : List α} (h : ∀ a ∈ as, read (f a) = .ok a) :
    readList read (.list (as.map f)) = .ok as := readItemsFrom_map h 0

theorem readOptional_of_ne_null {v : Value} (h : v ≠ null) :
    readOptional read v = some <$> read v := by
  unfold readOptional
  split
  · exact absurd rfl h
  · rfl

theorem readOptional_optional {f : α → Value} {o : Option α} (hnull : ∀ a, f a ≠ null)
    (h : ∀ a ∈ o, read (f a) = .ok a) : readOptional read (optional f o) = .ok o := by
  cases o with
  | none => rfl
  | some a => rw [Value.optional, readOptional_of_ne_null (hnull a), h a rfl, Checked.map_ok]

@[simp] theorem readOptional_str (o : Option String) :
    readOptional readString (optional str o) = .ok o :=
  readOptional_optional (fun _ => nofun) fun _ _ => rfl

@[simp] theorem readOptional_int (o : Option Int) :
    readOptional readInt (optional Value.int o) = .ok o :=
  readOptional_optional (fun _ => nofun) fun _ _ => rfl

@[simp] theorem readOptional_float (o : Option Double) :
    readOptional readFloat (optional Value.float o) = .ok o :=
  readOptional_optional (fun _ => nofun) fun _ _ => rfl

@[simp] theorem readOptional_bool (o : Option Bool) :
    readOptional readBool (optional Value.bool o) = .ok o :=
  readOptional_optional (fun _ => nofun) fun _ _ => rfl

theorem readStringMap_object (es : List (String × String)) :
    readStringMap (.object (es.map fun e => (e.1, str e.2))) = .ok es := by
  induction es with
  | nil => rfl
  | cons e rest ih =>
    rw [object, readStringMap, List.map_map] at ih ⊢
    rw [List.map_cons, readStringEntries, ih]
    rfl

theorem readDocumentMap_object (es : List (String × Value)) :
    readDocumentMap (.object es) = .ok es := by
  induction es with
  | nil => rfl
  | cons e es ih =>
    have hrest : readDocumentEntries (es.map fun e => (.str e.1, e.2)) = .ok es := ih
    rw [object, readDocumentMap, List.map_cons, readDocumentEntries, hrest]
    rfl

/-! ### What was read -/

theorem eq_str_of_readString {v : Value} {s : String} (h : readString v = .ok s) : v = str s := by
  unfold readString at h
  split at h
  · obtain rfl := Checked.ok.inj h
    rfl
  · exact absurd h nofun

theorem map_of_readDocumentEntries {entries : List (Scalar × Value)} {es : List (String × Value)}
    (h : readDocumentEntries entries = .ok es) : es.map (fun e => (.str e.1, e.2)) = entries := by
  induction entries generalizing es with
  | nil =>
    obtain rfl := Checked.ok.inj h
    rfl
  | cons e rest ih =>
    simp only [readDocumentEntries, Checked.seq_eq_ok, Checked.map_eq_ok,
      Checked.within_eq_ok] at h
    obtain ⟨-, fs, ⟨-, ⟨k, hkey, rfl⟩, rfl⟩, hrest, rfl⟩ := h
    have hk : e.1 = .str k := Value.scalar.inj (eq_str_of_readString hkey)
    rw [List.map_cons, ih hrest, ← hk]

theorem object_of_readDocumentMap {v : Value} {es : List (String × Value)}
    (h : readDocumentMap v = .ok es) : Value.object es = v := by
  cases v with
  | dict entries => exact congrArg Value.dict (map_of_readDocumentEntries h)
  | _ => exact absurd h nofun

/-! ### Conditions that readers ensure -/

section

variable {names : List String} {es : List (Scalar × Value)}

/-- What comes out, if anything does, is as asked. -/
def Checked.Ensures (x : Checked α) (p : α → Prop) : Prop := ∀ a, x = .ok a → p a

variable {p : α → Prop}

theorem ensures_ok {a : α} (h : p a) : (Checked.ok a).Ensures p := by
  intro b hb
  obtain rfl := Checked.ok.inj hb
  exact h

theorem Checked.Ensures.within {x : Checked α} (h : x.Ensures p) (s : Step) :
    (x.within s).Ensures p :=
  fun a ha => h a (Checked.within_eq_ok.mp ha)

theorem Checked.Ensures.map {q : β → Prop} {x : Checked α} (h : x.Ensures p) {f : α → β}
    (hf : ∀ a, p a → q (f a)) : (f <$> x).Ensures q := by
  intro b hb
  obtain ⟨a, ha, rfl⟩ := Checked.map_eq_ok.mp hb
  exact hf a (h a ha)

theorem Checked.Ensures.seq {q : β → Prop} {f : Checked (α → β)} {x : Checked α}
    (hf : f.Ensures fun g => ∀ a, p a → q (g a)) (hx : x.Ensures p) : (f <*> x).Ensures q := by
  intro b hb
  obtain ⟨g, a, hg, ha, rfl⟩ := Checked.seq_eq_ok.mp hb
  exact hf g hg a (hx a ha)

/-- A field that the condition is not about may be anything. -/
theorem Checked.Ensures.skip {q : β → Prop} {f : Checked (α → β)}
    (hf : f.Ensures fun g => ∀ a, q (g a)) (x : Checked α) : (f <*> x).Ensures q :=
  .seq (p := fun _ => True) (fun g hg a _ => hf g hg a) fun _ _ => trivial

theorem ensures_map_of_forall {q : β → Prop} {f : α → β} (x : Checked α) (h : ∀ a, q (f a)) :
    (f <$> x).Ensures q := by
  intro b hb
  obtain ⟨a, -, rfl⟩ := Checked.map_eq_ok.mp hb
  exact h a

theorem ensures_readItemsFrom {items : List Value} (h : ∀ v ∈ items, (read v).Ensures p) (i : Nat) :
    (readItemsFrom read i items).Ensures fun as => ∀ a ∈ as, p a := by
  induction items generalizing i with
  | nil => exact ensures_ok (List.forall_mem_nil p)
  | cons v rest ih =>
    obtain ⟨hv, hrest⟩ := List.forall_mem_cons.mp h
    refine .seq ((hv.within _).map ?_) (ih hrest (i + 1))
    intro a ha as has
    exact List.forall_mem_cons.mpr ⟨ha, has⟩

theorem ensures_readList {v : Value}
    (h : ∀ items, v = .list items → ∀ w ∈ items, (read w).Ensures p) :
    (readList read v).Ensures fun as => ∀ a ∈ as, p a := by
  cases v with
  | list items => exact ensures_readItemsFrom (h items rfl) 0
  | _ => exact nofun

theorem ensures_readOptional {v : Value} (h : (read v).Ensures p) :
    (readOptional read v).Ensures fun o => ∀ a ∈ o, p a := by
  unfold readOptional
  split
  · exact ensures_ok nofun
  · refine h.map fun a ha b hb => ?_
    obtain rfl := Option.mem_some.mp hb
    exact ha

/-- What is read of a required field stands under the first of its names that is there. -/
theorem exists_of_required {a : α} (h : required names read es = .ok a) :
    ∃ v, names.findSome? (fun name => entry? (.str name) es) = some v ∧ read v = .ok a := by
  unfold required at h
  split at h
  · next name v hfirst =>
    have hvalue := congrArg (Option.map Prod.snd) hfirst
    rw [firstPresent, List.map_findSome?] at hvalue
    simp only [Function.comp_def, Option.map_map, Option.map_id', Option.map_some] at hvalue
    exact ⟨v, hvalue, Checked.within_eq_ok.mp h⟩
  · exact absurd h nofun

theorem exists_of_firstPresent {name : String} {v : Value}
    (h : firstPresent names es = some (name, v)) : ∃ e ∈ es, e.2 = v := by
  obtain ⟨key, -, hkey⟩ := List.exists_of_findSome?_eq_some h
  obtain ⟨w, hw, hpair⟩ := Option.map_eq_some_iff.mp hkey
  obtain ⟨-, rfl⟩ := Prod.mk.inj hpair
  exact exists_mem_of_entry? hw

theorem ensures_required (h : ∀ e ∈ es, (read e.2).Ensures p) :
    (required names read es).Ensures p := by
  unfold required
  split
  · next name v hfirst =>
    obtain ⟨e, he, rfl⟩ := exists_of_firstPresent hfirst
    exact (h e he).within _
  · exact nofun

theorem ensures_defaulted {absent : α} (habsent : p absent) (h : ∀ e ∈ es, (read e.2).Ensures p) :
    (defaulted names absent read es).Ensures p := by
  unfold defaulted
  split
  · next name v hfirst =>
    obtain ⟨e, he, rfl⟩ := exists_of_firstPresent hfirst
    exact (h e he).within _
  · exact ensures_ok habsent

theorem ensures_readModel {model : String} {readFields : List (Scalar × Value) → Checked α}
    {v : Value} (h : ∀ es, v = .dict es → (readFields es).Ensures p) :
    (readModel model readFields v).Ensures p := by
  cases v with
  | dict es => exact h es rfl
  | _ => exact nofun

/-! A condition that the reader of the parts always ensures holds of the parts of what was read. -/

theorem of_required (hread : ∀ v a, read v = .ok a → p a) {a : α}
    (h : required names read es = .ok a) : p a :=
  ensures_required (fun e _ => hread e.2) a h

theorem forall_mem_of_defaulted_list (hread : ∀ v a, read v = .ok a → p a) {as : List α}
    (h : defaulted names [] (readList read) es = .ok as) : ∀ a ∈ as, p a :=
  ensures_defaulted (List.forall_mem_nil p)
    (fun _ _ => ensures_readList fun _ _ w _ => hread w) as h

theorem forall_mem_of_defaulted_optional (hread : ∀ v a, read v = .ok a → p a) {o : Option α}
    (h : defaulted names none (readOptional read) es = .ok o) : ∀ a ∈ o, p a :=
  ensures_defaulted (by simp) (fun e _ => ensures_readOptional (hread e.2)) o h

theorem exists_of_readModel {model : String} {readFields : List (Scalar × Value) → Checked α}
    {v : Value} {a : α}
    (h : readModel model readFields v = .ok a) : ∃ es, v = .dict es ∧ readFields es = .ok a := by
  cases v with
  | dict es => exact ⟨es, rfl, h⟩
  | _ => exact absurd h nofun

end

/-! ### Readers without accidents -/

/-- The outcome is a model or issues. -/
def Checked.IsRegular (x : Checked α) : Prop := ∀ a, x ≠ .accident a

theorem isRegular_ok (a : α) : (Checked.ok a).IsRegular := nofun

theorem isRegular_fail (kind : IssueKind) : (Checked.fail kind : Checked α).IsRegular := nofun

theorem Checked.IsRegular.map {x : Checked α} (h : x.IsRegular) (f : α → β) :
    (f <$> x).IsRegular := by
  cases x with
  | accident a => exact absurd rfl (h a)
  | _ => exact nofun

theorem Checked.IsRegular.seq {f : Checked (α → β)} {x : Checked α} (hf : f.IsRegular)
    (hx : x.IsRegular) : (f <*> x).IsRegular := by
  cases f with
  | accident a => exact absurd rfl (hf a)
  | _ =>
    cases x with
    | accident a => exact absurd rfl (hx a)
    | _ => exact nofun

theorem Checked.IsRegular.within {x : Checked α} (h : x.IsRegular) (s : Step) :
    (x.within s).IsRegular := by
  cases x with
  | accident a => exact absurd rfl (h a)
  | _ => exact nofun

theorem Checked.IsRegular.andThen {x : Checked α} (h : x.IsRegular) {f : α → Checked β}
    (hf : ∀ a, (f a).IsRegular) :
    (x.andThen f).IsRegular := by
  cases x with
  | ok a => exact hf a
  | issues => exact nofun
  | accident a => exact absurd rfl (h a)

theorem isRegular_readItemsFrom (h : ∀ v, (read v).IsRegular) (i : Nat) (items : List Value) :
    (readItemsFrom read i items).IsRegular := by
  induction items generalizing i with
  | nil => exact isRegular_ok []
  | cons v rest ih => exact (((h v).within _).map _).seq (ih (i + 1))

theorem isRegular_readList (h : ∀ v, (read v).IsRegular) (v : Value) :
    (readList read v).IsRegular := by
  cases v with
  | list items => exact isRegular_readItemsFrom h 0 items
  | _ => exact isRegular_fail _

theorem isRegular_readOptional (h : ∀ v, (read v).IsRegular) (v : Value) :
    (readOptional read v).IsRegular := by
  unfold readOptional
  split
  · exact isRegular_ok none
  · exact (h _).map _

variable {names : List String} {es : List (Scalar × Value)}

theorem isRegular_required (h : ∀ v, (read v).IsRegular) : (required names read es).IsRegular := by
  unfold required
  split
  · exact (h _).within _
  · exact (isRegular_fail _).within _

theorem isRegular_defaulted {absent : α} (h : ∀ v, (read v).IsRegular) :
    (defaulted names absent read es).IsRegular := by
  unfold defaulted
  split
  · exact (h _).within _
  · exact isRegular_ok absent

theorem isRegular_readModel {model : String} {readFields : List (Scalar × Value) → Checked α}
    (h : ∀ es, (readFields es).IsRegular) (v : Value) :
      (readModel model readFields v).IsRegular := by
  cases v with
  | dict es => exact h es
  | _ => exact isRegular_fail _

/-! ### Readers of scalars -/

theorem isRegular_readString (v : Value) : (readString v).IsRegular := by
  unfold readString
  split
  · exact isRegular_ok _
  · exact isRegular_fail _

theorem isRegular_readBool (v : Value) : (readBool v).IsRegular := by
  unfold readBool
  repeat' split
  all_goals exact nofun

theorem isRegular_intOfDouble (d : Double) : (intOfDouble d).IsRegular := by
  unfold intOfDouble
  repeat' split
  all_goals exact nofun

theorem isRegular_parseInt (s : String) : (parseInt s).IsRegular := by
  unfold parseInt
  dsimp only
  split
  · exact isRegular_fail _
  · split
    · exact isRegular_fail _
    · repeat' split
      all_goals exact nofun

theorem isRegular_readInt (v : Value) : (readInt v).IsRegular := by
  unfold readInt
  split
  · exact isRegular_ok _
  · exact isRegular_ok _
  · exact isRegular_intOfDouble _
  · exact isRegular_parseInt _
  · exact isRegular_fail _

theorem isRegular_parseFloat (s : String) : (parseFloat s).IsRegular := by
  unfold parseFloat
  split
  · exact isRegular_ok _
  · split
    · exact isRegular_ok _
    · exact isRegular_fail _

theorem isRegular_readFloat (v : Value) : (readFloat v).IsRegular := by
  unfold readFloat
  split
  · exact isRegular_ok _
  · split
    · exact isRegular_fail _
    · exact isRegular_ok _
  · exact isRegular_ok _
  · exact isRegular_parseFloat _
  · exact isRegular_fail _

theorem isRegular_readStringEntries (es : List (Scalar × Value)) :
    (readStringEntries es).IsRegular := by
  induction es with
  | nil => exact isRegular_ok []
  | cons e es ih =>
    exact (((((isRegular_readString _).within _).map _).seq
      ((isRegular_readString _).within _)).map _).seq ih

theorem isRegular_readStringMap (v : Value) : (readStringMap v).IsRegular := by
  cases v with
  | dict es => exact isRegular_readStringEntries es
  | _ => exact isRegular_fail _

theorem isRegular_readDocumentEntries (es : List (Scalar × Value)) :
    (readDocumentEntries es).IsRegular := by
  induction es with
  | nil => exact isRegular_ok []
  | cons e es ih => exact ((((isRegular_readString _).within _).map _).map _).seq ih

theorem isRegular_readDocumentMap (v : Value) : (readDocumentMap v).IsRegular := by
  cases v with
  | dict es => exact isRegular_readDocumentEntries es
  | _ => exact isRegular_fail _

/-! ### The issues of an outcome -/

namespace Checked

/-- All issues, in their order. -/
def issueList : Checked α → List Issue
  | .ok _ => []
  | .issues i is => i :: is
  | .accident _ => []

@[simp] theorem issueList_map (f : α → β) (x : Checked α) : (f <$> x).issueList = x.issueList := by
  cases x <;> rfl

@[simp] theorem issueList_within (s : Step) (x : Checked α) :
    (x.within s).issueList = x.issueList.map (·.within s) := by
  cases x <;> rfl

/-- The issues of both sides are kept, in order. -/
theorem issueList_seq {f : Checked (α → β)} {x : Checked α} (hf : f.IsRegular) (hx : x.IsRegular) :
    (f <*> x).issueList = f.issueList ++ x.issueList := by
  cases f with
  | accident a => exact absurd rfl (hf a)
  | ok g =>
    cases x with
    | accident a => exact absurd rfl (hx a)
    | _ => rfl
  | issues i is =>
    cases x with
    | accident a => exact absurd rfl (hx a)
    | ok a => exact (List.append_nil (i :: is)).symm
    | issues j js => rfl

end Checked

/-- The issue of a value that should be a text and is not. -/
def textIssues (path : List Step) : Value → List Issue
  | .scalar (.str _) => []
  | _ => [⟨path, .notString⟩]

@[simp] theorem textIssues_str (path : List Step) (s : String) : textIssues path (str s) = [] := rfl

theorem issueList_readString (v : Value) : (readString v).issueList = textIssues [] v := by
  cases v with
  | scalar s => cases s <;> rfl
  | list | dict => rfl

@[simp] theorem map_within_textIssues (s : Step) (path : List Step) (v : Value) :
    (textIssues path v).map (·.within s) = textIssues (s :: path) v := by
  unfold textIssues
  split <;> rfl

theorem issueList_readStringMap_object (es : List (String × Value)) :
    (readStringMap (.object es)).issueList = es.flatMap fun e => textIssues [.key e.1] e.2 := by
  induction es with
  | nil => rfl
  | cons e rest ih =>
    have hname := ((isRegular_readString (str e.1)).within (.key e.1)).map (Prod.mk (β := String))
    have htext := (isRegular_readString e.2).within (.key e.1)
    have hstep : readStringMap (.object (e :: rest)) =
        (List.cons <$> (Prod.mk <$> (readString (str e.1)).within (.key e.1) <*>
          (readString e.2).within (.key e.1))) <*> readStringMap (.object rest) := rfl
    rw [hstep, Checked.issueList_seq ((hname.seq htext).map _) (isRegular_readStringMap _), ih,
      Checked.issueList_map, Checked.issueList_seq hname htext]
    simp [issueList_readString]

end ServiceMigration.Validation

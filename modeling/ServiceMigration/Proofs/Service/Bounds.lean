import Mathlib.Tactic.NormNum
import ServiceMigration.Proofs.Number.Extended
import ServiceMigration.Service.Constraints
/-!
# Bounds of a field

Of the bounds that a field declares on one side the first counts, an exclusive one before an
inclusive one and both before the whole-number bound.  It is written with a whole number where it
can be, and that changes nothing: a bound admits the same numbers in either form.  So a declaration
never refuses a number that satisfies all of its bounds (`Constraints.arguments_admit_declared`).
-/

namespace ServiceMigration

variable {c : Constraints} {b : Bound} {x : Extended}

/-! ### What a bound admits -/

def Amount.extended? : Amount → Option Extended
  | .whole i => some (.ofRat i)
  | .real d => d.extended?

def Relation.Holds : Relation → Extended → Extended → Prop
  | .gt, x, y => y < x
  | .ge, x, y => y ≤ x
  | .lt, x, y => x < y
  | .le, x, y => x ≤ y

/-- The number stands in the relation of the bound to its amount.  An amount that is no number
admits none. -/
def Bound.Admits (b : Bound) (x : Extended) : Prop :=
  ∃ y, b.amount.extended? = some y ∧ b.relation.Holds x y

/-- The bound with a whole number in the place of a double that is one. -/
def Bound.plain (b : Bound) : Bound :=
  match b.amount with
  | .whole _ => b
  | .real d => { b with amount := .ofDouble d }

theorem Amount.extended?_ofDouble (d : Double) : (ofDouble d).extended? = d.extended? := by
  unfold ofDouble
  cases h : d.toInt? with
  | some i => exact (Double.extended?_of_toInt? h).symm
  | none => rfl

theorem Bound.plain_admits_iff : b.plain.Admits x ↔ b.Admits x := by
  obtain ⟨relation, amount⟩ := b
  cases amount with
  | whole i => exact Iff.rfl
  | real d =>
    have hamount : (plain ⟨relation, .real d⟩).amount.extended? = d.extended? :=
      Amount.extended?_ofDouble d
    rw [Admits, hamount]
    rfl

/-! ### Arguments of a declaration -/

/-- The number that a document holds. -/
def Value.extended? : Value → Option Extended
  | .scalar (.int i) => some (.ofRat i)
  | .scalar (.float d) => d.extended?
  | _ => none

/-- An argument whose keyword is a relation admits the numbers that stand in this relation to its
value; every other argument admits all. -/
def ArgumentAdmits (argument : String × Value) (x : Extended) : Prop :=
  ∀ r : Relation, argument.1 = r.keyword → ∃ y, argument.2.extended? = some y ∧ r.Holds x y

/-- The keyword of the argument is one of the relations. -/
def isArgumentOf (relations : List Relation) (argument : String × Value) : Bool :=
  relations.any fun r => r.keyword == argument.1

theorem Relation.keyword_injective : Function.Injective Relation.keyword := by
  intro r s h
  cases r <;> cases s <;> simp_all [Relation.keyword]

theorem Amount.extended?_toValue (a : Amount) : a.toValue.extended? = a.extended? := by
  cases a <;> rfl

theorem argumentAdmits_boundArgument_iff : ArgumentAdmits (Constraints.boundArgument b) x ↔
    b.Admits x := by
  rw [ArgumentAdmits, Constraints.boundArgument, Amount.extended?_toValue]
  constructor
  · intro h
    exact h b.relation rfl
  · intro h r hr
    rwa [← Relation.keyword_injective hr]

theorem isArgumentOf_boundArgument (relations : List Relation) (b : Bound) :
    isArgumentOf relations (Constraints.boundArgument b) = decide (b.relation ∈ relations) := by
  rw [isArgumentOf, Constraints.boundArgument, Bool.eq_iff_iff, List.any_eq_true,
    decide_eq_true_iff]
  constructor
  · rintro ⟨r, hr, hkeyword⟩
    rwa [← Relation.keyword_injective (eq_of_beq hkeyword)]
  · intro h
    exact ⟨b.relation, h, beq_self_eq_true _⟩

namespace Constraints

/-! ### One side -/

/-- The bounds of one side, the one that counts first. -/
def sideBounds (exclusive inclusive : Relation) (strict weak : Option Double) (whole : Option Int) :
    List Bound :=
  (strict.map fun d => Bound.mk exclusive (.real d)).toList ++
    (weak.map fun d => Bound.mk inclusive (.real d)).toList ++
    (whole.map fun i => Bound.mk inclusive (.whole i)).toList

def declaredLower (c : Constraints) : List Bound := sideBounds .gt .ge c.gt c.ge c.min

def declaredUpper (c : Constraints) : List Bound := sideBounds .lt .le c.lt c.le c.max

theorem lower_eq (c : Constraints) : c.lower = c.declaredLower.head?.map Bound.plain := by
  rw [lower, declaredLower, sideBounds]
  cases c.gt <;> cases c.ge <;> cases c.min <;> rfl

theorem upper_eq (c : Constraints) : c.upper = c.declaredUpper.head?.map Bound.plain := by
  rw [upper, declaredUpper, sideBounds]
  cases c.lt <;> cases c.le <;> cases c.max <;> rfl

/-- The bound of a side that counts is of one of the two relations of the side. -/
theorem forall_mem_plain_head (p : Relation → Prop) {exclusive inclusive : Relation}
    (hexclusive : p exclusive)
    (hinclusive : p inclusive) (strict weak : Option Double) (whole : Option Int) :
    ∀ b ∈ (sideBounds exclusive inclusive strict weak whole).head?.map Bound.plain,
      p b.relation := by
  intro b hb
  obtain ⟨d, hd, rfl⟩ := Option.map_eq_some_iff.mp hb
  have hmem := List.mem_of_mem_head? hd
  simp only [sideBounds, List.mem_append, Option.mem_toList, Option.map_eq_some_iff] at hmem
  obtain (⟨x, -, rfl⟩ | ⟨x, -, rfl⟩) | ⟨i, -, rfl⟩ := hmem
  · exact hexclusive
  · exact hinclusive
  · exact hinclusive

/-- Of the bounds of one side the first is written, in plain form, and no other argument is of this
side. -/
def WritesFirst (arguments : List (String × Value)) (relations : List Relation)
    (bounds : List Bound) : Prop :=
  arguments.filter (isArgumentOf relations) =
    (bounds.head?.map fun b => boundArgument b.plain).toList

section WritesFirst

variable {arguments : List (String × Value)} {argument : String × Value} {relations : List Relation}
  {bounds : List Bound}

theorem WritesFirst.length_le_one (h : WritesFirst arguments relations bounds) :
    (arguments.filter (isArgumentOf relations)).length ≤ 1 := by
  rw [h]
  cases bounds.head? <;> simp

theorem WritesFirst.admits (h : WritesFirst arguments relations bounds)
    (hbounds : ∀ b ∈ bounds, b.Admits x)
    (hmem : argument ∈ arguments.filter (isArgumentOf relations)) : ArgumentAdmits argument x := by
  rw [h, Option.mem_toList] at hmem
  obtain ⟨b, hb, rfl⟩ := Option.map_eq_some_iff.mp hmem
  rw [argumentAdmits_boundArgument_iff, Bound.plain_admits_iff]
  exact hbounds b (List.mem_of_mem_head? hb)

/-- A bound that is the only one of its side is written, and what is written admits the same
numbers. -/
theorem WritesFirst.exists_of_single (h : WritesFirst arguments relations bounds)
    (hbounds : bounds = [b]) :
    ∃ argument, arguments.filter (isArgumentOf relations) = [argument] ∧
      ∀ x, ArgumentAdmits argument x ↔ b.Admits x := by
  refine ⟨boundArgument b.plain, by rw [h, hbounds]; rfl, ?_⟩
  intro x
  rw [argumentAdmits_boundArgument_iff, Bound.plain_admits_iff]

end WritesFirst

/-! ### The declaration -/

/-- An argument with another name than the relations belongs to no side. -/
theorem filter_named {name : String} (hname : name ∉ ["gt", "ge", "lt", "le"])
    (relations : List Relation) (o : Option α) (f : α → Value) :
      (o.map fun a => (name, f a)).toList.filter (isArgumentOf relations) = [] := by
  have hkeyword : ∀ r : Relation, r.keyword ≠ name := by
    rintro r rfl
    cases r <;> exact hname (by decide)
  cases o with
  | none => rfl
  | some a => simp [isArgumentOf, hkeyword]

theorem filter_boundArgument {relations : List Relation} {o : Option Bound}
    (h : ∀ b ∈ o, b.relation ∈ relations) :
    (o.map boundArgument).toList.filter (isArgumentOf relations) =
      (o.map boundArgument).toList := by
  cases o with
  | none => rfl
  | some b => simp [isArgumentOf_boundArgument, h b rfl]

theorem filter_boundArgument_other {relations : List Relation} {o : Option Bound}
    (h : ∀ b ∈ o, b.relation ∉ relations) :
      (o.map boundArgument).toList.filter (isArgumentOf relations) = [] := by
  cases o with
  | none => rfl
  | some b => simp [isArgumentOf_boundArgument, h b rfl]

theorem filter_arguments (c : Constraints) (relations : List Relation) :
    c.arguments.filter (isArgumentOf relations) =
      (c.lower.map boundArgument).toList.filter (isArgumentOf relations) ++
        (c.upper.map boundArgument).toList.filter (isArgumentOf relations) := by
  rw [arguments]
  simp only [List.filter_append]
  rw [filter_named (by decide), filter_named (by decide), filter_named (by decide)]
  simp

theorem writesFirst_lower (c : Constraints) :
    WritesFirst c.arguments [.gt, .ge] c.declaredLower := by
  have hlower : ∀ b ∈ c.lower, b.relation ∈ [Relation.gt, .ge] := by
    rw [lower_eq]
    exact forall_mem_plain_head (· ∈ [Relation.gt, .ge]) (by decide) (by decide) _ _ _
  have hupper : ∀ b ∈ c.upper, b.relation ∉ [Relation.gt, .ge] := by
    rw [upper_eq]
    exact forall_mem_plain_head (· ∉ [Relation.gt, .ge]) (by decide) (by decide) _ _ _
  rw [WritesFirst, filter_arguments, filter_boundArgument hlower, filter_boundArgument_other hupper,
    List.append_nil, lower_eq, Option.map_map]
  rfl

theorem writesFirst_upper (c : Constraints) :
    WritesFirst c.arguments [.lt, .le] c.declaredUpper := by
  have hlower : ∀ b ∈ c.lower, b.relation ∉ [Relation.lt, .le] := by
    rw [lower_eq]
    exact forall_mem_plain_head (· ∉ [Relation.lt, .le]) (by decide) (by decide) _ _ _
  have hupper : ∀ b ∈ c.upper, b.relation ∈ [Relation.lt, .le] := by
    rw [upper_eq]
    exact forall_mem_plain_head (· ∈ [Relation.lt, .le]) (by decide) (by decide) _ _ _
  rw [WritesFirst, filter_arguments, filter_boundArgument_other hlower, filter_boundArgument hupper,
    List.nil_append, upper_eq, Option.map_map]
  rfl

/-- A number that satisfies all declared bounds is admitted by all arguments of the declaration;
these hold at most one bound of each side; and a bound that is the only one of its side is there in
a form that admits the same numbers. -/
theorem arguments_admit_declared (c : Constraints) :
    (∀ x, (∀ b ∈ c.declaredLower ++ c.declaredUpper, b.Admits x) →
      ∀ argument ∈ c.arguments, ArgumentAdmits argument x) ∧
    (c.arguments.filter (isArgumentOf [.gt, .ge])).length ≤ 1 ∧
    (c.arguments.filter (isArgumentOf [.lt, .le])).length ≤ 1 ∧
    (∀ b, c.declaredLower = [b] →
      ∃ argument, c.arguments.filter (isArgumentOf [.gt, .ge]) = [argument] ∧
      ∀ x, ArgumentAdmits argument x ↔ b.Admits x) ∧
    ∀ b, c.declaredUpper = [b] → ∃ argument,
      c.arguments.filter (isArgumentOf [.lt, .le]) = [argument] ∧
      ∀ x, ArgumentAdmits argument x ↔ b.Admits x := by
  refine ⟨?_, (writesFirst_lower c).length_le_one, (writesFirst_upper c).length_le_one,
    fun b => (writesFirst_lower c).exists_of_single, fun b =>
      (writesFirst_upper c).exists_of_single⟩
  intro x hx argument hargument r hr
  obtain ⟨hlower, hupper⟩ := List.forall_mem_append.mp hx
  have hside : ∀ relations, r ∈ relations →
      argument ∈ c.arguments.filter (isArgumentOf relations) := by
    intro relations hmem
    rw [List.mem_filter, isArgumentOf, List.any_eq_true]
    exact ⟨hargument, r, hmem, beq_iff_eq.mpr hr.symm⟩
  cases r with
  | gt | ge => exact (writesFirst_lower c).admits hlower (hside _ (by decide)) _ hr
  | lt | le => exact (writesFirst_upper c).admits hupper (hside _ (by decide)) _ hr

/-- Above a double of twenty-two digits, below the end of the line and at most another such
number. -/
def largeBounds : Constraints where
  gt := some (.finite false (2 ^ 52) 18 (by decide))
  lt := some (.infinite false)
  max := some (2 ^ 71)

theorem arguments_admit_declared_largeBounds :
    (∀ b ∈ largeBounds.declaredLower ++ largeBounds.declaredUpper, b.Admits (.ofRat (2 ^ 70 + 1))) ∧
    (∀ argument ∈ largeBounds.arguments, ArgumentAdmits argument (.ofRat (2 ^ 70 + 1))) ∧
    ∃ b, largeBounds.declaredLower = [b] ∧ ∃ argument,
      largeBounds.arguments.filter (isArgumentOf [.gt, .ge]) =
      [argument] ∧ ∀ x, ArgumentAdmits argument x ↔ b.Admits x := by
  obtain ⟨hall, -, -, hlower, -⟩ := arguments_admit_declared largeBounds
  have hdeclared : ∀ b ∈ largeBounds.declaredLower ++ largeBounds.declaredUpper,
      b.Admits (.ofRat (2 ^ 70 + 1)) := by
    simp only [declaredLower, declaredUpper, sideBounds, largeBounds, List.forall_mem_append,
      Option.map_some, Option.map_none, Option.toList_some, Option.toList_none, List.append_nil,
        List.forall_mem_singleton]
    refine ⟨⟨_, rfl, ?_⟩, ⟨_, rfl, ?_⟩, ⟨_, rfl, ?_⟩⟩
    · exact Extended.ofRat_lt_ofRat.mpr (by norm_num [Double.signedValue])
    · exact WithBot.coe_lt_coe.mpr (WithTop.coe_lt_top _)
    · exact Extended.ofRat_le_ofRat.mpr (by norm_num)
  exact ⟨hdeclared, hall _ hdeclared, _, rfl, hlower _ rfl⟩

end Constraints

end ServiceMigration

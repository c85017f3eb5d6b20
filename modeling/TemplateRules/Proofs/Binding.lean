import Mathlib.Data.List.Forall2
import TemplateRules.Proofs.Outcome
import TemplateRules.Rule.Binding

/-!
# What binding says about a value

A value that is bound without problems is one of which every field is. What is said here about fields and
lists lets later arguments speak of the entries of a value and never of the order in which binding looks at
them.

## Main results

* `Bound.items_eq_ok`: a list is bound item by item
* `FieldKey.optional_eq_ok`: where the value of a field comes from
-/

namespace TemplateRules

namespace Bound

variable {α β : Type}

theorem refuse_eq_ok {a : Bound α} {problems : List FieldProblem} {x : α} :
    a.refuse problems = .ok x ↔ a = .ok x ∧ problems = [] := by
  cases a with
  | error ps => simp [refuse]
  | ok a => cases problems <;> simp [refuse]

@[simp] theorem within_eq_ok {step : PathStep} {a : Bound α} {x : α} :
    a.within step = .ok x ↔ a = .ok x := by
  cases a <;> simp [within, Except.mapError]

@[simp] theorem misfit_ne_ok (fault : FieldFault) (x : α) : (misfit fault : Bound α) ≠ .ok x := by
  simp [misfit]

/-- A list is bound item by item. -/
theorem items_eq_ok {bind : α → Bound β} {position : Nat} {as : List α} {bs : List β} :
    items bind position as = .ok bs ↔ List.Forall₂ (fun a b => bind a = .ok b) as bs := by
  induction as generalizing position bs with
  | nil => cases bs <;> simp [items]
  | cons a as ih =>
    simp only [items, value, ap_eq_ok, within_eq_ok, ih]
    constructor
    · rintro ⟨_, rest, ⟨_, b, h, hb, rfl⟩, hrest, rfl⟩
      obtain rfl := Except.ok.inj h
      exact .cons hb hrest
    · rintro (_ | ⟨hb, hrest⟩)
      exact ⟨_, _, ⟨_, _, rfl, hb, rfl⟩, hrest, rfl⟩

end Bound

/-- Each result of binding a list comes from one of its items. -/
theorem exists_of_forall₂_of_mem {α β : Type} {R : α → β → Prop} {as : List α} {bs : List β} {b : β}
    (h : List.Forall₂ R as bs) (hb : b ∈ bs) : ∃ a ∈ as, R a b := by
  induction h with
  | nil => simp at hb
  | @cons a _ as _ hab _ ih =>
    rcases List.mem_cons.mp hb with rfl | hb
    · exact ⟨a, List.mem_cons_self, hab⟩
    · obtain ⟨a', hmem, hab'⟩ := ih hb
      exact ⟨a', List.mem_cons_of_mem _ hmem, hab'⟩

namespace FieldKey

@[simp] theorem key_plain (name : String) : (plain name).key = name := rfl

@[simp] theorem name_plain (name : String) : (plain name).name = name := rfl

variable {ρ α : Type} {f : FieldKey} {entries : List (Scalar × ρ)} {bind : ρ → Bound α}

theorem field?_of_lookupKey {v : ρ} (h : lookupKey f.key entries = some v) :
    f.field? entries = some (f.key, v) := by
  rw [field?, h]

theorem field?_plain {name : String} :
    (plain name).field? entries = (lookupKey name entries).map (name, ·) := by
  rw [field?, plain]
  cases lookupKey name entries <;> rfl

/-- An optional field is bound to the default in its absence, and to what its value is bound to. -/
theorem optional_eq_ok {default x : α} :
    f.optional entries default bind = .ok x ↔
      (f.field? entries = none ∧ x = default) ∨
        ∃ given v, f.field? entries = some (given, v) ∧ bind v = .ok x := by
  rw [optional]
  rcases f.field? entries with _ | ⟨given, v⟩
  · simp [eq_comm]
  · simp

/-- A field of one key only is bound to the default or to what is under its key. -/
theorem optional_plain_eq_ok {name : String} {default x : α} :
    (plain name).optional entries default bind = .ok x ↔ match lookupKey name entries with
      | some v => bind v = .ok x
      | none => x = default := by
  rw [optional, field?_plain]
  cases lookupKey name entries with
  | none => simp [eq_comm]
  | some v => simp

/-- A field that must be there is bound to what its value is bound to. -/
theorem required_eq_ok {x : α} : f.required entries bind = .ok x ↔
    ∃ given v, f.field? entries = some (given, v) ∧ bind v = .ok x := by
  rw [required]
  rcases f.field? entries with _ | ⟨given, v⟩ <;> simp

end FieldKey

theorem Value.entriesOf_eq_ok {model : String} {v : Value} {entries : List (Scalar × Value)} :
    v.entriesOf model = .ok entries ↔ v = .map entries := by
  cases v <;> simp [Value.entriesOf]

/-- An entry is bound with its key, and then those behind it. -/
theorem Value.entriesBy_cons_eq_ok {α : Type} {bind : Value → Bound α} {k : Scalar} {v : Value}
    {rest : List (Scalar × Value)} {bound : List (String × α)} :
    Value.entriesBy bind ((k, v) :: rest) = .ok bound ↔ ∃ name a more, bound = (name, a) :: more ∧
      Value.asText (.scalar k) = .ok name ∧ bind v = .ok a ∧ Value.entriesBy bind rest = .ok more := by
  simp only [Value.entriesBy, Bound.ap_eq_ok, Bound.value, Bound.within_eq_ok, Except.ok.injEq]
  constructor
  · rintro ⟨_, more, ⟨_, a, ⟨_, name, rfl, hname, rfl⟩, ha, rfl⟩, hmore, rfl⟩
    exact ⟨name, a, more, rfl, hname, ha, hmore⟩
  · rintro ⟨name, a, more, rfl, hname, ha, hmore⟩
    exact ⟨_, more, ⟨_, a, ⟨_, name, rfl, hname, rfl⟩, ha, rfl⟩, hmore, rfl⟩

/-- A sequence that is written as a list is bound item by item. -/
theorem sequenceOf_list {α : Type} {bind : Value → Bound α} {items : List Value} {bs : List α} :
    sequenceOf bind (.list items) = .ok bs ↔ List.Forall₂ (fun a b => bind a = .ok b) items bs :=
  Bound.items_eq_ok

end TemplateRules

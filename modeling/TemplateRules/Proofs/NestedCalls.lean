import TemplateRules.Proofs.Nesting

/-!
# The check as nested calls

The check of a document counts down what it has left of the limit, and it compares shapes down to a depth that is
fixed beforehand. Both make it end on any value. Here the check is said once more without them: it counts up, as
long as the limit allows, and it compares every part with its shape, however deep the part is. Nothing bounds it
but the number of calls that may be open one inside another, and where it would open more it has no result.

It has a result on every value, also on one that contains itself, with a number of open calls that depends on
nothing but the limit. The walk ends because it counts, and the comparison ends because the walk comes first: where
the walk succeeds, the parts that have a shape do not nest deeply. The result is that of the check that counts
down, so what is counted down and the depth never cut anything off.

## Main definitions

* `Structure.OnStack.walk`, `Structure.OnStack.mismatches`, `Structure.OnStack.check`: the recursions, whose result
  is `none` where the stack does not hold their calls
* `Structure.ComparedWithin`: a comparison goes no deeper than a depth

## Main results

* `Structure.OnStack.walk_eq`: the walk ends
* `Structure.OnStack.mismatches_eq`: a comparison ends that goes no deeper than some depth
* `Structure.comparedWithin_of_walk`: how deep the comparison of a document goes that the walk has accepted
* `Structure.OnStack.check_eq`: the check ends
-/

namespace TemplateRules.Structure

open Grammar (Under)

variable {ρ : Type}

namespace OnStack

/-! ## The walk -/

/-- A step of the walk, which has no result if it opens too many calls. -/
abbrev Walk := ExceptT ConfigurationCause Option Unit

/-- A step that ends. -/
def ended {ε α : Type} (step : Except ε α) : ExceptT ε Option α := ExceptT.mk (some step)

/-- A step that opens too many calls. -/
def overflow : Walk := ExceptT.mk none

section

variable (view : View ρ)

/-- Checks the value under a key, if there is one. -/
def checkUnder (key : String) (entries : List (Scalar × ρ)) (check : ρ → Walk) : Walk :=
  match lookupKey key entries with
  | some v => check v
  | none => pure ()

/-- Checks every item of the list under a key. -/
def checkItems (key path : String) (entries : List (Scalar × ρ)) (check : String → ρ → Walk) : Walk :=
  checkUnder key entries fun v => do
    let items ← ended (requireList view path v)
    items.zipIdx.forM fun (item, i) => check (itemPath path i) item

/-- Checks a condition set at a depth below its root. -/
def walkConditions (limit : Int) : (stack depth : Nat) → (path : String) → ρ → Walk
  | 0, _, _, _ => overflow
  | stack + 1, depth, path, v => do
    if (depth : Int) > limit then ended (.error (.tooDeep path limit))
    else
      let entries ← ended (requireMap view path v)
      ended (checkKeys .conditions path entries)
      ["allOf", "anyOf"].forM fun key =>
        checkItems view key (path ++ "." ++ key) entries (walkConditions limit stack (depth + 1))
      checkUnder "not" entries (walkConditions limit stack (depth + 1) (path ++ ".not"))

/-- Checks the conditions of a rule. -/
def walkRuleConditions (limit : Int) (stack : Nat) (path : String) (entries : List (Scalar × ρ)) : Walk :=
  checkUnder "conditions" entries (walkConditions view limit stack 0 (path ++ ".conditions"))

/-- Checks the fallback of a rule that is at a depth of its chain. -/
def walkFallback (limit : Int) (depth : Nat) (path : String) (entries : List (Scalar × ρ))
    (check : String → ρ → Walk) : Walk :=
  checkUnder "fallback" entries fun fallback =>
    if (depth : Int) ≥ limit then ended (.error (.longChain path limit)) else check (fallbackPath path) fallback

/-- Checks an insertion at a depth of its chain. -/
def walkInsertion (limit : Int) : (stack depth : Nat) → (path : String) → ρ → Walk
  | 0, _, _, _ => overflow
  | stack + 1, depth, path, v => do
    let entries ← ended (requireMap view path v)
    ended (checkKeys .insertions path entries)
    walkRuleConditions view limit stack path entries
    walkFallback limit depth path entries (walkInsertion limit stack (depth + 1))

/-- Checks a replacement at a depth of its chain. -/
def walkReplacement (limit : Int) : (stack depth : Nat) → (path : String) → ρ → Walk
  | 0, _, _, _ => overflow
  | stack + 1, depth, path, v => do
    let entries ← ended (requireMap view path v)
    ended (requireKey path "find" entries)
    ended (requireKey path "replace" entries)
    ended (checkKeys .replacements path entries)
    walkRuleConditions view limit stack path entries
    walkFallback limit depth path entries (walkReplacement limit stack (depth + 1))

/-- Checks a smart replacement. -/
def walkSmartReplacement (limit : Int) (stack : Nat) (path : String) (v : ρ) : Walk := do
  let entries ← ended (requireMap view path v)
  ended (checkKeys .smartReplacements path entries)
  ended (Structure.checkUnder "findPattern" entries fun variants => do
    let inner := path ++ ".findPattern"
    checkKeys .variants inner (← requireMap view inner variants))
  walkRuleConditions view limit stack path entries

/-- Checks a smart insertion, whose fallback is at the first depth of a chain. -/
def walkSmartInsertion (limit : Int) (stack : Nat) (path : String) (v : ρ) : Walk := do
  let entries ← ended (requireMap view path v)
  ended (checkKeys .smartInsertions path entries)
  ended (Structure.checkUnder "findInsertionPoint" entries
    (walkInsertionPoint view (path ++ ".findInsertionPoint")))
  walkRuleConditions view limit stack path entries
  checkUnder "fallback" entries (walkInsertion view limit stack 1 (fallbackPath path))

/-- Checks the keys of a document. -/
def walk (limit : Int) (stack : Nat) (root : ρ) : Walk :=
  match view.layer root with
  | .scalar .null => ended (.error .empty)
  | .map entries => do
    match entries.find? fun e => !isAmong rootKeys e.1 with
    | some (key, _) => ended (.error (.unknownRootKey key rootKeys))
    | none =>
      ended (Structure.checkUnder "metadata" entries (walkMetadata view))
      checkUnder "conditions" entries (walkConditions view limit stack 0 "conditions")
      checkItems view "insertions" "insertions" entries (walkInsertion view limit stack 0)
      checkItems view "replacements" "replacements" entries (walkReplacement view limit stack 0)
      checkItems view "smartReplacements" "smartReplacements" entries (walkSmartReplacement view limit stack)
      checkItems view "smartInsertions" "smartInsertions" entries (walkSmartInsertion view limit stack)
      ended (Structure.checkUnder "partials" entries fun v => discard (requireMap view "partials" v))
  | _ => ended (.error .rootNotMap)

/-! ## Shapes -/

/-- Where the entries of a map differ from a form. -/
def mismatchesOfForm (compare : Shape → ρ → Option (List Located)) (form : Form) (entries : List (Scalar × ρ)) :
    Option (List Located) := do
  let found ← form.properties.mapM fun (key, shape) =>
    match lookupKey key entries with
    | some part => within (.key (.text key)) <$> compare shape part
    | none => some []
  return (form.required.filter (!hasKey · entries)).map (fun key => ([], .missing key)) ++ found.flatten

/-- Where a value differs from a shape. -/
def mismatches : (stack : Nat) → Shape → ρ → Option (List Located)
  | 0, _, _ => none
  | stack + 1, shape, v =>
    match shape, view.layer v with
    | .list item, .list items => do
      let found ← items.zipIdx.mapM fun (part, i) => within (.index i) <$> mismatches stack item part
      return found.flatten
    | .form form, .map entries => mismatchesOfForm (mismatches stack) form entries
    | .formOrNull form, .map entries => mismatchesOfForm (mismatches stack) form entries
    | .texts, .map entries => do
      let found ← entries.mapM fun (key, part) => within (.key key) <$> mismatches stack .text part
      return found.flatten
    -- The other values have no parts that are compared.
    | shape, _ => some (Structure.mismatches view 1 shape v)

/-- Checks the structure of a document. -/
def check (limit : Int) (stack : Nat) (source : String) (root : ρ) : Option (Except Failure Unit) := do
  match ← (walk view limit stack root).run with
  | .error cause => return .error (.configuration ⟨source, cause⟩)
  | .ok () =>
    match ← mismatches view stack (.form .document) root with
    | [] => return .ok ()
    | m :: ms =>
      match bestOf m ms with
      | .error d => return .error (.defect d)
      | .ok (path, mismatch) => return .error (.configuration ⟨source, .mismatch path mismatch⟩)

end

/-! ## The walk ends -/

section

variable {α β ε : Type}

/-- Where a first step ends, and the rest does after it, both end. -/
theorem bind_eq_ended {first : ExceptT ε Option α} {step : Except ε α} {next : α → ExceptT ε Option β}
    {next' : α → Except ε β} (hfirst : first = ended step) (hnext : ∀ a, next a = ended (next' a)) :
    (first >>= next) = ended (step >>= next') := by
  subst hfirst
  cases step with
  | error e => rfl
  | ok a => exact hnext a

theorem forM_eq_ended {as : List α} {f : α → ExceptT ε Option Unit} {f' : α → Except ε Unit}
    (h : ∀ a ∈ as, f a = ended (f' a)) : as.forM f = ended (as.forM f') := by
  induction as with
  | nil => rfl
  | cons a as ih =>
    obtain ⟨ha, has⟩ := List.forall_mem_cons.mp h
    exact bind_eq_ended ha fun _ => ih has

theorem forIn_eq_forM {as : List α} {f : α → Except ε Unit} :
    (forIn as PUnit.unit fun a _ => do f a; pure (ForInStep.yield PUnit.unit)) = as.forM f := by
  induction as with
  | nil => rfl
  | cons a as ih =>
    rw [List.forIn_cons, List.forM, ← ih]
    cases f a <;> rfl

end

section

variable {view : View ρ} {limit : Int} {stack : Nat} {path : String} {entries : List (Scalar × ρ)}

theorem checkUnder_eq {key : String} {check : ρ → Walk} {check' : ρ → Structure.Walk}
    (h : ∀ v, check v = ended (check' v)) :
    checkUnder key entries check = ended (Structure.checkUnder key entries check') := by
  rw [checkUnder, Structure.checkUnder]
  cases lookupKey key entries with
  | some v => exact h v
  | none => rfl

theorem checkItems_eq {key : String} {check : String → ρ → Walk} {check' : String → ρ → Structure.Walk}
    (h : ∀ path v, check path v = ended (check' path v)) :
    checkItems view key path entries check =
      ended (Structure.checkUnder key entries (checkList view check' path)) :=
  checkUnder_eq fun _ => bind_eq_ended rfl fun _ => forM_eq_ended fun e _ => h _ e.1

/-- The calls of a condition set count up to the limit, and what is left of it counts down. Every call opens
the next one with a stack that is smaller by one and with one level less. -/
theorem walkConditions_eq {depth height : Nat} (hheight : height = (limit + 1 - depth).toNat)
    (hstack : height < stack) (path : String) (v : ρ) :
    walkConditions view limit stack depth path v = ended (Structure.walkConditions view limit height path v) := by
  induction stack generalizing depth height path v with
  | zero => omega
  | succ stack ih =>
    rw [walkConditions]
    cases height with
    | zero =>
      rw [if_pos (by omega)]
      rfl
    | succ height =>
      have hnext := @ih (depth + 1) height (by omega) (by omega)
      rw [if_neg (by omega), Structure.walkConditions]
      refine bind_eq_ended rfl fun entries => bind_eq_ended rfl fun _ => ?_
      rw [forIn_eq_forM]
      exact bind_eq_ended (forM_eq_ended fun key _ => checkItems_eq hnext) fun _ => checkUnder_eq (hnext _)

/-- The calls that are open one inside another in a condition set. -/
def conditionCalls (limit : Int) : Nat := (limit + 1).toNat + 1

theorem walkRuleConditions_eq (hstack : conditionCalls limit ≤ stack) :
    walkRuleConditions view limit stack path entries =
      ended (Structure.walkRuleConditions view limit path entries) :=
  checkUnder_eq fun v => walkConditions_eq (by omega) hstack _ v

/-- A fallback is refused at the limit and checked below it. -/
theorem walkFallback_eq {depth : Nat} {check : String → ρ → Walk} {check' : ρ → Structure.Walk}
    (hlast : limit ≤ depth → ∀ v, check' v = .error (.longChain path limit))
    (hnext : depth < limit → ∀ v, check (fallbackPath path) v = ended (check' v)) :
    walkFallback limit depth path entries check = ended (Structure.checkUnder "fallback" entries check') := by
  refine checkUnder_eq fun fallback => ?_
  by_cases hdepth : limit ≤ depth
  · rw [if_pos hdepth, hlast hdepth]
  · rw [if_neg hdepth]
    exact hnext (by omega) fallback

/-- The fallbacks of a chain count up to the limit, and what is left of it counts down. -/
theorem walkInsertion_eq {depth fallbacks : Nat} (hfallbacks : fallbacks = (limit - depth).toNat)
    (hstack : fallbacks + conditionCalls limit < stack) (path : String) (v : ρ) :
    walkInsertion view limit stack depth path v =
      ended (Structure.walkInsertion view limit fallbacks path v) := by
  induction stack generalizing depth fallbacks path v with
  | zero => omega
  | succ stack ih =>
    rw [walkInsertion, Structure.walkInsertion.eq_def]
    refine bind_eq_ended rfl fun entries => bind_eq_ended rfl fun _ =>
      bind_eq_ended (walkRuleConditions_eq (by omega)) fun _ => ?_
    refine walkFallback_eq (fun hlast fallback => ?_) fun hnext fallback => ?_
    · obtain rfl : fallbacks = 0 := by omega
      rfl
    · obtain ⟨left, rfl⟩ : ∃ left, fallbacks = left + 1 := ⟨fallbacks - 1, by omega⟩
      exact ih (by omega) (by omega) _ fallback

theorem walkReplacement_eq {depth fallbacks : Nat} (hfallbacks : fallbacks = (limit - depth).toNat)
    (hstack : fallbacks + conditionCalls limit < stack) (path : String) (v : ρ) :
    walkReplacement view limit stack depth path v =
      ended (Structure.walkReplacement view limit fallbacks path v) := by
  induction stack generalizing depth fallbacks path v with
  | zero => omega
  | succ stack ih =>
    rw [walkReplacement, Structure.walkReplacement.eq_def]
    refine bind_eq_ended rfl fun entries => bind_eq_ended rfl fun _ => bind_eq_ended rfl fun _ =>
      bind_eq_ended rfl fun _ => bind_eq_ended (walkRuleConditions_eq (by omega)) fun _ => ?_
    refine walkFallback_eq (fun hlast fallback => ?_) fun hnext fallback => ?_
    · obtain rfl : fallbacks = 0 := by omega
      rfl
    · obtain ⟨left, rfl⟩ : ∃ left, fallbacks = left + 1 := ⟨fallbacks - 1, by omega⟩
      exact ih (by omega) (by omega) _ fallback

theorem walkSmartReplacement_eq (hstack : conditionCalls limit ≤ stack) (path : String) (v : ρ) :
    walkSmartReplacement view limit stack path v = ended (Structure.walkSmartReplacement view limit path v) :=
  bind_eq_ended rfl fun _ => bind_eq_ended rfl fun _ => bind_eq_ended rfl fun _ =>
    walkRuleConditions_eq hstack

theorem walkSmartInsertion_eq (hstack : limit.toNat + conditionCalls limit < stack) (path : String) (v : ρ) :
    walkSmartInsertion view limit stack path v = ended (Structure.walkSmartInsertion view limit path v) :=
  bind_eq_ended rfl fun _ => bind_eq_ended rfl fun _ => bind_eq_ended rfl fun _ =>
    bind_eq_ended (walkRuleConditions_eq (by omega)) fun _ =>
      checkUnder_eq fun fallback => walkInsertion_eq (by omega) (by omega) _ fallback

/-- The walk ends on every value, with the result that it has where it counts down. A rule needs its fallbacks
and the conditions of the last of them, and conditions alone need less. -/
theorem walk_eq (hstack : limit.toNat + conditionCalls limit < stack) (root : ρ) :
    walk view limit stack root = ended (Structure.walk view limit root) := by
  rw [walk, Structure.walk]
  cases view.layer root with
  | scalar s => cases s <;> rfl
  | list items => rfl
  | pair a b => rfl
  | members keys => rfl
  | map entries =>
    dsimp only
    cases entries.find? fun e => !isAmong rootKeys e.1 with
    | some e => rfl
    | none =>
      have hconditions : conditionCalls limit ≤ stack := by omega
      refine bind_eq_ended rfl fun _ => bind_eq_ended (checkUnder_eq ?conditions) fun _ =>
        bind_eq_ended (checkItems_eq ?insertions) fun _ => bind_eq_ended (checkItems_eq ?replacements) fun _ =>
        bind_eq_ended (checkItems_eq ?smartReplacements) fun _ =>
        bind_eq_ended (checkItems_eq ?smartInsertions) fun _ => rfl
      case conditions => exact walkConditions_eq (by omega) hconditions _
      case insertions => exact walkInsertion_eq (by omega) hstack
      case replacements => exact walkReplacement_eq (by omega) hstack
      case smartReplacements => exact walkSmartReplacement_eq hconditions
      case smartInsertions => exact walkSmartInsertion_eq hstack

end

/-! ## The comparison ends -/

theorem mapM_eq_some {α β : Type} {as : List α} {f : α → Option β} {f' : α → β}
    (h : ∀ a ∈ as, f a = some (f' a)) : as.mapM f = some (as.map f') := by
  induction as with
  | nil => rfl
  | cons a as ih =>
    obtain ⟨ha, has⟩ := List.forall_mem_cons.mp h
    simp [List.mapM_cons, ha, ih has]

end OnStack

/-- The comparison of a value with a shape goes no deeper than a depth. -/
def ComparedWithin (view : View ρ) : (depth : Nat) → Shape → ρ → Prop
  | 0, _, _ => False
  | depth + 1, .list item, v =>
    ∀ items, view.layer v = .list items → ∀ part ∈ items, ComparedWithin view depth item part
  | depth + 1, .form form, v => ∀ entries, view.layer v = .map entries →
    ∀ p ∈ form.properties, Under p.1 entries (ComparedWithin view depth p.2)
  | depth + 1, .formOrNull form, v => ∀ entries, view.layer v = .map entries →
    ∀ p ∈ form.properties, Under p.1 entries (ComparedWithin view depth p.2)
  | depth + 1, .texts, v =>
    ∀ entries, view.layer v = .map entries → ∀ e ∈ entries, ComparedWithin view depth .text e.2
  | _ + 1, _, _ => True

namespace OnStack

variable {view : View ρ}

theorem property_eq {compare : Shape → ρ → Option (List Located)} {depth : Nat} {entries : List (Scalar × ρ)}
    {key : String} {shape : Shape} (h : ∀ part, lookupKey key entries = some part →
      compare shape part = some (Structure.mismatches view depth shape part)) :
    (match lookupKey key entries with
      | some part => within (.key (.text key)) <$> compare shape part
      | none => some []) =
    some (match lookupKey key entries with
      | some part => within (.key (.text key)) (Structure.mismatches view depth shape part)
      | none => []) := by
  cases hkey : lookupKey key entries with
  | none => rfl
  | some part => simp [h part hkey]

theorem mismatchesOfForm_eq {compare : Shape → ρ → Option (List Located)} {depth : Nat} {form : Form}
    {entries : List (Scalar × ρ)} (h : ∀ p ∈ form.properties, ∀ part, lookupKey p.1 entries = some part →
      compare p.2 part = some (Structure.mismatches view depth p.2 part)) :
    mismatchesOfForm compare form entries =
      some ((form.required.filter (!hasKey · entries)).map (fun key => ([], .missing key))
        ++ form.properties.flatMap fun (key, shape) =>
          match lookupKey key entries with
          | some part => within (.key (.text key)) (Structure.mismatches view depth shape part)
          | none => []) := by
  rw [mismatchesOfForm, mapM_eq_some fun p hp => property_eq (h p hp)]
  simp [List.flatMap]

/-- What is found in the parts of a value, each behind a step of its own, once every part has been compared. -/
theorem mismatchesOfParts_eq {α : Type} {compare : Shape → ρ → Option (List Located)} {depth : Nat}
    {shape : Shape} {parts : List α} {step : α → PathStep} {part : α → ρ} (h : ∀ e ∈ parts,
      compare shape (part e) = some (Structure.mismatches view depth shape (part e))) :
    (do
      let found ← parts.mapM fun e => within (step e) <$> compare shape (part e)
      return found.flatten) =
    some (parts.flatMap fun e => within (step e) (Structure.mismatches view depth shape (part e))) := by
  have hparts : ∀ e ∈ parts, within (step e) <$> compare shape (part e) =
      some (within (step e) (Structure.mismatches view depth shape (part e))) := fun e he => by
    rw [h e he, Option.map_eq_map, Option.map_some]
  rw [mapM_eq_some hparts]
  simp [List.flatMap]

/-- A comparison that goes no deeper than a depth ends, with the result that it has down to that depth. The
stack is at least as deep as the comparison goes, and both are one less for every part. -/
theorem mismatches_eq {stack depth : Nat} {shape : Shape} {v : ρ} (h : ComparedWithin view depth shape v)
    (hstack : depth ≤ stack) :
    mismatches view stack shape v = some (Structure.mismatches view depth shape v) := by
  induction depth generalizing stack shape v with
  | zero => exact h.elim
  | succ depth ih =>
    obtain ⟨stack, rfl⟩ : ∃ s, stack = s + 1 := ⟨stack - 1, by omega⟩
    have hnext : ∀ {shape v}, ComparedWithin view depth shape v →
        mismatches view stack shape v = some (Structure.mismatches view depth shape v) :=
      fun h => ih h (by omega)
    rw [mismatches.eq_def]
    cases shape with
    | text | textOrNumber | kind =>
      rcases hlayer : view.layer v with (_ | _ | _ | _ | _ | _ | _ | _) | _ | _ | _ | _ <;>
        simp [hlayer, Structure.mismatches]
    | list item =>
      cases hlayer : view.layer v with
      | list items =>
        simp only [Structure.mismatches, hlayer]
        exact mismatchesOfParts_eq fun e he => hnext (h items hlayer e.1 (List.fst_mem_of_mem_zipIdx he))
      | _ => simp [Structure.mismatches, hlayer]
    | form form =>
      cases hlayer : view.layer v with
      | map entries =>
        simp only [Structure.mismatches, hlayer]
        exact mismatchesOfForm_eq fun p hp part hpart => hnext (h entries hlayer p hp part hpart)
      | _ => simp [Structure.mismatches, hlayer]
    | formOrNull form =>
      rcases hlayer : view.layer v with (_ | _ | _ | _ | _ | _ | _ | _) | _ | _ | entries | _
      case map =>
        simp only [Structure.mismatches, hlayer]
        exact mismatchesOfForm_eq fun p hp part hpart => hnext (h entries hlayer p hp part hpart)
      all_goals simp [Structure.mismatches, hlayer]
    | texts =>
      cases hlayer : view.layer v with
      | map entries =>
        simp only [Structure.mismatches, hlayer]
        exact mismatchesOfParts_eq fun e he => hnext (h entries hlayer e he)
      | _ => simp [Structure.mismatches, hlayer]

end OnStack

/-! ## How deep the comparison goes -/

section

variable {view : View ρ}

theorem ComparedWithin.mono {depth depth' : Nat} {shape : Shape} {v : ρ} (h : ComparedWithin view depth shape v)
    (hle : depth ≤ depth') : ComparedWithin view depth' shape v := by
  induction depth generalizing depth' shape v with
  | zero => exact h.elim
  | succ depth ih =>
    obtain ⟨depth', rfl⟩ : ∃ d, depth' = d + 1 := ⟨depth' - 1, by omega⟩
    have hnext : ∀ {shape v}, ComparedWithin view depth shape v → ComparedWithin view depth' shape v :=
      fun h => ih h (by omega)
    cases shape with
    | text | textOrNumber | kind => trivial
    | list item => exact fun items hlist part hpart => hnext (h items hlist part hpart)
    | form form | formOrNull form =>
      exact fun entries hmap p hp part hpart => hnext (h entries hmap p hp part hpart)
    | texts => exact fun entries hmap e he => hnext (h entries hmap e he)

/-- Shapes that nothing or only texts can be below. -/
def plainShapes : List Shape := [.text, .textOrNumber, .kind, .list .text]

/-- The shapes of what is under the keys that the walk follows. -/
def nestingShapes : List Shape :=
  [.form .conditions, .list (.form .conditions), .form .insertion, .form .replacement]

theorem comparedWithin_of_plain {depth : Nat} {shape : Shape} {v : ρ} (hshape : shape ∈ plainShapes) :
    ComparedWithin view (depth + 2) shape v := by
  simp only [plainShapes, List.mem_cons, List.not_mem_nil, or_false] at hshape
  rcases hshape with rfl | rfl | rfl | rfl <;> simp [ComparedWithin]

/-- A map is compared as deep as what is under the keys that the walk follows, and as what is under the others. -/
theorem comparedWithin_of_leads {depth : Nat} {form : Form} {v : ρ}
    (hfollowed : ∀ p ∈ form.properties, p.1 ∈ followedKeys → ∀ part, Leads view v part →
      ComparedWithin view depth p.2 part)
    (hothers : ∀ p ∈ form.properties, p.1 ∉ followedKeys → ∀ part, ComparedWithin view depth p.2 part) :
    ComparedWithin view (depth + 1) (.form form) v := by
  intro entries hmap p hp part hpart
  by_cases hkey : p.1 ∈ followedKeys
  · exact hfollowed p hp hkey part (.under hmap hkey hpart)
  · exact hothers p hp hkey part

/-- What nests within a number of steps is compared no deeper than that, and plain shapes are below it. The
shapes are taken together: a list of sets leads to sets, and a rule to its fallback and its conditions. -/
theorem comparedWithin_of_nestsWithin {bound depth : Nat} {shape : Shape} {v : ρ} (hshape : shape ∈ nestingShapes)
    (h : NestsWithin view bound v) (hdepth : bound + 2 ≤ depth) : ComparedWithin view depth shape v := by
  induction bound generalizing depth shape v with
  | zero => exact h.elim
  | succ bound ih =>
    obtain ⟨depth, rfl⟩ : ∃ d, depth = d + 3 := ⟨depth - 3, by omega⟩
    have hnext : ∀ {shape part}, shape ∈ nestingShapes → Leads view v part →
        ComparedWithin view (depth + 2) shape part := fun hshape hpart => ih hshape (h _ hpart) (by omega)
    have hform : ∀ form : Form,
        (∀ p ∈ form.properties, if p.1 ∈ followedKeys then p.2 ∈ nestingShapes else p.2 ∈ plainShapes) →
        ComparedWithin view (depth + 3) (.form form) v := fun form hproperties =>
      comparedWithin_of_leads
        (fun p hp hkey _ hpart => hnext (by simpa [hkey] using hproperties p hp) hpart)
        (fun p hp hkey _ => comparedWithin_of_plain (by simpa [hkey] using hproperties p hp))
    simp only [nestingShapes, List.mem_cons, List.not_mem_nil, or_false] at hshape
    rcases hshape with rfl | rfl | rfl | rfl
    · exact hform .conditions (by decide)
    · exact fun items hlist part hpart => hnext (by decide) (.item hlist hpart)
    · exact hform .insertion (by decide)
    · exact hform .replacement (by decide)

/-- The forms of rules. -/
def ruleForms : List Form := [.insertion, .replacement, .smartReplacement, .smartInsertion]

/-- The shapes of the parts of a rule that are not followed. -/
def innerShapes : List Shape := .form .variants :: .form .insertionPoint :: plainShapes

theorem comparedWithin_of_inner {depth : Nat} {shape : Shape} {v : ρ} (hshape : shape ∈ innerShapes) :
    ComparedWithin view (depth + 4) shape v := by
  rcases List.mem_cons.mp hshape with rfl | hshape
  · simp [ComparedWithin, Form.properties, Under]
  rcases List.mem_cons.mp hshape with rfl | hshape
  · simp [ComparedWithin, Form.properties, Under]
  · exact comparedWithin_of_plain hshape

/-- A rule is compared as deep as what it leads to, or as its inner parts. -/
theorem comparedWithin_of_rule {bound depth : Nat} {form : Form} {v : ρ} (hform : form ∈ ruleForms)
    (h : NestsWithin view bound v) (hdepth : bound + 2 ≤ depth) (hinner : 5 ≤ depth) :
    ComparedWithin view depth (.form form) v := by
  obtain ⟨depth, rfl⟩ : ∃ d, depth = d + 5 := ⟨depth - 5, by omega⟩
  have hproperties : ∀ form ∈ ruleForms, ∀ p ∈ form.properties,
      if p.1 ∈ followedKeys then p.2 ∈ nestingShapes else p.2 ∈ innerShapes := by decide
  cases bound with
  | zero => exact h.elim
  | succ bound =>
    refine comparedWithin_of_leads (fun p hp hkey part hpart => ?_) (fun p hp hkey part => ?_)
    · have hshape : p.2 ∈ nestingShapes := by simpa [hkey] using hproperties form hform p hp
      exact comparedWithin_of_nestsWithin hshape (h part hpart) (by omega)
    · have hshape : p.2 ∈ innerShapes := by simpa [hkey] using hproperties form hform p hp
      exact comparedWithin_of_inner hshape

/-- Where the walk succeeds, no part of the document with a shape is deeper than the comparison goes. Two
levels of the depth are for the document and a list of rules, and the rest is for a rule. -/
theorem comparedWithin_of_walk {limit : Int} {root : ρ} (h : walk view limit root = .ok ()) :
    ComparedWithin view (shapeDepth limit) (.form .document) root := by
  obtain ⟨depth, hdepth⟩ : ∃ depth, shapeDepth limit = depth + 7 := ⟨3 * limit.toNat + 1, rfl⟩
  have hsteps : ruleSteps limit + 3 ≤ depth + 6 := by
    rw [shapeDepth] at hdepth
    rw [ruleSteps, conditionSteps]
    omega
  rw [hdepth]
  intro entries hmap
  have hrules : ∀ key ∈ ruleKeys, ∀ form ∈ ruleForms,
      Under key entries (ComparedWithin view (depth + 6) (.list (.form form))) :=
    fun key hkey form hform list hlist items hitems v hv =>
      comparedWithin_of_rule hform (nestsWithin_of_walk h (.rule hmap hkey hlist hitems hv)) (by omega)
        (by omega)
  simp only [Form.properties, List.forall_mem_cons, List.not_mem_nil, IsEmpty.forall_iff, implies_true, and_true]
  refine ⟨?metadata, ?conditions, hrules _ (by decide) _ (by decide), hrules _ (by decide) _ (by decide),
    hrules _ (by decide) _ (by decide), hrules _ (by decide) _ (by decide), ?partials⟩
  case metadata => simp [ComparedWithin, Form.properties, Under]
  case conditions =>
    exact fun v hv =>
      comparedWithin_of_nestsWithin (by decide) (nestsWithin_of_walk h (.conditions hmap hv)) (by omega)
  case partials => simp [ComparedWithin, Under]

/-- The check ends on every value, with the result that it has where it counts down and compares to a depth. -/
theorem OnStack.check_eq {limit : Int} {stack : Nat} (hstack : shapeDepth limit ≤ stack) (source : String)
    (root : ρ) : OnStack.check view limit stack source root = some (Structure.check view limit source root) := by
  have hcalls : limit.toNat + conditionCalls limit < stack := by
    rw [shapeDepth] at hstack
    rw [conditionCalls]
    omega
  rw [OnStack.check, Structure.check, OnStack.walk_eq hcalls]
  cases hwalk : Structure.walk view limit root with
  | error cause => rfl
  | ok _ =>
    have hcompared := OnStack.mismatches_eq (comparedWithin_of_walk hwalk) hstack
    simp only [ended, ExceptT.run_mk, Option.bind_eq_bind, Option.bind_some, hcompared]
    cases Structure.mismatches view (shapeDepth limit) (.form .document) root with
    | nil => rfl
    | cons m ms =>
      dsimp only
      cases bestOf m ms <;> rfl

end

end TemplateRules.Structure

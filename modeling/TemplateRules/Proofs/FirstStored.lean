import Mathlib.Data.Finset.Card
import Mathlib.Data.List.DropRight
import TemplateRules.Cache

/-!
# The first value stored is kept

Values reach a cache by being put there or by being computed for a key that has none, and a computation may call
the cache itself before it ends, or fail. Whatever the calls are, what is seen of them depends only on what has
been stored since the cache was cleared last: the first value under a key answers every call for the key, and
nothing is computed for a key that has one.

## Main definitions

* `Cache.Call`, `Cache.Event`: calls of a cache, and what is seen of them
* `Cache.observe`: what is seen of a sequence of calls, and the cache after it
* `Cache.firstStored?`, `Cache.storedKeys`: the values and keys that have been stored since the last clearing
* `Cache.Event.Fits`: an event is what has been stored before it asks for

## Main results

* `Cache.get?_holding`, `Cache.size_holding`: what a cache keeps of the values that are put there one after another
* `Cache.faithful_make`: a call keeps the cache in step with what has been seen of it
* `Cache.keeps_firstStored`: every event of a sequence of calls fits
-/

namespace TemplateRules.Cache

variable {α : Type}

/-! ## Putting values one after another -/

/-- The cache after values have been put there in order. -/
def holding (values : List (String × α)) : Cache α :=
  values.foldl (fun c e => (c.put e.1 e.2).2) empty

theorem holding_concat (values : List (String × α)) (key : String) (value : α) :
    holding (values ++ [(key, value)]) = ((holding values).put key value).2 := by
  rw [holding, List.foldl_concat]
  rfl

theorem put_fst (c : Cache α) (key : String) (value : α) : (c.put key value).1 = (c.get? key).getD value := by
  rw [put]
  cases c.get? key with
  | none => rfl
  | some kept => rfl

theorem size_put (c : Cache α) (key : String) (value : α) :
    (c.put key value).2.size = if (c.get? key).isSome then c.size else c.size + 1 := by
  rw [put]
  cases c.get? key with
  | none => rfl
  | some kept => rfl

/-- Of the values that are put under a key the first one is kept. -/
theorem get?_holding (values : List (String × α)) (key : String) :
    (holding values).get? key = values.lookup key := by
  induction values using List.reverseRecOn with
  | nil => rfl
  | append_singleton values e ih =>
    obtain ⟨stored, value⟩ := e
    rw [holding_concat, get?_put, put_fst, List.lookup_append]
    by_cases h : key = stored
    · subst h
      rw [if_pos rfl, ih]
      cases values.lookup key <;> simp
    · rw [if_neg h, ih]
      simp [List.lookup_cons, beq_false_of_ne h]

/-- As many values are kept as there are keys under which values are put. -/
theorem size_holding (values : List (String × α)) :
    (holding values).size = (values.map (·.1)).toFinset.card := by
  induction values using List.reverseRecOn with
  | nil => rfl
  | append_singleton values e ih =>
    obtain ⟨key, value⟩ := e
    have hmem : key ∈ (values.map (·.1)).toFinset ↔ (values.lookup key).isSome := by
      simp [List.lookup_isSome_iff]
    rw [holding_concat, size_put, get?_holding, ih, List.map_append, List.toFinset_append, List.map_singleton,
      List.toFinset_cons, List.toFinset_nil, Finset.union_insert, Finset.union_empty]
    by_cases h : key ∈ (values.map (·.1)).toFinset
    · rw [if_pos (hmem.mp h), Finset.insert_eq_of_mem h]
    · rw [if_neg (mt hmem.mpr h), Finset.card_insert_of_notMem h]

/-! ## Calls and what is seen of them -/

/-- A call of a cache. What `getOrCompute` computes makes calls of the same cache, and then it ends in a value
or fails. -/
inductive Call (α : Type) where
  | put (key : String) (value : α)
  | get (key : String)
  | getOrCompute (key : String) (calls : List (Call α)) (result : Option α)
  | size
  | clear

/-- What is seen of calls: what `put`, `get`, `size` and `clear` give back; that a `getOrCompute` begins, that its
computation is called, in which value the computation ends, and what the `getOrCompute` gives back. -/
inductive Event (α : Type) where
  | put (key : String) (value answer : α)
  | got (key : String) (answer : Option α)
  | asked (key : String)
  | computing (key : String)
  | computed (key : String) (value : α)
  | answered (key : String) (answer : α)
  | sized (count : Nat)
  | cleared (count : Nat)

/-- A cache, and what has been seen of the calls of it. -/
structure Observed (α : Type) where
  cache : Cache α
  history : List (Event α)

/-- What has been seen with one more event. -/
def Observed.see (o : Observed α) (e : Event α) : Observed α := { o with history := o.history ++ [e] }

/-- What has been seen of a cache that has become another one. -/
def Observed.withCache (o : Observed α) (c : Cache α) : Observed α := { o with cache := c }

instance : MonadStateOf (Cache α) (StateM (Observed α)) where
  get := fun o => (o.cache, o)
  set c := fun o => ((), o.withCache c)
  modifyGet f := fun o => ((f o.cache).1, o.withCache (f o.cache).2)

/-- Work with a cache that is observed; it may fail. -/
abbrev Session (α : Type) := OptionT (StateM (Observed α))

/-- Lets an event be seen. -/
def note (e : Event α) : Session α Unit := modifyThe (Observed α) (·.see e)

/-- A computation that makes calls and then ends in a value or fails. -/
def computation (key : String) (calls : Observed α → Observed α) (result : Option α) : Session α α := do
  note (.computing key)
  modifyThe (Observed α) calls
  let value ← OptionT.mk (pure result)
  note (.computed key value)
  return value

mutual

/-- Makes a call. It fails if it computes a value and the computation fails. -/
def Call.make : Call α → Session α Unit
  | .put key value => do
    let answer ← modifyGetThe (Cache α) (·.put key value)
    note (.put key value answer)
  | .get key => do
    let c ← getThe (Cache α)
    note (.got key (c.get? key))
  | .getOrCompute key calls result => do
    note (.asked key)
    let answer ← getOrComputeM key (computation key (makeAll calls) result)
    note (.answered key answer)
  | .size => do
    let c ← getThe (Cache α)
    note (.sized c.size)
  | .clear => do
    let count ← modifyGetThe (Cache α) clear
    note (.cleared count)

/-- Makes calls one after another, also after one that fails. -/
def makeAll : List (Call α) → Observed α → Observed α
  | [], o => o
  | call :: calls, o => makeAll calls (call.make.run o).2

end

/-- What is seen of calls that are made one after another of a cache that keeps nothing, and the cache after
them. -/
def observe (calls : List (Call α)) : Observed α := makeAll calls ⟨empty, []⟩

/-! ## What has been stored -/

/-- The value that an event brings, under its key. It is not kept if there is one already. -/
def Event.stored? : Event α → Option (String × α)
  | .put key value _ => some (key, value)
  | .computed key value => some (key, value)
  | _ => none

def Event.isCleared : Event α → Bool
  | .cleared _ => true
  | _ => false

/-- The values that have been stored since the cache was cleared last, under their keys and in order. -/
def stored (history : List (Event α)) : List (String × α) :=
  (history.rtakeWhile fun e => !e.isCleared).filterMap Event.stored?

/-- The first value that has been stored under a key since the cache was cleared last. -/
def firstStored? (history : List (Event α)) (key : String) : Option α := (stored history).lookup key

/-- The keys under which values have been stored since the cache was cleared last. -/
def storedKeys (history : List (Event α)) : Finset String := ((stored history).map (·.1)).toFinset

/-- An event fits in between what has been seen before it and after it. What is given back for a key is the first
value stored under it, and where a `getOrCompute` begins, this value is given back next; if there is none, then
the computation is called next. -/
def Event.Fits (before after : List (Event α)) : Event α → Prop
  | .put key value answer => answer = (firstStored? before key).getD value
  | .got key answer => answer = firstStored? before key
  | .asked key =>
    match firstStored? before key with
    | some kept => after.head? = some (.answered key kept)
    | none => after.head? = some (.computing key)
  | .computing key => firstStored? before key = none
  | .computed _ _ => True
  | .answered key answer => firstStored? before key = some answer
  | .sized count => count = (storedKeys before).card
  | .cleared count => count = (storedKeys before).card

section Stored

variable {e : Event α}

theorem stored_concat (history : List (Event α)) (e : Event α) :
    stored (history ++ [e]) = if e.isCleared then [] else stored history ++ e.stored?.toList := by
  rw [stored, List.rtakeWhile_concat]
  cases e.isCleared with
  | true => rfl
  | false => cases h : e.stored? <;> simp [stored, h]

/-- An event neither stores a value nor clears the cache. -/
def Event.IsQuiet (e : Event α) : Prop := e.isCleared = false ∧ e.stored? = none

theorem stored_concat_of_isQuiet (history : List (Event α)) (h : e.IsQuiet) :
    stored (history ++ [e]) = stored history := by
  simp [stored_concat, h.1, h.2]

theorem stored_concat_of_stored (history : List (Event α)) {key : String} {value : α}
    (h : e.stored? = some (key, value)) : stored (history ++ [e]) = stored history ++ [(key, value)] := by
  have hcleared : e.isCleared = false := by
    cases e with
    | cleared count => simp [Event.stored?] at h
    | _ => rfl
  simp [stored_concat, hcleared, h]

theorem firstStored?_concat_asked (history : List (Event α)) (key other : String) :
    firstStored? (history ++ [.asked key]) other = firstStored? history other := by
  rw [firstStored?, stored_concat_of_isQuiet _ ⟨rfl, rfl⟩, firstStored?]

end Stored

/-! ## What calls do -/

section Sessions

variable {β γ : Type} {o o' : Observed α} {x : Session α β} {f : β → Session α γ}

/-- A step that fails ends a session, with everything that it has done so far. -/
theorem run_bind (x : Session α β) (f : β → Session α γ) (o : Observed α) : (x >>= f).run o =
    ((x.run o).1.elim (pure none) fun b => (f b).run : StateM (Observed α) (Option γ)) (x.run o).2 := by
  rw [OptionT.run_bind]
  rfl

theorem run_bind_of_some {b : β} (h : x.run o = (some b, o')) : (x >>= f).run o = (f b).run o' := by
  rw [run_bind, h]
  rfl

theorem run_bind_of_none (h : x.run o = (none, o')) : (x >>= f).run o = (none, o') := by
  rw [run_bind, h]
  rfl

theorem run_getThe (o : Observed α) : (getThe (Cache α) : Session α (Cache α)).run o = (some o.cache, o) := rfl

theorem run_note (e : Event α) (o : Observed α) : (note e).run o = (some (), o.see e) := rfl

end Sessions

section GetOrCompute

variable {o o' : Observed α} {key : String} {compute : Session α α}

theorem run_getOrComputeM_of_kept {kept : α} (h : o.cache.get? key = some kept) :
    (getOrComputeM key compute).run o = (some kept, o) := by
  rw [getOrComputeM, run_bind_of_some (run_getThe o), h]
  rfl

theorem run_getOrComputeM_of_value {value : α} (h : o.cache.get? key = none)
    (hcompute : compute.run o = (some value, o')) : (getOrComputeM key compute).run o =
      (some (o'.cache.put key value).1, o'.withCache (o'.cache.put key value).2) := by
  rw [getOrComputeM, run_bind_of_some (run_getThe o), h]
  exact run_bind_of_some hcompute

theorem run_getOrComputeM_of_failure (h : o.cache.get? key = none) (hcompute : compute.run o = (none, o')) :
    (getOrComputeM key compute).run o = (none, o') := by
  rw [getOrComputeM, run_bind_of_some (run_getThe o), h]
  exact run_bind_of_none hcompute

variable (calls : List (Call α))

/-- What is kept is given back, and nothing is computed. -/
theorem make_getOrCompute_of_kept {kept : α} (h : o.cache.get? key = some kept) (result : Option α) :
    ((Call.getOrCompute key calls result).make.run o).2 = (o.see (.asked key)).see (.answered key kept) := by
  have hkept : (o.see (.asked key)).cache.get? key = some kept := h
  rw [Call.make, run_bind_of_some (run_note _ o), run_bind_of_some (run_getOrComputeM_of_kept hkept)]
  rfl

/-- What is seen once a computation has made its calls. -/
def Observed.inside (o : Observed α) (key : String) (calls : List (Call α)) : Observed α :=
  makeAll calls ((o.see (.asked key)).see (.computing key))

theorem make_getOrCompute_of_value (h : o.cache.get? key = none) (value : α) :
    ((Call.getOrCompute key calls (some value)).make.run o).2 =
      (((o.inside key calls).see (.computed key value)).withCache ((o.inside key calls).cache.put key value).2).see
        (.answered key ((o.inside key calls).cache.put key value).1) := by
  have hnone : (o.see (.asked key)).cache.get? key = none := h
  have hcompute : (computation key (makeAll calls) (some value)).run (o.see (.asked key)) =
    (some value, (o.inside key calls).see (.computed key value)) := rfl
  rw [Call.make, run_bind_of_some (run_note _ o),
    run_bind_of_some (run_getOrComputeM_of_value hnone hcompute)]
  rfl

theorem make_getOrCompute_of_failure (h : o.cache.get? key = none) :
    ((Call.getOrCompute key calls none).make.run o).2 = o.inside key calls := by
  have hnone : (o.see (.asked key)).cache.get? key = none := h
  have hcompute : (computation key (makeAll calls) none).run (o.see (.asked key)) =
    (none, o.inside key calls) := rfl
  rw [Call.make, run_bind_of_some (run_note _ o),
    run_bind_of_none (run_getOrComputeM_of_failure hnone hcompute)]

end GetOrCompute

section Others

variable (o : Observed α) (key : String) (value : α)

theorem make_put : ((Call.put key value).make.run o).2 =
    (o.withCache (o.cache.put key value).2).see (.put key value (o.cache.put key value).1) := rfl

theorem make_get : ((Call.get key).make.run o).2 = o.see (.got key (o.cache.get? key)) := rfl

theorem make_size : (Call.size.make.run o).2 = o.see (.sized o.cache.size) := rfl

theorem make_clear : (Call.clear.make.run o).2 = (o.withCache empty).see (.cleared o.cache.size) := rfl

end Others

/-! ## What is seen fits -/

/-- Every one of the events fits, after others that have been seen before them. The past grows along the events, so
that what one call adds can be judged on its own. -/
def Fitting (past : List (Event α)) : List (Event α) → Prop
  | [] => True
  | e :: after => e.Fits past after ∧ Fitting (past ++ [e]) after

theorem Event.Fits.append {before after : List (Event α)} {e : Event α} (h : e.Fits before after)
    (more : List (Event α)) : e.Fits before (after ++ more) := by
  cases e with
  | asked key =>
    rw [Fits] at h ⊢
    cases hfirst : firstStored? before key with
    | none =>
      simp only [hfirst] at h ⊢
      rw [List.head?_append, h, Option.some_or]
    | some kept =>
      simp only [hfirst] at h ⊢
      rw [List.head?_append, h, Option.some_or]
  | _ => exact h

/-- Events that fit still do when more is seen after them. -/
theorem Fitting.append {past events more : List (Event α)} (h : Fitting past events)
    (hmore : Fitting (past ++ events) more) : Fitting past (events ++ more) := by
  induction events generalizing past with
  | nil => simpa using hmore
  | cons e events ih =>
    refine ⟨h.1.append more, ih h.2 ?_⟩
    rwa [List.append_assoc, List.singleton_append]

theorem Fitting.fits {past before after : List (Event α)} {e : Event α}
    (h : Fitting past (before ++ e :: after)) : e.Fits (past ++ before) after := by
  induction before generalizing past with
  | nil =>
    rw [List.append_nil]
    exact h.1
  | cons first before ih =>
    rw [← List.singleton_append, ← List.append_assoc]
    exact ih h.2

/-- A cache is in step with what has been seen of it: it keeps what is left of the values that have been stored,
and everything that has been seen fits. -/
structure Faithful (o : Observed α) : Prop where
  cache : o.cache = holding (stored o.history)
  fitting : Fitting [] o.history

namespace Faithful

variable {o : Observed α}

theorem get?_eq (h : Faithful o) (key : String) : o.cache.get? key = firstStored? o.history key := by
  rw [h.cache, get?_holding, firstStored?]

theorem size_eq (h : Faithful o) : o.cache.size = (storedKeys o.history).card := by
  rw [h.cache, size_holding, storedKeys]

theorem see (h : Faithful o) {e : Event α} (hquiet : e.IsQuiet) (he : e.Fits o.history []) :
    Faithful (o.see e) where
  cache := h.cache.trans (congrArg holding (stored_concat_of_isQuiet o.history hquiet).symm)
  fitting := h.fitting.append ⟨he, trivial⟩

/-- The beginning of a `getOrCompute` fits only together with what comes next. Both events are added at once:
on its own the first one has nothing after it, and so does not fit. -/
theorem see_asked (h : Faithful o) {key : String} {next : Event α} (hquiet : next.IsQuiet)
    (hasked : (Event.asked key).Fits o.history [next]) (hnext : next.Fits (o.history ++ [.asked key]) []) :
    Faithful ((o.see (.asked key)).see next) where
  cache := by
    have hstored : stored (o.history ++ [.asked key] ++ [next]) = stored o.history := by
      rw [stored_concat_of_isQuiet _ hquiet, stored_concat_of_isQuiet _ ⟨rfl, rfl⟩]
    exact h.cache.trans (congrArg holding hstored.symm)
  fitting := by
    have hhistory : ((o.see (.asked key)).see next).history = o.history ++ [.asked key, next] :=
      List.append_assoc o.history [_] [_]
    rw [hhistory]
    exact h.fitting.append ⟨hasked, hnext, trivial⟩

theorem store (h : Faithful o) {e : Event α} {key : String} {value : α} (hstored : e.stored? = some (key, value))
    (he : e.Fits o.history []) : Faithful ((o.withCache (o.cache.put key value).2).see e) where
  cache := by
    have hholding : (o.cache.put key value).2 = holding (stored (o.history ++ [e])) := by
      rw [stored_concat_of_stored o.history hstored, holding_concat, ← h.cache]
    exact hholding
  fitting := h.fitting.append ⟨he, trivial⟩

theorem see_answered (h : Faithful o) {key : String} {kept : α} (hkept : o.cache.get? key = some kept) :
    Faithful ((o.see (.asked key)).see (.answered key kept)) := by
  have hfirst : firstStored? o.history key = some kept := by rw [← h.get?_eq, hkept]
  refine h.see_asked ⟨rfl, rfl⟩ ?_ ?_
  · rw [Event.Fits, hfirst]
    rfl
  · rw [Event.Fits, firstStored?_concat_asked, hfirst]

theorem see_computing (h : Faithful o) {key : String} (hnone : o.cache.get? key = none) :
    Faithful ((o.see (.asked key)).see (.computing key)) := by
  have hfirst : firstStored? o.history key = none := by rw [← h.get?_eq, hnone]
  refine h.see_asked ⟨rfl, rfl⟩ ?_ ?_
  · rw [Event.Fits, hfirst]
    rfl
  · rw [Event.Fits, firstStored?_concat_asked, hfirst]

theorem see_put (h : Faithful o) (key : String) (value : α) :
    Faithful ((o.withCache (o.cache.put key value).2).see (.put key value (o.cache.put key value).1)) := by
  refine h.store rfl ?_
  rw [Event.Fits, put_fst, h.get?_eq]

/-- What a computation ends in is stored, and what is then kept is given back. -/
theorem see_computed (h : Faithful o) (key : String) (value : α) :
    Faithful (((o.see (.computed key value)).withCache (o.cache.put key value).2).see
      (.answered key (o.cache.put key value).1)) := by
  have hstored := h.store (e := .computed key value) rfl trivial
  refine hstored.see ⟨rfl, rfl⟩ ?_
  rw [Event.Fits, ← hstored.get?_eq]
  exact (get?_put _ _ _ _).trans (if_pos rfl)

theorem see_cleared (h : Faithful o) : Faithful ((o.withCache empty).see (.cleared o.cache.size)) where
  cache := by
    have hnone : stored (o.history ++ [.cleared o.cache.size]) = [] := by simp [stored_concat, Event.isCleared]
    exact (congrArg holding hnone).symm
  fitting := h.fitting.append ⟨h.size_eq, trivial⟩

end Faithful

mutual

/-- A call keeps the cache in step with what has been seen of it, whatever a computation does. The calls of
the computation keep the cache in step until it ends or fails. -/
theorem faithful_make (call : Call α) {o : Observed α} (h : Faithful o) : Faithful (call.make.run o).2 := by
  cases call with
  | put key value =>
    rw [make_put]
    exact h.see_put key value
  | get key =>
    rw [make_get]
    exact h.see ⟨rfl, rfl⟩ (h.get?_eq key)
  | getOrCompute key calls result =>
    cases hkept : o.cache.get? key with
    | some kept =>
      rw [make_getOrCompute_of_kept calls hkept]
      exact h.see_answered hkept
    | none =>
      have hinside : Faithful (o.inside key calls) := faithful_makeAll calls (h.see_computing hkept)
      cases result with
      | none =>
        rw [make_getOrCompute_of_failure calls hkept]
        exact hinside
      | some value =>
        rw [make_getOrCompute_of_value calls hkept]
        exact hinside.see_computed key value
  | size =>
    rw [make_size]
    exact h.see ⟨rfl, rfl⟩ h.size_eq
  | clear =>
    rw [make_clear]
    exact h.see_cleared

theorem faithful_makeAll (calls : List (Call α)) {o : Observed α} (h : Faithful o) : Faithful (makeAll calls o) := by
  cases calls with
  | nil =>
    rw [makeAll]
    exact h
  | cons call calls =>
    rw [makeAll]
    exact faithful_makeAll calls (faithful_make call h)

end

theorem faithful_observe (calls : List (Call α)) : Faithful (observe calls) :=
  faithful_makeAll calls ⟨rfl, trivial⟩

/-- The call that is made last finds the cache as the others leave it. -/
theorem makeAll_concat (calls : List (Call α)) (call : Call α) (o : Observed α) :
    makeAll (calls ++ [call]) o = (call.make.run (makeAll calls o)).2 := by
  induction calls generalizing o with
  | nil => simp only [List.nil_append, makeAll]
  | cons first calls ih =>
    rw [List.cons_append, makeAll, makeAll, ih]

/-- **The first value stored is kept.** Whatever calls are made of a cache, one after another and inside the
computations of others, every event fits to what has been seen before: all calls for a key that has been stored
since the last clearing give back the first value stored, and nothing is computed for such a key, but for any
other key it is. Afterwards the cache keeps those first values and no others, and clearing it gives the number of
their keys and leaves none. -/
theorem keeps_firstStored (calls : List (Call α)) :
    (∀ before e after, (observe calls).history = before ++ e :: after → e.Fits before after) ∧
      (∀ key, (observe calls).cache.get? key = firstStored? (observe calls).history key) ∧
      (observe calls).cache.size = (storedKeys (observe calls).history).card ∧
      observe (calls ++ [.clear]) =
        ⟨empty, (observe calls).history ++ [.cleared (storedKeys (observe calls).history).card]⟩ := by
  have h := faithful_observe calls
  refine ⟨fun before e after heq => ?_, h.get?_eq, h.size_eq, ?_⟩
  · have hfitting := h.fitting
    rw [heq] at hfitting
    simpa using hfitting.fits
  · rw [← h.size_eq]
    exact makeAll_concat calls .clear _

/-- A computation puts a value under its own key before it ends in another one, and later a third value is put
there. -/
def selfStoring : List (Call String) :=
  [.getOrCompute "k" [.put "k" "inner"] (some "outer"), .put "k" "late", .clear, .get "k"]

/-- The value that is put inside the computation is the one that `getOrCompute` gives back. -/
theorem selfStoring_answered :
    (observe selfStoring).history =
        [.asked "k", .computing "k", .put "k" "inner" "inner", .computed "k" "outer"] ++
          .answered "k" "inner" :: [.put "k" "late" "inner", .cleared 1, .got "k" none] ∧
      firstStored? [.asked "k", .computing "k", .put "k" "inner" "inner", .computed "k" "outer"] "k" =
        some "inner" := by
  have hhistory : (observe selfStoring).history =
      [.asked "k", .computing "k", .put "k" "inner" "inner", .computed "k" "outer"] ++
        .answered "k" "inner" :: [.put "k" "late" "inner", .cleared 1, .got "k" none] := rfl
  exact ⟨hhistory, (keeps_firstStored selfStoring).1 _ _ _ hhistory⟩

end TemplateRules.Cache

import TemplateRules.Proofs.Calls

/-!
# Documents are read once

A resolver remembers every document that it has read by its name, and a text that it selects later under
the same name is not read again. What it applies at a call is therefore the first text of this name that
could be read, and this is the document of the call's own text as long as calls of one name are of one
document.

## Main definitions

* `Run.documentOf`, `Run.outcomeOf`: the document that a call obtains, and what the call comes to
* `Run.outcomeAfresh`: what it comes to if a given text is read in place of what is remembered
* `firstReadable`: the first text of a call's name that can be read
* `Call.Repeats`: a call is of the document of another one if they have one name

## Main results

* `Run.documentOf_eq_firstReadable`, `Run.outcomeOf_eq_firstReadable`: in every run, a call obtains the
  document of the first readable text of its name, and comes to what this text comes to
* `Run.documentOf_eq_own_iff`: when all calls obtain the documents of their own texts
-/

namespace TemplateRules

/-! ## What is in force -/

section Learning

variable {limit : Int}

/-- The document of a call's text, if it can be read. -/
def Call.document? (limit : Int) (c : Call) : Option RuleDocument :=
  (RuleDocument.ofText limit c.name c.rules).toOption

/-- The first text of a call's name that can be read, of the calls before it and else its own. -/
def firstReadable (limit : Int) (before : List Call) (c : Call) : String :=
  ((before.find? fun q => q.name == c.name && (q.document? limit).isSome).map Call.rules).getD c.rules

/-- Where the texts of a name have not changed, the first one is that of the call. -/
theorem firstReadable_eq_own {before : List Call} {c : Call}
    (h : ∀ q ∈ before, q.name = c.name → q.rules = c.rules) : firstReadable limit before c = c.rules := by
  rw [firstReadable]
  cases hfind : before.find? fun q => q.name == c.name && (q.document? limit).isSome with
  | none => rfl
  | some q =>
    have hsatisfies := List.find?_some hfind
    simp only [Bool.and_eq_true, beq_iff_eq] at hsatisfies
    exact h q (List.mem_of_find?_eq_some hfind) hsatisfies.1

theorem lookup_learn (documents : List (String × RuleDocument)) (q : Call) (name : String) :
    (learn limit documents q).lookup name =
      (documents.lookup name).or (if q.name == name then q.document? limit else none) := by
  rw [learn, Call.document?]
  by_cases hname : q.name = name
  · subst hname
    cases hlookup : documents.lookup q.name with
    | some d => simp [hlookup]
    | none =>
      cases RuleDocument.ofText limit q.name q.rules with
      | ok d => simp [Except.toOption]
      | error f => simp [Except.toOption, hlookup]
  · have hne : (name == q.name) = false := beq_false_of_ne (Ne.symm hname)
    split
    · simp [hname]
    · split
      · simp [List.lookup_cons, hne, hname]
      · simp [hname]

/-- What is remembered under a name is the first document of that name that could be read. -/
theorem lookup_foldl_learn (documents : List (String × RuleDocument)) (qs : List Call) (name : String) :
    (qs.foldl (learn limit) documents).lookup name =
      (documents.lookup name).or
        ((qs.find? fun q => q.name == name && (q.document? limit).isSome).bind
          (Call.document? limit)) := by
  induction qs generalizing documents with
  | nil => simp
  | cons q qs ih =>
    rw [List.foldl_cons, ih, lookup_learn, Option.or_assoc]
    congr 1
    by_cases hname : q.name = name
    · cases hread : q.document? limit <;> simp [hname, hread]
    · simp [hname]

/-- The document that is remembered at a call is that of the first readable text of its name. -/
theorem ofText_firstReadable {before : List Call} {c : Call} {d : RuleDocument}
    (h : (before.foldl (learn limit) []).lookup c.name = some d) :
    RuleDocument.ofText limit c.name (firstReadable limit before c) = .ok d := by
  rw [lookup_foldl_learn, List.lookup_nil, Option.none_or] at h
  obtain ⟨q, hfind, hq⟩ := Option.bind_eq_some_iff.mp h
  have hname : q.name = c.name := by
    have hsatisfies := List.find?_some hfind
    simp only [Bool.and_eq_true, beq_iff_eq] at hsatisfies
    exact hsatisfies.1
  rw [firstReadable, hfind, Option.map_some, Option.getD_some, ← hname]
  exact toOption_eq_some.mp hq

/-- Where no document is remembered, no text before the call's own could be read. -/
theorem firstReadable_of_lookup_eq_none {before : List Call} {c : Call}
    (h : (before.foldl (learn limit) []).lookup c.name = none) :
    firstReadable limit before c = c.rules := by
  rw [lookup_foldl_learn, List.lookup_nil, Option.none_or, Option.bind_eq_none_iff] at h
  rw [firstReadable]
  cases hfind : before.find? fun q => q.name == c.name && (q.document? limit).isSome with
  | none => rfl
  | some q =>
    have hsatisfies := List.find?_some hfind
    simp [h q hfind] at hsatisfies

/-- A call is of a text that reads as the document of another one, if that can be read and has its name. -/
def Call.Repeats (limit : Int) (q c : Call) : Prop :=
  q.name = c.name → ∀ d, RuleDocument.ofText limit q.name q.rules = .ok d →
    RuleDocument.ofText limit c.name c.rules = .ok d

/-- What is remembered for a call is the document of its own text. -/
def Call.OwnIn (limit : Int) (documents : List (String × RuleDocument)) (c : Call) : Prop :=
  ∀ d, documents.lookup c.name = some d → RuleDocument.ofText limit c.name c.rules = .ok d

theorem Call.ownIn_learn_iff {documents : List (String × RuleDocument)} {q c : Call}
    (hq : q.OwnIn limit documents) :
    c.OwnIn limit (learn limit documents q) ↔ Repeats limit q c ∧ c.OwnIn limit documents := by
  simp only [OwnIn, lookup_learn]
  cases hlookup : documents.lookup c.name with
  | some d =>
    refine ⟨fun hown => ⟨fun hname d' hd' => ?_, hown⟩, And.right⟩
    obtain rfl : d = d' := by simpa [hd'] using (hq d (hname ▸ hlookup)).symm
    exact hown d rfl
  | none =>
    by_cases hname : q.name = c.name
    · simp [Repeats, hname, document?, toOption_eq_some]
    · simp [Repeats, hname]

/-- The calls that are made in order find the documents of their own texts exactly if each one repeats those
before it, and what is remembered at first is not another document. -/
theorem Finds.ownIn_iff {documents : List (String × RuleDocument)} {cs : List Call}
    (h : Finds limit documents cs) :
    (∀ c ∈ cs, c.OwnIn limit c.memory.documents) ↔
      cs.Pairwise (Call.Repeats limit) ∧ ∀ c ∈ cs, c.OwnIn limit documents := by
  induction cs generalizing documents with
  | nil => simp
  | cons q cs ih =>
    obtain ⟨rfl, hrest⟩ := h
    rw [List.forall_mem_cons, List.forall_mem_cons, List.pairwise_cons, ih hrest]
    have hlearnt : q.OwnIn limit q.memory.documents →
        ((∀ c ∈ cs, c.OwnIn limit (learn limit q.memory.documents q)) ↔
          (∀ c ∈ cs, Call.Repeats limit q c) ∧ ∀ c ∈ cs, c.OwnIn limit q.memory.documents) := fun hq => by
      rw [← forall₂_and]
      exact forall₂_congr fun c _ => Call.ownIn_learn_iff hq
    grind

end Learning

/-! ## What calls come to -/

/-- What a call leaves, by what reading and applying its document comes to: a failure that is no defect
leaves the text as it was. -/
def Call.left (c : Call) : Except Failure String → Except Failure String
  | .ok text => .ok text
  | .error (.defect d) => .error (.defect d)
  | .error _ => .ok c.text

namespace Run

variable {r : Run} {c : Call}

/-- The document that a call obtains, remembered or read. -/
def documentOf (r : Run) (c : Call) : Except Failure RuleDocument :=
  (Working.outcome (r.document c.name c.rules) c.memory).1

/-- What a call comes to: the text that it leaves, or a defect. -/
def outcomeOf (r : Run) (c : Call) : Except Failure String :=
  (Working.outcome (r.applyRules c.source c.template c.text c.name c.rules) c.memory).1

/-- Reads and applies a rule text, whatever document is remembered; one that fails changes nothing. -/
def applyAfresh (r : Run) (s : Source) (template text name rules : String) : Working String :=
  tryCatch
    (do r.applyDocument (← attempting (RuleDocument.parse r.settings.limit name rules)) s template text)
    (passOver s name template text)

/-- What a call comes to if a text is read, with no regard to the documents that are remembered. -/
def outcomeAfresh (r : Run) (c : Call) (rules : String) : Except Failure String :=
  (Working.outcome (r.applyAfresh c.source c.template c.text c.name rules) c.memory).1

/-- What applying a document at a call comes to. -/
def applied (r : Run) (c : Call) (d : RuleDocument) : Except Failure String :=
  (Working.outcome (r.applyDocument d c.source c.template c.text) c.memory).1

/-- Applying a document has no use for the documents that are remembered. -/
theorem outcome_applyDocument_with (d : RuleDocument) (documents : List (String × RuleDocument)) :
    (Working.outcome (r.applyDocument d c.source c.template c.text)
      { c.memory with documents := documents }).1 = r.applied c d := by
  rw [applied, outcome_applyDocument, outcome_applyDocument]
  rcases (Engine.apply r.settings.limit c.memory.results c.text (some d)
    (r.context c.source c.template c.text) (some c.template)).outcome with f | ⟨text, kept⟩ <;> rfl

theorem left_error (f : Failure) (m : Memory) :
    (Working.outcome (passOver c.source c.name c.template c.text f) m).1 = c.left (.error f) := by
  cases f <;> rfl

theorem outcomeAfresh_eq (rules : String) : r.outcomeAfresh c rules =
    c.left ((RuleDocument.ofText r.settings.limit c.name rules).bind (r.applied c)) := by
  rw [outcomeAfresh, applyAfresh, Working.outcome_tryCatch, Working.outcome_bind,
    Working.outcome_attempting, RuleDocument.outcome_parse]
  cases RuleDocument.ofText r.settings.limit c.name rules with
  | error f => exact left_error f _
  | ok d =>
    simp only [Except.bind, applied]
    rcases Working.outcome (r.applyDocument d c.source c.template c.text) c.memory with
      ⟨f | text, m⟩
    · exact left_error f m
    · rfl

theorem documentOf_eq : r.documentOf c = match c.memory.documents.lookup c.name with
    | some d => .ok d
    | none => RuleDocument.ofText r.settings.limit c.name c.rules := by
  rw [documentOf, outcome_document]
  cases c.memory.documents.lookup c.name with
  | some d => rfl
  | none => cases RuleDocument.ofText r.settings.limit c.name c.rules <;> rfl

theorem documentOf_eq_own : r.documentOf c = RuleDocument.ofText r.settings.limit c.name c.rules ↔
    c.OwnIn r.settings.limit c.memory.documents := by
  rw [documentOf_eq, Call.OwnIn]
  cases c.memory.documents.lookup c.name <;> simp [eq_comm]

theorem outcomeOf_eq : r.outcomeOf c = c.left ((r.documentOf c).bind (r.applied c)) := by
  have hleft : r.outcomeOf c = c.left (Working.outcome
      (r.readAndApply c.source c.template c.text c.name c.rules) c.memory).1 := by
    rw [outcomeOf, outcome_applyRules]
    rcases Working.outcome (r.readAndApply c.source c.template c.text c.name c.rules) c.memory with
      ⟨f | text, m⟩
    · exact left_error f m
    · rfl
  rw [hleft, readAndApply, Working.outcome_bind, documentOf_eq, outcome_document]
  cases c.memory.documents.lookup c.name with
  | some d => rfl
  | none =>
    cases RuleDocument.ofText r.settings.limit c.name c.rules with
    | error f => rfl
    | ok d => exact congrArg c.left (outcome_applyDocument_with d _)

/-- A call that obtains the document of a text comes to what this text comes to. -/
theorem outcomeOf_eq_afresh {rules : String}
    (h : r.documentOf c = RuleDocument.ofText r.settings.limit c.name rules) :
    r.outcomeOf c = r.outcomeAfresh c rules := by
  rw [outcomeOf_eq, outcomeAfresh_eq, h]

section Runs

variable {visits : List Visit} {before after : List Call}

/-- In every run, from a resolver that remembers nothing yet, a call obtains the document of the first
readable text of its name. -/
theorem documentOf_eq_firstReadable (h : r.calls visits .empty = before ++ c :: after) :
    r.documentOf c =
      RuleDocument.ofText r.settings.limit c.name (firstReadable r.settings.limit before c) := by
  have hfinds := finds_calls (r := r) visits .empty
  rw [h, finds_append] at hfinds
  have hdocuments : c.memory.documents = before.foldl (learn r.settings.limit) [] := hfinds.2.1
  rw [documentOf_eq, hdocuments]
  cases hlookup : (before.foldl (learn r.settings.limit) []).lookup c.name with
  | some d => exact (ofText_firstReadable hlookup).symm
  | none => rw [firstReadable_of_lookup_eq_none hlookup]

/-- In every run, a call comes to what the first readable text of its name comes to. -/
theorem outcomeOf_eq_firstReadable (h : r.calls visits .empty = before ++ c :: after) :
    r.outcomeOf c = r.outcomeAfresh c (firstReadable r.settings.limit before c) :=
  outcomeOf_eq_afresh (documentOf_eq_firstReadable h)

/-- All calls of a run obtain the documents of their own texts exactly if each one repeats those before it. -/
theorem documentOf_eq_own_iff (r : Run) (visits : List Visit) :
    (∀ c ∈ r.calls visits .empty,
        r.documentOf c = RuleDocument.ofText r.settings.limit c.name c.rules) ↔
      (r.calls visits .empty).Pairwise (Call.Repeats r.settings.limit) := by
  have hfinds : Finds r.settings.limit [] (r.calls visits .empty) := finds_calls visits .empty
  simp only [documentOf_eq_own]
  rw [hfinds.ownIn_iff]
  exact and_iff_left fun c _ d hd => by simp at hd

end Runs

end Run

end TemplateRules

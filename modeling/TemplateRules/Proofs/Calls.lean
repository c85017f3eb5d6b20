import TemplateRules.Proofs.Isolation

/-!
# The calls of a resolver

Between two visits the files of the user may change, and what has been remembered stays. Each visit
customizes one template or all of them, and on its way applies rule texts: the calls of the visits, in
order, are all rule texts that are applied, each with the template and the text that it is applied to and
with what is remembered at that time. The documents that are remembered at a call are the ones that the
calls before it have left.

## Main definitions

* `Call`: a rule text that is applied
* `Visit`: a request, and the files that are there at its time
* `Run.calls`: the rule texts that visits apply, in order
* `Run.Selects`: a call is of a document that a run selects

## Main results

* `Makes.bind`: the calls of work after work
* `Run.makes_answer`: the calls of one visit
* `Run.finds_calls`: what is remembered at every call of a run
* `Run.selects_calls`: what every call of a run is of
-/

namespace TemplateRules

/-! ## Calls -/

/-- A rule text that is applied to the text of a template. -/
structure Call where
  source : Source
  template : String
  text : String
  /-- The name under which the document is remembered. -/
  name : String
  rules : String
  /-- What is remembered at the time. -/
  memory : Memory

/-- What is asked of a resolver. -/
inductive Request where
  /-- One template, by categories that are given or else resolved. -/
  | one (sources : Option (List Source)) (template base : String)
  /-- All templates of a run. -/
  | all (bases : Table String)

/-- A request, and the files that are there at its time. -/
structure Visit where
  files : FileTree
  request : Request

/-- The calls that follow work which returns. -/
def following {α : Type} (outcome : Except Failure α × Memory) (calls : α → Memory → List Call) :
    List Call :=
  match outcome with
  | (.ok a, m) => calls a m
  | (.error _, _) => []

namespace Run

/-- The call that a contribution makes. -/
def callOf (template text : String) (m : Memory) : Contribution → List Call
  | .full _ => []
  | .rules s name rules => [⟨s, template, text, name, rules, m⟩]

/-- The calls of contributions that are carried out one after the other. -/
def callsOfContributions (r : Run) (template : String) :
    List Contribution → String → Memory → List Call
  | [], _, _ => []
  | c :: cs, text, m =>
    callOf template text m c ++
      following (Working.outcome (r.applyContribution template c text) m)
        (r.callsOfContributions template cs)

/-- The calls of a category. -/
def callsOfSource (r : Run) (s : Source) (template text : String) (m : Memory) : List Call :=
  r.callsOfContributions template (r.contributions (r.carriers m) template s) text (r.memoryAfter m s)

/-- The calls of several categories in order. -/
def callsOfSources (r : Run) (template : String) : List Source → String → Memory → List Call
  | [], _, _ => []
  | s :: ss, text, m =>
    r.callsOfSource s template text m ++
      following (Working.outcome (r.applySource s template text) m) (r.callsOfSources template ss)

/-- The calls of templates that are customized one after the other. -/
def callsOfTemplates (r : Run) (sources : List Source) : Table String → Memory → List Call
  | [], _ => []
  | (template, base) :: rest, m =>
    r.callsOfSources template sources.reverse base m ++
      following (Working.outcome (r.customizeBy sources template base) m) fun _ =>
        r.callsOfTemplates sources rest

/-- The answer to a request. -/
def answer (r : Run) : Request → Working (List Customized)
  | .one sources template base => do return [← r.customize sources template base]
  | .all bases => r.customizeAll bases

/-- The calls of a request. -/
def callsOfRequest (r : Run) (m : Memory) : Request → List Call
  | .one (some sources) template base => r.callsOfSources template sources.reverse base m
  | .one none template base =>
    let (sources, m) := Recalling.outcome (r.resolve none) m
    r.callsOfSources template sources.reverse base m
  | .all bases =>
    let (sources, m) := Recalling.outcome (r.resolve none) m
    r.callsOfTemplates sources bases m

/-- The resolver at a time when there are other files. -/
def within (r : Run) (files : FileTree) : Run := { r with files := files }

/-- The rule texts that visits apply, in order. What a visit has remembered is there at the next one, also
if the visit fails. -/
def calls (r : Run) : List Visit → Memory → List Call
  | [], _ => []
  | v :: vs, m =>
    (r.within v.files).callsOfRequest m v.request ++
      r.calls vs (Working.outcome ((r.within v.files).answer v.request) m).2

end Run

/-! ## What is remembered -/

/-- The documents by their names, once a rule text has been applied: one that can be read is added, unless
its name is known. -/
def learn (limit : Int) (documents : List (String × RuleDocument)) (c : Call) :
    List (String × RuleDocument) :=
  match documents.lookup c.name with
  | some _ => documents
  | none => match RuleDocument.ofText limit c.name c.rules with
    | .ok d => (c.name, d) :: documents
    | .error _ => documents

/-- At each call the documents are remembered that the calls before it have left. -/
def Finds (limit : Int) (documents : List (String × RuleDocument)) : List Call → Prop
  | [] => True
  | c :: cs => c.memory.documents = documents ∧ Finds limit (learn limit documents c) cs

theorem finds_append {limit : Int} {documents : List (String × RuleDocument)} {cs cs' : List Call} :
    Finds limit documents (cs ++ cs') ↔
      Finds limit documents cs ∧ Finds limit (cs.foldl (learn limit) documents) cs' := by
  induction cs generalizing documents with
  | nil => simp [Finds]
  | cons c cs ih => simp [Finds, ih, and_assoc]

/-- A rule text that a run selects for a template: the built-in document under a key, the document of one of
the libraries, or the text of the user's file. -/
inductive Run.Selects (r : Run) (libraries : List Library) (c : Call) : Prop
  | builtIn {key : String} (source : c.source = .pluginCustomizations) (name : c.name = builtInName key)
      (held : r.builtIn.lookup key = some c.rules)
  | library {l : Library} (source : c.source = .libraryCustomizations) (mem : l ∈ libraries)
      (name : c.name = l.name ++ ":" ++ c.template)
      (held : l.documentFor? r.settings.generator c.template = some c.rules)
  | user {path : Path} (source : c.source = .userCustomizations)
      (file : r.userDocument? c.template = some path) (name : c.name = path.text)

/-- The calls of work are made in order, each with what the ones before it have left, and nothing else is
learnt. They are of texts that the run selects, and the libraries that it works with stay the same. -/
structure Makes {α : Type} (r : Run) (w : Working α) (m : Memory) (calls : List Call) : Prop where
  finds : Finds r.settings.limit m.documents calls
  leaves : (Working.outcome w m).2.documents = calls.foldl (learn r.settings.limit) m.documents
  carriers : r.carriers (Working.outcome w m).2 = r.carriers m
  selects : ∀ c ∈ calls, r.Selects (r.carriers m) c

namespace Makes

variable {α β : Type} {r : Run} {w : Working α} {m : Memory} {cs : List Call}

/-- Work that reads no documents. -/
theorem ofNone (hdocuments : (Working.outcome w m).2.documents = m.documents)
    (hcarriers : r.carriers (Working.outcome w m).2 = r.carriers m) : Makes r w m [] :=
  ⟨trivial, hdocuments, hcarriers, by simp⟩

/-- Work that comes to the same from a memory with the same documents and libraries. -/
theorem startingFrom {w' : Working α} {m' : Memory} (h : Makes r w m' cs)
    (hdocuments : m'.documents = m.documents) (hcarriers : r.carriers m' = r.carriers m)
    (heq : Working.outcome w' m = Working.outcome w m') : Makes r w' m cs where
  finds := hdocuments ▸ h.finds
  leaves := by rw [heq, h.leaves, hdocuments]
  carriers := by rw [heq, h.carriers, hcarriers]
  selects := hcarriers ▸ h.selects

/-- Work after work makes the calls of both in order; what fails makes no further calls. The second work is
looked at only with the libraries of the first one. -/
theorem bindWithin {f : α → Working β} {k : α → Memory → List Call} (hw : Makes r w m cs)
    (hf : ∀ a m', r.carriers m' = r.carriers m → Makes r (f a) m' (k a m')) :
    Makes r (w >>= f) m (cs ++ following (Working.outcome w m) k) := by
  have hleaves := hw.leaves
  have hcarriers := hw.carriers
  rcases hout : Working.outcome w m with ⟨_ | a, m'⟩
  · rw [hout] at hleaves hcarriers
    rw [following, List.append_nil]
    refine ⟨hw.finds, ?_, ?_, hw.selects⟩ <;> rw [Working.outcome_bind, hout]
    · exact hleaves
    · exact hcarriers
  · rw [hout] at hleaves hcarriers
    obtain ⟨hfinds, hleft, hkept, hselects⟩ := hf a m' hcarriers
    refine ⟨finds_append.mpr ⟨hw.finds, hleaves ▸ hfinds⟩, ?_, ?_, ?_⟩
    · rw [Working.outcome_bind, hout, List.foldl_append, ← hleaves]
      exact hleft
    · rw [Working.outcome_bind, hout, ← hcarriers]
      exact hkept
    · exact List.forall_mem_append.mpr ⟨hw.selects, hcarriers ▸ hselects⟩

/-- Work after work, of which the second is the same with all libraries. -/
theorem bind {f : α → Working β} {k : α → Memory → List Call} (hw : Makes r w m cs)
    (hf : ∀ a m, Makes r (f a) m (k a m)) :
    Makes r (w >>= f) m (cs ++ following (Working.outcome w m) k) :=
  hw.bindWithin fun a m' _ => hf a m'

/-- Work followed by work that remembers nothing. -/
theorem bindQuiet {f : α → Working β} (hw : Makes r w m cs)
    (hf : ∀ a m, (Working.outcome (f a) m).2 = m) : Makes r (w >>= f) m cs := by
  have h := hw.bind (k := fun _ _ => []) fun a m =>
    .ofNone (congrArg Memory.documents (hf a m)) (congrArg r.carriers (hf a m))
  have hnone : following (Working.outcome w m) (fun _ _ => []) = [] := by
    rcases Working.outcome w m with ⟨_ | _, _⟩ <;> rfl
  rwa [hnone, List.append_nil] at h

end Makes

/-! ## Calls of the parts of a run -/

namespace Run

variable {r : Run} {m : Memory} {template text : String}

theorem outcome_passOver_memory {s : Source} {name : String} {f : Failure} :
    (Working.outcome (passOver s name template text f) m).2 = m := by
  cases f <;> rfl

theorem makes_applyRules {c : Call} (hmemory : c.memory = m) (hselects : r.Selects (r.carriers m) c) :
    Makes r (r.applyRules c.source c.template c.text c.name c.rules) m [c] := by
  have hpassOver : (Working.outcome (r.applyRules c.source c.template c.text c.name c.rules) m).2 =
      (Working.outcome (r.readAndApply c.source c.template c.text c.name c.rules) m).2 := by
    rw [outcome_applyRules]
    rcases Working.outcome (r.readAndApply c.source c.template c.text c.name c.rules) m with ⟨_ | _, m'⟩
    · exact outcome_passOver_memory
    · rfl
  refine ⟨⟨congrArg Memory.documents hmemory, trivial⟩, ?_, ?_, by simpa using hselects⟩
  · rw [hpassOver, readAndApply, Working.outcome_bind, outcome_document]
    simp only [List.foldl_cons, List.foldl_nil, learn]
    cases hlookup : m.documents.lookup c.name with
    | some d => exact (applyDocument_spec d rfl).1
    | none =>
      cases RuleDocument.ofText r.settings.limit c.name c.rules with
      | error f => rfl
      | ok d => exact (applyDocument_spec d rfl).1
  · rw [hpassOver]
    exact (readAndApply_spec rfl).2.2

/-- A contribution is a full template, or a rule text that a run selects. -/
def Offered (r : Run) (libraries : List Library) (template : String) (c : Contribution) : Prop :=
  ∀ text m, ∀ call ∈ callOf template text m c, r.Selects libraries call

/-- Whatever a category contributes to a template, the run has selected it. -/
theorem offered_of_mem_contributions {libraries : List Library} {s : Source} {c : Contribution}
    (h : c ∈ r.contributions libraries template s) : r.Offered libraries template c := by
  intro text m call hcall
  cases s with
  | generator => simp [contributions] at h
  | pluginCustomizations =>
    simp only [contributions, Option.mem_toList, Option.map_eq_some_iff, List.findSome?_eq_some_iff] at h
    obtain ⟨⟨key, rules⟩, ⟨_, found, _, _, hheld, -⟩, rfl⟩ := h
    obtain rfl := List.mem_singleton.mp hcall
    obtain ⟨_, hlookup, hpair⟩ := hheld
    obtain ⟨rfl, rfl⟩ := Prod.mk.inj hpair
    exact .builtIn rfl rfl hlookup
  | libraryCustomizations =>
    obtain ⟨l, hl, hrules⟩ := List.mem_filterMap.mp h
    obtain ⟨rules, hheld, rfl⟩ := Option.map_eq_some_iff.mp hrules
    obtain rfl := List.mem_singleton.mp hcall
    exact .library rfl hl rfl hheld
  | libraryTemplates =>
    obtain ⟨l, -, hfull⟩ := List.mem_filterMap.mp h
    obtain ⟨replacement, -, rfl⟩ := Option.map_eq_some_iff.mp hfull
    simp [callOf] at hcall
  | userCustomizations =>
    simp only [contributions, Option.mem_toList, Option.bind_eq_some_iff, Option.map_eq_some_iff] at h
    obtain ⟨path, hfile, rules, -, rfl⟩ := h
    obtain rfl := List.mem_singleton.mp hcall
    exact .user rfl hfile rfl
  | userTemplates =>
    simp only [contributions, Option.mem_toList, Option.map_eq_some_iff] at h
    obtain ⟨replacement, -, rfl⟩ := h
    simp [callOf] at hcall

theorem makes_applyContribution {c : Contribution} (h : r.Offered (r.carriers m) template c) :
    Makes r (r.applyContribution template c text) m (callOf template text m c) := by
  cases c with
  | full replacement => exact .ofNone rfl rfl
  | rules s name rules =>
    exact makes_applyRules (c := ⟨s, template, text, name, rules, m⟩) rfl (h text m _ (by simp [callOf]))

theorem makes_applyContributions {libraries : List Library} {cs : List Contribution}
    (hcarriers : r.carriers m = libraries) (h : ∀ c ∈ cs, r.Offered libraries template c) :
    Makes r (r.applyContributions template cs text) m (r.callsOfContributions template cs text m) := by
  induction cs generalizing text m with
  | nil => exact .ofNone rfl rfl
  | cons c cs ih =>
    obtain ⟨hc, hcs⟩ := List.forall_mem_cons.mp h
    have hfirst : Makes r (r.applyContribution template c text) m (callOf template text m c) :=
      makes_applyContribution (hcarriers ▸ hc)
    rw [applyContributions_cons]
    exact hfirst.bindWithin fun text m hm => ih (hm.trans hcarriers) hcs

theorem makes_applySource (s : Source) :
    Makes r (r.applySource s template text) m (r.callsOfSource s template text m) := by
  obtain ⟨hdocuments, hcarriers⟩ := @memoryAfter_spec r m s
  exact (makes_applyContributions hcarriers fun _ => offered_of_mem_contributions).startingFrom hdocuments
    hcarriers (outcome_applySource s)

theorem makes_applySources (ss : List Source) :
    Makes r (r.applySources template ss text) m (r.callsOfSources template ss text m) := by
  induction ss generalizing text m with
  | nil => exact .ofNone rfl rfl
  | cons s ss ih =>
    exact (makes_applySource s).bind fun next m => (@ih m next).bindQuiet fun _ _ => rfl

theorem makes_customizeBy (sources : List Source) (base : String) :
    Makes r (r.customizeBy sources template base) m
      (r.callsOfSources template sources.reverse base m) :=
  (makes_applySources _).bindQuiet fun _ _ => rfl

theorem makes_customizeEach (sources : List Source) (bases : Table String) :
    Makes r (r.customizeEach sources bases) m (r.callsOfTemplates sources bases m) := by
  induction bases generalizing m with
  | nil => exact .ofNone rfl rfl
  | cons e rest ih =>
    exact (makes_customizeBy sources e.2).bind fun c m => ih.bindQuiet fun _ _ => rfl

/-- What is customized by the categories that the run works with. -/
theorem makes_resolve_bind {α : Type} {f : List Source → Working α}
    {k : List Source → Memory → List Call} (hf : ∀ sources m, Makes r (f sources) m (k sources m)) :
    Makes r (recalling (r.resolve none) >>= f) m
      (k (Recalling.outcome (r.resolve none) m).1 (Recalling.outcome (r.resolve none) m).2) := by
  obtain ⟨hdocuments, hcarriers, -⟩ := @looks_resolve r none m
  have hresolve : Makes r (recalling (r.resolve none)) m [] := .ofNone hdocuments hcarriers
  exact hresolve.bind hf

/-- The calls of one visit. -/
theorem makes_answer (request : Request) :
    Makes r (r.answer request) m (r.callsOfRequest m request) := by
  cases request with
  | one sources template base =>
    cases sources with
    | some sources => exact (makes_customizeBy sources base).bindQuiet fun _ _ => rfl
    | none =>
      have h : Makes r (r.customize none template base) m _ :=
        makes_resolve_bind fun sources m => makes_customizeBy sources base
      exact h.bindQuiet fun _ _ => rfl
  | all bases =>
    exact makes_resolve_bind fun sources m =>
      (makes_customizeEach sources bases).bindQuiet fun _ _ => rfl

/-! ## Calls of a whole run -/

/-- Whatever the visits are, at each call the documents are remembered that the calls before it have
left. -/
theorem finds_calls (visits : List Visit) (m : Memory) :
    Finds r.settings.limit m.documents (r.calls visits m) := by
  induction visits generalizing m with
  | nil => trivial
  | cons v vs ih =>
    have hvisit := @makes_answer (r.within v.files) m v.request
    exact finds_append.mpr ⟨hvisit.finds, hvisit.leaves ▸ ih _⟩

theorem usableLibraries_within (files : FileTree) (ls : List Library) :
    (r.within files).usableLibraries ls = r.usableLibraries ls := by
  induction ls with
  | nil => rfl
  | cons l ls ih =>
    rw [usableLibraries, usableLibraries, ih]
    rfl

/-- Which libraries a run works with does not depend on the files of the user. -/
theorem carriers_within (files : FileTree) (m : Memory) : (r.within files).carriers m = r.carriers m := by
  rw [carriers, carriers, usableLibraries_within]
  rfl

/-- Whatever the visits are, each call is of a text that the run selects among the files of its time and in
the libraries that it has worked with from the beginning. -/
theorem selects_calls (visits : List Visit) (m : Memory) :
    ∀ c ∈ r.calls visits m, ∃ files, (r.within files).Selects (r.carriers m) c := by
  induction visits generalizing m with
  | nil => simp [calls]
  | cons v vs ih =>
    have hvisit := @makes_answer (r.within v.files) m v.request
    refine List.forall_mem_append.mpr ⟨fun c hc => ⟨v.files, ?_⟩, ?_⟩
    · exact carriers_within v.files m ▸ hvisit.selects c hc
    · have hcarriers := hvisit.carriers
      rw [carriers_within, carriers_within] at hcarriers
      exact hcarriers ▸ ih _

end Run

end TemplateRules

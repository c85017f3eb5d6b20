import Mathlib.Data.List.Nodup
import TemplateRules.Proofs.ConditionMeaning
import TemplateRules.Proofs.ReadingOnce

/-!
# Names of documents

A resolver makes the names under which it remembers documents: `plugin:` and a key for a built-in one, the
name of a library and that of the template for one of a library, and the path of a file of the user. Nothing
keeps these names apart, so that two libraries of one name have one document between them. Names are apart if
the names of the libraries are, hold neither colon nor slash, and none of them is `plugin`, and if no colon
stands at the beginning of the paths. Then every text that is selected is applied as it is, but for a file of
the user that has changed since it was read.

## Main definitions

* `Run.NamesApart`: the names of libraries and of the user's directory keep documents apart
* `Run.OfSameDocument`: two calls are of one document

## Main results

* `Run.NamesApart.ofSameDocument`: where names are apart, calls of one name are of one document
* `Run.applies_own_text`: when calls obtain the documents of their own texts, and what they come to
-/

namespace TemplateRules

/-! ## The beginning of a name -/

namespace Text

variable {name before after : String}

/-- A colon stands in a name before any slash. -/
def HasScheme (name : String) : Prop := ':' ∈ name.toList.takeWhile (· != '/')

theorem hasScheme_append (h : '/' ∉ before.toList) (after : String) : HasScheme (before ++ ":" ++ after) := by
  have hlist : (before ++ ":" ++ after).toList = before.toList ++ ':' :: after.toList := by simp
  rw [HasScheme, hlist, List.takeWhile_append_of_pos (bne_of_notMem h)]
  simp

theorem not_hasScheme_append_slash (h : ':' ∉ before.toList) (after : List Char) :
    ¬ HasScheme (String.ofList (before.toList ++ '/' :: after)) := by
  rw [HasScheme, String.toList_ofList, List.takeWhile_append]
  split
  · simpa using h
  · exact fun hmem => h (List.takeWhile_subset _ hmem)

theorem not_hasScheme_of_notMem (h : ':' ∉ name.toList) : ¬ HasScheme name :=
  fun hmem => h (List.takeWhile_subset _ hmem)

/-- What stands before the first colon of a text, and what stands after it. -/
theorem eq_of_append_colon_eq {before' after' : String} (hbefore : ':' ∉ before.toList)
    (hbefore' : ':' ∉ before'.toList) (h : before ++ ":" ++ after = before' ++ ":" ++ after') :
    before = before' ∧ after = after' := by
  have hcut : some (before, after) = some (before', after') := by
    rw [← cutAt?_append hbefore after, ← cutAt?_append hbefore' after']
    exact congrArg (cutAt? ':') h
  exact Prod.mk.inj (Option.some.inj hcut)

end Text

open Text (HasScheme)

/-! ## Paths of documents -/

namespace Path

/-- A path begins with a slash, or with a name that holds no colon. -/
def StartsPlain (p : Path) : Prop :=
  (∃ rest, p.root.toList = '/' :: rest) ∨ p.root = "" ∧ ∃ n ns, p.names = n :: ns ∧ ':' ∉ n.toList

theorem rootOf_eq (cs : List Char) : rootOf cs = "" ∨ rootOf cs = "/" ∨ rootOf cs = "//" := by
  rw [rootOf.eq_def]
  split
  · exact .inr (.inr rfl)
  · split
    · exact .inr (.inl rfl)
    · exact .inr (.inr rfl)
  · exact .inr (.inl rfl)
  · exact .inl rfl

theorem startsPlain_ofText {s : String} (h : (ofText s).isAbsolute = true) : (ofText s).StartsPlain := by
  rcases rootOf_eq s.toList with hroot | hroot | hroot
  · simp [isAbsolute, ofText, hroot] at h
  · exact .inl ⟨[], by simp [ofText, hroot]⟩
  · exact .inl ⟨['/'], by simp [ofText, hroot]⟩

/-- A path below a path begins as that one, unless it is absolute. -/
theorem StartsPlain.join {p : Path} (h : p.StartsPlain) (s : String) : (p.join (ofText s)).StartsPlain := by
  rw [Path.join]
  split
  case isTrue habsolute => exact startsPlain_ofText habsolute
  case isFalse =>
    rcases h with hroot | ⟨hroot, n, ns, hnames, hplain⟩
    · exact .inl hroot
    · exact .inr ⟨hroot, n, ns ++ (ofText s).names, by simp [hnames], hplain⟩

theorem StartsPlain.not_hasScheme {p : Path} (h : p.StartsPlain) : ¬ HasScheme p.text := by
  rw [text]
  rcases h with ⟨rest, hroot⟩ | ⟨hroot, n, ns, hnames, hplain⟩
  · have hgiven : p.root ≠ "" := fun hempty => by simp [hempty] at hroot
    simp [hgiven, HasScheme, hroot]
  · simp only [hroot, hnames, List.isEmpty_cons, Bool.and_false, Bool.false_eq_true, if_false]
    cases ns with
    | nil => simpa using Text.not_hasScheme_of_notMem hplain
    | cons n' ns =>
      have hsplit : "" ++ "/".intercalate (n :: n' :: ns) =
          String.ofList (n.toList ++ '/' :: ("/".intercalate (n' :: ns)).toList) :=
        String.toList_inj.mp (by simp [String.intercalate_cons_of_ne_nil])
      rw [hsplit]
      exact Text.not_hasScheme_append_slash hplain _

end Path

/-! ## Names that are apart -/

namespace Run

variable {r : Run}

/-- The names of a run's libraries, and the place of the documents of its user, keep the names of documents
apart. -/
structure NamesApart (r : Run) : Prop where
  distinct : (r.libraries.map Library.name).Nodup
  plain : ∀ l ∈ r.libraries, ':' ∉ l.name.toList ∧ '/' ∉ l.name.toList
  unreserved : ∀ l ∈ r.libraries, l.name ≠ "plugin"
  directory : ∀ p, r.settings.documents = some p → p.StartsPlain

/-- Two calls are of the same document: of one file of the user, whose text may have changed in between, or
of one text of the same category. -/
def OfSameDocument (q c : Call) : Prop :=
  q.source = c.source ∧ (c.source = .userCustomizations ∨ q.rules = c.rules)

theorem mem_of_mem_usableLibraries {ls : List Library} {l : Library}
    (h : l ∈ (r.usableLibraries ls).value) : l ∈ ls := by
  induction ls with
  | nil => exact h
  | cons l' ls ih =>
    rw [usableLibraries, Traced.value_bind] at h
    split at h
    · rcases List.mem_cons.mp h with rfl | hmem
      · exact List.mem_cons_self
      · exact List.mem_cons_of_mem _ (ih hmem)
    · exact List.mem_cons_of_mem _ (ih h)

theorem builtInName_eq (key : String) : builtInName key = "plugin" ++ ":" ++ key := by
  rw [builtInName, show "plugin:" = "plugin" ++ ":" by decide]

/-- The document of a user's file lies below the user's directory. -/
theorem NamesApart.startsPlain (h : r.NamesApart) {template : String} {path : Path}
    (hfile : r.userDocument? template = some path) : path.StartsPlain := by
  obtain ⟨directory, hdirectory, hfind⟩ := Option.bind_eq_some_iff.mp hfile
  obtain ⟨ending, -, rfl⟩ := List.mem_map.mp (List.mem_of_find?_eq_some hfind)
  exact ((h.directory directory hdirectory).join _).join _

section Selected

variable {libraries : List Library} {files files' : FileTree} {q c : Call}

/-- The names of documents that no user has made begin with a colon behind a name without slashes. -/
theorem NamesApart.hasScheme_iff (h : r.NamesApart) (hlibraries : ∀ l ∈ libraries, l ∈ r.libraries)
    (hc : (r.within files).Selects libraries c) : HasScheme c.name ↔ c.source ≠ .userCustomizations := by
  cases hc with
  | builtIn source name held =>
    rw [name, source, builtInName_eq]
    exact iff_of_true (Text.hasScheme_append (by decide) _) (by simp)
  | library source mem name held =>
    rw [name, source]
    exact iff_of_true (Text.hasScheme_append (h.plain _ (hlibraries _ mem)).2 _) (by simp)
  | user source file name =>
    have hwithin : (r.within files).NamesApart := ⟨h.distinct, h.plain, h.unreserved, h.directory⟩
    rw [name]
    exact iff_of_false (hwithin.startsPlain file).not_hasScheme (not_not.mpr source)

/-- **Where names are apart, calls of one name are of one document.** -/
theorem NamesApart.ofSameDocument (h : r.NamesApart) (hlibraries : ∀ l ∈ libraries, l ∈ r.libraries)
    (hq : (r.within files).Selects libraries q) (hc : (r.within files').Selects libraries c)
    (hname : q.name = c.name) : OfSameDocument q c := by
  have huser : q.source = .userCustomizations ↔ c.source = .userCustomizations := by
    have hscheme := (h.hasScheme_iff hlibraries hq).symm.trans (hname ▸ h.hasScheme_iff hlibraries hc)
    exact not_iff_not.mp hscheme
  cases hq with
  | builtIn source name held =>
    cases hc with
    | builtIn source' name' held' =>
      have hkeys := name.symm.trans (hname.trans name')
      rw [builtInName_eq, builtInName_eq] at hkeys
      rw [(Text.eq_of_append_colon_eq (by decide) (by decide) hkeys).2] at held
      exact ⟨source.trans source'.symm, .inr (Option.some.inj (held.symm.trans held'))⟩
    | library _ mem' name' _ =>
      have hnames := name.symm.trans (hname.trans name')
      rw [builtInName_eq] at hnames
      have hplugin := Text.eq_of_append_colon_eq (by decide) (h.plain _ (hlibraries _ mem')).1 hnames
      exact absurd hplugin.1.symm (h.unreserved _ (hlibraries _ mem'))
    | user source' _ _ => simp [source, source'] at huser
  | library source mem name held =>
    cases hc with
    | builtIn _ name' _ =>
      have hnames := name'.symm.trans (hname.symm.trans name)
      rw [builtInName_eq] at hnames
      have hplugin := Text.eq_of_append_colon_eq (by decide) (h.plain _ (hlibraries _ mem)).1 hnames
      exact absurd hplugin.1.symm (h.unreserved _ (hlibraries _ mem))
    | library source' mem' name' held' =>
      obtain ⟨hlibrary, htemplate⟩ := Text.eq_of_append_colon_eq (h.plain _ (hlibraries _ mem)).1
        (h.plain _ (hlibraries _ mem')).1 (name.symm.trans (hname.trans name'))
      obtain rfl := List.inj_on_of_nodup_map h.distinct (hlibraries _ mem) (hlibraries _ mem') hlibrary
      rw [htemplate] at held
      exact ⟨source.trans source'.symm, .inr (Option.some.inj (held.symm.trans held'))⟩
    | user source' _ _ => simp [source, source'] at huser
  | user source file name => exact ⟨source.trans (huser.mp source).symm, .inl (huser.mp source)⟩

end Selected

/-! ## The texts that are applied -/

/-- In a run whose names are apart, the calls of one name are of one document. -/
theorem NamesApart.ofSameDocument_of_mem_calls (h : r.NamesApart) {visits : List Visit} {q c : Call}
    (hq : q ∈ r.calls visits .empty) (hc : c ∈ r.calls visits .empty) (hname : q.name = c.name) :
    OfSameDocument q c := by
  obtain ⟨files, hselects⟩ := selects_calls visits .empty q hq
  obtain ⟨files', hselects'⟩ := selects_calls visits .empty c hc
  exact h.ofSameDocument (fun l hl => mem_of_mem_usableLibraries hl) hselects hselects' hname

/-- **Every text that is selected is applied, as long as names do not clash.** In every run on one resolver:

* every call obtains the document of its own text exactly if no call comes after another one of its name
  whose text can be read, and reads as another document;
* a call comes to what the first text of its name comes to that could be read, and if it has obtained the
  document of its own text, then to what this text comes to;
* where names are apart, a call for a built-in document or one of a library comes to what its own text comes
  to, and so does a call for a file of the user whose text has not changed since the calls before it. -/
theorem applies_own_text (r : Run) (visits : List Visit) :
    ((∀ c ∈ r.calls visits .empty,
        r.documentOf c = RuleDocument.ofText r.settings.limit c.name c.rules) ↔
      (r.calls visits .empty).Pairwise fun q c => q.name = c.name →
        ∀ d, RuleDocument.ofText r.settings.limit q.name q.rules = .ok d →
          RuleDocument.ofText r.settings.limit c.name c.rules = .ok d) ∧
    ∀ before c after, r.calls visits .empty = before ++ c :: after →
      r.outcomeOf c = r.outcomeAfresh c (firstReadable r.settings.limit before c) ∧
      (r.documentOf c = RuleDocument.ofText r.settings.limit c.name c.rules →
        r.outcomeOf c = r.outcomeAfresh c c.rules) ∧
      (r.NamesApart → (c.source = .userCustomizations → ∀ q ∈ before, q.name = c.name → q.rules = c.rules) →
        r.outcomeOf c = r.outcomeAfresh c c.rules) := by
  refine ⟨documentOf_eq_own_iff r visits, fun before c after hcalls =>
    ⟨outcomeOf_eq_firstReadable hcalls, outcomeOf_eq_afresh, fun hapart hunchanged => ?_⟩⟩
  have hmem : ∀ q ∈ before, q ∈ r.calls visits .empty := fun q hq => by simp [hcalls, hq]
  have hsame : ∀ q ∈ before, q.name = c.name → q.rules = c.rules := fun q hq hname => by
    have hof := hapart.ofSameDocument_of_mem_calls (hmem q hq) (by simp [hcalls]) hname
    exact hof.2.elim (fun huser => hunchanged huser q hq hname) id
  rw [outcomeOf_eq_firstReadable hcalls, firstReadable_eq_own hsame]

/-- A document that can be read, but not be applied to a text with the letter `a`. -/
def failingRules : String :=
  "partials:\n  p: $9\nreplacements:\n- find: a\n  replace: '\x7b\x7b>p\x7d\x7d'\n  type: regex\n"

/-- A document that makes `b` of `a`. -/
def replacingRules : String := "replacements:\n- find: a\n  replace: b\n"

/-- A run with documents of two libraries. -/
def ofLibraries (one two : String) (documents : String × String) : Run :=
  { ofBarePrefix with
    libraries := [⟨one, [], [("spring/t.mustache.yaml", documents.1)], none⟩,
      ⟨two, [], [("spring/t.mustache.yaml", documents.2)], none⟩]
    builtIn := [] }

/-- A run with a built-in document, documents of two libraries and one of its user. -/
def ofSeveralSources : Run :=
  { ofLibraries "one" "two" (failingRules, replacingRules) with
    settings := { ofBarePrefix.settings with documents := some ⟨"", ["rules"]⟩ }
    builtIn := [("spring/t.mustache.yaml", failingRules)] }

/-- The files of a user with one rule document. -/
def userFile (rules : String) : FileTree where
  entries := [(["rules"], .directory), (["rules", "spring"], .directory),
    (["rules", "spring", "t.mustache.yaml"], .file rules.toUTF8)]
  base := []

/-- The built-in document is applied to a template, and then it is once more, with those of all sources; that
of the user cannot be read. -/
def severalSources : List Visit :=
  [⟨userFile "a: [", .one (some [.pluginCustomizations]) "t.mustache" "a"⟩,
    ⟨userFile "a: [", .one (some [.userCustomizations, .libraryCustomizations, .pluginCustomizations])
      "t.mustache" "a"⟩]

theorem namesApart_ofSeveralSources : ofSeveralSources.NamesApart where
  distinct := by decide
  plain := by decide
  unreserved := by decide
  directory p hp := by
    obtain rfl := Option.some.inj hp
    exact .inr ⟨rfl, "rules", [], rfl, by decide⟩

/-- What a call is of. -/
def origin (c : Call) : Source × String × String := (c.source, c.name, c.rules)

/-- The calls of one name have one text. -/
theorem origin_severalSources : (ofSeveralSources.calls severalSources .empty).map origin =
    [(.pluginCustomizations, "plugin:spring/t.mustache.yaml", failingRules),
      (.pluginCustomizations, "plugin:spring/t.mustache.yaml", failingRules),
      (.libraryCustomizations, "one:t.mustache", failingRules),
      (.libraryCustomizations, "two:t.mustache", replacingRules),
      (.userCustomizations, "rules/spring/t.mustache.yaml", "a: [")] := by
  decide +kernel

theorem applies_own_text_severalSources : ofSeveralSources.NamesApart ∧
    (ofSeveralSources.calls severalSources .empty).map Call.source = [.pluginCustomizations,
      .pluginCustomizations, .libraryCustomizations, .libraryCustomizations, .userCustomizations] ∧
    ∀ c ∈ ofSeveralSources.calls severalSources .empty,
      ofSeveralSources.outcomeOf c = ofSeveralSources.outcomeAfresh c c.rules := by
  have hsources := congrArg (List.map Prod.fst) origin_severalSources
  rw [List.map_map] at hsources
  refine ⟨namesApart_ofSeveralSources, hsources, fun c hc => ?_⟩
  obtain ⟨before, after, hcalls⟩ := List.append_of_mem hc
  refine ((applies_own_text _ _).2 before c after hcalls).2.2 namesApart_ofSeveralSources
    fun _ q hq hname => ?_
  have hone : ∀ o ∈ (ofSeveralSources.calls severalSources .empty).map origin,
      ∀ o' ∈ (ofSeveralSources.calls severalSources .empty).map origin,
        o.2.1 = o'.2.1 → o.2.2 = o'.2.2 := by
    rw [origin_severalSources]
    decide
  exact hone _ (List.mem_map_of_mem (by simp [hcalls, hq])) _ (List.mem_map_of_mem hc) hname

/-- A run with two libraries of one name. -/
def ofNamesakes : Run := ofLibraries "lib" "lib" (failingRules, replacingRules)

/-- The documents of the libraries are applied to one template. -/
def namesakes : List Visit := [⟨⟨[], []⟩, .one (some [.libraryCustomizations]) "t.mustache" "a"⟩]

/-- The document of the second library is not applied: that of the first one is, and fails once more. -/
theorem outcomeOf_namesakes_ne_afresh : ¬ ∀ c ∈ ofNamesakes.calls namesakes .empty,
    ofNamesakes.outcomeOf c = ofNamesakes.outcomeAfresh c c.rules := by
  have hne : (ofNamesakes.calls namesakes .empty).map (fun c => (ofNamesakes.outcomeOf c).toOption) ≠
      (ofNamesakes.calls namesakes .empty).map
        (fun c => (ofNamesakes.outcomeAfresh c c.rules).toOption) := by
    decide +kernel
  exact fun h => hne (List.map_congr_left fun c hc => congrArg Except.toOption (h c hc))

end Run

end TemplateRules

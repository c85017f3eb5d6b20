import Mathlib.Data.List.Infix
import TemplateRules.Library
import TemplateRules.Proofs.DocumentIdentity
import TemplateRules.Proofs.Outcome

/-!
# What a library shows of its files

The files of a library come as one map, in which paths are written with slashes of either kind and perhaps with
slashes in front. Written plainly, a path is a place, and several files may have one place. A generator sees the
last file of each place below its own name and below one of the two roots, and it sees nothing else: a slash
follows its name, so that it does not see the files of a generator whose name merely goes on after its own.

## Main definitions

* `Library.contentAt?`: the content of the last file at a place
* `Library.contentOf?`: the content of the last file with a role
* `Library.Takes`: a library is another one with some files in it

## Main results

* `Library.roleOf_eq_template_iff`, `Library.roleOf_eq_document_iff`: the places of templates and documents
* `Library.takes_of_addFiles`: a library has the last file of every role
* `Library.shows_files_of_generator`: what a generator sees of the files
-/

namespace TemplateRules

open Text

namespace Text

variable {start text rest : String}

theorem after?_append (start rest : String) : after? start (start ++ rest) = some rest := by
  simp [after?]

theorem after?_eq_some_iff : after? start text = some rest ↔ text = start ++ rest := by
  refine ⟨fun h => ?_, fun h => h ▸ after?_append start rest⟩
  rw [after?] at h
  split at h
  · rename_i hprefix
    obtain ⟨after, hafter⟩ := List.isPrefixOf_iff_prefix.mp hprefix
    obtain rfl := Option.some.inj h
    rw [← String.toList_inj]
    simp [← hafter]
  · simp at h

theorem endsWith_append (text finish : String) : endsWith (text ++ finish) finish = true := by
  simp [endsWith]

end Text

namespace Table

variable {α : Type} {t : Table α} {name : String}

theorem mem_names_put (value : α) {other : String} :
    other ∈ (t.put name value).names ↔ other = name ∨ other ∈ t.names := by
  induction t with
  | nil => simp [put, names]
  | cons e t ih =>
    obtain ⟨n, v⟩ := e
    rw [put]
    split
    · rename_i hn
      subst hn
      simp [names]
    · simp only [names, List.map_cons, List.mem_cons] at ih ⊢
      rw [ih]
      exact or_left_comm

/-- A table into which values are put has every name once. -/
theorem nodup_names_put (h : t.names.Nodup) (value : α) : (t.put name value).names.Nodup := by
  induction t with
  | nil => simp [put, names]
  | cons e t ih =>
    obtain ⟨n, v⟩ := e
    obtain ⟨hn, ht⟩ : n ∉ names t ∧ (names t).Nodup := List.nodup_cons.mp h
    rw [put]
    split
    · exact h
    · rename_i hne
      refine List.nodup_cons.mpr ⟨fun hmem => ?_, ih ht⟩
      rcases (mem_names_put value).mp hmem with heq | hmem
      · exact hne heq
      · exact hn hmem

end Table

namespace Library

variable {l m : Library} {files : List (String × String)} {path content below generator : String}

/-! ## Places -/

/-- The content of the last file at a place. -/
def contentAt? (files : List (String × String)) (place : String) : Option String :=
  ((files.filter fun e => plainPath e.1 = place).getLast?).map (·.2)

/-- The content of the last file with a role. -/
def contentOf? (files : List (String × String)) (role : FileRole) : Option String :=
  ((files.filter fun e => roleOf e.1 = role).getLast?).map (·.2)

theorem contentOf?_singleton (role : FileRole) :
    contentOf? [(path, content)] role = if roleOf path = role then some content else none := by
  by_cases h : roleOf path = role <;> simp [contentOf?, h]

theorem contentOf?_append (files more : List (String × String)) (role : FileRole) :
    contentOf? (files ++ more) role = (contentOf? more role).or (contentOf? files role) := by
  rw [contentOf?, List.filter_append, List.getLast?_append, Option.map_or]
  rfl

/-! ## Roles -/

theorem templatesRoot_append_ne_manifestPath (below : String) : templatesRoot ++ below ≠ manifestPath := by
  intro h
  have hnone : after? templatesRoot manifestPath = none := by decide
  simp [after?_eq_some_iff.mpr h.symm] at hnone

theorem documentsRoot_append_ne_manifestPath (below : String) : documentsRoot ++ below ≠ manifestPath := by
  intro h
  have hnone : after? documentsRoot manifestPath = none := by decide
  simp [after?_eq_some_iff.mpr h.symm] at hnone

/-- Nothing lies below both roots. The roots differ before the shorter of them ends. -/
theorem after?_templatesRoot_documentsRoot (below : String) : after? templatesRoot (documentsRoot ++ below) = none := by
  rw [Option.eq_none_iff_forall_ne_some]
  intro rest h
  have hchar := congrArg (fun s => s.toList[17]?) (after?_eq_some_iff.mp h)
  simp only [String.toList_append] at hchar
  rw [List.getElem?_append_left (by decide), List.getElem?_append_left (by decide)] at hchar
  exact absurd hchar (by decide)

theorem roleOf_of_templatesRoot (h : plainPath path = templatesRoot ++ below) :
    roleOf path = if namesFile below then .template below else .other := by
  simp only [roleOf, h, if_neg (templatesRoot_append_ne_manifestPath below), after?_append]

theorem roleOf_of_documentsRoot (h : plainPath path = documentsRoot ++ below) :
    roleOf path = if namesFile below && documentEndings.any (endsWith below) then .document below else .other := by
  simp only [roleOf, h, if_neg (documentsRoot_append_ne_manifestPath below), after?_append,
    after?_templatesRoot_documentsRoot]

/-- Only what lies below one of the roots has a role other than that of the manifest or none. -/
theorem exists_below_of_roleOf (h : roleOf path ≠ .manifest) (hother : roleOf path ≠ .other) :
    ∃ below, plainPath path = templatesRoot ++ below ∨ plainPath path = documentsRoot ++ below := by
  simp only [roleOf] at h hother
  split at h
  · exact absurd rfl h
  · rename_i hplace
    rw [if_neg hplace] at hother
    split at hother
    · rename_i below htemplate
      exact ⟨below, .inl (after?_eq_some_iff.mp htemplate)⟩
    · rename_i below _ hdocument
      exact ⟨below, .inr (after?_eq_some_iff.mp hdocument)⟩
    · exact absurd rfl hother

/-- A template is below its root and below the name of a generator. -/
theorem roleOf_eq_template_iff : roleOf path = .template below ↔
    plainPath path = templatesRoot ++ below ∧ namesFile below = true := by
  refine ⟨fun h => ?_, fun ⟨h, hfile⟩ => by rw [roleOf_of_templatesRoot h, if_pos hfile]⟩
  have hmanifest : roleOf path ≠ .manifest := by simp [h]
  have hother : roleOf path ≠ .other := by simp [h]
  obtain ⟨found, hfound | hfound⟩ := exists_below_of_roleOf hmanifest hother
  · rw [roleOf_of_templatesRoot hfound] at h
    split at h
    · rename_i hfile
      obtain rfl := FileRole.template.inj h
      exact ⟨hfound, hfile⟩
    · simp at h
  · rw [roleOf_of_documentsRoot hfound] at h
    split at h <;> simp at h

/-- A rule document is below its root and below the name of a generator, and it has one of the endings. -/
theorem roleOf_eq_document_iff : roleOf path = .document below ↔ plainPath path = documentsRoot ++ below ∧
    (namesFile below && documentEndings.any (endsWith below)) = true := by
  refine ⟨fun h => ?_, fun ⟨h, hfile⟩ => by rw [roleOf_of_documentsRoot h, if_pos hfile]⟩
  have hmanifest : roleOf path ≠ .manifest := by simp [h]
  have hother : roleOf path ≠ .other := by simp [h]
  obtain ⟨found, hfound | hfound⟩ := exists_below_of_roleOf hmanifest hother
  · rw [roleOf_of_templatesRoot hfound] at h
    split at h <;> simp at h
  · rw [roleOf_of_documentsRoot hfound] at h
    split at h
    · rename_i hfile
      obtain rfl := FileRole.document.inj h
      exact ⟨hfound, hfile⟩
    · simp at h

theorem namesFile_append (generator rest : String) : namesFile (generator ++ "/" ++ rest) = true := by
  simp [namesFile]

/-- The last template at a place is the last file there. -/
theorem contentOf?_template (files : List (String × String)) (hfile : namesFile below = true) :
    contentOf? files (.template below) = contentAt? files (templatesRoot ++ below) := by
  simp only [contentOf?, contentAt?, roleOf_eq_template_iff, hfile, and_true]

/-- The last rule document at a place is the last file there, if the place has one of the endings. -/
theorem contentOf?_document (files : List (String × String)) (hfile : namesFile below = true) :
    contentOf? files (.document below) =
      if documentEndings.any (endsWith below) then contentAt? files (documentsRoot ++ below) else none := by
  simp only [contentOf?, contentAt?, roleOf_eq_document_iff, hfile, Bool.true_and]
  cases documentEndings.any (endsWith below) <;> simp

theorem exists_mem_of_contentAt? {place : String} (h : contentAt? files place = some content) :
    ∃ path, (path, content) ∈ files ∧ plainPath path = place := by
  obtain ⟨⟨path, content⟩, hlast, rfl⟩ := Option.map_eq_some_iff.mp h
  have hmem := List.mem_of_getLast? hlast
  rw [List.mem_filter, decide_eq_true_eq] at hmem
  exact ⟨path, hmem⟩

/-! ## Files of a library -/

/-- A library is another one with some files in it: for each role it holds the last of them, or else what there
was, and it holds one file for each place. -/
structure Takes (l : Library) (files : List (String × String)) (m : Library) : Prop where
  templates : ∀ below,
    m.templates.lookup below = (contentOf? files (.template below)).or (l.templates.lookup below)
  documents : ∀ below,
    m.documents.lookup below = (contentOf? files (.document below)).or (l.documents.lookup below)
  nodup_templates : l.templates.names.Nodup → m.templates.names.Nodup
  nodup_documents : l.documents.names.Nodup → m.documents.names.Nodup

theorem Takes.nil (l : Library) : l.Takes [] l := ⟨fun _ => rfl, fun _ => rfl, id, id⟩

theorem Takes.append {n : Library} {more : List (String × String)} (h : l.Takes files m) (hmore : m.Takes more n) :
    l.Takes (files ++ more) n where
  templates below := by rw [hmore.templates, h.templates, contentOf?_append, Option.or_assoc]
  documents below := by rw [hmore.documents, h.documents, contentOf?_append, Option.or_assoc]
  nodup_templates hl := hmore.nodup_templates (h.nodup_templates hl)
  nodup_documents hl := hmore.nodup_documents (h.nodup_documents hl)

/-- A file with a role is what a table holds at its place after it has been put there. -/
theorem lookup_put_of_role {table : Table String} {place : String} {role : String → FileRole}
    (hinj : Function.Injective role) (hrole : roleOf path = role place) (below : String) :
    (table.put place content).lookup below =
      (contentOf? [(path, content)] (role below)).or (table.lookup below) := by
  rw [Table.lookup_put, contentOf?_singleton, hrole]
  by_cases hplace : below = place
  · simp [hplace]
  · have hne : role place ≠ role below := fun h => hplace (hinj h).symm
    simp [hplace, hne]

/-- One more file replaces what the library has for its role, and leaves everything else. -/
theorem takes_of_addFile (h : l.addFile path content = .ok m) : l.Takes [(path, content)] m := by
  rw [addFile] at h
  split at h
  · rename_i hrole
    obtain ⟨manifest, -, h⟩ := bind_eq_ok.mp h
    obtain rfl := Except.ok.inj h
    exact ⟨fun below => by simp [contentOf?_singleton, hrole], fun below => by simp [contentOf?_singleton, hrole],
      id, id⟩
  · rename_i place hrole
    obtain rfl := Except.ok.inj h
    exact ⟨lookup_put_of_role (fun _ _ => FileRole.template.inj) hrole,
      fun below => by simp [contentOf?_singleton, hrole], fun hl => Table.nodup_names_put hl content, id⟩
  · rename_i place hrole
    obtain rfl := Except.ok.inj h
    exact ⟨fun below => by simp [contentOf?_singleton, hrole],
      lookup_put_of_role (fun _ _ => FileRole.document.inj) hrole, id, fun hl => Table.nodup_names_put hl content⟩
  · rename_i hrole
    obtain rfl := Except.ok.inj h
    exact ⟨fun below => by simp [contentOf?_singleton, hrole], fun below => by simp [contentOf?_singleton, hrole],
      id, id⟩

/-- A library that takes files one by one has the last one for every role. -/
theorem takes_of_addFiles (h : l.addFiles files = .ok m) : l.Takes files m := by
  induction files generalizing l with
  | nil =>
    obtain rfl := Except.ok.inj h
    exact .nil l
  | cons e files ih =>
    obtain ⟨next, hnext, h⟩ := bind_eq_ok.mp h
    exact (takes_of_addFile hnext).append (ih h)

theorem outcome_ofFiles (name : String) (files : Table String) :
    (ofFiles name files).outcome = addFiles ⟨name, [], [], none⟩ files := by
  simp only [ofFiles, Attempt.outcome_bind, Attempt.outcome_liftM]
  cases addFiles ⟨name, [], [], none⟩ files <;> simp

/-! ## Files of a generator -/

theorem mem_filesFor_iff {table : Table String} {file : String} :
    (file, content) ∈ filesFor table generator ↔ (generator ++ "/" ++ file, content) ∈ table := by
  rw [filesFor, List.mem_filterMap]
  constructor
  · rintro ⟨⟨path, found⟩, hmem, h⟩
    obtain ⟨rest, hrest, h⟩ := Option.map_eq_some_iff.mp h
    obtain ⟨rfl, rfl⟩ := Prod.mk.inj h
    rwa [← after?_eq_some_iff.mp hrest]
  · intro h
    exact ⟨_, h, by simp [after?_append]⟩

theorem filesFor_cons (table : Table String) : filesFor ((path, content) :: table) generator =
    ((after? (generator ++ "/") path).map ((·, content))).toList ++ filesFor table generator := by
  cases h : after? (generator ++ "/") path <;> simp [filesFor, h]

theorem lookup_filesFor (table : Table String) (generator file : String) :
    (filesFor table generator).lookup file = table.lookup (generator ++ "/" ++ file) := by
  induction table with
  | nil => rfl
  | cons e table ih =>
    obtain ⟨path, content⟩ := e
    rw [filesFor_cons, List.lookup_cons]
    cases hafter : after? (generator ++ "/") path with
    | none =>
      have hne : generator ++ "/" ++ file ≠ path := by
        rintro rfl
        simp [after?_append] at hafter
      simp [beq_false_of_ne hne, ih]
    | some rest =>
      obtain rfl := after?_eq_some_iff.mp hafter
      have hbeq : (generator ++ "/" ++ file == generator ++ "/" ++ rest) = (file == rest) := by
        rw [Bool.eq_iff_iff, beq_iff_eq, beq_iff_eq, String.append_right_inj]
      simp [hbeq, List.lookup_cons, ih]

theorem findSome?_documentEndings (find : String → Option String) :
    documentEndings.findSome? find = (find ".yaml").or (find ".yml") := by
  rw [documentEndings, List.findSome?_cons]
  cases find ".yaml" with
  | none => cases h : find ".yml" <;> simp [h]
  | some content => rfl

/-- **What a generator sees of the files.** A template is there with the content of the last file at its place
below the name of the generator, or not at all if there is no such file, and a rule document likewise, where its
name has one of the endings. For a template there is the document with the first ending, or else the one with the
second. Whatever a generator sees is a file whose place is below one of the roots, the name of the generator and a
slash. -/
theorem shows_files_of_generator {name : String} {files : Table String} {l : Library}
    (h : (ofFiles name files).outcome = .ok l) (generator : String) :
    (∀ template, (l.templatesFor generator).lookup template =
        contentAt? files (templatesRoot ++ (generator ++ "/" ++ template))) ∧
      (∀ template, l.documentFor? generator template =
        (contentAt? files (documentsRoot ++ (generator ++ "/" ++ (template ++ ".yaml")))).or
          (contentAt? files (documentsRoot ++ (generator ++ "/" ++ (template ++ ".yml"))))) ∧
      (∀ template content, (template, content) ∈ l.templatesFor generator →
        ∃ path, (path, content) ∈ files ∧ plainPath path = templatesRoot ++ (generator ++ "/" ++ template)) ∧
      ∀ document content, (document, content) ∈ l.documentsFor generator →
        ∃ path, (path, content) ∈ files ∧ plainPath path = documentsRoot ++ (generator ++ "/" ++ document) := by
  rw [outcome_ofFiles] at h
  have htakes := takes_of_addFiles h
  have htemplates : ∀ below, l.templates.lookup below = contentOf? files (.template below) := fun below => by
    rw [htakes.templates, List.lookup_nil, Option.or_none]
  have hdocuments : ∀ below, l.documents.lookup below = contentOf? files (.document below) := fun below => by
    rw [htakes.documents, List.lookup_nil, Option.or_none]
  have hfile : ∀ file, namesFile (generator ++ "/" ++ file) = true := namesFile_append generator
  refine ⟨fun template => ?_, fun template => ?_, fun template content hmem => ?_, fun document content hmem => ?_⟩
  · rw [templatesFor, lookup_filesFor, htemplates, contentOf?_template _ (hfile _)]
  · have hending : ∀ ending ∈ documentEndings, (l.documentsFor generator).lookup (template ++ ending) =
        contentAt? files (documentsRoot ++ (generator ++ "/" ++ (template ++ ending))) := by
      intro ending hmem
      have hany : documentEndings.any (endsWith (generator ++ "/" ++ (template ++ ending))) = true := by
        rw [← String.append_assoc]
        exact List.any_eq_true.mpr ⟨ending, hmem, endsWith_append _ ending⟩
      rw [documentsFor, lookup_filesFor, hdocuments, contentOf?_document _ (hfile _), if_pos hany]
    rw [documentFor?, findSome?_documentEndings, hending ".yaml" (by decide), hending ".yml" (by decide)]
  · have hlookup := (Table.mem_iff_lookup (htakes.nodup_templates .nil)).mp (mem_filesFor_iff.mp hmem)
    rw [htemplates, contentOf?_template _ (hfile _)] at hlookup
    exact exists_mem_of_contentAt? hlookup
  · have hlookup := (Table.mem_iff_lookup (htakes.nodup_documents .nil)).mp (mem_filesFor_iff.mp hmem)
    rw [hdocuments, contentOf?_document _ (hfile _)] at hlookup
    split at hlookup
    · exact exists_mem_of_contentAt? hlookup
    · simp at hlookup

/-- The files of a library that has two generators, with two files at one place. -/
def packaged : Table String := [
  ("META-INF/openapi-templates/spring/pojo.mustache", "first"),
  ("META-INF/openapi-templates/spring-boot/pojo.mustache", "other"),
  ("/META-INF\\openapi-templates\\spring/pojo.mustache", "second"),
  ("META-INF/openapi-customizations/spring/pojo.mustache.yml", "rules")]

theorem shows_files_of_spring : ∃ l, (ofFiles "corp" packaged).outcome = .ok l ∧
    (l.templatesFor "spring").lookup "pojo.mustache" = some "second" ∧
    (l.templatesFor "spring").lookup "-boot/pojo.mustache" = none ∧
    l.documentFor? "spring" "pojo.mustache" = some "rules" := by
  have hsome : (ofFiles "corp" packaged).outcome.toOption.isSome = true := by decide +kernel
  obtain ⟨l, hl⟩ := Option.isSome_iff_exists.mp hsome
  have hok := toOption_eq_some.mp hl
  obtain ⟨htemplates, hdocuments, -, -⟩ := shows_files_of_generator hok "spring"
  refine ⟨l, hok, ?_⟩
  rw [htemplates, htemplates, hdocuments]
  decide +kernel

end Library

end TemplateRules

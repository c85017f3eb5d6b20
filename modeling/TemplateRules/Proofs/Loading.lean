import TemplateRules.Proofs.DefectOrigin
import TemplateRules.Proofs.LibraryLayout
import TemplateRules.Proofs.Reading
import TemplateRules.Settings.Reading

/-!
# How loading files fails

Rule documents and settings are read from files, and the manifest of a library from one of the texts that it
comes with. Each loader is meant to fail with an error of its own kind that names what it reads. It does so for
files that cannot be opened, for texts out of the notation and for values that do not fit. It does not for bytes
that are no text, nor for texts with a defect: such a defect passes through every loader as it is, and nothing
else does.

## Main definitions

* `FailsOnlyAs`: an attempt has no failures but those of a kind
* `FailsAsRead`: an attempt fails with the defects of reading a text, and else with failures of a kind
* `FileTree.Defeats`: the files that pass a defect on to whoever reads them
* `Library.Defeats`: the files of a library whose manifest passes a defect on

## Main results

* `Library.addFiles_eq_error_iff`: the files of a library fail with the first manifest that does
* `loaders_fail_as_meant_iff`: the loaders fail as they are meant to, unless a defect passes through
-/

namespace TemplateRules

/-! ## Failures of one kind -/

section Kind

variable {κ α : Type} {refusal : κ → Failure} {x : Except Failure α}

/-- All failures of an attempt are of a kind, for some cause each. -/
def FailsOnlyAs (refusal : κ → Failure) (x : Except Failure α) : Prop :=
  ∀ f, x = .error f → ∃ cause, f = refusal cause

/-- Where there are no failures but those of a kind and defects, the kind is all there is if no defect is. -/
theorem failsOnlyAs_iff (hkind : ∀ cause d, refusal cause ≠ .defect d)
    (h : ∀ f, x = .error f → (∃ cause, f = refusal cause) ∨ ∃ d, f = .defect d) :
    FailsOnlyAs refusal x ↔ ¬ ∃ d, x = .error (.defect d) := by
  constructor
  · rintro honly ⟨d, hd⟩
    obtain ⟨cause, hcause⟩ := honly _ hd
    exact hkind cause d hcause.symm
  · intro hnone f hf
    rcases h f hf with hcause | ⟨d, rfl⟩
    · exact hcause
    · exact absurd ⟨d, hf⟩ hnone

/-- An attempt at a text fails with the defect that the reading of it ends in, and with failures of a kind where
that ends in none. -/
structure FailsAsRead (refusal : κ → Failure) (text : String) (x : Except Failure α) : Prop where
  defect : ∀ d, Yaml.readDocument text = .error (.defect d) → x = .error (.defect d)
  otherwise : (∀ d, Yaml.readDocument text ≠ .error (.defect d)) → FailsOnlyAs refusal x

namespace FailsAsRead

variable {text : String} {f : Failure} {d : Defect}

theorem error (h : FailsAsRead refusal text x) (hf : x = .error f) :
    (∃ cause, f = refusal cause) ∨ ∃ d, f = .defect d := by
  by_cases hread : ∃ d, Yaml.readDocument text = .error (.defect d)
  · obtain ⟨d, hread⟩ := hread
    rw [h.defect d hread] at hf
    exact .inr ⟨d, (Except.error.inj hf).symm⟩
  · exact .inl (h.otherwise (fun d hd => hread ⟨d, hd⟩) f hf)

theorem eq_defect_iff (h : FailsAsRead refusal text x) (hkind : ∀ cause d, refusal cause ≠ .defect d) :
    x = .error (.defect d) ↔ Yaml.readDocument text = .error (.defect d) := by
  refine ⟨fun hd => ?_, h.defect d⟩
  by_cases hread : ∃ d, Yaml.readDocument text = .error (.defect d)
  · obtain ⟨d', hread⟩ := hread
    rw [h.defect d' hread] at hd
    obtain rfl : d' = d := by simpa using hd
    exact hread
  · obtain ⟨cause, hcause⟩ := h.otherwise (fun d hd => hread ⟨d, hd⟩) _ hd
    exact absurd hcause.symm (hkind cause d)

end FailsAsRead

end Kind

/-! ## Files -/

namespace FileTree

variable {t : FileTree} {p : Path} {escapes : String → Prop}

/-- The files that pass a defect on to whoever reads them: their bytes are no text, or their text escapes. -/
inductive Defeats (t : FileTree) (p : Path) (escapes : String → Prop) : Prop
  | bytes {bytes : ByteArray} (hentry : t.entry p = .ok (.file bytes)) (hbytes : String.fromUTF8? bytes = none)
  | text {text : String} (hread : t.read p = .ok (some text)) (htext : escapes text)

/-- A file that is opened without a text has bytes that are none. -/
theorem read_eq_none_iff :
    t.read p = .ok none ↔ ∃ bytes, t.entry p = .ok (.file bytes) ∧ String.fromUTF8? bytes = none := by
  rw [read]
  split <;> simp [*]

/-- A loader that refuses files which cannot be opened, and has no text for bytes that are none, passes a defect
on for the files that defeat the reading of their texts. -/
theorem defeats_iff {α : Type} {load : Except Failure α} {fromText : String → Except Failure α}
    (hfault : ∀ fault, t.read p = .error fault → ∀ d, load ≠ .error (.defect d))
    (hbytes : t.read p = .ok none → load = .error (.defect .bytes))
    (htext : ∀ text, t.read p = .ok (some text) → load = fromText text)
    (hescapes : ∀ text, (∃ d, fromText text = .error (.defect d)) ↔ escapes text) :
    (∃ d, load = .error (.defect d)) ↔ t.Defeats p escapes := by
  constructor
  · rintro ⟨d, hd⟩
    cases hread : t.read p with
    | error fault => exact absurd hd (hfault fault hread d)
    | ok content =>
      cases content with
      | none =>
        obtain ⟨bytes, hentry, hnone⟩ := read_eq_none_iff.mp hread
        exact .bytes hentry hnone
      | some text => exact .text hread ((hescapes text).mp ⟨d, htext text hread ▸ hd⟩)
  · rintro (⟨hentry, hnone⟩ | ⟨hread, hescape⟩)
    · exact ⟨.bytes, hbytes (read_eq_none_iff.mpr ⟨_, hentry, hnone⟩)⟩
    · obtain ⟨d, hd⟩ := (hescapes _).mpr hescape
      exact ⟨d, (htext _ hread).trans hd⟩

end FileTree

/-! ## Rule documents -/

namespace RuleDocument

variable {limit : Int} {files : FileTree} {path : Path} {f : Failure}

theorem outcome_read_of_fault {fault : FileFault} (h : files.read path = .error fault) :
    (RuleDocument.read limit files path).outcome = .error (.configuration ⟨path.text, .unreadable fault⟩) := by
  simp [RuleDocument.read, h]

theorem outcome_read_of_bytes (h : files.read path = .ok none) :
    (RuleDocument.read limit files path).outcome = .error (.defect .bytes) := by
  simp [RuleDocument.read, h]

theorem outcome_read_of_text {text : String} (h : files.read path = .ok (some text)) :
    (RuleDocument.read limit files path).outcome = ofText limit path.text text := by
  simp only [RuleDocument.read, h, outcome_parse]

/-- Loading a rule document fails with a configuration error that names the file, or with a defect. -/
theorem read_error (h : (RuleDocument.read limit files path).outcome = .error f) :
    (∃ cause, f = .configuration ⟨path.text, cause⟩) ∨ ∃ d, f = .defect d := by
  cases hread : files.read path with
  | error fault =>
    rw [outcome_read_of_fault hread] at h
    exact .inl ⟨_, (Except.error.inj h).symm⟩
  | ok content =>
    cases content with
    | none =>
      rw [outcome_read_of_bytes hread] at h
      exact .inr ⟨_, (Except.error.inj h).symm⟩
    | some text =>
      rw [outcome_read_of_text hread] at h
      exact ofText_error h

theorem read_eq_defect_iff : (∃ d, (RuleDocument.read limit files path).outcome = .error (.defect d)) ↔
    files.Defeats path (Escapes limit) :=
  FileTree.defeats_iff (fun fault hread d => by simp [outcome_read_of_fault hread]) outcome_read_of_bytes
    (fun _ hread => outcome_read_of_text hread) fun _ => ofText_eq_defect_iff

end RuleDocument

/-! ## Settings -/

namespace Settings

variable {files : FileTree} {path : Path} {f : Failure}

theorem ofGraph_error {source : String} {g : Graph} {root : Ref} (h : ofGraph source g root = .error f) :
    ∃ cause, f = .configuration ⟨source, cause⟩ := by
  rw [ofGraph] at h
  split at h
  · simp at h
  · split at h
    · simp at h
    · exact ⟨_, (Except.error.inj h).symm⟩
  · exact ⟨_, (Except.error.inj h).symm⟩

theorem ofText_failsAsRead (source text : String) :
    FailsAsRead (fun cause => .configuration ⟨source, cause⟩) text (ofText source text) := by
  constructor
  · intro d hread
    rw [ofText, hread]
  · intro hnone f h
    rw [ofText] at h
    split at h
    · exact ⟨_, (Except.error.inj h).symm⟩
    · rename_i d hread
      exact absurd hread (hnone d)
    · exact ofGraph_error h

theorem read_of_text {text : String} (h : files.read path = .ok (some text)) :
    Settings.read files path = (ofText path.text text).map (·.within path.parent) := by
  simp only [Settings.read, h]
  cases ofText path.text text <;> rfl

/-- Loading settings fails with a configuration error that names the file, or with a defect. -/
theorem read_error (h : Settings.read files path = .error f) :
    (∃ cause, f = .configuration ⟨path.text, cause⟩) ∨ ∃ d, f = .defect d := by
  cases hread : files.read path with
  | error fault =>
    simp only [Settings.read, hread, refusal] at h
    exact .inl ⟨_, (Except.error.inj h).symm⟩
  | ok content =>
    cases content with
    | none =>
      simp only [Settings.read, hread] at h
      exact .inr ⟨_, (Except.error.inj h).symm⟩
    | some text =>
      rw [read_of_text hread, map_eq_error] at h
      exact (ofText_failsAsRead path.text text).error h

theorem read_eq_defect_iff : (∃ d, Settings.read files path = .error (.defect d)) ↔
    files.Defeats path fun text => ∃ d, Yaml.readDocument text = .error (.defect d) := by
  refine FileTree.defeats_iff (fun fault hread d => by simp [Settings.read, hread, refusal])
    (fun hread => by simp [Settings.read, hread]) (fun _ hread => read_of_text hread) fun text => ?_
  simp only [map_eq_error, (ofText_failsAsRead path.text text).eq_defect_iff (by simp)]

end Settings

/-! ## Manifests -/

namespace Manifest

theorem ofDocument_error {source : String} {v : Value} {f : Failure} (h : ofDocument source v = .error f) :
    ∃ cause, f = .manifest ⟨source, cause⟩ := by
  unfold ofDocument at h
  split at h
  · simp at h
  · split at h
    · simp at h
    · exact ⟨_, (Except.error.inj h).symm⟩
  · exact ⟨_, (Except.error.inj h).symm⟩

theorem ofText_failsAsRead (source text : String) :
    FailsAsRead (fun cause => .manifest ⟨source, cause⟩) text (ofText source text) := by
  constructor
  · intro d hread
    rw [ofText, hread]
  · intro hnone f h
    rw [ofText] at h
    split at h
    · exact ⟨_, (Except.error.inj h).symm⟩
    · rename_i d hread
      exact absurd hread (hnone d)
    · exact ofDocument_error h

/-- A manifest is a defect if the reading of its text is. -/
theorem ofText_eq_defect_iff {source text : String} {d : Defect} :
    ofText source text = .error (.defect d) ↔ Yaml.readDocument text = .error (.defect d) :=
  (ofText_failsAsRead source text).eq_defect_iff (by simp)

end Manifest

/-! ## Libraries -/

namespace Library

variable {l m : Library} {path content name : String} {files : List (String × String)} {f : Failure}

theorem addFile_eq_error_iff : l.addFile path content = .error f ↔
    roleOf path = .manifest ∧ Manifest.ofText (manifestSource l.name) content = .error f := by
  rw [addFile]
  split <;> simp [*, bind_eq_error]

/-- A file is taken unless it is a manifest that cannot be loaded. -/
theorem exists_addFile_eq_ok_iff : (∃ next, l.addFile path content = .ok next) ↔
    (roleOf path = .manifest → ∃ manifest, Manifest.ofText (manifestSource l.name) content = .ok manifest) := by
  rw [addFile]
  split <;> simp [*, bind_eq_ok]

theorem name_addFile (h : l.addFile path content = .ok m) : m.name = l.name := by
  rw [addFile] at h
  split at h
  · obtain ⟨manifest, -, h⟩ := bind_eq_ok.mp h
    obtain rfl := Except.ok.inj h
    rfl
  all_goals
    obtain rfl := Except.ok.inj h
    rfl

/-- The files of a library fail as the first manifest among them does that cannot be loaded. -/
theorem addFiles_eq_error_iff : l.addFiles files = .error f ↔
    ∃ before path text after, files = before ++ (path, text) :: after ∧
      (∀ e ∈ before, roleOf e.1 = .manifest → ∃ m, Manifest.ofText (manifestSource l.name) e.2 = .ok m) ∧
      roleOf path = .manifest ∧ Manifest.ofText (manifestSource l.name) text = .error f := by
  induction files generalizing l with
  | nil => simp [addFiles]
  | cons e files ih =>
    obtain ⟨path, text⟩ := e
    rw [addFiles, bind_eq_error, addFile_eq_error_iff]
    constructor
    · rintro (⟨hrole, h⟩ | ⟨next, hnext, h⟩)
      · exact ⟨[], path, text, files, rfl, by simp, hrole, h⟩
      · obtain ⟨before, path', text', after, rfl, hbefore, hrole, h⟩ := ih.mp h
        rw [name_addFile hnext] at hbefore h
        refine ⟨(path, text) :: before, path', text', after, rfl, ?_, hrole, h⟩
        exact List.forall_mem_cons.mpr ⟨exists_addFile_eq_ok_iff.mp ⟨next, hnext⟩, hbefore⟩
    · rintro ⟨_ | ⟨first, before⟩, path', text', after, hsplit, hbefore, hrole, h⟩
      · obtain ⟨⟨rfl, rfl⟩, rfl⟩ : (path = path' ∧ text = text') ∧ files = after := by simpa using hsplit
        exact .inl ⟨hrole, h⟩
      · obtain ⟨rfl, rfl⟩ : (path, text) = first ∧ files = before ++ (path', text') :: after := by
          simpa using hsplit
        obtain ⟨hfirst, hbefore⟩ := List.forall_mem_cons.mp hbefore
        obtain ⟨next, hnext⟩ := exists_addFile_eq_ok_iff.mpr hfirst
        refine .inr ⟨next, hnext, ih.mpr ⟨before, path', text', after, rfl, ?_⟩⟩
        rw [name_addFile hnext]
        exact ⟨hbefore, hrole, h⟩

/-- The files of a library that pass a defect on: the first manifest among them that cannot be loaded has a text
whose reading ends in one. -/
inductive Defeats (name : String) (files : List (String × String)) : Prop
  | manifest {before after : List (String × String)} {path text : String} {d : Defect}
      (hsplit : files = before ++ (path, text) :: after)
      (hbefore : ∀ e ∈ before, roleOf e.1 = .manifest → ∃ m, Manifest.ofText (manifestSource name) e.2 = .ok m)
      (hrole : roleOf path = .manifest) (hread : Yaml.readDocument text = .error (.defect d))

/-- The files of a library fail with a manifest error that names its manifest, or with a defect. -/
theorem ofFiles_error (h : (ofFiles name files).outcome = .error f) :
    (∃ cause, f = .manifest ⟨manifestSource name, cause⟩) ∨ ∃ d, f = .defect d := by
  rw [outcome_ofFiles, addFiles_eq_error_iff] at h
  obtain ⟨_, _, _, _, _, _, _, h⟩ := h
  exact (Manifest.ofText_failsAsRead _ _).error h

theorem ofFiles_eq_defect_iff :
    (∃ d, (ofFiles name files).outcome = .error (.defect d)) ↔ Defeats name files := by
  simp only [outcome_ofFiles, addFiles_eq_error_iff, Manifest.ofText_eq_defect_iff]
  constructor
  · rintro ⟨d, before, path, text, after, hsplit, hbefore, hrole, hread⟩
    exact .manifest hsplit hbefore hrole hread
  · rintro ⟨hsplit, hbefore, hrole, hread⟩
    exact ⟨_, _, _, _, _, hsplit, hbefore, hrole, hread⟩

end Library

/-! ## Loaders -/

/-- **Loaders fail as they are meant to, unless a defect passes through.** A rule document and settings fail
with configuration errors that name their file exactly if the file neither has bytes that are no text nor a text
that escapes; a manifest, and the library that it belongs to, fail with manifest errors that name the manifest
exactly if reading its text ends in no defect. Such a defect is that of a token or of a scalar of the text. -/
theorem loaders_fail_as_meant_iff (limit : Int) (files : FileTree) (path : Path) (source text name : String)
    (shipped : Table String) :
    (FailsOnlyAs (fun cause => .configuration ⟨path.text, cause⟩) (RuleDocument.read limit files path).outcome ↔
        ¬ files.Defeats path (RuleDocument.Escapes limit)) ∧
      (FailsOnlyAs (fun cause => .configuration ⟨path.text, cause⟩) (Settings.read files path) ↔
        ¬ files.Defeats path fun text => ∃ d, Yaml.readDocument text = .error (.defect d)) ∧
      (FailsOnlyAs (fun cause => .manifest ⟨source, cause⟩) (Manifest.ofText source text) ↔
        ¬ ∃ d, Yaml.readDocument text = .error (.defect d)) ∧
      (FailsOnlyAs (fun cause => .manifest ⟨Library.manifestSource name, cause⟩)
          (Library.ofFiles name shipped).outcome ↔ ¬ Library.Defeats name shipped) ∧
      ∀ d, Yaml.readDocument text = .error (.defect d) → .broken (.defect d) ∈ Yaml.tokens text ∨
        ∃ tag scalar, Yaml.Writes (Yaml.tokens text) scalar ∧ Yaml.scalarOf tag scalar = .error (.defect d) := by
  refine ⟨?_, ?_, ?_, ?_, fun _ => Yaml.exists_origin_of_readDocument⟩
  · rw [← RuleDocument.read_eq_defect_iff]
    exact failsOnlyAs_iff (by simp) fun _ => RuleDocument.read_error
  · rw [← Settings.read_eq_defect_iff]
    exact failsOnlyAs_iff (by simp) fun _ => Settings.read_error
  · rw [failsOnlyAs_iff (by simp) fun _ => (Manifest.ofText_failsAsRead source text).error]
    simp only [Manifest.ofText_eq_defect_iff]
  · rw [← Library.ofFiles_eq_defect_iff]
    exact failsOnlyAs_iff (by simp) fun _ => Library.ofFiles_error

/-- A directory with one file whose only byte begins no character. -/
def strayByte : FileTree := ⟨[(["r.yaml"], .file ⟨#[0xFF]⟩)], []⟩

/-- The byte is a defect to a loader of rule documents and of settings, and a numeral without digits is one to a
loader of manifests. -/
theorem loaders_pass_defects_on :
    ¬ FailsOnlyAs (fun cause => .configuration ⟨"r.yaml", cause⟩)
        (RuleDocument.read 8 strayByte (.ofText "r.yaml")).outcome ∧
      ¬ FailsOnlyAs (fun cause => .configuration ⟨"r.yaml", cause⟩)
        (Settings.read strayByte (.ofText "r.yaml")) ∧
      ¬ FailsOnlyAs (fun cause => .manifest ⟨Library.manifestPath, cause⟩)
        (Manifest.ofText Library.manifestPath "a: 0x_") := by
  have hread : strayByte.read (.ofText "r.yaml") = .ok none :=
    FileTree.read_eq_none_iff.mpr ⟨⟨#[0xFF]⟩, rfl, by decide +kernel⟩
  have hmanifest : Manifest.ofText Library.manifestPath "a: 0x_" = .error (.defect (.integer 16 "")) :=
    Manifest.ofText_eq_defect_iff.mpr (failure?_eq_some.mp (by decide +kernel))
  refine ⟨fun h => ?_, fun h => ?_, fun h => ?_⟩
  · obtain ⟨cause, hcause⟩ := h _ (RuleDocument.outcome_read_of_bytes hread)
    simp at hcause
  · obtain ⟨cause, hcause⟩ := h (.defect .bytes) (by simp [Settings.read, hread])
    simp at hcause
  · obtain ⟨cause, hcause⟩ := h _ hmanifest
    simp at hcause

end TemplateRules

import TemplateRules.Proofs.Completeness
import TemplateRules.Proofs.ReplacementText
import TemplateRules.Proofs.Walk
import TemplateRules.Rule.Reading

/-!
# How reading a rule document fails

Reading a rule document is meant to fail with a configuration error that names the document, and with
nothing else. Three kinds of texts get past that: those with a scalar that cannot be read, those whose
offending keys have no common order, and those with a pattern rule whose pattern or group number is a
defect. There are no others: the comparison of the numbers of rules refuses nothing, and the problems
of a document are defects only through its pattern rules.

## Main definitions

* `Pattern.Unreadable`: digits that are no number that can be read
* `Replacement.Defeats`: a rule that validation cannot work with
* `RuleDocument.Escapes`: the texts that are refused with a defect

## Main results

* `Pattern.replacementPieces_eq_defect_iff`: the replacements whose reading is a defect
* `RuleDocument.problems_eq_error_iff`: the documents whose problems are a defect
* `RuleDocument.parse_refuses_iff`: reading fails with configuration errors only, unless a text escapes
-/

namespace TemplateRules

open Text

/-! ## Replacement texts -/

namespace Pattern

/-- Digits are no number that can be read: they are too many, or not all of them are decimal. -/
inductive Unreadable (most : Option Nat) (ds : List Char) : Defect → Prop
  | overlong {n : Nat} (hmost : most = some n) (hcount : n < (ds.takeWhile isDecimal).length) :
      Unreadable most ds (.digits (ds.takeWhile isDecimal).length)
  | notDecimal (hcount : ∀ n, most = some n → (ds.takeWhile isDecimal).length ≤ n)
      (hdecimal : ds.all isDecimal = false) : Unreadable most ds (.integer 10 (String.ofList ds))

variable {most : Option Nat} {groups : Nat} {names : List (String × Nat)}

theorem groupOfDigits_eq_defect_iff {ds : List Char} {d : Defect} :
    groupOfDigits most groups ds = .error (.defect d) ↔ Unreadable most ds d := by
  rw [groupOfDigits]
  cases hexcess : excess? most ds with
  | some count =>
    obtain ⟨n, rfl, rfl, hcount⟩ := excess?_eq_some_iff.mp hexcess
    constructor
    · intro h
      obtain rfl : Defect.digits (ds.takeWhile isDecimal).length = d := by simpa using h
      exact .overlong rfl hcount
    · rintro (⟨-, -⟩ | ⟨hle, -⟩)
      · rfl
      · exact absurd hcount (Nat.not_lt.mpr (hle n rfl))
  | none =>
    have hwithin := excess?_eq_none_iff.mp hexcess
    constructor
    · intro h
      cases hdecimal : ds.all isDecimal with
      | true =>
        rw [hdecimal] at h
        cases hfound : longestGroup? groups ds ds.length <;> simp [hfound] at h
      | false =>
        obtain rfl : Defect.integer 10 (String.ofList ds) = d := by simpa [hdecimal] using h
        exact .notDecimal hwithin hdecimal
    · rintro (⟨hmost, hcount⟩ | ⟨-, hdecimal⟩)
      · exact absurd hcount (Nat.not_lt.mpr (hwithin _ hmost))
      · simp [hdecimal]

theorem groupOfName_eq_defect_iff {name : List Char} {d : Defect} :
    groupOfName most groups names name = .error (.defect d) ↔
      isAllDigits name = true ∧ Unreadable most name d := by
  rw [← @groupOfDigits_eq_defect_iff most groups name d, groupOfName]
  cases isAllDigits name with
  | true =>
    cases groupOfDigits most groups name with
    | error fault => simp
    | ok found => cases hrest : found.2.isEmpty <;> simp [hrest]
  | false => cases names.lookup (String.ofList name) <;> simp

/-- A token is a defect if it refers to a group by a number that cannot be read. -/
theorem Mark.pieces_eq_defect_iff {mark : Mark} {d : Defect} :
    mark.pieces most groups names = .error (.defect d) ↔
      ∃ ds, mark.numeral? = some ds ∧ Unreadable most ds d := by
  cases mark with
  | char c => simp [Mark.pieces, Mark.numeral?]
  | escaped c => simp [Mark.pieces, Mark.numeral?]
  | digits ds => simp [Mark.pieces, Mark.numeral?, map_eq_error, groupOfDigits_eq_defect_iff]
  | name name => simp [Mark.pieces, Mark.numeral?, map_eq_error, groupOfName_eq_defect_iff]

/-- The first token of a replacement that does not go with the pattern. -/
theorem replacementPieces_eq_error_iff {cs : List Char} {fault : ReplacementFault} :
    replacementPieces most groups names cs = .error fault ↔
      ∃ before mark after, marks cs = before ++ mark :: after ∧
        (∀ m ∈ before, ∃ pieces, m.pieces most groups names = .ok pieces) ∧
        mark.pieces most groups names = .error fault := by
  rw [replacementPieces, map_eq_error, mapM_eq_error]

/-- Reading a replacement is a defect if the first token that does not go with the pattern refers to a
group by a number that cannot be read. -/
theorem replacementPieces_eq_defect_iff {cs : List Char} {d : Defect} :
    replacementPieces most groups names cs = .error (.defect d) ↔
      ∃ before mark after, marks cs = before ++ mark :: after ∧
        (∀ m ∈ before, ∃ pieces, m.pieces most groups names = .ok pieces) ∧
        ∃ ds, mark.numeral? = some ds ∧ Unreadable most ds d := by
  simp only [replacementPieces_eq_error_iff, Mark.pieces_eq_defect_iff]

end Pattern

/-! ## Rules -/

namespace Replacement

/-- Validation of a rule ends in a defect: its pattern has one, or its replacement refers to a group
by digits that are no number that can be read. -/
inductive Defeats (r : Replacement) : Defect → Prop
  | pattern {d : Defect} (hkind : r.kind = .pattern) (hfind : isAllBlank r.find = false)
      (hcompile : Pattern.compile r.find = .error (.defect d)) : r.Defeats d
  | group {p : Pattern} {before after : List Pattern.Mark} {mark : Pattern.Mark} {ds : List Char} {d : Defect}
      (hkind : r.kind = .pattern) (hfind : isAllBlank r.find = false)
      (hcompile : Pattern.compile r.find = .ok p)
      (hmarks : Pattern.marks r.replacement.toList = before ++ mark :: after)
      (hbefore : ∀ m ∈ before, ∃ pieces, m.pieces (some digitLimit) p.groups p.names = .ok pieces)
      (hnumeral : mark.numeral? = some ds) (hds : Pattern.Unreadable (some digitLimit) ds d) : r.Defeats d

theorem targetProblems_eq_error_iff {path : String} {r : Replacement} {d : Defect} :
    r.targetProblems path = .error d ↔ r.Defeats d := by
  constructor
  · intro h
    rw [targetProblems] at h
    cases hfind : isAllBlank r.find with
    | true => simp [hfind] at h
    | false =>
      cases hkind : r.kind with
      | literal => simp [hfind, hkind] at h
      | pattern =>
        cases hcompile : Pattern.compile r.find with
        | error fault =>
          cases fault with
          | malformed m => simp [hfind, hkind, hcompile] at h
          | defect d' =>
            obtain rfl : d' = d := by simpa [hfind, hkind, hcompile] using h
            exact .pattern hkind hfind hcompile
        | ok p =>
          cases hpieces : Pattern.replacementPieces (some digitLimit) p.groups p.names r.replacement.toList with
          | ok pieces => simp [hfind, hkind, hcompile, hpieces] at h
          | error fault =>
            cases fault with
            | defect d' =>
              obtain rfl : d' = d := by simpa [hfind, hkind, hcompile, hpieces] using h
              obtain ⟨before, mark, after, hmarks, hbefore, ds, hnumeral, hds⟩ :=
                Pattern.replacementPieces_eq_defect_iff.mp hpieces
              exact .group hkind hfind hcompile hmarks hbefore hnumeral hds
            | _ => simp [hfind, hkind, hcompile, hpieces] at h
  · rintro (⟨hkind, hfind, hcompile⟩ |
      ⟨hkind, hfind, hcompile, hmarks, hbefore, hnumeral, hds⟩)
    · simp [targetProblems, hkind, hfind, hcompile]
    · have hpieces := Pattern.replacementPieces_eq_defect_iff.mpr
        ⟨_, _, _, hmarks, hbefore, _, hnumeral, hds⟩
      simp [targetProblems, hkind, hfind, hcompile, hpieces]

/-- The problems of a chain are a defect if those of one of its rules are. -/
theorem chainProblems_eq_error_iff {path : String} {rules : List Replacement} :
    (∃ d, chainProblems path rules = .error d) ↔ ∃ r ∈ rules, ∃ d, r.Defeats d := by
  induction rules generalizing path with
  | nil => simp [chainProblems]
  | cons r rules ih =>
    have hfirst : (∃ d, r.Defeats d) ↔ ∃ d, r.targetProblems path = .error d := by
      simp only [targetProblems_eq_error_iff]
    rw [List.exists_mem_cons_iff, ← @ih (fallbackPath path), hfirst, chainProblems]
    cases r.targetProblems path with
    | error d => simp
    | ok target => cases chainProblems (fallbackPath path) rules <;> simp

end Replacement

/-! ## Mismatches -/

namespace Structure

/-- The choice among mismatches fails at the first one that has no order with the best before it, which
is as near to the root. -/
theorem bestOf_eq_error_iff {best : Located} {ms : List Located} {d : Defect} :
    bestOf best ms = .error d ↔
      d = .unorderedKeys ∧ ∃ before m after b, ms = before ++ m :: after ∧
        bestOf best before = .ok b ∧ m.1.length = b.1.length ∧ pathAfter? m.1 b.1 = none := by
  induction ms generalizing best with
  | nil => simp [bestOf]
  | cons m ms ih =>
    rw [bestOf, bind_eq_error]
    constructor
    · rintro (h | ⟨better, hbetter, h⟩)
      · rw [isBetter] at h
        split at h
        · simp at h
        · rename_i hlength
          split at h
          · simp at h
          · rename_i hnone
            exact ⟨(Except.error.inj h).symm, [], m, ms, best, rfl, rfl, by simpa using hlength, hnone⟩
      · obtain ⟨hd, before, m', after, b, rfl, hb, hlength, hnone⟩ := ih.mp h
        refine ⟨hd, m :: before, m', after, b, rfl, ?_, hlength, hnone⟩
        rw [bestOf, hbetter]
        exact hb
    · rintro ⟨rfl, _ | ⟨m', before⟩, m'', after, b, hsplit, hb, hlength, hnone⟩
      · obtain ⟨rfl, rfl⟩ : m = m'' ∧ ms = after := by simpa using hsplit
        obtain rfl := Except.ok.inj hb
        exact .inl (by simp [isBetter, hlength, hnone])
      · obtain ⟨rfl, rfl⟩ : m = m' ∧ ms = before ++ m'' :: after := by simpa using hsplit
        obtain ⟨better, hbetter, hb⟩ := bind_eq_ok.mp hb
        exact .inr ⟨better, hbetter, ih.mpr ⟨rfl, before, m'', after, b, rfl, hb, hlength, hnone⟩⟩

theorem check_eq_defect_iff {g : Graph} {limit : Int} {source : String} {root : Ref} {d : Defect} :
    check g.view limit source root = .error (.defect d) ↔ walk g.view limit root = .ok () ∧
      ∃ m ms, mismatches g.view (shapeDepth limit) (.form .document) root = m :: ms ∧
        bestOf m ms = .error d := by
  rw [check]
  cases walk g.view limit root with
  | error cause => simp
  | ok _ =>
    cases mismatches g.view (shapeDepth limit) (.form .document) root with
    | nil => simp
    | cons m ms => cases hbest : bestOf m ms <;> simp [hbest]

/-- A document that the check refuses is refused by its name, unless there is a defect. -/
theorem check_error {g : Graph} {limit : Int} {source : String} {root : Ref} {f : Failure}
    (h : check g.view limit source root = .error f) :
    (∃ cause, f = .configuration ⟨source, cause⟩) ∨ ∃ defect, f = .defect defect := by
  rw [check] at h
  split at h
  · exact .inl ⟨_, (Except.error.inj h).symm⟩
  · split at h
    · simp at h
    · split at h
      · exact .inr ⟨_, (Except.error.inj h).symm⟩
      · exact .inl ⟨_, (Except.error.inj h).symm⟩

end Structure

/-! ## Documents -/

namespace RuleDocument

/-- The problems of a document are a defect if one of its replacements, at any level of its chain,
defeats validation. -/
theorem problems_eq_error_iff {d : RuleDocument} :
    (∃ defect, d.problems = .error defect) ↔
      ∃ c ∈ d.replacements, ∃ r ∈ c.rules, ∃ defect, r.Defeats defect := by
  have hmapM : (∃ defect, d.problems = .error defect) ↔
      ∃ defect, (d.replacements.zipIdx.mapM fun e =>
        Replacement.chainProblems (itemPath "replacements" e.2) e.1.rules) = .error defect := by
    simp [problems, bind_eq_error]
  rw [hmapM, exists_mapM_eq_error]
  constructor
  · rintro ⟨⟨c, i⟩, hmem, hdefect⟩
    exact ⟨c, List.fst_mem_of_mem_zipIdx hmem, Replacement.chainProblems_eq_error_iff.mp hdefect⟩
  · rintro ⟨c, hmem, hdefeats⟩
    obtain ⟨i, hi⟩ := List.mem_iff_getElem?.mp hmem
    exact ⟨(c, i), List.mk_mem_zipIdx_iff_getElem?.mpr hi,
      Replacement.chainProblems_eq_error_iff.mpr hdefeats⟩

open Structure in
/-- The texts whose reading ends in a defect: a scalar cannot be read; two mismatches that are equally
near to the root have no order; or a rule of a document that is otherwise well formed defeats
validation. -/
inductive Escapes (limit : Int) (text : String) : Prop
  | scalar {d : Defect} (hread : Yaml.readDocument text = .error (.defect d))
  | order {g : Graph} {root : Ref} {first m b : Located} {before after : List Located}
      (hread : Yaml.readDocument text = .ok (g, root)) (hwalk : walk g.view limit root = .ok ())
      (hshape : mismatches g.view (shapeDepth limit) (.form .document) root =
        first :: (before ++ m :: after))
      (hbest : bestOf first before = .ok b) (hlength : m.1.length = b.1.length)
      (hnone : pathAfter? m.1 b.1 = none)
  | rule {g : Graph} {root : Ref} {d : RuleDocument} {c : Chain Replacement} {r : Replacement}
      {defect : Defect} (hread : Yaml.readDocument text = .ok (g, root))
      (hwalk : walk g.view limit root = .ok ())
      (hshape : mismatches g.view (shapeDepth limit) (.form .document) root = [])
      (hbound : ofValue (g.unfold root) = .ok d) (hc : c ∈ d.replacements) (hr : r ∈ c.rules)
      (hdefeats : r.Defeats defect)

/-- A document that is bound is refused because of its problems or not at all. -/
theorem ofGraph_of_bound {g : Graph} {root : Ref} {limit : Int} {source : String} {d : RuleDocument}
    (hcheck : Structure.check g.view limit source root = .ok ())
    (hbound : ofValue (g.unfold root) = .ok d) :
    ofGraph limit source g root = (d.checkProblems source).map fun _ => d := by
  rw [ofGraph, hcheck, ok_bind, hbound]
  simp only [checkCompleteness_of_ofValue hbound, ok_bind]
  cases d.checkProblems source <;> rfl

theorem checkProblems_eq_defect_iff {d : RuleDocument} {source : String} {defect : Defect} :
    d.checkProblems source = .error (.defect defect) ↔ d.problems = .error defect := by
  rw [checkProblems]
  split <;> simp_all [refusal]

theorem ofGraph_eq_defect_iff {g : Graph} {root : Ref} {limit : Int} {source : String}
    {defect : Defect} : ofGraph limit source g root = .error (.defect defect) ↔
      Structure.check g.view limit source root = .error (.defect defect) ∨
        ∃ d, Structure.check g.view limit source root = .ok () ∧ ofValue (g.unfold root) = .ok d ∧
          d.problems = .error defect := by
  cases hcheck : Structure.check g.view limit source root with
  | error f => simp [ofGraph, hcheck]
  | ok _ =>
    cases hbound : ofValue (g.unfold root) with
    | error ps => simp [ofGraph, hcheck, hbound, refusal]
    | ok d => simp [ofGraph_of_bound hcheck hbound, map_eq_error, checkProblems_eq_defect_iff]

theorem checkProblems_eq_ok_iff {d : RuleDocument} {source : String} :
    d.checkProblems source = .ok () ↔ d.problems = .ok [] := by
  rw [checkProblems]
  split <;> simp_all [refusal]

theorem ofGraph_eq_ok_iff {g : Graph} {root : Ref} {limit : Int} {source : String} {d : RuleDocument} :
    ofGraph limit source g root = .ok d ↔ Structure.check g.view limit source root = .ok () ∧
      ofValue (g.unfold root) = .ok d ∧ d.problems = .ok [] := by
  cases hcheck : Structure.check g.view limit source root with
  | error f => simp [ofGraph, hcheck]
  | ok _ =>
    cases hbound : ofValue (g.unfold root) with
    | error ps => simp [ofGraph, hcheck, hbound, refusal]
    | ok d' =>
      rw [ofGraph_of_bound hcheck hbound, map_eq_ok]
      constructor
      · rintro ⟨⟨⟩, hproblems, rfl⟩
        exact ⟨rfl, rfl, checkProblems_eq_ok_iff.mp hproblems⟩
      · rintro ⟨-, h, hproblems⟩
        obtain rfl := Except.ok.inj h
        exact ⟨(), checkProblems_eq_ok_iff.mpr hproblems, rfl⟩

/-- What a text that can be read has passed. -/
theorem ofText_eq_ok_iff {limit : Int} {source text : String} {d : RuleDocument} :
    ofText limit source text = .ok d ↔ ∃ g root, Yaml.readDocument text = .ok (g, root) ∧
      Structure.check g.view limit source root = .ok () ∧ ofValue (g.unfold root) = .ok d ∧
        d.problems = .ok [] := by
  rw [ofText]
  split
  · simp [*, refusal]
  · simp [*]
  · simp [*, ofGraph_eq_ok_iff]

/-- Reading a text ends in a defect for the texts that escape. -/
theorem ofText_eq_defect_iff {limit : Int} {source text : String} :
    (∃ defect, ofText limit source text = .error (.defect defect)) ↔ Escapes limit text := by
  constructor
  · rintro ⟨defect, h⟩
    rw [ofText] at h
    split at h
    · simp [refusal] at h
    · rename_i d hread
      exact .scalar hread
    · rename_i g root hread
      rcases ofGraph_eq_defect_iff.mp h with h | ⟨d, hcheck, hbound, h⟩
      · obtain ⟨hwalk, m, ms, hshape, hbest⟩ := Structure.check_eq_defect_iff.mp h
        obtain ⟨-, before, m', after, b, rfl, hb, hlength, hnone⟩ :=
          Structure.bestOf_eq_error_iff.mp hbest
        exact .order hread hwalk hshape hb hlength hnone
      · obtain ⟨hwalk, hshape⟩ := Structure.check_eq_ok_iff.mp hcheck
        obtain ⟨c, hc, r, hr, defect, hdefeats⟩ := problems_eq_error_iff.mp ⟨defect, h⟩
        exact .rule hread hwalk hshape hbound hc hr hdefeats
  · intro h
    cases h with
    | scalar hread => exact ⟨_, by rw [ofText, hread]⟩
    | @order g root _ _ _ _ _ hread hwalk hshape hbest hlength hnone =>
      have hcheck : Structure.check g.view limit source root = .error (.defect .unorderedKeys) :=
        Structure.check_eq_defect_iff.mpr ⟨hwalk, _, _, hshape,
          Structure.bestOf_eq_error_iff.mpr ⟨rfl, _, _, _, _, rfl, hbest, hlength, hnone⟩⟩
      refine ⟨.unorderedKeys, ?_⟩
      rw [ofText, hread]
      exact ofGraph_eq_defect_iff.mpr (.inl hcheck)
    | rule hread hwalk hshape hbound hc hr hdefeats =>
      obtain ⟨defect, hproblems⟩ := problems_eq_error_iff.mpr ⟨_, hc, _, hr, _, hdefeats⟩
      refine ⟨defect, ?_⟩
      rw [ofText, hread]
      exact ofGraph_eq_defect_iff.mpr
        (.inr ⟨_, Structure.check_eq_ok_iff.mpr ⟨hwalk, hshape⟩, hbound, hproblems⟩)

/-- Reading a text fails with a configuration error that names the document, or with a defect. -/
theorem ofText_error {limit : Int} {source text : String} {f : Failure}
    (h : ofText limit source text = .error f) :
    (∃ cause, f = .configuration ⟨source, cause⟩) ∨ ∃ defect, f = .defect defect := by
  rw [ofText] at h
  split at h
  · exact .inl ⟨_, (Except.error.inj h).symm⟩
  · exact .inr ⟨_, (Except.error.inj h).symm⟩
  · rename_i g root hread
    cases hcheck : Structure.check g.view limit source root with
    | error e =>
      obtain rfl : e = f := by simpa [ofGraph, hcheck] using h
      exact Structure.check_error hcheck
    | ok _ =>
      cases hbound : ofValue (g.unfold root) with
      | error ps => exact .inl ⟨_, by simpa [ofGraph, hcheck, hbound, refusal, eq_comm] using h⟩
      | ok d =>
        rw [ofGraph_of_bound hcheck hbound, map_eq_error, checkProblems] at h
        split at h
        · exact .inr ⟨_, (Except.error.inj h).symm⟩
        · simp at h
        · exact .inl ⟨_, (Except.error.inj h).symm⟩

theorem outcome_parse (limit : Int) (source text : String) :
    (parse limit source text).outcome = ofText limit source text := by
  simp only [parse, Attempt.outcome_bind, Attempt.outcome_liftM]
  cases ofText limit source text <;> simp

/-- A document that is read and passes a test, which a computation can tell. -/
theorem exists_parse_of_any {limit : Int} {source text : String} {test : RuleDocument → Bool}
    (h : (ofText limit source text).toOption.any test = true) :
    ∃ d, (parse limit source text).outcome = .ok d ∧ test d = true := by
  obtain ⟨d, hd, htest⟩ := (Option.any_eq_true ..).mp h
  exact ⟨d, (outcome_parse ..).trans (toOption_eq_some.mp hd), htest⟩

/-- **Reading fails only with configuration errors, unless a text escapes.** Whatever the limit and the
name of the document, each failure is a configuration error that names it exactly if the text has no
scalar that cannot be read, no offending keys without an order, and no pattern rule that defeats
validation. -/
theorem parse_refuses_iff (limit : Int) (source text : String) :
    (∀ f, (parse limit source text).outcome = .error f → ∃ cause, f = .configuration ⟨source, cause⟩) ↔
      ¬ Escapes limit text := by
  rw [outcome_parse, ← ofText_eq_defect_iff]
  constructor
  · rintro h ⟨defect, hdefect⟩
    obtain ⟨cause, hcause⟩ := h _ hdefect
    simp at hcause
  · intro h f hf
    rcases ofText_error hf with hcause | ⟨defect, rfl⟩
    · exact hcause
    · exact absurd ⟨defect, hf⟩ h

/-- A hexadecimal prefix with nothing but a separator after it is a whole number to the notation, and no
number at all when it is read. -/
theorem parse_of_bare_prefix_is_defect :
    ¬ ∀ f, (parse 8 "<string>" "a: 0x_").outcome = .error f →
      ∃ cause, f = .configuration ⟨"<string>", cause⟩ := by
  have hdefect : failure? (ofText 8 "<string>" "a: 0x_") = some (.defect (.integer 16 "")) := by
    decide +kernel
  intro h
  obtain ⟨cause, hcause⟩ := h _ (by rw [outcome_parse, failure?_eq_some.mp hdefect])
  simp at hcause

end RuleDocument

end TemplateRules

import TemplateRules.Proofs.Occurrences
import TemplateRules.Proofs.Segments
import TemplateRules.Proofs.WellFormed

/-!
# Unsafe content

Validation keeps unsafe markers out of what a document puts into templates: out of every content as it is
written, and out of the text of every partial. What is put into a template is the content with its partials
expanded, and there a marker may come about that neither the content nor any partial holds, where one of
its parts stands on one side of an edge of a partial and the rest on the other side. In a document that has
been read the expanded content holds a marker in this way or not at all.

## Main definitions

* `RuleDocument.contents`: what a document puts into templates, as it is written
* `Partials.Straddles`: a word stands across an edge of a partial in expanded content

## Main results

* `Partials.infix_expanded_iff`: a word that is neither written nor in a partial is in expanded content
  exactly if it straddles an edge
* `RuleDocument.safe_of_problems`: what validation establishes for contents and partials
* `RuleDocument.holdsMarker_expanded_iff`: when expanded content holds an unsafe marker
-/

namespace TemplateRules

open Text

/-! ## Words across an edge of a partial -/

namespace Partials

/-- A word begins before a border and ends behind it, without regard to case. -/
def Crosses (word before after : List Char) : Prop :=
  ∃ m n, m ≠ [] ∧ n ≠ [] ∧ word = m ++ n ∧ m <:+ lowerChars before ∧ n <+: lowerChars after

/-- The characters of expanded segments. -/
def expandedChars (partials : List (String × String)) (segments : List Segment) : List Char :=
  segments.flatMap (Segment.expansion partials)

/-- A word stands across the edge of a partial in expanded segments: across the one where the partial
begins or the one where it ends. -/
def Straddles (partials : List (String × String)) (word : List Char) (segments : List Segment) : Prop :=
  ∃ before s after body, segments = before ++ s :: after ∧ s.body? partials = some body ∧
    (Crosses word (expandedChars partials before) (body.toList ++ expandedChars partials after) ∨
      Crosses word (expandedChars partials before ++ body.toList) (expandedChars partials after))

section Words

variable {partials : List (String × String)} {word : List Char}

theorem crosses_iff (hword : ∀ c ∈ word, c.toNat < 0x80) {before after : List Char} :
    Crosses word before after ↔
      ∃ m n, m ≠ [] ∧ n ≠ [] ∧ word = m ++ n ∧ m <:+ letters before ∧ n <+: letters after := by
  have hparts : ∀ m n, word = m ++ n →
      (m <:+ lowerChars before ∧ n <+: lowerChars after ↔
        m <:+ letters before ∧ n <+: letters after) := by
    rintro m n rfl
    rw [suffix_lowerChars_iff fun c hc => hword c (List.mem_append_left n hc),
      prefix_lowerChars_iff fun c hc => hword c (List.mem_append_right m hc)]
  constructor
  · rintro ⟨m, n, hm, hn, heq, h⟩
    exact ⟨m, n, hm, hn, heq, (hparts m n heq).mp h⟩
  · rintro ⟨m, n, hm, hn, heq, h⟩
    exact ⟨m, n, hm, hn, heq, (hparts m n heq).mpr h⟩

/-- A word occurs on either side of a border or across it. -/
theorem infix_letters_append_iff (hword : ∀ c ∈ word, c.toNat < 0x80) {before after : List Char} :
    word <:+: letters (before ++ after) ↔
      word <:+: letters before ∨ word <:+: letters after ∨ Crosses word before after := by
  rw [letters_append, List.infix_append_iff_ne_nil, crosses_iff hword]

/-- More text before a border or behind it is no hindrance to a word across it. -/
theorem Crosses.extend (hword : ∀ c ∈ word, c.toNat < 0x80) {before after : List Char}
    (h : Crosses word before after) (start finish : List Char) :
    Crosses word (start ++ before) (after ++ finish) := by
  obtain ⟨m, n, hm, hn, heq, hbefore, hafter⟩ := (crosses_iff hword).mp h
  refine (crosses_iff hword).mpr ⟨m, n, hm, hn, heq, ?_, ?_⟩
  · rw [letters_append]
    exact hbefore.trans (List.suffix_append _ _)
  · rw [letters_append]
    exact hafter.trans (List.prefix_append _ _)

@[simp] theorem expandedChars_append (xs ys : List Segment) :
    expandedChars partials (xs ++ ys) = expandedChars partials xs ++ expandedChars partials ys :=
  List.flatMap_append

@[simp] theorem expandedChars_cons (s : Segment) (segments : List Segment) :
    expandedChars partials (s :: segments) = s.expansion partials ++ expandedChars partials segments :=
  List.flatMap_cons

/-- A word stands across the edge of a partial in expanded segments that stand behind other text. -/
def StraddlesBehind (partials : List (String × String)) (word start : List Char)
    (segments : List Segment) : Prop :=
  ∃ before s after body, segments = before ++ s :: after ∧ s.body? partials = some body ∧
    (Crosses word (start ++ expandedChars partials before) (body.toList ++ expandedChars partials after) ∨
      Crosses word (start ++ expandedChars partials before ++ body.toList) (expandedChars partials after))

namespace StraddlesBehind

variable {start : List Char} {s : Segment} {segments : List Segment} {body : String}

theorem nil_iff : StraddlesBehind partials word [] segments ↔ Straddles partials word segments := Iff.rfl

/-- The word begins before the first partial and ends in it or behind it. -/
theorem of_crosses_into (hbody : s.body? partials = some body)
    (h : Crosses word start (body.toList ++ expandedChars partials segments)) :
    StraddlesBehind partials word start (s :: segments) :=
  ⟨[], s, segments, body, rfl, hbody, .inl (by simpa [expandedChars] using h)⟩

/-- The word begins in the first partial and ends behind it. -/
theorem of_crosses_out (hword : ∀ c ∈ word, c.toNat < 0x80) (hbody : s.body? partials = some body)
    (h : Crosses word body.toList (expandedChars partials segments)) :
    StraddlesBehind partials word start (s :: segments) :=
  ⟨[], s, segments, body, rfl, hbody,
    .inr (by simpa [expandedChars] using h.extend hword start [])⟩

/-- More text in front is no hindrance. -/
theorem extend (hword : ∀ c ∈ word, c.toNat < 0x80) (h : StraddlesBehind partials word start segments)
    (more : List Char) : StraddlesBehind partials word (more ++ start) segments := by
  obtain ⟨before, s, after, body, hsplit, hbody, hcross⟩ := h
  refine ⟨before, s, after, body, hsplit, hbody, ?_⟩
  rcases hcross with hcross | hcross
  · left
    simpa using hcross.extend hword more []
  · right
    simpa using hcross.extend hword more []

/-- A segment may as well be part of the text in front. -/
theorem cons (h : StraddlesBehind partials word (start ++ s.expansion partials) segments) :
    StraddlesBehind partials word start (s :: segments) := by
  obtain ⟨before, t, after, body, rfl, hbody, hcross⟩ := h
  refine ⟨s :: before, t, after, body, rfl, hbody, ?_⟩
  simpa only [expandedChars_cons, List.append_assoc] using hcross

/-- A word in expanded segments that stand behind other text, but neither in the text and the segments as they
are written nor in a partial, stands across an edge of a partial. The induction is on the segments; those that
stay as they are written join the text in front. -/
theorem of_isInfix (hword : ∀ c ∈ word, c.toNat < 0x80)
    (hbodies : ∀ name body, partials.lookup name = some body → ¬ word <:+: letters body.toList)
    (hwritten : ¬ word <:+: letters (start ++ segments.flatMap Segment.written))
    (h : word <:+: letters (start ++ expandedChars partials segments)) :
    StraddlesBehind partials word start segments := by
  induction segments generalizing start with
  | nil => exact absurd h hwritten
  | cons s segments ih =>
    rw [List.flatMap_cons] at hwritten
    rw [expandedChars_cons] at h
    cases hbody : s.body? partials with
    | none =>
      have hexpansion := Segment.expansion_of_body?_eq_none hbody
      refine cons (ih ?_ ?_)
      · rwa [hexpansion, List.append_assoc]
      · rwa [List.append_assoc]
    | some body =>
      rw [Segment.expansion_of_body? hbody] at h
      have hstart : ¬ word <:+: letters start := fun hin => hwritten (by
        rw [letters_append]
        exact hin.trans (List.prefix_append _ _).isInfix)
      have hpartial : ¬ word <:+: letters body.toList := by
        cases s with
        | char c => simp [Segment.body?] at hbody
        | marker inside => exact hbodies _ body hbody
      have hrest : ¬ word <:+: letters ([] ++ segments.flatMap Segment.written) := fun hin =>
        hwritten (by
          rw [letters_append, letters_append]
          exact hin.trans ((List.suffix_append _ _).trans (List.suffix_append _ _)).isInfix)
      rcases (infix_letters_append_iff hword).mp h with hin | hin | hfirst
      · exact absurd hin hstart
      · rcases (infix_letters_append_iff hword).mp hin with hin | hin | hsecond
        · exact absurd hin hpartial
        · have hfurther := (ih hrest hin).extend hword (start ++ s.expansion partials)
          rw [List.append_nil] at hfurther
          exact cons hfurther
        · exact of_crosses_out hword hbody hsecond
      · exact of_crosses_into hbody hfirst

end StraddlesBehind

/-- In content that does not hold a word, with partials that do not hold it, expansion brings the word in
across the edge of a partial or not at all. -/
theorem infix_expanded_iff (hword : ∀ c ∈ word, c.toNat < 0x80)
    (hbodies : ∀ name body, partials.lookup name = some body → ¬ word <:+: lowerChars body.toList)
    {content : String} (hcontent : ¬ word <:+: lowerChars content.toList) :
    word <:+: lowerChars (expanded content partials).toList ↔
      Straddles partials word (segments content) := by
  rw [toList_expanded, infix_lowerChars_iff hword]
  constructor
  · intro h
    refine StraddlesBehind.nil_iff.mp (.of_isInfix hword (fun name body hlookup hin => ?_) ?_ h)
    · exact hbodies name body hlookup ((infix_lowerChars_iff hword).mpr hin)
    · rw [List.nil_append, written_segments, ← infix_lowerChars_iff hword]
      exact hcontent
  · rintro ⟨before, s, after, body, hsplit, hbody, hcross⟩
    have hchars : expandedChars partials (segments content) =
        expandedChars partials before ++ (body.toList ++ expandedChars partials after) := by
      rw [hsplit, expandedChars_append, expandedChars_cons, Segment.expansion_of_body? hbody]
    rw [expandedChars] at hchars
    rw [hchars]
    rcases hcross with hcross | hcross
    · exact (infix_letters_append_iff hword).mpr (.inr (.inr hcross))
    · rw [← List.append_assoc]
      exact (infix_letters_append_iff hword).mpr (.inr (.inr hcross))

end Words

end Partials

/-! ## Contents without markers -/

/-- Content that holds no unsafe marker. -/
def IsSafe (content : String) : Prop := ∀ marker ∈ unsafeMarkers, holdsMarker content marker = false

theorem holdsMarker_iff {content marker : String} :
    holdsMarker content marker = true ↔ (lower marker).toList <:+: lowerChars content.toList := by
  rw [holdsMarker, contains, occursIn_iff, lower, lower, String.toList_ofList, String.toList_ofList]

/-- The markers are written in seven-bit characters. -/
theorem sevenBit_of_mem_unsafeMarkers {marker : String} (h : marker ∈ unsafeMarkers) :
    ∀ c ∈ (lower marker).toList, c.toNat < 0x80 := by
  have hall : (unsafeMarkers.all fun marker => (lower marker).toList.all fun c => c.toNat < 0x80) = true := by
    decide
  simp only [List.all_eq_true, decide_eq_true_eq] at hall
  exact hall marker h

theorem unsafeProblems_eq_nil_iff {path content : String} :
    unsafeProblems path content = [] ↔ IsSafe content := by
  simp [unsafeProblems, IsSafe, List.filter_eq_nil_iff]

theorem Insertion.isSafe_of_chainProblems {path : String} {rules : List Insertion}
    (h : chainProblems path rules = []) : ∀ i ∈ rules, IsSafe i.content := by
  induction rules generalizing path with
  | nil => simp
  | cons i rules ih =>
    simp only [chainProblems, List.append_eq_nil_iff] at h
    exact List.forall_mem_cons.mpr ⟨unsafeProblems_eq_nil_iff.mp h.2, ih h.1.2⟩

theorem Replacement.isSafe_of_chainProblems {path : String} {rules : List Replacement}
    (h : chainProblems path rules = .ok []) : ∀ r ∈ rules, IsSafe r.replacement := by
  induction rules generalizing path with
  | nil => simp
  | cons r rules ih =>
    rw [chainProblems] at h
    obtain ⟨target, -, h⟩ := bind_eq_ok.mp h
    obtain ⟨rest, hrest, h⟩ := bind_eq_ok.mp h
    simp only [pure_eq_ok, Except.ok.injEq, List.append_eq_nil_iff] at h
    obtain ⟨⟨⟨-, rfl⟩, -⟩, hsafe⟩ := h
    exact List.forall_mem_cons.mpr ⟨unsafeProblems_eq_nil_iff.mp hsafe, ih hrest⟩

theorem SmartReplacement.isSafe_of_problems {path : String} {r : SmartReplacement}
    (h : r.problems path = []) : IsSafe r.replacement := by
  rw [problems, List.append_eq_nil_iff] at h
  exact unsafeProblems_eq_nil_iff.mp h.2

theorem SmartInsertion.isSafe_of_problems {path : String} {i : SmartInsertion}
    (h : i.problems path = []) : IsSafe i.content ∧ ∀ f ∈ i.fallbacks, IsSafe f.content := by
  rw [problems, List.append_eq_nil_iff, List.append_eq_nil_iff] at h
  exact ⟨unsafeProblems_eq_nil_iff.mp h.2, Insertion.isSafe_of_chainProblems h.1.2⟩

theorem isSafe_of_partialProblems {name body : String} (h : partialProblems name body = []) :
    IsSafe body := by
  rw [partialProblems] at h
  split at h
  · simp at h
  · exact unsafeProblems_eq_nil_iff.mp (List.append_eq_nil_iff.mp h).2

/-! ## Documents -/

namespace RuleDocument

/-- What a document puts into templates, as it is written: the content or the replacement of every rule,
fallbacks included. -/
def contents (d : RuleDocument) : List String :=
  d.insertions.flatMap (fun c => c.rules.map Insertion.content)
    ++ d.replacements.flatMap (fun c => c.rules.map Replacement.replacement)
    ++ d.smartReplacements.map SmartReplacement.replacement
    ++ d.smartInsertions.flatMap fun i => i.content :: i.fallbacks.map Insertion.content

/-- A document without problems holds no marker in what it puts into templates, as it is written, nor in a
partial. -/
theorem safe_of_problems {d : RuleDocument} (h : d.problems = .ok []) :
    (∀ content ∈ d.contents, IsSafe content) ∧ ∀ e ∈ d.partials, IsSafe e.2 := by
  obtain ⟨hinsertions, hreplacements, hsmartReplacements, hsmartInsertions, hpartials⟩ :=
    parts_of_problems h
  refine ⟨fun content hcontent => ?_, fun e he => isSafe_of_partialProblems (hpartials e he)⟩
  simp only [contents, List.mem_append, List.mem_flatMap, List.mem_map, List.mem_cons] at hcontent
  rcases hcontent with ((⟨c, hc, i, hi, rfl⟩ | ⟨c, hc, r, hr, rfl⟩) | ⟨r, hr, rfl⟩) |
    ⟨i, hi, rfl | ⟨f, hf, rfl⟩⟩
  · obtain ⟨_, hp⟩ := hinsertions c hc
    exact Insertion.isSafe_of_chainProblems hp i hi
  · obtain ⟨_, hp⟩ := hreplacements c hc
    exact Replacement.isSafe_of_chainProblems hp r hr
  · obtain ⟨_, hp⟩ := hsmartReplacements r hr
    exact SmartReplacement.isSafe_of_problems hp
  · obtain ⟨_, hp⟩ := hsmartInsertions i hi
    exact (SmartInsertion.isSafe_of_problems hp).1
  · obtain ⟨_, hp⟩ := hsmartInsertions i hi
    exact (SmartInsertion.isSafe_of_problems hp).2 f hf

/-- **Expanded content holds a marker across the edge of a partial or not at all.** Of a document that has
been read, whatever a rule puts into a template, with its partials expanded, holds an unsafe marker
exactly if the marker begins before an edge of a partial and ends behind it. -/
theorem holdsMarker_expanded_iff {limit : Int} {source text : String} {d : RuleDocument}
    (hparse : (parse limit source text).outcome = .ok d) :
    ∀ content ∈ d.contents, ∀ marker ∈ unsafeMarkers,
      (holdsMarker (Partials.expanded content d.partials) marker = true ↔
        Partials.Straddles d.partials (lower marker).toList (Partials.segments content)) := by
  rw [outcome_parse] at hparse
  obtain ⟨-, -, -, -, -, hproblems⟩ := ofText_eq_ok_iff.mp hparse
  obtain ⟨hcontents, hpartials⟩ := safe_of_problems hproblems
  intro content hcontent marker hmarker
  have hsafe : ∀ s, IsSafe s → ¬ (lower marker).toList <:+: lowerChars s.toList := by
    intro s hs hin
    have hheld := holdsMarker_iff.mpr hin
    rw [hs marker hmarker] at hheld
    exact Bool.false_ne_true hheld
  rw [holdsMarker_iff]
  refine Partials.infix_expanded_iff (sevenBit_of_mem_unsafeMarkers hmarker)
    (fun name body hlookup => ?_) (hsafe content (hcontents content hcontent))
  obtain ⟨before, after, hsplit, -⟩ := List.lookup_eq_some_iff.mp hlookup
  exact hsafe body (hpartials (name, body) (by simp [hsplit]))

/-- A document whose only insertion begins a marker that a partial completes. -/
def splitMarker : String :=
  "partials:\n  p: script\ninsertions:\n- at: start\n  content: '<\x7b\x7b>p\x7d\x7d'\n"

/-- The document is accepted, and what its insertion puts into a template holds a marker. -/
theorem exists_splitMarker : ∃ d, (parse 8 "<string>" splitMarker).outcome = .ok d ∧
    ∃ content ∈ d.contents, holdsMarker (Partials.expanded content d.partials) "<script" = true := by
  obtain ⟨d, hd, hholds⟩ : ∃ d, (parse 8 "<string>" splitMarker).outcome = .ok d ∧
      (d.contents.any fun content => holdsMarker (Partials.expanded content d.partials) "<script") = true :=
    exists_parse_of_any (by decide +kernel)
  exact ⟨d, hd, List.any_eq_true.mp hholds⟩

theorem holdsMarker_splitMarker_iff : ∃ d, (parse 8 "<string>" splitMarker).outcome = .ok d ∧
    ∀ content ∈ d.contents, ∀ marker ∈ unsafeMarkers,
      (holdsMarker (Partials.expanded content d.partials) marker = true ↔
        Partials.Straddles d.partials (lower marker).toList (Partials.segments content)) := by
  obtain ⟨d, hd, -⟩ := exists_splitMarker
  exact ⟨d, hd, holdsMarker_expanded_iff hd⟩

/-- The content holds the beginning of a marker and the partial the rest of it: the document is accepted,
and the expanded content is unsafe. -/
theorem not_isSafe_expanded_splitMarker :
    ¬ ∀ d, (parse 8 "<string>" splitMarker).outcome = .ok d →
      ∀ content ∈ d.contents, IsSafe (Partials.expanded content d.partials) := by
  intro h
  obtain ⟨d, hd, content, hcontent, hholds⟩ := exists_splitMarker
  have hsafe := h d hd content hcontent "<script" (by decide)
  rw [hholds] at hsafe
  exact Bool.noConfusion hsafe

end RuleDocument

end TemplateRules

import TemplateRules.Proofs.Outcome
import TemplateRules.Yaml.Document

/-!
# Where the defects of documents come from

A text that is no document is refused, and so is one whose nodes do not fit together. A defect is another matter: a
token may have one, and a scalar that its tag reads may have one, but no step in between makes any. The steps that
compose the nodes and those that build values of them are followed for this with what they leave as it is: the
tokens that are still to come are tokens of the text, and the scalars of the nodes are written by them.

## Main definitions

* `Upholds`: a step keeps an invariant, and the defects that it fails with are of a kind
* `Writes`: the scalars that tokens write
* `Composer.DrawsOn`, `Builder.DrawsOn`: nodes have the scalars that tokens write

## Main results

* `NodesDraw.succ`, `nodesDraw`: composing nodes, step by step and as a whole
* `exists_origin_of_readDocument`: the defects of a text are those of its tokens and of its scalars
-/

namespace TemplateRules.Yaml

/-! ## Steps -/

/-- A step keeps an invariant and gives a value with a property, if it does not fail; and a defect that it fails
with is of a kind. -/
structure Upholds {σ α : Type} (I : σ → Prop) (D : Defect → Prop) (P : α → Prop)
    (x : StateT σ (Except Fault) α) : Prop where
  ok : ∀ {s a s'}, I s → x.run s = .ok (a, s') → I s' ∧ P a
  defect : ∀ {s d}, I s → x.run s = .error (.defect d) → D d

namespace Upholds

variable {σ α β : Type} {I : σ → Prop} {D : Defect → Prop} {P : α → Prop} {Q : β → Prop}
  {x : StateT σ (Except Fault) α}

protected theorem pure {a : α} (h : P a) : Upholds I D P (pure a) where
  ok hs hrun := by
    obtain ⟨rfl, rfl⟩ := Prod.mk.inj (Except.ok.inj hrun)
    exact ⟨hs, h⟩
  defect _ hrun := by cases hrun

protected theorem bind {f : α → StateT σ (Except Fault) β} (hx : Upholds I D P x)
    (hf : ∀ a, P a → Upholds I D Q (f a)) : Upholds I D Q (x >>= f) where
  ok {s b s'} hs hrun := by
    rw [StateT.run_bind] at hrun
    cases h : x.run s with
    | error e =>
      rw [h] at hrun
      cases hrun
    | ok r =>
      obtain ⟨hs', ha⟩ := hx.ok hs h
      rw [h] at hrun
      exact (hf r.1 ha).ok hs' hrun
  defect {s d} hs hrun := by
    rw [StateT.run_bind] at hrun
    cases h : x.run s with
    | error e =>
      rw [h] at hrun
      obtain rfl : e = .defect d := Except.error.inj hrun
      exact hx.defect hs h
    | ok r =>
      obtain ⟨hs', ha⟩ := hx.ok hs h
      rw [h] at hrun
      exact (hf r.1 ha).defect hs' hrun

/-- The next step need not know anything of the value. -/
theorem next {f : α → StateT σ (Except Fault) β} (hx : Upholds I D (fun _ => True) x)
    (hf : ∀ a, Upholds I D Q (f a)) : Upholds I D Q (x >>= f) :=
  hx.bind fun a _ => hf a

protected theorem map {f : α → β} (hx : Upholds I D P x) (hf : ∀ a, P a → Q (f a)) :
    Upholds I D Q (f <$> x) := by
  rw [map_eq_pure_bind]
  exact hx.bind fun a ha => .pure (hf a ha)

theorem throw {fault : Fault} (h : ∀ d, fault = .defect d → D d) : Upholds I D P (throw fault) where
  ok _ hrun := by cases hrun
  defect _ hrun := h _ (Except.error.inj hrun)

theorem malformed : Upholds I D P (MonadExcept.throw Fault.malformed) := .throw fun _ h => nomatch h

theorem get : Upholds I D I get where
  ok hs hrun := by
    obtain ⟨rfl, rfl⟩ := Prod.mk.inj (Except.ok.inj hrun)
    exact ⟨hs, hs⟩
  defect _ hrun := by cases hrun

theorem modify {f : σ → σ} (hf : ∀ s, I s → I (f s)) : Upholds I D (fun _ => True) (modify f) where
  ok {s _ _} hs hrun := by
    obtain ⟨-, rfl⟩ := Prod.mk.inj (Except.ok.inj hrun)
    exact ⟨hf s hs, trivial⟩
  defect _ hrun := by cases hrun

theorem lift {x : Except Fault α} (h : ∀ d, x = .error (.defect d) → D d) :
    Upholds I D (fun _ => True) (liftM x : StateT σ (Except Fault) α) where
  ok {s a s'} hs hrun := by
    cases x with
    | error e => cases hrun
    | ok b =>
      obtain ⟨-, rfl⟩ := Prod.mk.inj (Except.ok.inj hrun)
      exact ⟨hs, trivial⟩
  defect {s d} _ hrun := by
    cases x with
    | error e =>
      obtain rfl : e = .defect d := Except.error.inj hrun
      exact h d rfl
    | ok b => cases hrun

theorem mapM {f : α → StateT σ (Except Fault) β} (l : List α)
    (hf : ∀ a ∈ l, Upholds I D (fun _ => True) (f a)) : Upholds I D (fun _ => True) (l.mapM f) := by
  induction l with
  | nil => exact .pure trivial
  | cons a l ih =>
    rw [List.mapM_cons]
    rw [List.forall_mem_cons] at hf
    exact hf.1.next fun _ => (ih hf.2).next fun _ => .pure trivial

theorem forM {f : α → StateT σ (Except Fault) PUnit} (l : List α)
    (hf : ∀ a ∈ l, Upholds I D (fun _ => True) (f a)) : Upholds I D (fun _ => True) (l.forM f) := by
  induction l with
  | nil => exact .pure trivial
  | cons a l ih =>
    rw [List.forall_mem_cons] at hf
    exact hf.1.next fun _ => ih hf.2

theorem foldlM {f : β → α → StateT σ (Except Fault) β} (l : List α)
    (hf : ∀ b, ∀ a ∈ l, Upholds I D (fun _ => True) (f b a)) (b : β) :
    Upholds I D (fun _ => True) (l.foldlM f b) := by
  induction l generalizing b with
  | nil => exact .pure trivial
  | cons a l ih =>
    rw [List.foldlM_cons]
    exact (hf b a List.mem_cons_self).bind fun b' _ => ih (fun b a ha => hf b a (List.mem_cons_of_mem _ ha)) b'

end Upholds

/-! ## Composing -/

/-- The scalars that tokens write, and the empty one, which needs no token. -/
def Writes (ts : List Token) (text : String) : Prop := text = "" ∨ ∃ plain, .scalar text plain ∈ ts

/-- Tokens write what a node holds if it is a scalar. -/
def NodeContent.DrawsOn (ts : List Token) (content : NodeContent) : Prop :=
  ∀ text, content = .scalar text → Writes ts text

/-- The tokens that follow are tokens of a text, and its tokens write the scalars of the nodes so far. -/
structure Composer.DrawsOn (ts : List Token) (c : Composer) : Prop where
  tokens : c.tokens ⊆ ts
  nodes : ∀ (i : Nat) (n : Node), c.nodes[i]? = some n → n.content.DrawsOn ts

variable {ts : List Token}

/-- A step of composing draws on the tokens of a text, gives a value with a property, and fails with the defects of
these tokens only. -/
abbrev DrawsTo {α : Type} (ts : List Token) (P : α → Prop) (x : Composing α) : Prop :=
  Upholds (Composer.DrawsOn ts) (fun d => .broken (.defect d) ∈ ts) P x

/-- A step of composing draws on the tokens of a text. -/
abbrev Draws {α : Type} (ts : List Token) (x : Composing α) : Prop := DrawsTo ts (fun _ => True) x

namespace Composing

theorem draws_refuse {α : Type} {P : α → Prop} : DrawsTo ts P refuse := .malformed

theorem draws_peek : DrawsTo ts (fun t => t ∈ ts ∨ t = .finish) peek := by
  refine Upholds.get.bind fun c hc => ?_
  split
  · rename_i fault rest hnext
    exact .throw fun d hd => hc.tokens (by simp [hnext, hd])
  · rename_i t rest _ hnext
    exact .pure (.inl (hc.tokens (by simp [hnext])))
  · exact .pure (.inr rfl)

theorem draws_advance : Draws ts advance :=
  .modify fun _ hc => ⟨fun _ ht => hc.tokens (List.mem_of_mem_tail ht), hc.nodes⟩

theorem draws_expectToken (t : Token) : Draws ts (expectToken t) := by
  refine draws_peek.bind fun found _ => ?_
  split
  · exact draws_advance
  · exact draws_refuse

theorem draws_accept (t : Token) : Draws ts (accept t) := by
  refine draws_peek.bind fun found _ => ?_
  split
  · exact draws_advance.next fun _ => .pure trivial
  · exact .pure trivial

theorem draws_addNode {n : Node} (hn : n.content.DrawsOn ts) : Draws ts (addNode n) := by
  refine Upholds.get.bind fun c _ => ?_
  refine Upholds.next (.modify fun c hc => ⟨hc.tokens, fun i m hm => ?_⟩) fun _ => .pure trivial
  rw [Array.getElem?_push] at hm
  split at hm
  · obtain rfl := Option.some.inj hm
    exact hn
  · exact hc.nodes i m hm

theorem draws_setContent {position : Nat} {content : NodeContent} (h : content.DrawsOn ts) :
    Draws ts (setContent position content) := by
  refine .modify fun c hc => ⟨hc.tokens, fun i m hm => ?_⟩
  rw [Array.getElem?_modify] at hm
  split at hm
  · obtain ⟨n, -, rfl⟩ := Option.map_eq_some_iff.mp hm
    exact h
  · exact hc.nodes i m hm

theorem drawsOn_empty : (NodeContent.scalar "").DrawsOn ts := by
  rintro text ⟨⟩
  exact .inl rfl

theorem drawsOn_sequence (items : List Nat) : (NodeContent.sequence items).DrawsOn ts := fun _ h => nomatch h

theorem drawsOn_mapping (entries : List (Nat × Nat)) : (NodeContent.mapping entries).DrawsOn ts :=
  fun _ h => nomatch h

theorem draws_emptyNode : Draws ts emptyNode := draws_addNode drawsOn_empty

theorem draws_name (anchor : Option String) (position : Nat) : Draws ts (name anchor position) := by
  cases anchor with
  | none => exact .pure trivial
  | some a => exact .modify fun _ hc => ⟨hc.tokens, hc.nodes⟩

theorem draws_tagName (handle : Option String) (rest : String) : Draws ts (tagName handle rest) := by
  cases handle with
  | none => exact .pure trivial
  | some h =>
    refine Upholds.get.bind fun c _ => ?_
    split
    · exact .pure trivial
    · exact draws_refuse

theorem draws_anchorName? : Draws ts anchorName? := by
  refine draws_peek.bind fun t _ => ?_
  split
  · exact draws_advance.next fun _ => .pure trivial
  · exact .pure trivial

theorem draws_writtenTag? : Draws ts writtenTag? := by
  refine draws_peek.bind fun t _ => ?_
  split
  · exact draws_advance.next fun _ => (draws_tagName _ _).next fun _ => .pure trivial
  · exact .pure trivial

theorem draws_namedAndTagged : Draws ts namedAndTagged := by
  refine draws_anchorName?.next fun anchor => ?_
  split
  · exact draws_writtenTag?.next fun _ => .pure trivial
  · refine draws_writtenTag?.next fun tag => ?_
    split
    · exact draws_anchorName?.next fun _ => .pure trivial
    · exact .pure trivial

theorem draws_properties : Draws ts properties := by
  refine draws_namedAndTagged.next fun found => ?_
  refine Upholds.get.bind fun c _ => ?_
  dsimp only
  split
  · exact Upholds.next draws_refuse fun _ => .pure trivial
  · exact .pure trivial

theorem draws_addScalar {anchor tag : Option String} {plain : Bool} {text : String}
    (h : (NodeContent.scalar text).DrawsOn ts) : Draws ts (addScalar anchor tag plain text) :=
  (draws_addNode h).next fun _ => (draws_name _ _).next fun _ => .pure trivial

theorem draws_addCollection {anchor tag : Option String} {default : Tag} {read : Composing NodeContent}
    (h : DrawsTo ts (fun content => content.DrawsOn ts) read) :
    Draws ts (addCollection anchor tag default read) :=
  (draws_addNode (drawsOn_sequence [])).next fun _ => (draws_name _ _).next fun _ =>
    h.bind fun _ hcontent => (draws_setContent hcontent).next fun _ => .pure trivial

/-! ### Nodes -/

/-- Composing nodes in at most `fuel` steps draws on the tokens of a text. -/
structure NodesDraw (ts : List Token) (fuel : Nat) : Prop where
  node : ∀ block indentless, Draws ts (node block indentless fuel)
  nodeBefore : ∀ stops block indentless, Draws ts (nodeBefore stops block indentless fuel)
  blockEntries : Draws ts (blockEntries fuel)
  plainEntries : Draws ts (plainEntries fuel)
  blockPairs : Draws ts (blockPairs fuel)
  flowItems : ∀ first, Draws ts (flowItems first fuel)
  flowPairs : ∀ first, Draws ts (flowPairs first fuel)

variable {fuel : Nat}

/-- What is read of a collection is no scalar. -/
theorem draws_collection {α : Type} {anchor tag : Option String} {default : Tag} {read : Composing α}
    {content : α → NodeContent} (hread : Draws ts read) (h : ∀ a, (content a).DrawsOn ts) :
    Draws ts (addCollection anchor tag default (do return content (← read))) :=
  draws_addCollection (hread.next fun a => .pure (h a))

theorem NodesDraw.node_succ (h : NodesDraw ts fuel) (block indentless : Bool) :
    Draws ts (Composing.node block indentless (fuel + 1)) := by
  unfold Composing.node
  refine draws_peek.bind fun t _ => ?_
  split
  · refine draws_advance.next fun _ => Upholds.get.bind fun c _ => ?_
    split
    · exact .pure trivial
    · exact draws_refuse
  · refine draws_properties.next fun found => ?_
    dsimp only
    refine draws_peek.bind fun t ht => ?_
    split
    · rename_i text plain
      refine draws_advance.next fun _ => draws_addScalar ?_
      rintro _ ⟨⟩
      exact .inr ⟨plain, ht.resolve_right (by simp)⟩
    · exact draws_advance.next fun _ => draws_collection (h.flowItems true) drawsOn_sequence
    · exact draws_advance.next fun _ => draws_collection (h.flowPairs true) drawsOn_mapping
    · exact draws_collection h.plainEntries drawsOn_sequence
    · exact draws_advance.next fun _ => draws_collection h.blockEntries drawsOn_sequence
    · exact draws_advance.next fun _ => draws_collection h.blockPairs drawsOn_mapping
    · split
      · exact draws_refuse
      · exact draws_addScalar drawsOn_empty

theorem NodesDraw.nodeBefore_succ (h : NodesDraw ts fuel) (stops : List Token) (block indentless : Bool) :
    Draws ts (Composing.nodeBefore stops block indentless (fuel + 1)) := by
  unfold Composing.nodeBefore
  refine draws_peek.bind fun t _ => ?_
  split
  · exact draws_emptyNode
  · exact h.node block indentless

theorem NodesDraw.blockEntries_succ (h : NodesDraw ts fuel) :
    Draws ts (Composing.blockEntries (fuel + 1)) := by
  unfold Composing.blockEntries
  refine (draws_accept _).next fun found => ?_
  split
  · exact (h.nodeBefore _ _ _).next fun _ => h.blockEntries.next fun _ => .pure trivial
  · exact (draws_expectToken _).next fun _ => .pure trivial

theorem NodesDraw.plainEntries_succ (h : NodesDraw ts fuel) :
    Draws ts (Composing.plainEntries (fuel + 1)) := by
  unfold Composing.plainEntries
  refine (draws_accept _).next fun found => ?_
  split
  · exact (h.nodeBefore _ _ _).next fun _ => h.plainEntries.next fun _ => .pure trivial
  · exact .pure trivial

/-- The value of an entry is the node behind its mark, or an empty one. -/
theorem draws_value {α : Type} {read : Composing Nat} {k : Nat → Composing α} {P : α → Prop}
    (hread : Draws ts read) (hk : ∀ value, DrawsTo ts P (k value)) :
    DrawsTo ts P (do
      let value ← if ← accept .value then read else emptyNode
      k value) := by
  refine (draws_accept _).next fun found => ?_
  dsimp only
  split
  · exact hread.next fun value => hk value
  · exact draws_emptyNode.next fun value => hk value

theorem NodesDraw.blockPairs_succ (h : NodesDraw ts fuel) :
    Draws ts (Composing.blockPairs (fuel + 1)) := by
  unfold Composing.blockPairs
  refine (draws_accept _).next fun found => ?_
  split
  · exact (h.nodeBefore _ _ _).next fun key => draws_value (h.nodeBefore _ _ _) fun value =>
      h.blockPairs.next fun _ => .pure trivial
  · exact (draws_expectToken _).next fun _ => .pure trivial

/-- Behind the first item of a collection in flow notation a mark comes next. -/
theorem draws_separator {α : Type} {first : Bool} {rest : Composing α} (hrest : Draws ts rest) :
    Draws ts (do
      if !first then expectToken .flowEntry
      rest) := by
  dsimp only
  split
  · exact (draws_expectToken _).next fun _ => hrest
  · exact hrest

theorem NodesDraw.flowItems_succ (h : NodesDraw ts fuel) (first : Bool) :
    Draws ts (Composing.flowItems first (fuel + 1)) := by
  unfold Composing.flowItems
  refine (draws_accept _).next fun ended => ?_
  dsimp only
  split
  · exact .pure trivial
  · refine draws_separator ?_
    refine (draws_accept _).next fun keyed => ?_
    split
    · refine Upholds.next (draws_addCollection ?_) fun item =>
        (h.flowItems false).next fun _ => .pure trivial
      exact (h.nodeBefore _ _ _).next fun key => draws_value (h.nodeBefore _ _ _) fun value =>
        .pure (drawsOn_mapping _)
    · refine (draws_accept _).next fun ended => ?_
      split
      · exact .pure trivial
      · exact (h.node _ _).next fun _ => (h.flowItems false).next fun _ => .pure trivial

theorem NodesDraw.flowPairs_succ (h : NodesDraw ts fuel) (first : Bool) :
    Draws ts (Composing.flowPairs first (fuel + 1)) := by
  unfold Composing.flowPairs
  refine (draws_accept _).next fun ended => ?_
  dsimp only
  split
  · exact .pure trivial
  · refine draws_separator ?_
    refine (draws_accept _).next fun keyed => ?_
    split
    · exact (h.nodeBefore _ _ _).next fun key => draws_value (h.nodeBefore _ _ _) fun value =>
        (h.flowPairs false).next fun _ => .pure trivial
    · refine (draws_accept _).next fun ended => ?_
      split
      · exact .pure trivial
      · exact (h.node _ _).next fun _ => draws_emptyNode.next fun _ =>
          (h.flowPairs false).next fun _ => .pure trivial

/-- One more step of composing nodes draws on the same tokens. -/
theorem NodesDraw.succ (h : NodesDraw ts fuel) : NodesDraw ts (fuel + 1) where
  node := h.node_succ
  nodeBefore := h.nodeBefore_succ
  blockEntries := h.blockEntries_succ
  plainEntries := h.plainEntries_succ
  blockPairs := h.blockPairs_succ
  flowItems := h.flowItems_succ
  flowPairs := h.flowPairs_succ

/-- Composing nodes draws on the tokens of a text, in whatever number of steps. -/
theorem nodesDraw (ts : List Token) (fuel : Nat) : NodesDraw ts fuel := by
  induction fuel with
  | zero =>
    exact ⟨fun _ _ => draws_refuse, fun _ _ _ => draws_refuse, draws_refuse, draws_refuse, draws_refuse,
      fun _ => draws_refuse, fun _ => draws_refuse⟩
  | succ fuel ih => exact ih.succ

/-! ### Documents -/

theorem draws_directives (fuel : Nat) (versioned : Bool) (handles : List (String × String)) :
    Draws ts (directives fuel versioned handles) := by
  induction fuel generalizing versioned handles with
  | zero => exact draws_refuse
  | succ fuel ih =>
    refine draws_peek.bind fun t _ => ?_
    split
    · refine draws_advance.next fun _ => ?_
      split
      · split
        · exact draws_refuse
        · exact ih _ _
      · split
        · exact draws_refuse
        · exact ih _ _
      · exact ih _ _
    · exact .pure trivial

theorem draws_skipEnds (fuel : Nat) : Draws ts (skipEnds fuel) := by
  induction fuel with
  | zero => exact draws_refuse
  | succ fuel ih =>
    refine (draws_accept _).next fun found => ?_
    split
    · exact ih
    · exact .pure trivial

theorem draws_explicit (fuel : Nat) : Draws ts (document.explicit fuel) := by
  refine (draws_directives _ _ _).next fun handles => ?_
  refine Upholds.next (.modify fun _ hc => ⟨hc.tokens, hc.nodes⟩) fun _ => ?_
  refine (draws_expectToken _).next fun _ => draws_peek.bind fun t _ => ?_
  split
  · exact draws_emptyNode.map fun _ _ => trivial
  · exact ((nodesDraw ts fuel).node _ _).map fun _ _ => trivial

theorem draws_document (fuel : Nat) : Draws ts (document fuel) := by
  have hend : ∀ root : Option Nat, Draws ts (do
      skipEnds fuel
      if (← peek) = .finish then return root else refuse) := by
    intro root
    refine (draws_skipEnds fuel).next fun _ => draws_peek.bind fun t _ => ?_
    split
    · exact .pure trivial
    · exact draws_refuse
  unfold document
  refine draws_peek.bind fun t _ => ?_
  split
  · exact hend none
  · exact (draws_explicit fuel).next fun root => hend root
  · exact (draws_explicit fuel).next fun root => hend root
  · refine Upholds.next (((nodesDraw ts fuel).node _ _).map fun _ _ => trivial) fun root => ?_
    exact hend root

end Composing

/-! ## Building -/

/-- Tokens write the scalars of the nodes of which values are built. -/
structure Builder.DrawsOn (ts : List Token) (b : Builder) : Prop where
  nodes : ∀ (i : Nat) (n : Node), b.nodes[i]? = some n → n.content.DrawsOn ts

/-- A step of building works on nodes whose scalars the tokens of a text write, gives a value with a property, and
fails with the defects of these scalars only. -/
abbrev BuildsTo {α : Type} (ts : List Token) (P : α → Prop) (x : Building α) : Prop :=
  Upholds (Builder.DrawsOn ts) (fun d => ∃ tag text, Writes ts text ∧ scalarOf tag text = .error (.defect d)) P x

/-- A step of building works on nodes whose scalars the tokens of a text write. -/
abbrev Builds {α : Type} (ts : List Token) (x : Building α) : Prop := BuildsTo ts (fun _ => True) x

namespace Building

theorem builds_refuse {α : Type} {P : α → Prop} : BuildsTo ts P refuse := .malformed

theorem builds_nodeAt (position : Nat) : BuildsTo ts (fun n => n.content.DrawsOn ts) (nodeAt position) := by
  refine Upholds.get.bind fun b hb => .pure ?_
  cases hn : b.nodes[position]? with
  | none => exact Composing.drawsOn_empty
  | some n => exact hb.nodes position n hn

theorem builds_tagAt (position : Nat) : Builds ts (tagAt position) :=
  (builds_nodeAt position).bind fun _ _ => .pure trivial

theorem builds_entriesAt (position : Nat) : Builds ts (entriesAt position) := by
  refine (builds_nodeAt position).bind fun n _ => ?_
  split
  · exact .pure trivial
  · exact builds_refuse

theorem builds_itemsAt (position : Nat) : Builds ts (itemsAt position) := by
  refine (builds_nodeAt position).bind fun n _ => ?_
  split
  · exact .pure trivial
  · exact builds_refuse

theorem builds_changeNode {position : Nat} {f : Node → Node}
    (hf : ∀ n, n.content.DrawsOn ts → (f n).content.DrawsOn ts) : Builds ts (changeNode position f) := by
  refine .modify fun b hb => ⟨fun i m hm => ?_⟩
  rw [Array.getElem?_modify] at hm
  split at hm
  · obtain ⟨n, hn, rfl⟩ := Option.map_eq_some_iff.mp hm
    exact hf n (hb.nodes i n hn)
  · exact hb.nodes i m hm

theorem builds_setCell (position : Nat) (layer : Layer Ref) : Builds ts (setCell position layer) :=
  .modify fun _ hb => ⟨hb.nodes⟩

theorem builds_addCell (layer : Layer Ref) : Builds ts (addCell layer) :=
  Upholds.get.bind fun _ _ => Upholds.next (.modify fun _ hb => ⟨hb.nodes⟩) fun _ =>
    .pure trivial

/-! ### Merging -/

theorem builds_firstWithTag? (tag : Tag) (position : Nat) (entries : List (Nat × Nat)) :
    Builds ts (firstWithTag? tag position entries) := by
  induction entries generalizing position with
  | nil => exact .pure trivial
  | cons e entries ih =>
    refine (builds_tagAt e.1).next fun t => ?_
    split
    · exact .pure trivial
    · exact ih _

theorem builds_untagValueKeys (entries : List (Nat × Nat)) : Builds ts (untagValueKeys entries) := by
  refine .forM entries fun e _ => (builds_tagAt e.1).next fun t => ?_
  split
  · exact builds_changeNode fun n hn => hn
  · exact .pure trivial

theorem builds_mergeSteps : Builds ts mergeSteps := Upholds.get.bind fun _ _ => .pure trivial

variable {fuel : Nat}

/-- Merging with at most `fuel` marks works on the nodes that it is given. -/
structure MergesBuild (ts : List Token) (fuel : Nat) : Prop where
  mergeFrom : ∀ mapping collected, Builds ts (mergeFrom mapping collected fuel)
  mergeEach : ∀ items, Builds ts (mergeEach items fuel)

theorem MergesBuild.mergeFrom_succ (h : MergesBuild ts fuel) (mapping : Nat) (collected : List (Nat × Nat)) :
    Builds ts (Building.mergeFrom mapping collected (fuel + 1)) := by
  unfold Building.mergeFrom
  refine (builds_entriesAt _).next fun entries => (builds_firstWithTag? _ _ _).next fun found => ?_
  split
  · exact (builds_untagValueKeys _).next fun _ => builds_changeNode fun n _ => Composing.drawsOn_mapping _
  · refine Upholds.next (builds_changeNode fun _ _ => Composing.drawsOn_mapping _) fun _ => ?_
    refine (builds_nodeAt _).bind fun n _ => ?_
    split
    · exact (h.mergeFrom _ _).next fun _ => (builds_entriesAt _).next fun _ => h.mergeFrom _ _
    · exact (h.mergeEach _).next fun _ => h.mergeFrom _ _
    · exact Upholds.next builds_refuse fun _ => h.mergeFrom _ _

theorem MergesBuild.mergeEach_succ (h : MergesBuild ts fuel) (items : List Nat) :
    Builds ts (Building.mergeEach items (fuel + 1)) := by
  unfold Building.mergeEach
  split
  · exact .pure trivial
  · rename_i item rest
    refine Upholds.next ((builds_entriesAt item).map fun _ _ => trivial) fun _ => ?_
    exact (h.mergeFrom _ _).next fun _ => (builds_entriesAt _).next fun _ =>
      (h.mergeEach _).next fun _ => .pure trivial

theorem mergesBuild (ts : List Token) (fuel : Nat) : MergesBuild ts fuel := by
  induction fuel with
  | zero => exact ⟨fun _ _ => builds_refuse, fun _ => builds_refuse⟩
  | succ fuel ih => exact ⟨ih.mergeFrom_succ, ih.mergeEach_succ⟩

theorem builds_merge (mapping : Nat) : Builds ts (merge mapping) :=
  builds_mergeSteps.next fun steps => (mergesBuild ts steps).mergeFrom mapping []

/-! ### Values -/

theorem builds_scalarText (fuel position : Nat) : BuildsTo ts (Writes ts) (scalarText fuel position) := by
  induction fuel generalizing position with
  | zero => exact builds_refuse
  | succ fuel ih =>
    refine (builds_nodeAt position).bind fun n hn => ?_
    split
    · rename_i text htext
      exact .pure (hn text htext)
    · exact builds_refuse
    · refine (builds_firstWithTag? _ _ _).next fun found => ?_
      split
      · exact ih _
      · exact builds_refuse

theorem builds_valueOf (position : Nat) : Builds ts (valueOf position) := by
  refine (builds_nodeAt position).bind fun n _ => ?_
  split
  · refine Upholds.get.bind fun b _ => ?_
    dsimp only
    split
    · exact Upholds.next (.modify fun _ hb => ⟨hb.nodes⟩) fun _ => .pure trivial
    · exact .pure trivial
  · split
    · refine Upholds.get.bind fun b _ => (builds_scalarText _ _).bind fun text htext => ?_
      refine Upholds.next (.lift fun d hd => ⟨_, _, htext, hd⟩) fun _ => .pure trivial
    · exact builds_refuse

theorem builds_keyOf (position : Nat) : Builds ts (keyOf position) := by
  refine (builds_valueOf position).next fun found => ?_
  split
  · exact .pure trivial
  · exact builds_refuse

theorem builds_buildEntries (position : Nat) : Builds ts (buildEntries position) := by
  refine Upholds.next ((builds_entriesAt position).map fun _ _ => trivial) fun _ => ?_
  refine (builds_merge position).next fun _ => (builds_entriesAt position).next fun entries => ?_
  exact .foldlM entries (fun built e _ => (builds_keyOf e.1).next fun _ =>
    (builds_valueOf e.2).next fun _ => .pure trivial) []

theorem builds_buildPair (position : Nat) : Builds ts (buildPair position) := by
  refine (builds_entriesAt position).next fun entries => ?_
  split
  · exact (builds_valueOf _).next fun _ => (builds_valueOf _).next fun _ => builds_addCell _
  · exact builds_refuse

theorem builds_build (position : Nat) : Builds ts (build position) := by
  refine (builds_tagAt position).next fun tag => ?_
  split
  · exact (builds_itemsAt position).next fun items =>
      (Upholds.mapM items fun _ _ => builds_valueOf _).next fun _ => builds_setCell _ _
  · exact (builds_buildEntries position).next fun _ => builds_setCell _ _
  · exact (builds_buildEntries position).next fun _ => builds_setCell _ _
  · exact (builds_itemsAt position).next fun items =>
      (Upholds.mapM items fun _ _ => builds_buildPair _).next fun _ => builds_setCell _ _

theorem builds_buildWaiting (count : Nat) : Builds ts (buildWaiting count) := by
  induction count with
  | zero => exact .pure trivial
  | succ count ih =>
    refine Upholds.get.bind fun b _ => ?_
    split
    · exact .pure trivial
    · exact Upholds.next (.modify fun _ hb => ⟨hb.nodes⟩) fun _ =>
        (builds_build _).next fun _ => ih

end Building

/-! ## Documents -/

/-- The nodes that tokens form have the scalars that these write, and a defect is one of theirs. -/
theorem ofTokens_origin (ts : List Token) :
    (∀ g, NodeGraph.ofTokens ts = .ok (some g) →
        ∀ (i : Nat) (n : Node), g.nodes[i]? = some n → n.content.DrawsOn ts) ∧
      ∀ d, NodeGraph.ofTokens ts = .error (.defect d) → .broken (.defect d) ∈ ts := by
  have hdraws := @Composing.draws_document ts (4 * ts.length + 8)
  have hstart : Composer.DrawsOn ts ⟨ts, #[], [], Composing.standardHandles⟩ :=
    ⟨fun _ h => h, fun i n h => by simp at h⟩
  refine ⟨fun g h => ?_, fun d h => ?_⟩
  · obtain ⟨⟨root, c⟩, hrun, h⟩ := bind_eq_ok.mp h
    obtain ⟨r, rfl, rfl⟩ := Option.map_eq_some_iff.mp (Except.ok.inj h)
    exact (hdraws.ok hstart hrun).1.nodes
  · rcases bind_eq_error.mp h with hrun | ⟨⟨root, c⟩, -, h⟩
    · exact hdraws.defect hstart hrun
    · cases h

/-- Building a value fails with the defects of scalars only. -/
theorem value_origin {g : NodeGraph} (hg : ∀ (i : Nat) (n : Node), g.nodes[i]? = some n → n.content.DrawsOn ts)
    {d : Defect} (h : g.value = .error (.defect d)) :
    ∃ tag scalar, Writes ts scalar ∧ scalarOf tag scalar = .error (.defect d) := by
  have hsteps : Builds ts (do
      let root ← Building.valueOf g.root
      Building.buildWaiting (g.nodes.size + 1)
      return root) :=
    (Building.builds_valueOf _).next fun _ => (Building.builds_buildWaiting _).next fun _ => .pure trivial
  rcases bind_eq_error.mp h with hrun | ⟨r, -, h⟩
  · exact hsteps.defect ⟨hg⟩ hrun
  · cases h

/-- **Where the defects of documents come from.** A text whose reading ends in a defect has a token with that
defect, or its tokens write a scalar that some tag reads with that defect. -/
theorem exists_origin_of_readDocument {text : String} {d : Defect} (h : readDocument text = .error (.defect d)) :
    .broken (.defect d) ∈ tokens text ∨
      ∃ tag scalar, Writes (tokens text) scalar ∧ scalarOf tag scalar = .error (.defect d) := by
  obtain ⟨hnodes, hdefect⟩ := ofTokens_origin (tokens text)
  rcases bind_eq_error.mp h with h | ⟨root, hroot, h⟩
  · exact .inl (hdefect d h)
  · cases root with
    | none => cases h
    | some g => exact .inr (value_origin (hnodes g hroot) h)

end TemplateRules.Yaml

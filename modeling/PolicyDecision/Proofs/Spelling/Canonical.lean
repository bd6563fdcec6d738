import PolicyDecision.DecisionPoint
import PolicyDecision.Proofs.Attributes.Answers
import PolicyDecision.Proofs.Combinations
import PolicyDecision.Proofs.Reach
import PolicyDecision.Proofs.Value.RoundTrip

/-! Everything that names types of data, with each type named by its URI of version 3.0. -/

namespace PolicyDecision

namespace DataType

/-- The URI of version 3.0 for the type that is named; a URI that names no type is left alone. -/
def canonicalUri (uri : String) : String :=
  match ofUri? uri with
  | some type => type.uri
  | none => uri

variable {uri uri' : String}

@[simp] lemma ofUri?_canonicalUri (uri : String) : ofUri? (canonicalUri uri) = ofUri? uri := by
  unfold canonicalUri
  cases h : ofUri? uri with
  | none => exact h
  | some type => exact ofUri?_uri type

lemma canonicalUri_of_none (h : ofUri? uri = none) : canonicalUri uri = uri := by
  rw [canonicalUri, h]

/-- Two URIs have one canonical form if they name one type, or if they are the same. -/
theorem canonicalUri_eq_iff : canonicalUri uri = canonicalUri uri' ↔
    uri = uri' ∨ ∃ type, ofUri? uri = some type ∧ ofUri? uri' = some type := by
  constructor
  · intro h
    have htype : ofUri? uri = ofUri? uri' := by
      rw [← ofUri?_canonicalUri uri, h, ofUri?_canonicalUri]
    cases huri : ofUri? uri with
    | none =>
      rw [canonicalUri_of_none huri, canonicalUri_of_none (htype.symm.trans huri)] at h
      exact Or.inl h
    | some type => exact Or.inr ⟨type, rfl, htype.symm.trans huri⟩
  · rintro (rfl | ⟨type, h, h'⟩)
    · rfl
    · rw [canonicalUri, canonicalUri, h, h']

@[simp] lemma canonicalUri_canonicalUri (uri : String) :
    canonicalUri (canonicalUri uri) = canonicalUri uri := by
  cases h : ofUri? uri with
  | none => rw [canonicalUri_of_none h, canonicalUri_of_none h]
  | some type =>
    rw [canonicalUri_eq_iff]
    exact Or.inr ⟨type, (ofUri?_canonicalUri uri).trans h, h⟩

/-- An attribute is found by what its type is, not by how it is spelled. -/
lemma sameTypeUri_iff : sameTypeUri uri uri' = true ↔ canonicalUri uri = canonicalUri uri' := by
  rw [canonicalUri_eq_iff, sameTypeUri]
  cases h : ofUri? uri with
  | none => simp
  | some type =>
    cases h' : ofUri? uri' with
    | none =>
      have hne : uri ≠ uri' := by
        rintro rfl
        cases h.symm.trans h'
      simp [hne]
    | some type' =>
      constructor
      · intro heq
        exact Or.inr ⟨type, rfl, congrArg some (beq_iff_eq.mp heq).symm⟩
      · rintro (rfl | ⟨t, ht, ht'⟩)
        · exact beq_iff_eq.mpr (Option.some.inj (h.symm.trans h'))
        · exact beq_iff_eq.mpr (Option.some.inj (ht.trans ht'.symm))

@[simp] lemma sameTypeUri_canonicalUri (uri uri' : String) :
    sameTypeUri (canonicalUri uri) (canonicalUri uri') = sameTypeUri uri uri' := by
  rw [Bool.eq_iff_iff, sameTypeUri_iff, sameTypeUri_iff, canonicalUri_canonicalUri,
    canonicalUri_canonicalUri]

end DataType

open DataType (canonicalUri)

section Policies

def Literal.canonical (l : Literal) : Literal := { l with dataType := canonicalUri l.dataType }

def Designator.canonical (d : Designator) : Designator :=
  { d with dataType := canonicalUri d.dataType }

def Selector.canonical (s : Selector) : Selector := { s with dataType := canonicalUri s.dataType }

def AttributeRef.canonical : AttributeRef → AttributeRef
  | designator d => .designator d.canonical
  | selector s => .selector s.canonical

def Match.canonical (m : Match) : Match :=
  { m with literal := m.literal.canonical, attributes := m.attributes.canonical }

def AllOf.canonical (a : AllOf) : AllOf := ⟨a.matchList.map .canonical⟩

def AnyOf.canonical (a : AnyOf) : AnyOf := ⟨a.alternatives.map .canonical⟩

def Target.canonical (t : Target) : Target := ⟨t.anyOfs.map .canonical⟩

namespace Expression

mutual

def canonical : Expression → Expression
  | literal l => .literal l.canonical
  | designator d => .designator d.canonical
  | selector s => .selector s.canonical
  | variableRef id => .variableRef id
  | function uri => .function uri
  | apply uri args => .apply uri (canonicalAll args)

def canonicalAll : List Expression → List Expression
  | [] => []
  | e :: es => canonical e :: canonicalAll es

end

lemma canonicalAll_eq_map (es : List Expression) : canonicalAll es = es.map canonical := by
  induction es with
  | nil => rw [canonicalAll, List.map_nil]
  | cons e es ih => rw [canonicalAll, ih, List.map_cons]

end Expression

def Assignment.canonical (a : Assignment) : Assignment :=
  { a with expression := a.expression.canonical }

def ObligationExpression.canonical (o : ObligationExpression) : ObligationExpression :=
  { o with assignments := o.assignments.map .canonical }

def VariableDefinition.canonical (d : VariableDefinition) : VariableDefinition :=
  { d with expression := d.expression.canonical }

def Parameter.canonical (p : Parameter) : Parameter := { p with literal := p.literal.canonical }

def Rule.canonical (r : Rule) : Rule :=
  { r with
    target := r.target.map .canonical
    condition := r.condition.map .canonical
    obligations := r.obligations.map .canonical
    advice := r.advice.map .canonical }

def Catalogue.map {α β : Type} (f : α → β) (c : Catalogue α) : Catalogue β :=
  ⟨c.entries.map fun e => (e.1, f e.2)⟩

def Heading.canonical (h : Heading) : Heading :=
  { h with
    target := h.target.map .canonical
    parameters := h.parameters.map .canonical
    childParameters := h.childParameters.map (List.map .canonical)
    obligations := h.obligations.map .canonical
    advice := h.advice.map .canonical }

def Policy.canonical (p : Policy) : Policy where
  heading := p.heading.canonical
  definitions := p.definitions.map .canonical
  rules := p.rules.map .canonical

namespace PolicyNode

mutual

def canonical : PolicyNode → PolicyNode
  | policy p => .policy p.canonical
  | policySet h children => .policySet h.canonical (canonicalAll children)
  | policyRef r => .policyRef r
  | policySetRef r => .policySetRef r

def canonicalAll : List PolicyNode → List PolicyNode
  | [] => []
  | node :: nodes => canonical node :: canonicalAll nodes

end

lemma canonicalAll_eq_map (nodes : List PolicyNode) :
    canonicalAll nodes = nodes.map canonical := by
  induction nodes with
  | nil => rw [canonicalAll, List.map_nil]
  | cons node nodes ih => rw [canonicalAll, ih, List.map_cons]

end PolicyNode

def PolicySet.canonical (s : PolicySet) : PolicySet :=
  ⟨s.heading.canonical, s.children.map .canonical⟩

lemma PolicySet.toNode_canonical (s : PolicySet) : s.canonical.toNode = s.toNode.canonical := by
  rw [toNode, toNode, PolicyNode.canonical, PolicyNode.canonicalAll_eq_map]
  rfl

def Root.canonical : Root → Root
  | policy p => .policy p.canonical
  | policySet s => .policySet s.canonical

lemma Root.toNode_canonical (root : Root) : root.canonical.toNode = root.toNode.canonical := by
  cases root with
  | policy p => rfl
  | policySet s => exact s.toNode_canonical

/-- The canonical forms of what the repository has. -/
def PolicyRepository.canonical (r : PolicyRepository) : PolicyRepository where
  policy? id constraints := (r.policy? id constraints).map .canonical
  policySet? id constraints := (r.policySet? id constraints).map .canonical

def DecisionPoint.canonical (p : DecisionPoint) : DecisionPoint :=
  { p with root := p.root.canonical, repository := p.repository.canonical }

end Policies

section Requests

def Attribute.canonical (a : Attribute) : Attribute :=
  { a with dataType := canonicalUri a.dataType }

def Block.canonical (b : Block) : Block := { b with attributes := b.attributes.map .canonical }

def Request.canonical (r : Request) : Request := { r with blocks := r.blocks.map .canonical }

def AttributeQuery.canonical (q : AttributeQuery) : AttributeQuery :=
  { q with dataType := canonicalUri q.dataType }

/-- Attributes and questions find each other as before. -/
lemma Attribute.answers_canonical (a : Attribute) (q : AttributeQuery) :
    a.canonical.answers q.canonical = a.answers q := by
  simp [answers, canonical, AttributeQuery.canonical]

namespace Request

lemma valuesFor_canonical (r : Request) (q : AttributeQuery) :
    r.canonical.valuesFor q.canonical = r.valuesFor q := by
  have hblocks : r.canonical.blocksOf q.canonical.category =
      (r.blocksOf q.category).map .canonical := by
    rw [blocksOf, blocksOf, canonical, List.filter_map]
    rfl
  have hattributes : (r.canonical.blocksOf q.canonical.category).flatMap Block.attributes =
      ((r.blocksOf q.category).flatMap Block.attributes).map .canonical := by
    rw [hblocks, List.flatMap_map, List.map_flatMap]
    rfl
  have hanswers : (fun a : Attribute => a.answers q.canonical) ∘ Attribute.canonical =
      fun a => a.answers q := funext fun a => a.answers_canonical q
  rw [valuesFor, valuesFor, hattributes, List.filter_map, hanswers, List.flatMap_map]
  rfl

lemma blockById_canonical (r : Request) (id : String) :
    r.canonical.blockById id = (r.blockById id).map .canonical := by
  have hid : (fun b : Block => b.id == some id) ∘ Block.canonical = fun b => b.id == some id := rfl
  rw [blockById, blockById, canonical, List.find?_map, hid]
  cases r.blocks.find? (·.id == some id) <;> rfl

lemma mapM_blockById_canonical (r : Request) (ids : List String) :
    ids.mapM r.canonical.blockById = (ids.mapM r.blockById).map (List.map .canonical) := by
  induction ids with
  | nil => rfl
  | cons id ids ih =>
    rw [List.mapM_cons, List.mapM_cons, blockById_canonical, ih]
    cases r.blockById id with
    | error e => rfl
    | ok b => cases ids.mapM r.blockById <;> rfl

lemma addToGroups_canonical (b : Block) (groups : List (List Block)) :
    addToGroups b.canonical (groups.map (List.map .canonical)) =
      (addToGroups b groups).map (List.map .canonical) := by
  induction groups with
  | nil => rfl
  | cons group groups ih =>
    have hcategory : (fun b' : Block => b'.category == b.canonical.category) ∘ Block.canonical =
        fun b' => b'.category == b.category := rfl
    rw [List.map_cons, addToGroups, addToGroups, List.any_map, hcategory, ih]
    split
    · rw [List.map_cons, List.map_append, List.map_singleton]
    · rw [List.map_cons]

lemma groups_canonical (r : Request) :
    r.canonical.groups = r.groups.map (List.map .canonical) := by
  have hfold : ∀ (blocks : List Block) (groups : List (List Block)),
      (blocks.map Block.canonical).foldl (fun groups b => addToGroups b groups)
          (groups.map (List.map .canonical)) =
        (blocks.foldl (fun groups b => addToGroups b groups) groups).map
          (List.map .canonical) := by
    intro blocks
    induction blocks with
    | nil => exact fun _ => rfl
    | cons b blocks ih =>
      intro groups
      rw [List.map_cons, List.foldl_cons, addToGroups_canonical, ih, List.foldl_cons]
  exact hfold r.blocks []

lemma choices_map (f : Block → Block) (groups : List (List Block)) :
    choices (groups.map (List.map f)) = (choices groups).map (List.map f) := by
  rw [choices_eq_combinations, choices_eq_combinations, combinations_map]

/-- A request in canonical form is split as before. -/
lemma individuals_canonical (r : Request) :
    r.canonical.individuals = r.individuals.map (Except.map .canonical) := by
  have hsingle : r.canonical.groups.all (·.length ≤ 1) = r.groups.all (·.length ≤ 1) := by
    rw [groups_canonical, List.all_map]
    simp only [Function.comp_def, List.length_map]
  have hreferences : (r.canonical.references.map fun ids =>
      (ids.mapM r.canonical.blockById).map r.canonical.individual) =
        (r.references.map fun ids => (ids.mapM r.blockById).map r.individual).map
          (Except.map .canonical) := by
    rw [List.map_map]
    refine List.map_congr_left fun ids _ => ?_
    rw [mapM_blockById_canonical, Function.comp_apply]
    cases ids.mapM r.blockById <;> rfl
  have hchoices : ((choices r.canonical.groups).map fun blocks =>
      (.ok (r.canonical.individual blocks) : Outcome Request)) =
        ((choices r.groups).map fun blocks => .ok (r.individual blocks)).map
          (Except.map .canonical) := by
    rw [groups_canonical, choices_map, List.map_map, List.map_map]
    rfl
  unfold individuals
  rw [hsingle, hreferences, hchoices]
  simp only [apply_ite (List.map (Except.map Request.canonical))]
  rfl

end Request

end Requests

end PolicyDecision

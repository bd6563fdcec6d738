import PolicyDecision.Proofs.FirstOccurrence
import PolicyDecision.Proofs.Request.Splitting
import PolicyDecision.Proofs.Spelling.Canonical

/-! Requests that are built up from attributes. The attributes of a category share one block, so
that such a request asks for one decision and is not split, and what is asked about is answered in
the order in which it was added. -/

namespace PolicyDecision.Request

open DataType (canonicalUri)

/-- What is added to a request: an attribute, or a single value under the id of one. -/
inductive Addition
  | whole (category : String) (a : Attribute)
  | single (category attributeId : String) (l : Literal)

namespace Addition

def category : Addition → String
  | whole c _ | single c _ _ => c

def toAttribute : Addition → Attribute
  | whole _ a => a
  | single _ attributeId l => .ofLiteral attributeId l

/-- An addition answers a question about its category, its id and its type, however the type is
spelled, and about its issuer if the question names one. -/
def Answers (x : Addition) (q : AttributeQuery) : Prop :=
  x.category = q.category ∧ x.toAttribute.attributeId = q.attributeId ∧
    canonicalUri x.toAttribute.dataType = canonicalUri q.dataType ∧
    (q.issuer = none ∨ x.toAttribute.issuer = q.issuer)

instance (x : Addition) (q : AttributeQuery) : Decidable (x.Answers q) :=
  inferInstanceAs (Decidable (_ ∧ _))

lemma answers_iff (x : Addition) (q : AttributeQuery) :
    x.Answers q ↔ x.category = q.category ∧ x.toAttribute.answers q = true := by
  simp [Answers, Attribute.answers, DataType.sameTypeUri_iff, and_assoc]

end Addition

def add (r : Request) : Addition → Request
  | .whole c a => r.addAttribute c a
  | .single c attributeId l => r.addAttribute c (.ofLiteral attributeId l)

/-- The request that is built by additions, one after the other. -/
def built (version : Version) (additions : List Addition) : Request :=
  additions.foldl add { version }

variable {additions : List Addition} {x : Addition} {c : String}

lemma add_eq (r : Request) (x : Addition) : r.add x = r.addAttribute x.category x.toAttribute := by
  cases x <;> rfl

lemma built_concat (version : Version) (additions : List Addition) (x : Addition) :
    built version (additions ++ [x]) =
      (built version additions).addAttribute x.category x.toAttribute := by
  rw [built, List.foldl_concat, add_eq, built]

/-- The block of a category, with all that was added to it. -/
def blockOf (additions : List Addition) (c : String) : Block :=
  { category := c, attributes := (additions.filter (·.category == c)).map (·.toAttribute) }

lemma category_blockOf (additions : List Addition) (c : String) :
    (blockOf additions c).category = c := rfl

lemma blockOf_concat_of_ne (h : x.category ≠ c) :
    blockOf (additions ++ [x]) c = blockOf additions c := by
  simp [blockOf, List.filter_append, h]

lemma blockOf_concat_self (additions : List Addition) (x : Addition) :
    blockOf (additions ++ [x]) x.category =
      { blockOf additions x.category with
        attributes := (blockOf additions x.category).attributes ++ [x.toAttribute] } := by
  simp [blockOf, List.filter_append]

lemma filter_category_of_not_mem (h : c ∉ additions.map (·.category)) :
    additions.filter (·.category == c) = [] := by
  refine List.filter_eq_nil_iff.mpr fun x hx hsame => h ?_
  exact List.mem_map.mpr ⟨x, hx, by simpa using hsame⟩

/-- A category that nothing was added to gets a block with the one attribute. -/
lemma blockOf_concat_of_not_mem (h : x.category ∉ additions.map (·.category)) :
    blockOf (additions ++ [x]) x.category =
      { category := x.category, attributes := [x.toAttribute] } := by
  rw [blockOf_concat_self, blockOf, filter_category_of_not_mem h]
  rfl

/-- An attribute changes the block of its category only, or comes in a new block at the end. -/
lemma insertAttribute_map {categories : List String} (hnodup : categories.Nodup) :
    insertAttribute x.category x.toAttribute (categories.map (blockOf additions)) =
      categories.map (blockOf (additions ++ [x])) ++ if x.category ∈ categories then []
        else [{ category := x.category, attributes := [x.toAttribute] }] := by
  induction categories with
  | nil => rfl
  | cons c categories ih =>
    obtain ⟨hnot, hnodup⟩ := List.nodup_cons.mp hnodup
    rw [List.map_cons, insertAttribute, category_blockOf, List.map_cons]
    by_cases hc : c = x.category
    · -- The first block of the category is the only one, so that those after it stay as they are.
      subst hc
      have hothers : categories.map (blockOf (additions ++ [x])) =
          categories.map (blockOf additions) := by
        refine List.map_congr_left fun d hd => blockOf_concat_of_ne ?_
        rintro rfl
        exact hnot hd
      rw [if_pos rfl, if_pos List.mem_cons_self, hothers, blockOf_concat_self, List.append_nil]
      rfl
    · rw [if_neg hc, ih hnodup, blockOf_concat_of_ne (Ne.symm hc), List.cons_append]
      simp only [List.mem_cons, Ne.symm hc, false_or]

/-- There is one block for each category, in the order in which the categories first appear. -/
theorem blocks_built (version : Version) (additions : List Addition) :
    (built version additions).blocks =
      (additions.map (·.category)).eraseDups.map (blockOf additions) := by
  induction additions using List.reverseRecOn with
  | nil => rfl
  | append_singleton additions x ih =>
    rw [built_concat, addAttribute, ih, insertAttribute_map (nodup_eraseDups _), List.map_append,
      List.map_singleton, eraseDups_concat]
    simp only [List.mem_eraseDups]
    split
    case isTrue => rw [List.append_nil]
    case isFalse h =>
      rw [List.map_append, List.map_singleton, blockOf_concat_of_not_mem h]

lemma references_built (version : Version) (additions : List Addition) :
    (built version additions).references = [] := by
  induction additions using List.reverseRecOn with
  | nil => rfl
  | append_singleton additions x ih => rw [built_concat, addAttribute, ih]

lemma nodup_categories_built (version : Version) (additions : List Addition) :
    ((built version additions).blocks.map (·.category)).Nodup := by
  have hcategories : (fun b : Block => b.category) ∘ blockOf additions = id := rfl
  rw [blocks_built, List.map_map, hcategories, List.map_id]
  exact nodup_eraseDups _

lemma blocksOf_built (version : Version) (additions : List Addition) (c : String) :
    (built version additions).blocksOf c =
      if c ∈ additions.map (·.category) then [blockOf additions c] else [] := by
  have hcategory : (fun b : Block => b.category == c) ∘ blockOf additions = (· == c) := rfl
  rw [blocksOf, blocks_built, List.filter_map, hcategory, List.filter_beq,
    (nodup_eraseDups _).count]
  simp only [List.mem_eraseDups]
  split <;> rfl

/-- The attributes of a category, in the order in which they were added. -/
lemma attributes_built (version : Version) (additions : List Addition) (c : String) :
    ((built version additions).blocksOf c).flatMap Block.attributes =
      (additions.filter (·.category == c)).map (·.toAttribute) := by
  rw [blocksOf_built]
  split
  case isTrue => rw [List.flatMap_singleton, blockOf]
  case isFalse h => rw [filter_category_of_not_mem h, List.flatMap_nil, List.map_nil]

lemma valuesFor_built (version : Version) (additions : List Addition) (q : AttributeQuery) :
    (built version additions).valuesFor q =
      (additions.filter (·.Answers q)).flatMap (·.toAttribute.values) := by
  have hanswers : (fun x : Addition => decide (x.Answers q)) =
      fun x => x.toAttribute.answers q && x.category == q.category := by
    funext x
    rw [Bool.eq_iff_iff, decide_eq_true_iff, x.answers_iff, Bool.and_eq_true, beq_iff_eq, and_comm]
  rw [valuesFor, attributes_built, List.filter_map, List.filter_filter, List.flatMap_map, hanswers]
  rfl

/-- A request that is built up from attributes asks for one decision: no category has two blocks,
and the request is its own only individual request. Without another source a question is answered
with the values of what answers it, in the order in which it was added. -/
theorem built_asks_once (version : Version) (additions : List Addition) :
    (∀ c, ((built version additions).blocksOf c).length ≤ 1) ∧
      (built version additions).individuals = [.ok (built version additions)] ∧
      ∀ q, ((built version additions).source none).values q =
        .ok ((additions.filter (·.Answers q)).flatMap (·.toAttribute.values)) := by
  refine ⟨fun c => ?_, individuals_of_nodup (references_built version additions)
    (nodup_categories_built version additions), fun q => ?_⟩
  · rw [blocksOf_built]
    split
    · exact le_rfl
    · exact Nat.zero_le 1
  · rw [← valuesFor_built version additions q]
    rfl

/-- The type of a stay is spelled in two ways, and a resource comes in between. -/
example :
    ((built .v2_0 [.single "subject" "stay" ⟨DataType.dayTimeDuration.uri, "P1D"⟩,
        .single "resource" "stay" ⟨DataType.dayTimeDuration.uri, "P9D"⟩,
        .whole "subject" ⟨"stay", some "ward", DataType.queryNamespace ++ "dayTimeDuration",
          ["PT2H", "PT1H"], false⟩]).source none).values
      ⟨"subject", "stay", DataType.dayTimeDuration.uri, none⟩ = .ok ["P1D", "PT2H", "PT1H"] := by rfl

end PolicyDecision.Request

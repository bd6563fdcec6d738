import PolicyDecision.Proofs.Combinations
import Mathlib.Data.List.Perm.Basic
import Mathlib.Tactic.Common

/-! The individual requests into which a request is split. -/

namespace PolicyDecision.Request

/-- The groups hold blocks of these categories, one group for each, and none is empty. -/
def GroupedBy (categories : List String) (groups : List (List Block)) : Prop :=
  List.Forall₂ (fun c group => group ≠ [] ∧ ∀ b ∈ group, b.category = c) categories groups

section Groups

variable {categories : List String} {groups : List (List Block)}

/-- Whether a block belongs to a group can be told from the category of the group. -/
lemma any_category {c : String} {group : List Block}
    (h : group ≠ [] ∧ ∀ b ∈ group, b.category = c) (b : Block) :
    group.any (·.category == b.category) = (c == b.category) := by
  obtain ⟨first, rest, rfl⟩ := List.exists_cons_of_ne_nil h.1
  by_cases hc : c = b.category
  · rw [List.any_cons, h.2 first List.mem_cons_self, hc]
    simp
  · have hnone : (first :: rest).any (·.category == b.category) = false := by
      refine List.any_eq_false.mpr fun b' hb' => ?_
      rw [h.2 b' hb']
      simpa using hc
    rw [hnone]
    simpa using hc

lemma GroupedBy.add (h : GroupedBy categories groups) (b : Block) :
    GroupedBy (if b.category ∈ categories then categories else categories ++ [b.category])
      (addToGroups b groups) := by
  induction h with
  | nil =>
    rw [if_neg List.not_mem_nil]
    exact .cons ⟨List.cons_ne_nil _ _, by simp⟩ .nil
  | @cons c group categories groups hgroup hgroups ih =>
    rw [addToGroups, any_category hgroup]
    by_cases hc : c = b.category
    · rw [if_pos (by simp [hc]), if_pos (by simp [hc])]
      refine .cons ⟨by simp, fun b' hb' => ?_⟩ hgroups
      rcases List.mem_append.mp hb' with hb' | hb'
      · exact hgroup.2 b' hb'
      · rw [List.mem_singleton.mp hb', hc]
    · rw [if_neg (show ¬ (c == b.category) = true by simpa using hc)]
      by_cases hmem : b.category ∈ categories
      · rw [if_pos hmem] at ih
        rw [if_pos (List.mem_cons_of_mem _ hmem)]
        exact .cons hgroup ih
      · rw [if_neg hmem] at ih
        have hnot : b.category ∉ c :: categories := by
          rw [List.mem_cons, not_or]
          exact ⟨fun heq => hc heq.symm, hmem⟩
        rw [if_neg hnot]
        exact .cons hgroup ih

lemma flatten_addToGroups (b : Block) (groups : List (List Block)) :
    (addToGroups b groups).flatten.Perm (groups.flatten ++ [b]) := by
  induction groups with
  | nil => rfl
  | cons group groups ih =>
    rw [addToGroups]
    split
    · rw [List.flatten_cons, List.flatten_cons, List.append_assoc, List.append_assoc]
      exact (List.perm_append_comm).append_left group
    · rw [List.flatten_cons, List.flatten_cons, List.append_assoc]
      exact ih.append_left group

/-- Grouping finds each category once, and loses no block. -/
lemma exists_groupedBy (r : Request) :
    ∃ categories, categories.Nodup ∧ GroupedBy categories r.groups ∧
      r.groups.flatten.Perm r.blocks := by
  have hfold : ∀ (blocks : List Block) (categories : List String) (groups : List (List Block)),
      categories.Nodup → GroupedBy categories groups →
        ∃ categories', categories'.Nodup ∧
          GroupedBy categories' (blocks.foldl (fun groups b => addToGroups b groups) groups) ∧
          (blocks.foldl (fun groups b => addToGroups b groups) groups).flatten.Perm
            (groups.flatten ++ blocks) := by
    intro blocks
    induction blocks with
    | nil => exact fun categories groups hnodup h => ⟨categories, hnodup, h, by simp⟩
    | cons b blocks ih =>
      intro categories groups hnodup h
      have hnodup' :
          (if b.category ∈ categories then categories else categories ++ [b.category]).Nodup := by
        split
        · exact hnodup
        · exact (List.perm_append_singleton _ _).nodup_iff.mpr (List.nodup_cons.mpr ⟨‹_›, hnodup⟩)
      obtain ⟨categories', hcategories', hgroups, hperm⟩ := ih _ _ hnodup' (h.add b)
      refine ⟨categories', hcategories', hgroups, hperm.trans ?_⟩
      rw [List.append_cons]
      exact (flatten_addToGroups b groups).append_right blocks
  exact hfold r.blocks [] [] List.nodup_nil .nil

lemma GroupedBy.category_flatten (h : GroupedBy categories groups)
    (hsmall : ∀ group ∈ groups, group.length ≤ 1) :
    groups.flatten.map (·.category) = categories := by
  induction h with
  | nil => rfl
  | @cons c group categories groups hgroup hgroups ih =>
    obtain ⟨hle, hrest⟩ := List.forall_mem_cons.mp hsmall
    obtain ⟨b, rfl⟩ := List.length_eq_one_iff.mp
      (Nat.le_antisymm hle (List.length_pos_iff.mpr hgroup.1))
    rw [List.flatten_cons, List.map_append, ih hrest]
    simp [hgroup.2 b]

lemma GroupedBy.exists_category (h : GroupedBy categories groups) {group : List Block}
    (hgroup : group ∈ groups) : ∃ c, ∀ b ∈ group, b.category = c := by
  induction h with
  | nil => cases hgroup
  | @cons c group' categories groups hgroup' hgroups ih =>
    rcases List.mem_cons.mp hgroup with rfl | hgroup
    · exact ⟨c, hgroup'.2⟩
    · exact ih hgroup

/-- A group with two blocks repeats its category. -/
lemma GroupedBy.small_of_nodup (h : GroupedBy categories groups)
    (hnodup : (groups.flatten.map (·.category)).Nodup) : ∀ group ∈ groups, group.length ≤ 1 := by
  intro group hgroup
  obtain ⟨c, hcategory⟩ := h.exists_category hgroup
  have hsame : group.map (·.category) = List.replicate group.length c :=
    List.eq_replicate_iff.mpr ⟨List.length_map .., by simpa using hcategory⟩
  have hdistinct := hnodup.sublist ((List.sublist_flatten_of_mem hgroup).map (·.category))
  rw [hsame] at hdistinct
  exact List.nodup_replicate.mp hdistinct

/-- A choice takes one block of each category. -/
lemma GroupedBy.category_of_mem_choices (h : GroupedBy categories groups) {blocks : List Block}
    (hblocks : blocks ∈ choices groups) : blocks.map (·.category) = categories := by
  induction h generalizing blocks with
  | nil =>
    rw [List.mem_singleton.mp hblocks]
    rfl
  | cons hgroup hgroups ih =>
    rw [choices_cons] at hblocks
    obtain ⟨b, hb, hblocks⟩ := List.mem_flatMap.mp hblocks
    obtain ⟨rest, hrest, rfl⟩ := List.mem_map.mp hblocks
    rw [List.map_cons, hgroup.2 b hb, ih hrest]

lemma GroupedBy.choices_ne_nil (h : GroupedBy categories groups) : choices groups ≠ [] := by
  induction h with
  | nil => exact List.cons_ne_nil _ _
  | @cons c group categories groups hgroup hgroups ih =>
    obtain ⟨b, rest, rfl⟩ := List.exists_cons_of_ne_nil hgroup.1
    obtain ⟨blocks, hblocks⟩ := List.exists_mem_of_ne_nil _ ih
    rw [choices_cons]
    refine List.ne_nil_of_mem (a := b :: blocks) (List.mem_flatMap.mpr ⟨b, List.mem_cons_self, ?_⟩)
    exact List.mem_map.mpr ⟨blocks, hblocks, rfl⟩

end Groups

/-- Several blocks of one category make groups of more than one block. -/
lemma small_groups_iff (r : Request) :
    r.groups.all (·.length ≤ 1) = true ↔ (r.blocks.map (·.category)).Nodup := by
  obtain ⟨categories, hnodup, hgroups, hperm⟩ := r.exists_groupedBy
  have hcategories := (hperm.map (·.category)).nodup_iff
  simp only [List.all_eq_true, decide_eq_true_eq]
  constructor
  · intro hsmall
    rw [← hcategories, hgroups.category_flatten hsmall]
    exact hnodup
  · intro hdistinct
    exact hgroups.small_of_nodup (hcategories.mpr hdistinct)

/-- A request for one decision is not split. -/
lemma individuals_of_nodup {r : Request} (hreferences : r.references = [])
    (hdistinct : (r.blocks.map (·.category)).Nodup) : r.individuals = [.ok r] := by
  unfold individuals
  rw [hreferences, if_pos (r.small_groups_iff.mpr hdistinct)]
  simp

/-- A request that repeats a category is split into requests that are not split again. -/
theorem individuals_of_repeated {r : Request} (hversion : r.version.isExtended = true)
    (hreferences : r.references = []) (hrepeated : ¬ (r.blocks.map (·.category)).Nodup) :
    ∃ chosen : List (List Block), chosen ≠ [] ∧
      r.individuals = chosen.map (fun blocks => .ok (r.individual blocks)) ∧
      ∀ blocks ∈ chosen, (r.individual blocks).individuals = [.ok (r.individual blocks)] := by
  obtain ⟨categories, hnodup, hgroups, -⟩ := r.exists_groupedBy
  refine ⟨choices r.groups, hgroups.choices_ne_nil, ?_, fun blocks hblocks => ?_⟩
  · unfold individuals
    rw [hreferences, if_neg (show ¬ r.groups.all (·.length ≤ 1) = true from
      fun hsmall => hrepeated (r.small_groups_iff.mp hsmall))]
    simp [hversion]
  · refine individuals_of_nodup rfl ?_
    change (blocks.map (·.category)).Nodup
    rw [hgroups.category_of_mem_choices hblocks]
    exact hnodup

lemma individuals_of_references {r : Request} (hversion : r.version.isExtended = true)
    (hreferences : r.references ≠ []) :
    r.individuals = r.references.map fun ids => (ids.mapM r.blockById).map r.individual := by
  unfold individuals
  rw [if_neg (by simp [hversion]), if_pos (by simpa using hreferences)]

/-- There is always something to evaluate. -/
lemma individuals_ne_nil (r : Request) : r.individuals ≠ [] := by
  unfold individuals
  split
  · exact List.cons_ne_nil _ _
  · split
    · rename_i hreferences
      simpa using hreferences
    · split
      · exact List.cons_ne_nil _ _
      · obtain ⟨categories, -, hgroups, -⟩ := r.exists_groupedBy
        simpa using hgroups.choices_ne_nil

/-- No block has the id. -/
def Lacks (r : Request) (id : String) : Prop := ∀ b ∈ r.blocks, b.id ≠ some id

instance (r : Request) (id : String) : Decidable (r.Lacks id) :=
  inferInstanceAs (Decidable (∀ b ∈ r.blocks, b.id ≠ some id))

lemma find?_eq_none_iff_lacks {r : Request} {id : String} :
    r.blocks.find? (·.id == some id) = none ↔ r.Lacks id := by
  rw [List.find?_eq_none, Lacks]
  simp

lemma blockById_of_lacks {r : Request} {id : String} (h : r.Lacks id) :
    r.blockById id = .error (.unknownBlock id) := by
  rw [blockById, find?_eq_none_iff_lacks.mpr h]

lemma lacks_of_blockById {r : Request} {id : String} {e : EvaluationError}
    (h : r.blockById id = .error e) : r.Lacks id := by
  unfold blockById at h
  split at h
  · cases h
  · exact find?_eq_none_iff_lacks.mp ‹_›

/-- The first block that is missing is named. -/
lemma mapM_blockById_of_lacks {r : Request} {ids : List String} (h : ∃ id ∈ ids, r.Lacks id) :
    ∃ id ∈ ids, r.Lacks id ∧ ids.mapM r.blockById = .error (.unknownBlock id) := by
  induction ids with
  | nil =>
    obtain ⟨id, hid, -⟩ := h
    cases hid
  | cons first ids ih =>
    rw [List.mapM_cons]
    cases hfirst : r.blockById first with
    | error e =>
      have hlacks := lacks_of_blockById hfirst
      rw [blockById_of_lacks hlacks] at hfirst
      cases hfirst
      exact ⟨first, List.mem_cons_self, hlacks, rfl⟩
    | ok b =>
      obtain ⟨id, hid, hlacks⟩ := h
      have hrest : id ∈ ids := by
        refine (List.mem_cons.mp hid).resolve_left ?_
        rintro rfl
        rw [blockById_of_lacks hlacks] at hfirst
        cases hfirst
      obtain ⟨id', hid', hlacks', hids⟩ := ih ⟨id, hrest, hlacks⟩
      exact ⟨id', List.mem_cons_of_mem first hid', hlacks', by rw [hids]; rfl⟩

end PolicyDecision.Request

import PolicyDecision.Proofs.Combinations
import PolicyDecision.Proofs.FirstOccurrence
import PolicyDecision.Proofs.Request.Splitting
import Mathlib.Data.List.FinRange

/-! A request that repeats categories is split by the places of its blocks: there is one individual
request for each choice of a place for every category, and the choices come in lexicographic
order. -/

namespace PolicyDecision.Request

/-- The categories in the order in which they first appear. -/
def categories (r : Request) : List String := (r.blocks.map (·.category)).eraseDups

section Groups

variable {blocks : List Block} {categories : List String}

/-- A block comes last in the group of its category. -/
lemma addToGroups_map (hpresent : ∀ c ∈ categories, ∃ b ∈ blocks, b.category = c)
    (hnodup : categories.Nodup) (b : Block) :
    addToGroups b (categories.map fun c => blocks.filter (·.category == c)) =
      (categories.map fun c => (blocks ++ [b]).filter (·.category == c)) ++
        if b.category ∈ categories then [] else [[b]] := by
  induction categories with
  | nil => rfl
  | cons c categories ih =>
    obtain ⟨⟨b', hb', hc⟩, hpresent⟩ := List.forall_mem_cons.mp hpresent
    obtain ⟨hnot, hnodup⟩ := List.nodup_cons.mp hnodup
    have hgroup : blocks.filter (·.category == c) ≠ [] ∧
        ∀ b ∈ blocks.filter (·.category == c), b.category = c := by
      refine ⟨List.ne_nil_of_mem (List.mem_filter.mpr ⟨hb', by simp [hc]⟩), fun b hb => ?_⟩
      simpa using (List.mem_filter.mp hb).2
    rw [List.map_cons, addToGroups, any_category hgroup]
    by_cases hcategory : c = b.category
    · have hothers : ∀ d ∈ categories, (blocks ++ [b]).filter (·.category == d) =
          blocks.filter (·.category == d) := by
        intro d hd
        have hd : b.category ≠ d := by
          rintro rfl
          exact hnot (hcategory ▸ hd)
        simp [List.filter_append, hd]
      rw [if_pos (by simpa using hcategory), if_pos (by simp [hcategory]), List.map_cons,
        List.map_congr_left hothers, List.append_nil, List.filter_append]
      simp [hcategory]
    · rw [if_neg (by simpa using hcategory), ih hpresent hnodup, List.map_cons, List.filter_append]
      simp [Ne.symm hcategory]

/-- Grouping puts together the blocks of each category, in their order. -/
lemma foldl_addToGroups (blocks : List Block) :
    blocks.foldl (fun groups b => addToGroups b groups) [] =
      (blocks.map (·.category)).eraseDups.map fun c => blocks.filter (·.category == c) := by
  induction blocks using List.reverseRecOn with
  | nil => rfl
  | append_singleton blocks b ih =>
    have hpresent : ∀ c ∈ (blocks.map (·.category)).eraseDups, ∃ b ∈ blocks, b.category = c := by
      intro c hc
      exact List.mem_map.mp (List.mem_eraseDups.mp hc)
    rw [List.foldl_append, ih, List.foldl_cons, List.foldl_nil,
      addToGroups_map hpresent (nodup_eraseDups _), List.map_append, List.map_singleton,
      eraseDups_concat]
    by_cases hb : b.category ∈ blocks.map (·.category)
    · rw [if_pos (List.mem_eraseDups.mpr hb), if_pos hb, List.append_nil]
    · have hnone : blocks.filter (·.category == b.category) = [] := by
        refine List.filter_eq_nil_iff.mpr fun b' hb' hsame => hb ?_
        exact List.mem_map.mpr ⟨b', hb', by simpa using hsame⟩
      rw [if_neg (fun hmem => hb (List.mem_eraseDups.mp hmem)), if_neg hb, List.map_append,
        List.map_singleton, List.filter_append, hnone]
      simp

lemma groups_eq (r : Request) : r.groups = r.categories.map r.blocksOf :=
  foldl_addToGroups r.blocks

end Groups

variable (r : Request)

/-- The block at a place. -/
def blockAt (i : Fin r.blocks.length) : Block := r.blocks[i]

/-- A choice of one block for every category, given by the places of the blocks. -/
def IsChoice (choice : List (Fin r.blocks.length)) : Prop :=
  choice.map (fun i => (r.blockAt i).category) = r.categories

/-- The places of the blocks of a category. -/
def places (c : String) : List (Fin r.blocks.length) :=
  (List.finRange r.blocks.length).filter fun i => (r.blockAt i).category == c

/-- All ways to choose a place for each of the categories. -/
def placings : List String → List (List (Fin r.blocks.length))
  | [] => [[]]
  | c :: cs => (r.places c).flatMap fun i => (placings cs).map (i :: ·)

lemma mem_places {c : String} {i : Fin r.blocks.length} :
    i ∈ r.places c ↔ (r.blockAt i).category = c := by
  simp [places]

lemma map_places (c : String) : (r.places c).map r.blockAt = r.blocksOf c := by
  have hblocks : (List.finRange r.blocks.length).map r.blockAt = r.blocks :=
    List.map_getElem_finRange r.blocks
  calc (r.places c).map r.blockAt
      = ((List.finRange r.blocks.length).map r.blockAt).filter (·.category == c) := by
        rw [List.filter_map]
        rfl
    _ = r.blocksOf c := by rw [hblocks, blocksOf]

lemma placings_eq_combinations (categories : List String) :
    r.placings categories = combinations (categories.map r.places) := by
  induction categories with
  | nil => rfl
  | cons c categories ih => rw [placings, ih, List.map_cons, combinations]

/-- Blocks are chosen as their places are. -/
lemma choices_map_blocksOf (categories : List String) :
    choices (categories.map r.blocksOf) = (r.placings categories).map (·.map r.blockAt) := by
  have hblocks : categories.map r.blocksOf = (categories.map r.places).map (·.map r.blockAt) := by
    simp [map_places]
  rw [choices_eq_combinations, placings_eq_combinations, ← combinations_map, hblocks]

lemma mem_placings {categories : List String} {choice : List (Fin r.blocks.length)} :
    choice ∈ r.placings categories ↔
      choice.map (fun i => (r.blockAt i).category) = categories := by
  rw [placings_eq_combinations, mem_combinations, List.forall₂_map_right_iff]
  simp only [mem_places]
  rw [← List.forall₂_map_left_iff (R := Eq), List.forall₂_eq_eq_eq]

/-- An earlier place for an earlier category comes first, whatever the rest is. -/
lemma pairwise_placings (categories : List String) : (r.placings categories).Pairwise (· < ·) := by
  rw [placings_eq_combinations]
  refine pairwise_combinations fun l hl => ?_
  obtain ⟨c, -, rfl⟩ := List.mem_map.mp hl
  exact (List.pairwise_lt_finRange _).filter _

lemma length_placings (categories : List String) :
    (r.placings categories).length = (categories.map fun c => (r.blocksOf c).length).prod := by
  rw [placings_eq_combinations, length_combinations, List.map_map]
  simp [← map_places, Function.comp_def]

variable {r}

lemma mem_categories_of_blocksOf {c : String} (h : r.blocksOf c ≠ []) : c ∈ r.categories := by
  obtain ⟨b, hb⟩ := List.exists_mem_of_ne_nil _ h
  obtain ⟨hb, hcategory⟩ := List.mem_filter.mp hb
  exact List.mem_eraseDups.mpr (List.mem_map.mpr ⟨b, hb, by simpa using hcategory⟩)

lemma IsChoice.individuals {choice : List (Fin r.blocks.length)} (h : r.IsChoice choice) :
    (r.individual (choice.map r.blockAt)).individuals =
      [.ok (r.individual (choice.map r.blockAt))] := by
  refine individuals_of_nodup rfl ?_
  have hcategories : (choice.map r.blockAt).map (·.category) = r.categories := by
    rw [List.map_map]
    exact h
  change ((choice.map r.blockAt).map (·.category)).Nodup
  rw [hcategories]
  exact nodup_eraseDups _

/-- A request that repeats a category is split into one request for each choice of a block from
every category. The choices, as lists of places, come in lexicographic order; there are as many as
the numbers of blocks of the categories make together, and none is split again. -/
theorem individuals_eq_choices {c : String} (hversion : r.version.isExtended = true)
    (hreferences : r.references = []) (hrepeated : 1 < (r.blocksOf c).length) :
    ∃ choices : List (List (Fin r.blocks.length)),
      (∀ choice, choice ∈ choices ↔ r.IsChoice choice) ∧ choices.Pairwise (· < ·) ∧
      r.individuals = choices.map (fun choice => .ok (r.individual (choice.map r.blockAt))) ∧
      choices.length = (r.categories.map fun c => (r.blocksOf c).length).prod ∧
      ∀ part ∈ r.individuals, ∃ q, part = .ok q ∧ q.individuals = [.ok q] := by
  have hindividuals : r.individuals =
      (r.placings r.categories).map fun choice => .ok (r.individual (choice.map r.blockAt)) := by
    have hlarge : r.blocksOf c ∈ r.groups := by
      rw [groups_eq]
      refine List.mem_map.mpr ⟨c, mem_categories_of_blocksOf ?_, rfl⟩
      exact List.ne_nil_of_length_pos (Nat.zero_lt_of_lt hrepeated)
    have hsplit : ¬ r.groups.all (·.length ≤ 1) = true := by
      intro hsmall
      have hle := List.all_eq_true.mp hsmall _ hlarge
      exact absurd (of_decide_eq_true hle) (Nat.not_le.mpr hrepeated)
    unfold individuals
    rw [hreferences, if_neg hsplit, groups_eq, choices_map_blocksOf, List.map_map]
    simp [hversion, Function.comp_def]
  refine ⟨r.placings r.categories, fun _ => r.mem_placings, r.pairwise_placings _, hindividuals,
    r.length_placings _, fun part hpart => ?_⟩
  rw [hindividuals] at hpart
  obtain ⟨choice, hchoice, rfl⟩ := List.mem_map.mp hpart
  have hchoice : r.IsChoice choice := r.mem_placings.mp hchoice
  exact ⟨_, rfl, hchoice.individuals⟩

/-- Two subjects and two resources, in turn. -/
def crossing : Request where
  version := .v3_0
  blocks := [⟨"subject", some "alice", []⟩, ⟨"resource", some "chart", []⟩,
    ⟨"subject", some "bob", []⟩, ⟨"resource", some "scan", []⟩]

theorem individuals_crossing : crossing.version.isExtended = true ∧ crossing.references = [] ∧
    1 < (crossing.blocksOf "resource").length ∧ crossing.individuals.length = 4 ∧
      ∀ part ∈ crossing.individuals, ∃ q, part = .ok q ∧ q.individuals = [.ok q] := by
  obtain ⟨choices, -, -, hindividuals, hlength, hagain⟩ :=
    individuals_eq_choices (r := crossing) (c := "resource") rfl rfl (by decide)
  refine ⟨rfl, rfl, by decide, ?_, hagain⟩
  rw [hindividuals, List.length_map, hlength]
  decide

/-- The second resource comes before the second subject. -/
example : crossing.individuals.map (·.map (·.blocks.map (·.id))) =
    [.ok [some "alice", some "chart"], .ok [some "alice", some "scan"],
      .ok [some "bob", some "chart"], .ok [some "bob", some "scan"]] := by rfl

end PolicyDecision.Request

import PolicyDecision.Combining.Registry
import PolicyDecision.Policy.Repository
import PolicyDecision.Policy.Version
import Mathlib.Data.List.Lex
import Mathlib.Data.List.Pairwise
import Mathlib.Order.Compare

/-! A reference leads to the newest of the entries that it admits: the one with the greatest version,
and of several with that version the one that was added last. -/

namespace PolicyDecision

/-! Versions are ordered lexicographically, number by number. -/

namespace VersionNumber

lemma compares_cons (n : ℕ) {o : Ordering} {v w : VersionNumber} (h : o.Compares v w) :
    o.Compares (n :: v) (n :: w) := by
  cases o with
  | lt => exact List.Lex.cons h
  | eq => exact congrArg (n :: ·) h
  | gt => exact List.Lex.cons h

/-- Versions are compared as lists of numbers are ordered. -/
lemma compares (v w : VersionNumber) : (compare v w).Compares v w := by
  induction v generalizing w with
  | nil =>
    cases w with
    | nil => rfl
    | cons n w => exact List.nil_lt_cons n w
  | cons m v ih =>
    cases w with
    | nil => exact List.nil_lt_cons m v
    | cons n w =>
      rw [compare]
      rcases Nat.lt_trichotomy m n with hlt | rfl | hgt
      · rw [Nat.compare_eq_lt.mpr hlt]
        exact List.Lex.rel hlt
      · rw [Nat.compare_eq_eq.mpr rfl, Ordering.then]
        exact compares_cons m (ih w)
      · rw [Nat.compare_eq_gt.mpr hgt]
        exact List.Lex.rel hgt

lemma compare_eq_gt_iff {v w : VersionNumber} : compare v w = .gt ↔ w < v :=
  (compares v w).eq_gt

end VersionNumber

lemma VersionConstraints.matchesVersion_iff {constraints : VersionConstraints} {version : String} :
    constraints.matchesVersion version = true ↔
      ∃ v, VersionNumber.read version = .ok v ∧ constraints.matchesNumber v = true := by
  rw [matchesVersion]
  cases VersionNumber.read version <;> simp

/-! The latest of a list of entries. -/

section Latest

variable {α : Type} {key : α → VersionNumber} {entries : List α} {a : α}

lemma latestBy_eq_none_iff : latestBy key entries = none ↔ entries = [] := by
  cases entries with
  | nil => exact iff_of_true rfl rfl
  | cons b entries =>
    refine iff_of_false (fun h => ?_) (List.cons_ne_nil b entries)
    rw [latestBy] at h
    split at h
    · cases h
    · split at h <;> cases h

/-- None before the latest entry is later, and all after it are earlier. -/
lemma exists_of_latestBy_eq_some (h : latestBy key entries = some a) :
    ∃ before after, entries = before ++ a :: after ∧ (∀ b ∈ before, key b ≤ key a) ∧
      ∀ b ∈ after, key b < key a := by
  induction entries generalizing a with
  | nil => cases h
  | cons b entries ih =>
    rw [latestBy] at h
    split at h
    · rename_i hnone
      cases h
      obtain rfl := latestBy_eq_none_iff.mp hnone
      exact ⟨[], [], rfl, List.forall_mem_nil _, List.forall_mem_nil _⟩
    · rename_i c hc
      obtain ⟨before, after, rfl, hbefore, hafter⟩ := ih hc
      split at h
      · rename_i hlater
        have hcb : key c < key b := VersionNumber.compare_eq_gt_iff.mp hlater
        cases h
        refine ⟨[], before ++ c :: after, rfl, List.forall_mem_nil _, ?_⟩
        intro d hd
        rcases List.mem_append.mp hd with hd | hd
        · exact (hbefore d hd).trans_lt hcb
        · rcases List.mem_cons.mp hd with rfl | hd
          · exact hcb
          · exact (hafter d hd).trans hcb
      · rename_i hnot
        have hbc : key b ≤ key c := not_lt.mp (mt VersionNumber.compare_eq_gt_iff.mpr hnot)
        cases h
        exact ⟨b :: before, after, rfl, List.forall_mem_cons.mpr ⟨hbc, hbefore⟩, hafter⟩

lemma latestBy_append_cons {before after : List α} (hbefore : ∀ b ∈ before, key b ≤ key a)
    (hafter : ∀ b ∈ after, key b < key a) :
    latestBy key (before ++ a :: after) = some a := by
  induction before with
  | nil =>
    rw [List.nil_append, latestBy]
    split
    · rfl
    · rename_i b hb
      obtain ⟨_, _, rfl, -, -⟩ := exists_of_latestBy_eq_some hb
      have hlt := hafter b (List.mem_append_right _ List.mem_cons_self)
      rw [if_pos (VersionNumber.compare_eq_gt_iff.mpr hlt)]
  | cons b before ih =>
    obtain ⟨hb, hbefore⟩ := List.forall_mem_cons.mp hbefore
    rw [List.cons_append, latestBy, ih hbefore]
    exact if_neg (mt VersionNumber.compare_eq_gt_iff.mp (not_lt.mpr hb))

end Latest

section Admitted

variable {α : Type} (version : α → String) (constraints : VersionConstraints)

/-- The entry has this version, and the constraints admit it. -/
def Admitted (a : α) (v : VersionNumber) : Prop :=
  VersionNumber.read (version a) = .ok v ∧ constraints.matchesNumber v = true

/-- What is found is the newest of the entries, which were added in this order. -/
structure FindsNewest (entries : List α) (found : Option α) : Prop where
  eq_none_iff : found = none ↔ ∀ a ∈ entries, ∀ v, ¬ Admitted version constraints a v
  eq_some_iff : ∀ a, found = some a ↔ ∃ before after v, entries = before ++ a :: after ∧
    Admitted version constraints a v ∧
    (∀ b ∈ before, ∀ w, Admitted version constraints b w → w ≤ v) ∧
    ∀ b ∈ after, ∀ w, Admitted version constraints b w → w < v

/-- Both entries have a version, and it is not the same one. -/
def DifferentVersions (a b : α) : Prop :=
  ∀ v, VersionNumber.read (version a) = .ok v → VersionNumber.read (version b) ≠ .ok v

variable {version constraints} {entries : List α}

lemma matchesVersion_iff_exists_admitted {a : α} :
    constraints.matchesVersion (version a) = true ↔ ∃ v, Admitted version constraints a v :=
  VersionConstraints.matchesVersion_iff

lemma getD_of_admitted {a : α} {v : VersionNumber} (h : Admitted version constraints a v) :
    (VersionNumber.read (version a)).toOption.getD [] = v := by
  rw [h.1]
  rfl

/-- The look-up compares the entries that are left once those not admitted are dropped. -/
theorem findsNewest_latestAdmitted (entries : List α) :
    FindsNewest version constraints entries (latestAdmitted version constraints entries) where
  eq_none_iff := by
    rw [latestAdmitted, latestBy_eq_none_iff, List.filter_eq_nil_iff]
    simp only [matchesVersion_iff_exists_admitted, not_exists]
  eq_some_iff a := by
    rw [latestAdmitted]
    constructor
    · intro h
      obtain ⟨before, after, hentries, hbefore, hafter⟩ := exists_of_latestBy_eq_some h
      obtain ⟨first, second, rfl, rfl, hsecond⟩ := List.filter_eq_append_iff.mp hentries
      obtain ⟨dropped, rest, rfl, hdropped, ha, rfl⟩ := List.filter_eq_cons_iff.mp hsecond
      obtain ⟨v, hv⟩ := matchesVersion_iff_exists_admitted.mp ha
      refine ⟨first ++ dropped, rest, v, by simp, hv, ?_, ?_⟩
      · intro b hb w hw
        have hmatch := matchesVersion_iff_exists_admitted.mpr ⟨w, hw⟩
        rcases List.mem_append.mp hb with hb | hb
        · have hle := hbefore b (List.mem_filter.mpr ⟨hb, hmatch⟩)
          rwa [getD_of_admitted hw, getD_of_admitted hv] at hle
        · exact absurd hmatch (hdropped b hb)
      · intro b hb w hw
        have hlt := hafter b
          (List.mem_filter.mpr ⟨hb, matchesVersion_iff_exists_admitted.mpr ⟨w, hw⟩⟩)
        rwa [getD_of_admitted hw, getD_of_admitted hv] at hlt
    · rintro ⟨before, after, v, rfl, hv, hbefore, hafter⟩
      have ha : constraints.matchesVersion (version a) = true :=
        matchesVersion_iff_exists_admitted.mpr ⟨v, hv⟩
      rw [List.filter_append, List.filter_cons, if_pos ha]
      refine latestBy_append_cons ?_ ?_
      · intro b hb
        obtain ⟨hb, hmatch⟩ := List.mem_filter.mp hb
        obtain ⟨w, hw⟩ := matchesVersion_iff_exists_admitted.mp hmatch
        rw [getD_of_admitted hw, getD_of_admitted hv]
        exact hbefore b hb w hw
      · intro b hb
        obtain ⟨hb, hmatch⟩ := List.mem_filter.mp hb
        obtain ⟨w, hw⟩ := matchesVersion_iff_exists_admitted.mp hmatch
        rw [getD_of_admitted hw, getD_of_admitted hv]
        exact hafter b hb w hw

namespace FindsNewest

variable {found found' : Option α} {a : α}

/-- The version of what is found is the greatest that is admitted. -/
lemma greatest (h : FindsNewest version constraints entries found) (ha : found = some a) :
    ∃ v, a ∈ entries ∧ Admitted version constraints a v ∧
      ∀ b ∈ entries, ∀ w, Admitted version constraints b w → w ≤ v := by
  obtain ⟨before, after, v, rfl, hv, hbefore, hafter⟩ := (h.eq_some_iff a).mp ha
  refine ⟨v, List.mem_append_right _ List.mem_cons_self, hv, ?_⟩
  intro b hb w hw
  rcases List.mem_append.mp hb with hb | hb
  · exact hbefore b hb w hw
  · rcases List.mem_cons.mp hb with rfl | hb
    · exact (Except.ok.inj (hw.1.symm.trans hv.1)).le
    · exact (hafter b hb w hw).le

/-- Where the versions differ, only one entry has the greatest, wherever it stands. -/
lemma eq_of_perm (h : FindsNewest version constraints entries found) {entries' : List α}
    (h' : FindsNewest version constraints entries' found') (hperm : entries.Perm entries')
    (hversions : entries.Pairwise (DifferentVersions version)) : found' = found := by
  cases ha : found with
  | none =>
    rw [h'.eq_none_iff]
    intro b hb
    exact h.eq_none_iff.mp ha b (hperm.mem_iff.mpr hb)
  | some a =>
    obtain ⟨v, hmem, hv, hgreatest⟩ := h.greatest ha
    cases hb : found' with
    | none => exact absurd hv (h'.eq_none_iff.mp hb a (hperm.mem_iff.mp hmem) v)
    | some b =>
      obtain ⟨w, hmem', hw, hgreatest'⟩ := h'.greatest hb
      have hvw : v = w :=
        (hgreatest' a (hperm.mem_iff.mp hmem) v hv).antisymm
          (hgreatest b (hperm.mem_iff.mpr hmem') w hw)
      subst hvw
      have : Std.Symm (DifferentVersions version) := ⟨fun _ _ h v hb ha => h v ha hb⟩
      by_contra hne
      have hab : a ≠ b := fun hab => hne (congrArg some hab.symm)
      exact hversions.forall hmem (hperm.mem_iff.mpr hmem') hab v hv.1 hw.1

end FindsNewest

end Admitted

namespace Catalogue

variable {α : Type}

lemma getD_get?_append (c : Catalogue (List α)) (key k : String) (a : α) :
    ((c.append key a).get? k).getD [] = (c.get? k).getD [] ++ if key == k then [a] else [] := by
  rw [append]
  by_cases hk : k = key
  · subst hk
    rw [get?_insert_self, beq_self_eq_true, if_pos rfl, Option.getD_some]
  · have hne : (key == k) = false := beq_eq_false_iff_ne.mpr (Ne.symm hk)
    rw [get?_insert_of_ne c hk, hne, if_neg Bool.false_ne_true, List.append_nil]

/-- Under each key stands what has been added there, in order. -/
lemma getD_get?_foldl_append (name : α → String) (added : List α) (c : Catalogue (List α))
    (k : String) : ((added.foldl (fun c a => c.append (name a) a) c).get? k).getD [] =
      (c.get? k).getD [] ++ added.filter (name · == k) := by
  induction added generalizing c with
  | nil => exact (List.append_nil _).symm
  | cons a added ih =>
    rw [List.foldl_cons, ih, getD_get?_append, List.append_assoc, List.filter_cons]
    split <;> rfl

end Catalogue

namespace PolicyStore

/-- Adds a policy or a policy set. -/
def add (store : PolicyStore) : Policy ⊕ PolicySet → PolicyStore
  | .inl p => store.addPolicy p
  | .inr s => store.addPolicySet s

/-- The store after additions in this order. -/
def ofAdditions (additions : List (Policy ⊕ PolicySet)) : PolicyStore := additions.foldl add {}

/-- The policies of an id, in the order in which they were added. -/
def policiesUnder (id : String) (additions : List (Policy ⊕ PolicySet)) : List Policy :=
  (additions.filterMap Sum.getLeft?).filter (·.id == id)

/-- The policy sets of an id, in the order in which they were added. -/
def policySetsUnder (id : String) (additions : List (Policy ⊕ PolicySet)) : List PolicySet :=
  (additions.filterMap Sum.getRight?).filter (·.id == id)

lemma foldl_add (additions : List (Policy ⊕ PolicySet)) (store : PolicyStore) :
    additions.foldl add store =
      ⟨(additions.filterMap Sum.getLeft?).foldl (fun c p => c.append p.id p) store.policies,
        (additions.filterMap Sum.getRight?).foldl (fun c s => c.append s.id s)
          store.policySets⟩ := by
  induction additions generalizing store with
  | nil => rfl
  | cons x additions ih =>
    rw [List.foldl_cons, ih]
    cases x <;> rfl

lemma getD_policies_ofAdditions (additions : List (Policy ⊕ PolicySet)) (id : String) :
    ((ofAdditions additions).policies.get? id).getD [] = policiesUnder id additions := by
  rw [ofAdditions, foldl_add]
  exact Catalogue.getD_get?_foldl_append Policy.id _ ∅ id

lemma getD_policySets_ofAdditions (additions : List (Policy ⊕ PolicySet)) (id : String) :
    ((ofAdditions additions).policySets.get? id).getD [] = policySetsUnder id additions := by
  rw [ofAdditions, foldl_add]
  exact Catalogue.getD_get?_foldl_append PolicySet.id _ ∅ id

/-- A reference leads to the newest entry of its id that its constraints admit, and nowhere only if
there is none. So the order of the additions does not matter to it as long as the versions under the
id are different. -/
theorem resolves_newest (additions : List (Policy ⊕ PolicySet)) (id : String)
    (constraints : VersionConstraints) :
    let policy? (l : List (Policy ⊕ PolicySet)) := (ofAdditions l).toRepository.policy? id constraints
    let policySet? (l : List (Policy ⊕ PolicySet)) :=
      (ofAdditions l).toRepository.policySet? id constraints
    FindsNewest (·.heading.version) constraints (policiesUnder id additions) (policy? additions) ∧
      FindsNewest (·.heading.version) constraints (policySetsUnder id additions)
        (policySet? additions) ∧
      ∀ reordered, additions.Perm reordered →
        ((policiesUnder id additions).Pairwise (DifferentVersions (·.heading.version)) →
          policy? reordered = policy? additions) ∧
        ((policySetsUnder id additions).Pairwise (DifferentVersions (·.heading.version)) →
          policySet? reordered = policySet? additions) := by
  intro policy? policySet?
  have hpolicies : ∀ l, FindsNewest (·.heading.version) constraints (policiesUnder id l)
      (policy? l) := by
    intro l
    rw [← getD_policies_ofAdditions]
    exact findsNewest_latestAdmitted _
  have hsets : ∀ l, FindsNewest (·.heading.version) constraints (policySetsUnder id l)
      (policySet? l) := by
    intro l
    rw [← getD_policySets_ofAdditions]
    exact findsNewest_latestAdmitted _
  refine ⟨hpolicies additions, hsets additions, fun reordered hperm => ⟨?_, ?_⟩⟩
  · exact (hpolicies additions).eq_of_perm (hpolicies reordered)
      ((hperm.filterMap _).filter _)
  · exact (hsets additions).eq_of_perm (hsets reordered) ((hperm.filterMap _).filter _)

/-- A version of one policy. -/
def revision (version : String) : Policy where
  heading := { id := "ward", version, algorithm := StandardAlgorithm.ruleUri "1.0" "deny-overrides" }

/-- The versions are compared as numbers, and the constraint leaves the third one out. -/
theorem resolves_newest_revision :
    let additions := [.inl (revision "1.10"), .inl (revision "1.9"), .inl (revision "2.0")]
    let reordered := [.inl (revision "1.9"), .inl (revision "1.10"), .inl (revision "2.0")]
    let constraints : VersionConstraints := { version := some "1.+" }
    additions.Perm reordered ∧
      (policiesUnder "ward" additions).Pairwise (DifferentVersions (·.heading.version)) ∧
      (ofAdditions additions).toRepository.policy? "ward" constraints = some (revision "1.10") ∧
      (ofAdditions reordered).toRepository.policy? "ward" constraints =
        some (revision "1.10") := by
  intro additions reordered constraints
  have hperm : additions.Perm reordered := .swap _ _ _
  have hversions : (policiesUnder "ward" additions).Pairwise
      (DifferentVersions (·.heading.version)) := by
    have hread : VersionNumber.read "1.10" = .ok [1, 10] ∧ VersionNumber.read "1.9" = .ok [1, 9] ∧
        VersionNumber.read "2.0" = .ok [2, 0] := ⟨rfl, rfl, rfl⟩
    change [revision "1.10", revision "1.9", revision "2.0"].Pairwise _
    simp [DifferentVersions, revision, hread]
  have hfound : (ofAdditions additions).toRepository.policy? "ward" constraints =
      some (revision "1.10") := rfl
  obtain ⟨-, -, hreordered⟩ := resolves_newest additions "ward" constraints
  exact ⟨hperm, hversions, hfound, ((hreordered reordered hperm).1 hversions).trans hfound⟩

end PolicyStore

end PolicyDecision

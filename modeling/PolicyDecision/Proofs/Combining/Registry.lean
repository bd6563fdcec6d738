import PolicyDecision.Combining.Registry
import Mathlib.Tactic.Common

/-! What stands in the standard registry: each algorithm under its URIs, and nothing else. -/

namespace PolicyDecision

lemma lookup_of_mem {α : Type} {entries : List (String × α)} {key : String} {a : α}
    (hkeys : (entries.map Prod.fst).Nodup) (h : (key, a) ∈ entries) :
    entries.lookup key = some a := by
  induction entries with
  | nil => cases h
  | cons e entries ih =>
    obtain ⟨hfresh, hkeys⟩ := List.nodup_cons.mp hkeys
    rcases List.mem_cons.mp h with rfl | h
    · simp
    · have hne : (key == e.1) = false := by
        refine beq_false_of_ne ?_
        rintro rfl
        exact hfresh (List.mem_map.mpr ⟨_, h, rfl⟩)
      rw [show e = (e.1, e.2) from rfl, List.lookup_cons, hne]
      exact ih hkeys h

lemma lookup_of_not_mem {α : Type} {entries : List (String × α)} {key : String}
    (h : key ∉ entries.map Prod.fst) : entries.lookup key = none := by
  refine List.lookup_eq_none_iff.mpr fun p hp => ?_
  simp only [bne_iff_ne, ne_eq]
  rintro rfl
  exact h (List.mem_map_of_mem hp)

/-- Of entries under different keys that are added to a catalogue all are found. -/
lemma Catalogue.get?_foldl_insert {α : Type} {entries : List (String × α)} (c : Catalogue α)
    (hkeys : (entries.map Prod.fst).Nodup) (key : String) :
    (entries.foldl (fun c e => c.insert e.1 e.2) c).get? key =
      (entries.lookup key).or (c.get? key) := by
  induction entries generalizing c with
  | nil => simp
  | cons e entries ih =>
    obtain ⟨hfresh, hkeys⟩ := List.nodup_cons.mp hkeys
    rw [List.foldl_cons, ih _ hkeys, show e = (e.1, e.2) from rfl, List.lookup_cons]
    by_cases hkey : key = e.1
    · rw [hkey, lookup_of_not_mem hfresh]
      simp
    · rw [beq_false_of_ne hkey, get?_insert_of_ne c hkey]

/-- Entries under different keys are all found. -/
theorem Catalogue.get?_ofList {α : Type} {entries : List (String × α)}
    (hkeys : (entries.map Prod.fst).Nodup) (key : String) :
    (ofList entries).get? key = entries.lookup key := by
  have hempty : (ofList entries).get? key = (entries.lookup key).or none :=
    get?_foldl_insert ∅ hkeys key
  rw [hempty, Option.or_none]

/-- Entries that are added under other keys do not matter. -/
lemma Catalogue.get?_foldl_insert_of_not_mem {α : Type} (c : Catalogue α)
    {entries : List (String × α)} {key : String} (h : key ∉ entries.map Prod.fst) :
    (entries.foldl (fun c e => c.insert e.1 e.2) c).get? key = c.get? key := by
  induction entries generalizing c with
  | nil => rfl
  | cons e entries ih =>
    obtain ⟨hne, hentries⟩ := not_or.mp (mt List.mem_cons.mpr h)
    rw [List.foldl_cons, ih _ hentries, get?_insert_of_ne c hne]

namespace StandardAlgorithm

lemma nodup_library : (library.map Prod.fst).Nodup := by decide +kernel

variable {version name : String} {a : StandardAlgorithm}

lemma lookup_ruleUri (h : (version, name, a) ∈ shared) :
    library.lookup (ruleUri version name) = some a :=
  lookup_of_mem nodup_library
    (List.mem_cons_of_mem _ (List.mem_flatMap.mpr ⟨_, h, List.mem_cons_self⟩))

lemma lookup_policyUri (h : (version, name, a) ∈ shared) :
    library.lookup (policyUri version name) = some a :=
  lookup_of_mem nodup_library (List.mem_cons_of_mem _
    (List.mem_flatMap.mpr ⟨_, h, List.mem_cons_of_mem _ List.mem_cons_self⟩))

lemma lookup_map_algorithm (entries : List (String × StandardAlgorithm)) (uri : String) :
    (entries.map fun (uri, a) => (uri, a.algorithm)).lookup uri =
      (entries.lookup uri).map algorithm := by
  induction entries with
  | nil => rfl
  | cons e entries ih =>
    rw [List.map_cons, show e = (e.1, e.2) from rfl, List.lookup_cons, List.lookup_cons, ih]
    cases uri == e.1 <;> rfl

end StandardAlgorithm

open StandardAlgorithm

lemma nodup_algorithms :
    ((library.map fun (uri, a) => (uri, a.algorithm)).map Prod.fst).Nodup := by
  have hfst : Prod.fst ∘ (fun (e : String × StandardAlgorithm) => (e.1, e.2.algorithm)) =
      Prod.fst := rfl
  rw [List.map_map, hfst]
  exact nodup_library

lemma AlgorithmRegistry.get?_standard (uri : String) :
    standard.algorithms.get? uri = (library.lookup uri).map algorithm := by
  rw [standard, Catalogue.get?_ofList nodup_algorithms, lookup_map_algorithm]

lemma AlgorithmRegistry.require_standard (uri : String) :
    standard.require uri = match library.lookup uri with
      | some a => .ok a.algorithm
      | none => .error (.unknownAlgorithm uri) := by
  rw [require, get?_standard]
  cases library.lookup uri <;> rfl

lemma AlgorithmRegistry.require_ruleUri {version name : String} {a : StandardAlgorithm}
    (h : (version, name, a) ∈ shared) :
    standard.require (ruleUri version name) = .ok a.algorithm := by
  rw [require_standard, lookup_ruleUri h]

/-- An algorithm stays if those that are registered later have other URIs. -/
lemma AlgorithmRegistry.require_foldl_register (r : AlgorithmRegistry)
    {added : List (String × CombiningAlgorithm)} {uri : String} (h : uri ∉ added.map Prod.fst) :
    (added.foldl (fun r (uri, a) => r.register uri a) r).require uri = r.require uri := by
  have hfold : (added.foldl (fun r (uri, a) => r.register uri a) r).algorithms =
      added.foldl (fun c e => c.insert e.1 e.2) r.algorithms := by
    induction added generalizing r with
    | nil => rfl
    | cons e added ih => exact ih _ (not_or.mp (mt List.mem_cons.mpr h)).2
  rw [require, require, hfold, Catalogue.get?_foldl_insert_of_not_mem _ h]

/-- A registry with one entry has no other algorithm. -/
lemma AlgorithmRegistry.eq_of_require_register {uri uri' : String} {a b : CombiningAlgorithm}
    (h : (empty.register uri a).require uri' = .ok b) : b = a := by
  unfold require register at h
  by_cases huri : uri' = uri
  · rw [huri, Catalogue.get?_insert_self] at h
    exact (Except.ok.inj h).symm
  · rw [Catalogue.get?_insert_of_ne _ huri] at h
    cases h

end PolicyDecision

import PolicyDecision.Proofs.Validation.Cycles
import PolicyDecision.Validation.Basic
import Mathlib.Data.List.Nodup

/-! The check of variables fails exactly if there is a cycle of definitions, and then it reports
one. -/

namespace PolicyDecision

open Relation Stateful

/-- The expression is the variable, or a call with an argument in which it occurs. -/
inductive Expression.Occurs (id : String) : Expression → Prop
  | variableRef : Occurs id (.variableRef id)
  | argument {uri : String} {args : List Expression} {e : Expression} (he : e ∈ args)
      (h : Occurs id e) : Occurs id (.apply uri args)

lemma Expression.mem_mentions_iff_occurs {id : String} {e : Expression} :
    id ∈ e.mentions ↔ e.Occurs id := by
  induction e using Expression.induction with
  | variableRef x =>
    rw [mentions, List.mem_singleton]
    constructor
    · rintro rfl
      exact .variableRef
    · rintro ⟨⟩
      rfl
  | apply uri args ih =>
    rw [mentions, mem_mentionsAll]
    constructor
    · rintro ⟨e, he, hid⟩
      exact .argument he ((ih e he).mp hid)
    · rintro (_ | ⟨he, hid⟩)
      exact ⟨_, he, (ih _ he).mpr hid⟩
  | _ =>
    refine iff_of_false (by simp [mentions]) ?_
    rintro ⟨⟩

section Graph

variable {definitions : List VariableDefinition} {a b id : String}

/-- The first variable has a definition in which the second one occurs, which is defined as well. -/
def Refers (definitions : List VariableDefinition) (a b : String) : Prop :=
  ∃ d ∈ definitions, d.id = a ∧ d.expression.Occurs b ∧ ∃ d' ∈ definitions, d'.id = b

/-- A path of at least two variables, each of which refers to the next. It ends where it began, and
passes no variable twice before that. -/
structure CyclicPath (definitions : List VariableDefinition) (path : List String) : Prop where
  two_le_length : 2 ≤ path.length
  closed : path.head? = path.getLast?
  nodup : path.dropLast.Nodup
  linked : path.IsChain (Refers definitions)

lemma isDefined_iff_mem : Validation.isDefined definitions id = true ↔
    ∃ d ∈ definitions, d.id = id := by
  simp [Validation.isDefined]

/-- Where ids are distinct, the first definition of a variable is the only one. -/
lemma definition?_of_mem (hdistinct : (definitions.map (·.id)).Nodup) {d : VariableDefinition}
    (hd : d ∈ definitions) : definition? definitions d.id = some d := by
  have hdefined : Validation.isDefined definitions d.id = true := isDefined_iff_mem.mpr ⟨d, hd, rfl⟩
  obtain ⟨d', hd'⟩ := Validation.isDefined_iff.mp hdefined
  rw [hd', List.inj_on_of_nodup_map hdistinct (mem_of_definition? hd') hd (id_eq_of_definition? hd')]

lemma refers_of_mem_mentioned (hmentioned : b ∈ Validation.mentioned definitions a)
    (hb : Validation.isDefined definitions b = true) : Refers definitions a b := by
  cases hd : definition? definitions a with
  | none => simp [mentioned_of_undefined hd] at hmentioned
  | some d =>
    rw [mentioned_of_definition? hd] at hmentioned
    exact ⟨d, mem_of_definition? hd, id_eq_of_definition? hd,
      Expression.mem_mentions_iff_occurs.mp hmentioned, isDefined_iff_mem.mp hb⟩

lemma Refers.mentions (hdistinct : (definitions.map (·.id)).Nodup) (h : Refers definitions a b) :
    Mentions definitions a b := by
  obtain ⟨d, hd, rfl, hoccurs, -⟩ := h
  rw [Mentions, mentioned_of_definition? (definition?_of_mem hdistinct hd)]
  exact Expression.mem_mentions_iff_occurs.mpr hoccurs

/-- The variable at which the path begins and ends refers, step by step, to itself. -/
lemma CyclicPath.exists_transGen {path : List String} (h : CyclicPath definitions path) :
    ∃ id, TransGen (Refers definitions) id id := by
  obtain ⟨hlength, hclosed, -, hlinked⟩ := h
  match path with
  | a :: b :: rest =>
    obtain ⟨hab, hrest⟩ := List.isChain_cons_cons.mp hlinked
    have hlast : (b :: rest).getLast (List.cons_ne_nil _ _) = a := by
      rw [List.head?_cons, List.getLast?_cons_cons, List.getLast?_eq_some_getLast (by simp)] at hclosed
      exact (Option.some.inj hclosed).symm
    exact ⟨a, .head' hab (List.relationReflTransGen_of_exists_isChain_cons rest hrest hlast)⟩

end Graph

namespace Validation

variable {definitions : List VariableDefinition} {trail : List String} {id next : String}

/-- A trail leads from one defined variable to another without passing any twice. -/
structure Trail (definitions : List VariableDefinition) (trail : List String) : Prop where
  nodup : trail.Nodup
  defined : ∀ x ∈ trail, isDefined definitions x = true
  linked : trail.IsChain (Refers definitions)

lemma trail_singleton (h : isDefined definitions id = true) : Trail definitions [id] where
  nodup := List.nodup_singleton id
  defined := by simpa using h
  linked := List.isChain_singleton id

/-- What the last variable of a trail mentions and is defined goes on from it. -/
lemma Trail.linked_next (h : Trail definitions (trail ++ [id]))
    (hnext : next ∈ mentioned definitions id) (hdefined : isDefined definitions next = true) :
    (trail ++ [id] ++ [next]).IsChain (Refers definitions) := by
  refine List.isChain_append.mpr ⟨h.linked, List.isChain_singleton next, ?_⟩
  simpa using refers_of_mem_mentioned hnext hdefined

lemma Trail.extend (h : Trail definitions (trail ++ [id]))
    (hnext : next ∈ mentioned definitions id) (hdefined : isDefined definitions next = true)
    (hnew : next ∉ trail ++ [id]) : Trail definitions (trail ++ [id] ++ [next]) where
  nodup := (List.perm_append_singleton next _).nodup_iff.mpr (List.nodup_cons.mpr ⟨hnew, h.nodup⟩)
  defined := by
    intro x hx
    rcases List.mem_append.mp hx with hx | hx
    · exact h.defined x hx
    · rwa [List.mem_singleton.mp hx]
  linked := h.linked_next hnext hdefined

/-- The way back to a variable of the trail, which the last one mentions, closes a cycle. -/
lemma Trail.cyclicPath (h : Trail definitions (trail ++ [id]))
    (hnext : next ∈ mentioned definitions id) (hback : next ∈ trail ++ [id]) :
    CyclicPath definitions (cycleAt (trail ++ [id]) next) := by
  have hlinked := h.linked_next hnext (h.defined next hback)
  have hnodup := h.nodup
  obtain ⟨before, after, hsplit⟩ := List.append_of_mem hback
  rw [hsplit] at hlinked hnodup ⊢
  have hbefore : ∀ x ∈ before, (x != next) = true := by
    intro x hx
    have hdisjoint := (List.nodup_append.mp hnodup).2.2 x hx next List.mem_cons_self
    simpa using hdisjoint
  have hcycle : cycleAt (before ++ next :: after) next = next :: after ++ [next] := by
    rw [cycleAt, List.dropWhile_append_of_pos hbefore, List.dropWhile_cons_of_neg (by simp)]
  rw [hcycle]
  refine ⟨by simp, by rw [List.getLast?_concat]; rfl, ?_, ?_⟩
  · rw [List.dropLast_concat]
    exact (List.nodup_append.mp hnodup).2.1
  · rw [List.append_assoc] at hlinked
    exact hlinked.suffix (List.suffix_append before _)

/-- Whatever a visit finds at the end of a trail is a cycle. -/
lemma visit_errors {fuel : ℕ} {finished : List String} (h : Trail definitions (trail ++ [id])) :
    Errors (CyclicPath definitions) (visit definitions fuel trail finished id) := by
  induction fuel generalizing trail id finished with
  | zero => exact errors_ok _
  | succ fuel ih =>
    refine errors_bind (errors_foldlM (fun finished next hnext => ?_) _) fun _ => errors_ok _
    split
    · rename_i hback
      exact errors_error (h.cyclicPath hnext (List.contains_iff_mem.mp hback))
    · rename_i hnew
      split
      · exact errors_ok _
      · rename_i hunknown
        have hdefined : isDefined definitions next = true := by
          by_contra hundefined
          exact hunknown (by simp [hundefined])
        exact ih (h.extend hnext hdefined fun hmem => hnew (List.contains_iff_mem.mpr hmem))

lemma cyclicPath_of_findCycle? {path : List String} (h : findCycle? definitions = some path) :
    CyclicPath definitions path := by
  unfold findCycle? at h
  simp only at h
  split at h
  · cases h
  · rename_i cycle hfold
    cases h
    refine errors_foldlM (fun finished d hd => ?_) [] _ hfold
    split
    · exact errors_ok _
    · exact visit_errors (trail_singleton (isDefined_iff_mem.mpr ⟨d, hd, rfl⟩))

lemma checkCycles_eq_error_iff {e : ConfigurationError} : checkCycles definitions = .error e ↔
    ∃ path, findCycle? definitions = some path ∧ e = .cyclicVariables path := by
  rw [checkCycles]
  cases findCycle? definitions with
  | none => simp
  | some path => simp [eq_comm]

end Validation

open Validation

/-- The check of the variables of a policy fails if and only if some variable refers to itself
through others. Its error then names such a cycle. -/
theorem Policy.checkCycles_exact {p : Policy} (hdistinct : (p.definitions.map (·.id)).Nodup) :
    ((∃ e, checkCycles p.definitions = .error e) ↔
      ∃ id, TransGen (Refers p.definitions) id id) ∧
    ∀ e, checkCycles p.definitions = .error e →
      ∃ path, e = .cyclicVariables path ∧ CyclicPath p.definitions path := by
  refine ⟨⟨?_, ?_⟩, ?_⟩
  · rintro ⟨e, he⟩
    obtain ⟨path, hpath, -⟩ := checkCycles_eq_error_iff.mp he
    exact (cyclicPath_of_findCycle? hpath).exists_transGen
  · rintro ⟨id, hcycle⟩
    have hleads : LeadsToCycle p.definitions id :=
      ⟨id, .refl, TransGen.mono (fun _ _ h => h.mentions hdistinct) _ _ hcycle⟩
    cases hfound : findCycle? p.definitions with
    | none => exact absurd hleads (not_leadsToCycle_of_findCycle? hfound id)
    | some path => exact ⟨_, checkCycles_eq_error_iff.mpr ⟨path, hfound, rfl⟩⟩
  · intro e he
    obtain ⟨path, hpath, rfl⟩ := checkCycles_eq_error_iff.mp he
    exact ⟨path, rfl, cyclicPath_of_findCycle? hpath⟩

/-- The whole is made of its part and of something undefined, and the part of the whole. -/
def Policy.entangled : Policy where
  heading := { id := "entangled", algorithm := "" }
  definitions := [⟨"whole", .apply "and" [.apply "not" [.variableRef "part"], .variableRef "rest"]⟩,
    ⟨"part", .apply "not" [.variableRef "whole"]⟩]

theorem Policy.checkCycles_entangled : (entangled.definitions.map (·.id)).Nodup ∧
    (∃ id, TransGen (Refers entangled.definitions) id id) ∧
    CyclicPath entangled.definitions ["whole", "part", "whole"] := by
  have hdistinct : (entangled.definitions.map (·.id)).Nodup := by decide
  have herror : checkCycles entangled.definitions =
    .error (.cyclicVariables ["whole", "part", "whole"]) := rfl
  obtain ⟨hfails, hpath⟩ := checkCycles_exact hdistinct
  obtain ⟨path, heq, hcyclic⟩ := hpath _ herror
  cases heq
  exact ⟨hdistinct, hfails.mp ⟨_, herror⟩, hcyclic⟩

end PolicyDecision

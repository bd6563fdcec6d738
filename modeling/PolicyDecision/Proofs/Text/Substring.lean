import PolicyDecision.Proofs.Function.Argument
import PolicyDecision.Proofs.Function.Registry
import PolicyDecision.Proofs.Termination.Function

/-! Parts of texts. A part is cut out between two places, and a text is found in another just if it
is one of its parts. It makes no difference whether one looks for characters or for bytes. -/

namespace PolicyDecision.Text

variable {cs ds : List Char}

/-- The bytes of a text. -/
def utf8 (cs : List Char) : List UInt8 := cs.flatMap String.utf8EncodeChar

lemma utf8_cons (c : Char) (cs : List Char) : utf8 (c :: cs) = String.utf8EncodeChar c ++ utf8 cs :=
  List.flatMap_cons

lemma utf8_append (cs ds : List Char) : utf8 (cs ++ ds) = utf8 cs ++ utf8 ds := List.flatMap_append

lemma prefix_of_utf8 (h : utf8 cs <+: utf8 ds) : cs <+: ds := by
  obtain ⟨rest, hrest⟩ := h
  refine List.isPrefix_of_utf8Encode_append_eq_utf8Encode rest.toByteArray ?_
  rw [List.utf8Encode, List.utf8Encode, ← List.toByteArray_append]
  exact congrArg List.toByteArray hrest

lemma exists_utf8EncodeChar (c : Char) : ∃ b bs, String.utf8EncodeChar c = b :: bs ∧
    b.IsUTF8FirstByte ∧ ∀ x ∈ bs, ¬x.IsUTF8FirstByte := by
  obtain ⟨b, bs, hbs⟩ := List.exists_cons_of_ne_nil (String.utf8EncodeChar_ne_nil (c := c))
  have hfirst (i : ℕ) (hi : i < (b :: bs).length) : (b :: bs)[i].IsUTF8FirstByte ↔ i = 0 := by
    simp only [← hbs]
    exact UInt8.isUTF8FirstByte_getElem_utf8EncodeChar
  refine ⟨b, bs, hbs, (hfirst 0 (by simp)).mpr rfl, fun x hx hx' => ?_⟩
  obtain ⟨i, hi, rfl⟩ := List.mem_iff_getElem.mp hx
  exact absurd ((hfirst (i + 1) (by simpa using hi)).mp hx') (Nat.succ_ne_zero i)

/-- The bytes of a text are found only where a character begins. -/
lemma exists_of_utf8_eq (hne : cs ≠ []) {x y : List UInt8} (h : utf8 ds = x ++ (utf8 cs ++ y)) :
    ∃ before after, ds = before ++ (cs ++ after) ∧ utf8 before = x ∧ utf8 after = y := by
  obtain ⟨c, cs', rfl⟩ := List.exists_cons_of_ne_nil hne
  obtain ⟨b, bs, hc, hb, -⟩ := exists_utf8EncodeChar c
  induction ds generalizing x with
  | nil => simp [utf8, hc] at h
  | cons d ds ih =>
    obtain ⟨b', bs', hd, -, hbs'⟩ := exists_utf8EncodeChar d
    rcases x with _ | ⟨first, x⟩
    · rw [List.nil_append] at h
      obtain ⟨after, hafter⟩ := prefix_of_utf8 ⟨y, h.symm⟩
      rw [← hafter, utf8_append] at h
      exact ⟨[], after, hafter.symm, rfl, List.append_cancel_left h⟩
    · rw [utf8_cons, hd] at h
      obtain ⟨rfl, htail⟩ := List.cons_eq_cons.mp h
      rcases List.append_eq_append_iff.mp htail with ⟨x', rfl, hrest⟩ | ⟨z, rfl, hrest⟩
      · obtain ⟨before, after, rfl, hbefore, hafter⟩ := ih hrest
        exact ⟨d :: before, after, rfl, by rw [utf8_cons, hd, hbefore]; rfl, hafter⟩
      · rcases z with _ | ⟨z, zs⟩
        · obtain ⟨before, after, rfl, hbefore, hafter⟩ := ih (x := []) hrest.symm
          exact ⟨d :: before, after, rfl, by simp [utf8_cons, hd, hbefore], hafter⟩
        · rw [utf8_cons, hc] at hrest
          obtain rfl := (List.cons_eq_cons.mp hrest).1
          exact absurd hb (hbs' _ (by simp))

theorem utf8_prefix_iff : utf8 cs <+: utf8 ds ↔ cs <+: ds := by
  constructor
  · exact prefix_of_utf8
  · rintro ⟨after, rfl⟩
    rw [utf8_append]
    exact List.prefix_append _ _

theorem utf8_infix_iff : utf8 cs <:+: utf8 ds ↔ cs <:+: ds := by
  constructor
  · rintro ⟨x, y, h⟩
    by_cases hne : cs = []
    · rw [hne]
      exact List.nil_infix
    · rw [List.append_assoc] at h
      obtain ⟨before, after, rfl, -⟩ := exists_of_utf8_eq hne h.symm
      exact ⟨before, after, by rw [List.append_assoc]⟩
  · rintro ⟨before, after, rfl⟩
    simp only [utf8_append]
    exact List.infix_append _ _ _

theorem utf8_suffix_iff : utf8 cs <:+ utf8 ds ↔ cs <:+ ds := by
  constructor
  · rintro ⟨x, h⟩
    by_cases hne : cs = []
    · rw [hne]
      exact List.nil_suffix
    · rw [← List.append_nil (utf8 cs)] at h
      obtain ⟨before, after, rfl, -, hafter⟩ := exists_of_utf8_eq hne h.symm
      obtain rfl : after = [] :=
        List.prefix_nil.mp (prefix_of_utf8 (by rw [hafter]; exact List.nil_prefix))
      exact ⟨before, by rw [List.append_nil]⟩
  · rintro ⟨before, rfl⟩
    rw [utf8_append]
    exact List.suffix_append _ _

lemma occursIn_iff : occursIn cs ds = true ↔ cs <:+: ds := by
  induction ds with
  | nil => simp [occursIn]
  | cons d ds ih => simp [occursIn, ih, List.infix_cons_iff]

end PolicyDecision.Text

namespace PolicyDecision

lemma Value.written_of_toText? {v : Value} {s : String} (h : v.toText? = some s) :
    v.written = s := by
  cases v <;> simp_all [toText?, written]

lemma Value.type_of_toText? {v : Value} {s : String} (h : v.toText? = some s) :
    v.type ∈ [DataType.string, .anyURI] := by
  cases v <;> simp_all [toText?, type]

namespace StandardFunction

variable {text cs needle : List Char} {start finish : ℤ}

/-- The places between which there is a part of a text of the length. The end of the text may be
given as -1. -/
def WithinLength (length : ℕ) (start finish : ℤ) : Prop :=
  0 ≤ start ∧ (finish = -1 ∧ start ≤ length ∨ start ≤ finish ∧ finish ≤ length)
  deriving Decidable

/-- What is cut out of a text has the right number of characters before it, and ends in the right
place. -/
def IsCut (text : List Char) (start finish : ℤ) (cs : List Char) : Prop :=
  ∃ before after, text = before ++ (cs ++ after) ∧ before.length = start ∧
    (finish = -1 ∧ after = [] ∨ finish = before.length + cs.length)

/-- The place at which a part of a text of the length ends. -/
def stop (length : ℕ) (finish : ℤ) : ℤ := if finish = -1 then length else finish

lemma substring?_eq (text : List Char) (start finish : ℤ) :
    substring? text start finish =
      if 0 ≤ start ∧ start ≤ stop text.length finish ∧ stop text.length finish ≤ text.length then
        some ((text.take (stop text.length finish).toNat).drop start.toNat)
      else none := rfl

lemma withinLength_iff {length : ℕ} : WithinLength length start finish ↔
    0 ≤ start ∧ start ≤ stop length finish ∧ stop length finish ≤ length := by
  rw [WithinLength, stop]
  split_ifs <;> omega

lemma eq_take_append {first last : ℕ} (h : first ≤ last) (text : List Char) :
    text = text.take first ++ ((text.take last).drop first ++ text.drop last) := by
  have hfront : text.take first = (text.take last).take first := by
    rw [List.take_take, Nat.min_eq_left h]
  rw [hfront, ← List.append_assoc, List.take_append_drop, List.take_append_drop]

lemma isCut_take_drop (first last : ℕ) (h : first ≤ last) (hlast : last ≤ text.length)
    (hfinish : stop text.length finish = last) :
    IsCut text first finish ((text.take last).drop first) := by
  refine ⟨text.take first, text.drop last, eq_take_append h text, ?_, ?_⟩
  · rw [List.length_take, Nat.min_eq_left (h.trans hlast)]
  · rw [stop] at hfinish
    split_ifs at hfinish with hend
    · refine .inl ⟨hend, List.drop_eq_nil_of_le ?_⟩
      omega
    · right
      simp only [List.length_drop, List.length_take]
      omega

lemma IsCut.withinLength (h : IsCut text start finish cs) :
    WithinLength text.length start finish := by
  obtain ⟨before, after, rfl, rfl, hfinish⟩ := h
  simp only [WithinLength, List.length_append]
  omega

/-- Nothing else is cut out between the same places. -/
lemma IsCut.unique {cs' : List Char} (h : IsCut text start finish cs)
    (h' : IsCut text start finish cs') : cs = cs' := by
  obtain ⟨before, after, rfl, rfl, hfinish⟩ := h
  obtain ⟨before', after', heq, hlength, hfinish'⟩ := h'
  obtain ⟨rfl, hrest⟩ := List.append_inj heq (by omega)
  rcases hfinish with ⟨hend, rfl⟩ | hfinish
  · rcases hfinish' with ⟨-, rfl⟩ | hfinish'
    · simpa using hrest
    · omega
  · exact (List.append_inj hrest (by omega)).1

lemma exists_isCut (h : WithinLength text.length start finish) :
    ∃ cs, substring? text start finish = some cs ∧ IsCut text start finish cs := by
  obtain ⟨hstart, hle, hstop⟩ := withinLength_iff.mp h
  refine ⟨_, (substring?_eq text start finish).trans (if_pos ⟨hstart, hle, hstop⟩), ?_⟩
  obtain ⟨first, rfl⟩ := Int.eq_ofNat_of_zero_le hstart
  obtain ⟨last, hlast⟩ := Int.eq_ofNat_of_zero_le (hstart.trans hle)
  have hcut := isCut_take_drop first last (by omega) (by omega) hlast
  rwa [hlast]

lemma substring?_eq_none (h : ¬WithinLength text.length start finish) :
    substring? text start finish = none := by
  rw [withinLength_iff] at h
  exact if_neg h

theorem substring?_eq_some_iff :
    substring? text start finish = some cs ↔ IsCut text start finish cs := by
  constructor
  · intro h
    by_cases hrange : WithinLength text.length start finish
    · obtain ⟨cs', hcs', hcut⟩ := exists_isCut hrange
      rw [h] at hcs'
      cases hcs'
      exact hcut
    · rw [substring?_eq_none hrange] at h
      cases h
  · intro h
    obtain ⟨cs', hcs', hcut⟩ := exists_isCut h.withinLength
    rw [hcs', h.unique hcut]

lemma exists_isCut_iff_infix : (∃ start finish, IsCut text start finish needle) ↔
    needle <:+: text := by
  constructor
  · rintro ⟨start, finish, before, after, rfl, -⟩
    exact ⟨before, after, by simp⟩
  · rintro ⟨before, after, rfl⟩
    exact ⟨before.length, before.length + needle.length, before, after, by simp, rfl, .inr rfl⟩

lemma exists_isCut_iff_prefix : (∃ finish, IsCut text 0 finish needle) ↔ needle <+: text := by
  constructor
  · rintro ⟨finish, before, after, rfl, hbefore, -⟩
    obtain rfl : before = [] := List.length_eq_zero_iff.mp (by omega)
    exact ⟨after, rfl⟩
  · rintro ⟨after, rfl⟩
    exact ⟨needle.length, [], after, rfl, rfl, .inr (by simp)⟩

lemma exists_isCut_iff_suffix : (∃ start, IsCut text start text.length needle) ↔
    needle <:+ text := by
  constructor
  · rintro ⟨start, before, after, rfl, -, hfinish⟩
    simp only [List.length_append] at hfinish
    obtain rfl : after = [] := List.length_eq_zero_iff.mp (by omega)
    exact ⟨before, by simp⟩
  · rintro ⟨before, rfl⟩
    exact ⟨before.length, before, [], by simp, rfl, .inr (by simp)⟩

end StandardFunction

namespace FunctionRegistry

open Arguments StandardFunction

variable (r : FunctionRegistry) (context : FunctionContext) (uri : String)

/-- The outcome of the function that cuts a part out of the texts of a type. -/
def substring (v : Value) (start finish : ℤ) : Outcome Evaluated :=
  r.call context ⟨uri, .standard (.substring v.type)⟩ [.value v, .integer start, .integer finish]

/-- The outcome of a function that looks for a string in the texts of a type. -/
def occurs (position : Position) (needle : String) (v : Value) : Outcome Evaluated :=
  r.call context ⟨uri, .standard (.occurs v.type position)⟩ [.string needle, .value v]

variable {v : Value} {s : String}

lemma substring_eq (hv : v.toText? = some s) (start finish : ℤ) :
    r.substring context uri v start finish =
      match substring? s.toList start finish with
      | some cs => .ok (.string (String.ofList cs))
      | none => .error (.substringRange start finish s.length) := by
  let args : Arguments := [.value v, .integer start, .integer finish]
  have hcount : args.expectCount 3 = .ok () := rfl
  have htext : args.typedAt v.type 0 = .ok v := typedAt_eq_ok.mpr ⟨rfl, rfl⟩
  have hstart : args.integerAt 1 = .ok start := integerAt_eq_ok.mpr rfl
  have hfinish : args.integerAt 2 = .ok finish := integerAt_eq_ok.mpr rfl
  rw [substring, call_standard, StandardFunction.call, callSubstring, hcount, htext, hstart,
    hfinish, ← Value.written_of_toText? hv]
  change (match substring? v.written.toList start finish with
    | some cs => pure (Evaluated.string (String.ofList cs))
    | none => throw (EvaluationError.substringRange start finish v.written.toList.length)) = _
  cases substring? v.written.toList start finish <;> rfl

lemma occurs_eq (hv : v.toText? = some s) (position : Position) (needle : String) :
    r.occurs context uri position needle v = .ok (.boolean (match position with
      | .start => needle.toList.isPrefixOf s.toList
      | .finish => needle.toList.isSuffixOf s.toList
      | .anywhere => Text.occursIn needle.toList s.toList)) := by
  let args : Arguments := [.string needle, .value v]
  have hneedle : args.stringAt 0 = .ok needle := stringAt_eq_ok.mpr rfl
  have htext : args.typedAt v.type 1 = .ok v := typedAt_eq_ok.mpr ⟨rfl, rfl⟩
  rw [occurs, call_standard, StandardFunction.call, callOccurs, hneedle, htext,
    ← Value.written_of_toText? hv]
  rfl

lemma substring_eq_ok_iff (hv : v.toText? = some s) {start finish : ℤ} {part : String} :
    r.substring context uri v start finish = .ok (.string part) ↔
      IsCut s.toList start finish part.toList := by
  rw [substring_eq r context uri hv, ← substring?_eq_some_iff]
  cases substring? s.toList start finish with
  | none => simp
  | some cs => simp [Evaluated.string, ← String.toList_inj]

lemma substring_of_isCut (hv : v.toText? = some s) {start finish : ℤ} {cs : List Char}
    (h : IsCut s.toList start finish cs) :
    r.substring context uri v start finish = .ok (.string (String.ofList cs)) := by
  rw [substring_eq_ok_iff r context uri hv, String.toList_ofList]
  exact h

/-- The two parts of a text before and after a place. -/
lemma exists_halves (hv : v.toText? = some s) {k : ℕ} (hk : k ≤ s.length) :
    ∃ front back, r.substring context uri v 0 k = .ok (.string front) ∧
      r.substring context uri v k (-1) = .ok (.string back) ∧ front ++ back = s := by
  have hlength : (s.toList.take k).length = k := by
    rw [List.length_take, String.length_toList, Nat.min_eq_left hk]
  have hfront : IsCut s.toList 0 k (s.toList.take k) :=
    ⟨[], s.toList.drop k, by simp, rfl, .inr (by simp [hlength])⟩
  have hback : IsCut s.toList k (-1) (s.toList.drop k) :=
    ⟨s.toList.take k, [], by simp, by simp [hlength], .inl ⟨rfl, rfl⟩⟩
  refine ⟨_, _, substring_of_isCut r context uri hv hfront,
    substring_of_isCut r context uri hv hback, ?_⟩
  rw [← String.ofList_append, List.take_append_drop, String.ofList_toList]

lemma occurs_tells (hv : v.toText? = some s) (needle : String) :
    (r.occurs context uri .anywhere needle v).Tells (needle.toList <:+: s.toList) ∧
      (r.occurs context uri .start needle v).Tells (needle.toList <+: s.toList) ∧
      (r.occurs context uri .finish needle v).Tells (needle.toList <:+ s.toList) := by
  simp only [occurs_eq r context uri hv]
  exact ⟨⟨_, rfl, Text.occursIn_iff⟩, ⟨_, rfl, List.isPrefixOf_iff_prefix⟩,
    ⟨_, rfl, List.isSuffixOf_iff_suffix⟩⟩

lemma require_search {type : DataType} (htype : type ∈ [DataType.string, .anyURI])
    {name : String} {position : Position}
    (hname : (name, position) ∈
      [("starts-with", Position.start), ("ends-with", .finish), ("contains", .anywhere)]) :
    standard.require (namespace3 ++ type.shortName ++ "-" ++ name) =
      .ok ⟨namespace3 ++ type.shortName ++ "-" ++ name, .standard (.occurs type position)⟩ :=
  require_standard (search_mem
    (List.mem_flatMap.mpr ⟨_, hname, List.mem_map.mpr ⟨type, htype, rfl⟩⟩))

lemma require_substring {type : DataType} (htype : type ∈ [DataType.string, .anyURI]) :
    standard.require (namespace3 ++ type.shortName ++ "-substring") =
      .ok ⟨namespace3 ++ type.shortName ++ "-substring", .standard (.substring type)⟩ := by
  rcases List.mem_pair.mp htype with rfl | rfl
  · exact require_standard (text_mem (by simp [texts, DataType.shortName, String.append_assoc]))
  · exact require_standard (text_mem (by simp [texts, DataType.shortName, String.append_assoc]))

/-- A part of a string or of a URI is cut out if its places are within the length of the text. The
two parts before and after a place make up the text again. Of the parts it is told which texts are
among them, which of those begin where the text does, and which end where it ends; and the same is
told of their bytes. -/
theorem parts_of_text (hv : v.toText? = some s) :
    (standard.require (namespace3 ++ v.type.shortName ++ "-substring") =
        .ok ⟨namespace3 ++ v.type.shortName ++ "-substring", .standard (.substring v.type)⟩ ∧
      ∀ p ∈ [("starts-with", Position.start), ("ends-with", .finish), ("contains", .anywhere)],
        standard.require (namespace3 ++ v.type.shortName ++ "-" ++ p.1) =
          .ok ⟨namespace3 ++ v.type.shortName ++ "-" ++ p.1, .standard (.occurs v.type p.2)⟩) ∧
    (∀ start finish : ℤ,
      (WithinLength s.length start finish → ∃ part : String,
        IsCut s.toList start finish part.toList ∧
          r.substring context uri v start finish = .ok (.string part)) ∧
      (¬WithinLength s.length start finish → r.substring context uri v start finish =
        .error (.substringRange start finish s.length))) ∧
    (∀ k : ℕ, k ≤ s.length → ∃ front back,
      r.substring context uri v 0 k = .ok (.string front) ∧
        r.substring context uri v k (-1) = .ok (.string back) ∧ front ++ back = s) ∧
    ∀ needle : String,
      ((r.occurs context uri .anywhere needle v).Tells
          (∃ start finish, r.substring context uri v start finish = .ok (.string needle)) ∧
        (r.occurs context uri .start needle v).Tells
          (∃ finish, r.substring context uri v 0 finish = .ok (.string needle)) ∧
        (r.occurs context uri .finish needle v).Tells
          (∃ start, r.substring context uri v start s.length = .ok (.string needle))) ∧
      (r.occurs context uri .anywhere needle v).Tells
          (Text.utf8 needle.toList <:+: Text.utf8 s.toList) ∧
        (r.occurs context uri .start needle v).Tells
          (Text.utf8 needle.toList <+: Text.utf8 s.toList) ∧
        (r.occurs context uri .finish needle v).Tells
          (Text.utf8 needle.toList <:+ Text.utf8 s.toList) := by
  have htype : v.type ∈ [DataType.string, .anyURI] := Value.type_of_toText? hv
  refine ⟨⟨require_substring htype, fun p hp => require_search htype hp⟩, fun start finish => ?_,
    fun k => r.exists_halves context uri hv, fun needle => ?_⟩
  · constructor
    · intro hrange
      obtain ⟨cs, -, hcut⟩ := exists_isCut hrange
      rw [← String.toList_ofList (l := cs)] at hcut
      exact ⟨_, hcut, (substring_eq_ok_iff r context uri hv).mpr hcut⟩
    · intro hrange
      rw [substring_eq r context uri hv, substring?_eq_none hrange]
  · simp only [substring_eq_ok_iff r context uri hv, exists_isCut_iff_infix,
      exists_isCut_iff_prefix, Text.utf8_infix_iff, Text.utf8_prefix_iff, Text.utf8_suffix_iff]
    rw [← String.length_toList, exists_isCut_iff_suffix]
    exact ⟨r.occurs_tells context uri hv needle, r.occurs_tells context uri hv needle⟩

/-- The accent takes two bytes, and counts as one character. -/
theorem parts_of_text_accented :
    (Value.anyURI "héllo").toText? = some "héllo" ∧
    standard.substring .blank "" (.anyURI "héllo") 1 3 = .ok (.string "él") ∧
    standard.substring .blank "" (.anyURI "héllo") 6 (-1) = .error (.substringRange 6 (-1) 5) ∧
    standard.occurs .blank "" .anywhere "él" (.anyURI "héllo") = .ok (.boolean true) := by
  have htext : (Value.anyURI "héllo").toText? = some "héllo" := rfl
  obtain ⟨-, hcuts, -, hfinds⟩ := parts_of_text standard .blank "" htext
  have hwithin : WithinLength "héllo".length 1 3 := by decide
  have hbeyond : ¬WithinLength "héllo".length 6 (-1) := by decide
  obtain ⟨part, hcut, hpart⟩ := (hcuts 1 3).1 hwithin
  have heq : part = "él" := by
    have hcut' : IsCut "héllo".toList 1 3 "él".toList :=
      ⟨['h'], ['l', 'o'], rfl, rfl, .inr rfl⟩
    exact String.toList_inj.mp (hcut.unique hcut')
  rw [heq] at hpart
  exact ⟨htext, hpart, (hcuts 6 (-1)).2 hbeyond, (hfinds "él").1.1.eq_true_iff.mpr ⟨1, 3, hpart⟩⟩

end FunctionRegistry

end PolicyDecision

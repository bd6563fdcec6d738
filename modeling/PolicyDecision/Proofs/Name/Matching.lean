import PolicyDecision.Proofs.Function.Collection
import PolicyDecision.Proofs.Function.Registry
import PolicyDecision.Proofs.Name.RoundTrip

/-! Matching of names. It looks at nothing that equality does not look at, so that equal names are
matched alike: mail addresses by patterns, and distinguished names by each other. -/

namespace PolicyDecision

namespace Rfc822Name

variable {text pattern : String} {a b name : Rfc822Name}

lemma same_iff : a.same b = true ↔
    a.localPart = b.localPart ∧ Text.asciiLower a.domain = Text.asciiLower b.domain := by
  simp [same, Text.sameIgnoringAsciiCase]

/-- Of the domain only the lower case counts. -/
lemma matchesPattern_congr (hlocal : a.localPart = b.localPart)
    (hdomain : Text.asciiLower a.domain = Text.asciiLower b.domain) (pattern : String) :
    a.matchesPattern pattern = b.matchesPattern pattern := by
  simp only [matchesPattern, Text.sameIgnoringAsciiCase, hlocal, hdomain]

/-- An address that was read is cut at the same place when it is written. -/
lemma splitLast_written (h : read text = .ok name) :
    Text.splitLast '@' name.written.toList =
      some (name.localPart.toList, name.domain.toList) := by
  have hwritten := written_of_read h
  rw [read] at h
  split at h
  case h_2 => cases h
  case h_1 n hparts =>
    cases h
    obtain ⟨⟨before, after⟩, hsplit, hof⟩ := Option.bind_eq_some_iff.mp hparts
    rw [hwritten, Text.trim, String.toList_ofList, hsplit]
    simp only [ofParts?] at hof
    split at hof
    case isTrue => cases hof
    case isFalse =>
      cases hof
      simp

lemma matchesPattern_written (h : read text = .ok name) (a : Rfc822Name) :
    a.matchesPattern name.written = name.same a := by
  rw [matchesPattern, splitLast_written h]
  simp [same]

/-- The domain ends in the pattern, up to the case of A to Z. -/
lemma matchesPattern_ending (hpoint : pattern.toList.head? = some '.')
    (hat : '@' ∉ pattern.toList) :
    name.matchesPattern pattern = true ↔ ∃ before ending,
      name.domain = before ++ ending ∧ Text.asciiLower ending = Text.asciiLower pattern := by
  rw [matchesPattern, Text.splitLast_of_not_mem hat]
  simp only [hpoint, if_true, List.isSuffixOf_iff_suffix, Text.asciiLower, String.toList_ofList]
  constructor
  · rintro ⟨front, hfront⟩
    obtain ⟨before, ending, hdomain, -, hending⟩ := List.map_eq_append_iff.mp hfront.symm
    refine ⟨String.ofList before, String.ofList ending, ?_, ?_⟩
    · rw [← String.ofList_append, ← hdomain, String.ofList_toList]
    · rw [String.toList_ofList, hending]
  · rintro ⟨before, ending, hdomain, hending⟩
    rw [String.ofList_inj] at hending
    rw [hdomain, String.toList_append, List.map_append, hending]
    exact List.suffix_append _ _

end Rfc822Name

namespace X500Name

variable {a b c : X500Name}

lemma same_iff : a.same b = true ↔ a.parts = b.parts := beq_iff_eq

lemma endsIn_iff : a.endsIn b = true ↔ a.parts <:+ b.parts := List.isSuffixOf_iff_suffix

end X500Name

namespace FunctionRegistry

open Arguments StandardFunction

variable (r : FunctionRegistry) (context : FunctionContext) (uri : String)

/-- The outcome of the equality of mail addresses. -/
def addressesEqual (a b : Rfc822Name) : Outcome Evaluated :=
  r.call context ⟨uri, .standard (.equal .rfc822Name)⟩
    [.value (.rfc822Name a), .value (.rfc822Name b)]

/-- The outcome of matching a mail address with a pattern. -/
def addressMatches (pattern : String) (a : Rfc822Name) : Outcome Evaluated :=
  r.call context ⟨uri, .standard .rfc822NameMatch⟩ [.string pattern, .value (.rfc822Name a)]

/-- The outcome of the equality of distinguished names. -/
def namesEqual (a b : X500Name) : Outcome Evaluated :=
  r.call context ⟨uri, .standard (.equal .x500Name)⟩ [.value (.x500Name a), .value (.x500Name b)]

/-- The outcome of matching the end of a distinguished name with another. -/
def nameMatches (a b : X500Name) : Outcome Evaluated :=
  r.call context ⟨uri, .standard .x500NameMatch⟩ [.value (.x500Name a), .value (.x500Name b)]

lemma addressesEqual_eq (a b : Rfc822Name) :
    r.addressesEqual context uri a b = .ok (.boolean (a.same b)) :=
  r.call_equal context uri rfl rfl

lemma addressesEqual_tells (a b : Rfc822Name) :
    (r.addressesEqual context uri a b).Tells
      (a.localPart = b.localPart ∧ Text.asciiLower a.domain = Text.asciiLower b.domain) :=
  ⟨_, r.addressesEqual_eq context uri a b, Rfc822Name.same_iff⟩

lemma namesEqual_tells (a b : X500Name) :
    (r.namesEqual context uri a b).Tells (a.parts = b.parts) :=
  ⟨_, r.call_equal context uri rfl rfl, X500Name.same_iff⟩

lemma addressMatches_eq (pattern : String) (a : Rfc822Name) :
    r.addressMatches context uri pattern a = .ok (.boolean (a.matchesPattern pattern)) := by
  let args : Arguments := [.string pattern, .value (.rfc822Name a)]
  have hpattern : args.stringAt 0 = .ok pattern := stringAt_eq_ok.mpr rfl
  have haddress : args.typedAt .rfc822Name 1 = .ok (.rfc822Name a) := typedAt_eq_ok.mpr ⟨rfl, rfl⟩
  rw [addressMatches, call_standard, StandardFunction.call, callRfc822NameMatch, hpattern, haddress]
  rfl

lemma nameMatches_tells (a b : X500Name) :
    (r.nameMatches context uri a b).Tells (a.parts <:+ b.parts) := by
  let args : Arguments := [.value (.x500Name a), .value (.x500Name b)]
  have hending : args.typedAt .x500Name 0 = .ok (.x500Name a) := typedAt_eq_ok.mpr ⟨rfl, rfl⟩
  have hname : args.typedAt .x500Name 1 = .ok (.x500Name b) := typedAt_eq_ok.mpr ⟨rfl, rfl⟩
  rw [nameMatches, call_standard, StandardFunction.call, callX500NameMatch, hending, hname]
  exact ⟨_, rfl, X500Name.endsIn_iff⟩

lemma require_nameEqual {type : DataType} (htype : type ∈ [DataType.rfc822Name, .x500Name]) :
    standard.require (namespace1 ++ (type.shortName ++ "-equal")) =
      .ok ⟨namespace1 ++ (type.shortName ++ "-equal"), .standard (.equal type)⟩ := by
  refine require_standard (equality_mem (List.mem_cons_of_mem _ ?_))
  refine List.mem_flatMap.mpr ⟨type, DataType.mem_all type, ?_⟩
  rcases List.mem_pair.mp htype with rfl | rfl
  · simp [forType, DataType.isDuration, String.append_assoc]
  · simp [forType, DataType.isDuration, String.append_assoc]

/-- Patterns match equal mail addresses alike, an address that is written out matches those that are
equal to it, and a pattern that begins with a point matches the domains that end in it.
Distinguished names are ordered by their ends; names that match each other are equal, and equal
names match the same names and are matched by them. -/
theorem matching_respects_equality :
    ((∀ type ∈ [DataType.rfc822Name, .x500Name],
        standard.require (namespace1 ++ (type.shortName ++ "-equal")) =
          .ok ⟨namespace1 ++ (type.shortName ++ "-equal"), .standard (.equal type)⟩) ∧
      standard.require (namespace1 ++ "rfc822Name-match") =
        .ok ⟨namespace1 ++ "rfc822Name-match", .standard .rfc822NameMatch⟩ ∧
      standard.require (namespace1 ++ "x500Name-match") =
        .ok ⟨namespace1 ++ "x500Name-match", .standard .x500NameMatch⟩) ∧
    ((∀ a b : Rfc822Name, (r.addressesEqual context uri a b).Tells
        (a.localPart = b.localPart ∧ Text.asciiLower a.domain = Text.asciiLower b.domain)) ∧
      (∀ (pattern : String) (a : Rfc822Name),
        ∃ found, r.addressMatches context uri pattern a = .ok (.boolean found)) ∧
      (∀ a b : X500Name, (r.namesEqual context uri a b).Tells (a.parts = b.parts)) ∧
      ∀ a b : X500Name, (r.nameMatches context uri a b).Tells (a.parts <:+ b.parts)) ∧
    ((∀ (a b : Rfc822Name) (pattern : String),
        r.addressesEqual context uri a b = .ok (.boolean true) →
          r.addressMatches context uri pattern a = r.addressMatches context uri pattern b) ∧
      (∀ (text : String) (name a : Rfc822Name), Rfc822Name.read text = .ok name →
        r.addressMatches context uri name.written a = r.addressesEqual context uri name a) ∧
      ∀ (pattern : String) (a : Rfc822Name), pattern.toList.head? = some '.' →
        '@' ∉ pattern.toList → (r.addressMatches context uri pattern a).Tells
          (∃ before ending, a.domain = before ++ ending ∧
            Text.asciiLower ending = Text.asciiLower pattern)) ∧
    (∀ a : X500Name, r.nameMatches context uri a a = .ok (.boolean true)) ∧
    (∀ a b c : X500Name, r.nameMatches context uri a b = .ok (.boolean true) →
      r.nameMatches context uri b c = .ok (.boolean true) →
        r.nameMatches context uri a c = .ok (.boolean true)) ∧
    (∀ a b : X500Name, r.nameMatches context uri a b = .ok (.boolean true) →
      r.nameMatches context uri b a = .ok (.boolean true) →
        r.namesEqual context uri a b = .ok (.boolean true)) ∧
    ∀ a a' b b' : X500Name, r.namesEqual context uri a a' = .ok (.boolean true) →
      r.namesEqual context uri b b' = .ok (.boolean true) →
        r.nameMatches context uri a b = r.nameMatches context uri a' b' := by
  have hmatches (a b : X500Name) := (r.nameMatches_tells context uri a b).eq_true_iff
  have hequal (a b : X500Name) := (r.namesEqual_tells context uri a b).eq_true_iff
  refine ⟨⟨fun _ => require_nameEqual, require_standard (text_mem (by simp [texts])),
      require_standard (text_mem (by simp [texts]))⟩,
    ⟨r.addressesEqual_tells context uri,
      fun pattern a => ⟨_, r.addressMatches_eq context uri pattern a⟩,
      r.namesEqual_tells context uri, r.nameMatches_tells context uri⟩,
    ⟨fun a b pattern hab => ?_, fun text name a hname => ?_, fun pattern a hpoint hat => ?_⟩,
    fun a => ?_, fun a b c hab hbc => ?_, fun a b hab hba => ?_, fun a a' b b' ha hb => ?_⟩
  · obtain ⟨hlocal, hdomain⟩ := (r.addressesEqual_tells context uri a b).eq_true_iff.mp hab
    rw [addressMatches_eq, addressMatches_eq, Rfc822Name.matchesPattern_congr hlocal hdomain]
  · rw [addressMatches_eq, addressesEqual_eq, Rfc822Name.matchesPattern_written hname]
  · exact ⟨_, r.addressMatches_eq context uri pattern a,
      Rfc822Name.matchesPattern_ending hpoint hat⟩
  · exact (hmatches a a).mpr List.suffix_rfl
  · exact (hmatches a c).mpr (((hmatches a b).mp hab).trans ((hmatches b c).mp hbc))
  · have hab := (hmatches a b).mp hab
    have hba := (hmatches b a).mp hba
    exact (hequal a b).mpr (hab.eq_of_length_le hba.length_le)
  · have htells := r.nameMatches_tells context uri a b
    rw [(hequal a a').mp ha, (hequal b b').mp hb] at htells
    exact htells.eq (r.nameMatches_tells context uri a' b')

/-- Two spellings of an address, and two of an organisation that a person belongs to. -/
theorem matching_respects_equality_spellings :
    Rfc822Name.read "anne@a.ORG" = .ok ⟨"anne", "a.ORG"⟩ ∧
    standard.addressesEqual .blank "" ⟨"anne", "a.ORG"⟩ ⟨"anne", "A.org"⟩ = .ok (.boolean true) ∧
    standard.addressMatches .blank "" "a.org" ⟨"anne", "a.ORG"⟩ =
      standard.addressMatches .blank "" "a.org" ⟨"anne", "A.org"⟩ ∧
    standard.addressMatches .blank "" "anne@a.ORG" ⟨"anne", "A.org"⟩ = .ok (.boolean true) ∧
    standard.addressMatches .blank "" ".Org" ⟨"anne", "a.ORG"⟩ = .ok (.boolean true) ∧
    standard.namesEqual .blank "" ⟨"O=A", [⟨"o", "a"⟩]⟩ ⟨"o=a", [⟨"o", "a"⟩]⟩ =
      .ok (.boolean true) ∧
    standard.nameMatches .blank "" ⟨"O=A", [⟨"o", "a"⟩]⟩ ⟨"c=B,o=A", [⟨"c", "b"⟩, ⟨"o", "a"⟩]⟩ =
      standard.nameMatches .blank "" ⟨"o=a", [⟨"o", "a"⟩]⟩
        ⟨"c=b,o=a", [⟨"c", "b"⟩, ⟨"o", "a"⟩]⟩ := by
  obtain ⟨-, ⟨hequal, -, hnames, -⟩, ⟨hspelling, hwritten, hending⟩, -, -, -, hrespelled⟩ :=
    matching_respects_equality standard .blank ""
  have hread : Rfc822Name.read "anne@a.ORG" = .ok ⟨"anne", "a.ORG"⟩ := by decide
  have hwrite : "anne@a.ORG" = (⟨"anne", "a.ORG"⟩ : Rfc822Name).written := by decide
  have hdomains : Text.asciiLower "a.ORG" = Text.asciiLower "A.org" := by decide
  have htail : "a.ORG" = "a" ++ ".ORG" ∧ Text.asciiLower ".ORG" = Text.asciiLower ".Org" := by
    decide
  have haddresses := (hequal ⟨"anne", "a.ORG"⟩ ⟨"anne", "A.org"⟩).eq_true_iff.mpr ⟨rfl, hdomains⟩
  have horganisation := (hnames ⟨"O=A", [⟨"o", "a"⟩]⟩ ⟨"o=a", [⟨"o", "a"⟩]⟩).eq_true_iff.mpr rfl
  have hperson := (hnames ⟨"c=B,o=A", [⟨"c", "b"⟩, ⟨"o", "a"⟩]⟩
    ⟨"c=b,o=a", [⟨"c", "b"⟩, ⟨"o", "a"⟩]⟩).eq_true_iff.mpr rfl
  refine ⟨hread, haddresses, hspelling _ _ _ haddresses, ?_, ?_, horganisation,
    hrespelled _ _ _ _ horganisation hperson⟩
  · rw [hwrite, hwritten _ _ _ hread, haddresses]
  · exact (hending ".Org" ⟨"anne", "a.ORG"⟩ (by decide) (by decide)).eq_true_iff.mpr
      ⟨"a", ".ORG", htail⟩

end FunctionRegistry

end PolicyDecision

import PolicyDecision.Expression
import PolicyDecision.Proofs.Binary.RoundTrip
import PolicyDecision.Proofs.Calendar.Duration
import PolicyDecision.Proofs.Function.Registry
import PolicyDecision.Proofs.Name.RoundTrip

/-! Values are read back from the text that they are written as: by the reader of their type, from
the literal that is made of them, and by the functions between values and strings. -/

namespace PolicyDecision

open Stateful

variable {type : DataType} {text : String} {v : Value}

lemma DataType.ofUri?_uri (type : DataType) : ofUri? type.uri = some type := by
  have hall : ∀ t ∈ all, ofUri? t.uri = some t := by decide +kernel
  exact hall type (mem_all type)

namespace Value

lemma type_of_read (h : read type text = .ok v) : v.type = type := by
  cases type <;> simp only [read, except_map_eq_ok] at h
  case string => cases h; rfl
  case anyURI => cases h; rfl
  all_goals
    obtain ⟨-, -, rfl⟩ := h
    rfl

lemma read_boolean (b : Bool) : readBoolean (boolean b).written = .ok b := by
  cases b <;> rfl

theorem read_written (hdouble : type ≠ .double) (hduration : type ≠ .dayTimeDuration)
    (h : read type text = .ok v) : read type v.written = .ok v := by
  cases type
  case double => exact absurd rfl hdouble
  case dayTimeDuration => exact absurd rfl hduration
  case string =>
    cases h
    rfl
  case anyURI =>
    cases h
    rw [read, written, Text.trim_trim]
  case boolean =>
    obtain ⟨b, -, rfl⟩ := except_map_eq_ok.mp h
    rw [read, read_boolean]
    rfl
  case integer =>
    obtain ⟨n, hn, rfl⟩ := except_map_eq_ok.mp h
    rw [read, written, Decimal.readInteger_ofInt (Decimal.isWord_of_readInteger hn)]
    rfl
  case date =>
    obtain ⟨d, hd, rfl⟩ := except_map_eq_ok.mp h
    rw [read, written, Calendar.Date.read_written (Calendar.Date.readable_of_read hd)]
    rfl
  case time =>
    obtain ⟨t, ht, rfl⟩ := except_map_eq_ok.mp h
    rw [read, written, Calendar.Time.read_written (Calendar.Time.valid_of_read ht)]
    rfl
  case dateTime =>
    obtain ⟨t, ht, rfl⟩ := except_map_eq_ok.mp h
    rw [read, written, Calendar.DateTime.read_written (Calendar.DateTime.readable_of_read ht)]
    rfl
  case yearMonthDuration =>
    obtain ⟨d, hd, rfl⟩ := except_map_eq_ok.mp h
    rw [read, written, Calendar.YearMonthDuration.read_written
      (Calendar.YearMonthDuration.readable_of_read hd)]
    rfl
  case hexBinary =>
    obtain ⟨bytes, -, rfl⟩ := except_map_eq_ok.mp h
    rw [read, written, Binary.Hex.read_encode]
    rfl
  case base64Binary =>
    obtain ⟨bytes, -, rfl⟩ := except_map_eq_ok.mp h
    rw [read, written, Binary.Base64.read_encode]
    rfl
  case rfc822Name =>
    obtain ⟨name, hname, rfl⟩ := except_map_eq_ok.mp h
    rw [read, written, Rfc822Name.read_written hname]
    rfl
  case x500Name =>
    obtain ⟨name, hname, rfl⟩ := except_map_eq_ok.mp h
    rw [read, written, X500Name.read_text hname]
    rfl

/-- A value that was read from a text is regained from the text that it is written as, whatever the
text was that it was first read from: by the reader of its type, from the literal made of it, and by
the standard functions from a string and to one. The value that comes back is the same in every
part, not only equal to it in the order of its type. -/
theorem regained_of_read (hdouble : type ≠ .double) (hduration : type ≠ .dayTimeDuration)
    (h : read type text = .ok v) :
    read type v.written = .ok v ∧
      (Literal.ofValue v).resolve = .ok v ∧
      (type ∈ StandardFunction.convertible → ∀ context : FunctionContext,
        ∃ write readBack written,
          FunctionRegistry.standard.require (StandardFunction.toStringUri type) = .ok write ∧
          FunctionRegistry.standard.require (StandardFunction.fromStringUri type) = .ok readBack ∧
          FunctionRegistry.standard.call context write [.value v] =
            .ok (.value (.string written)) ∧
          FunctionRegistry.standard.call context readBack [.value (.string written)] =
            .ok (.value v)) := by
  have hread := read_written hdouble hduration h
  have htype := type_of_read h
  refine ⟨hread, ?_, fun hconvertible context => ?_⟩
  · rw [Literal.ofValue, Literal.resolve, DataType.ofUri?_uri]
    dsimp only
    rw [htype, hread]
    rfl
  · exact ⟨_, _, v.written,
      FunctionRegistry.require_standard (StandardFunction.toString_mem hconvertible),
      FunctionRegistry.require_standard (StandardFunction.fromString_mem hconvertible),
      FunctionRegistry.call_toString htype, FunctionRegistry.call_fromString hread⟩

/-- The last half second of a leap day, half an hour west of UTC. -/
theorem regained_leapDay :
    read .dateTime " 2024-02-29T23:59:59.500-00:30\n" = .ok (.dateTime
      ⟨⟨2024, 2, 29, some (-30)⟩, ⟨23, 59, 59, 500000000, some (-30)⟩⟩) ∧
    read .dateTime "2024-02-29T23:59:59.5-00:30" = .ok (.dateTime
      ⟨⟨2024, 2, 29, some (-30)⟩, ⟨23, 59, 59, 500000000, some (-30)⟩⟩) := by
  have hread : read .dateTime " 2024-02-29T23:59:59.500-00:30\n" = .ok (.dateTime
      ⟨⟨2024, 2, 29, some (-30)⟩, ⟨23, 59, 59, 500000000, some (-30)⟩⟩) := rfl
  exact ⟨hread, (regained_of_read (by decide) (by decide) hread).1⟩

end Value

end PolicyDecision

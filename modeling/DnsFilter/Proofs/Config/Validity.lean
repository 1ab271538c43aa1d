import DnsFilter.Config.Reader

/-!
# Configurations that can be used

What the check of a configuration promises to the rest of the program, and that a configuration that
was read from a file has passed it.
-/

namespace DnsFilter.Config

variable {config : Config}

theorem ite_error_eq_ok_iff {condition : Prop} [Decidable condition] {error : Error}
    {rest : Except Error Unit} :
    (if condition then .error error else rest) = .ok () ↔ ¬condition ∧ rest = .ok () := by
  split <;> simp [*]

theorem validate_eq_ok_iff :
    config.validate = .ok () ↔
      config.servers ≠ [] ∧ config.serverTimeout ≠ 0 ∧ 2 ≤ config.expire ∧ config.ttl ≠ 0 ∧
        config.questionCapacity ≠ 0 ∧ config.apiBind.isInternal = true := by
  simp only [validate, ite_error_eq_ok_iff, List.isEmpty_iff, Nat.not_lt, ne_eq, ite_eq_left_iff,
    reduceCtorEq, imp_false, Bool.not_eq_true, Bool.not_eq_false]

/-- What is read from a file is what its document says, if that passes the check. -/
theorem ofFile_eq_ok_iff {files : FileView} {path : String} :
    ofFile files path = .ok config ↔
      ∃ content, files path = some (.file content) ∧
        (Json.parse? content.toList).bind ofJson? = some config ∧ config.validate = .ok () := by
  unfold ofFile
  split
  · next missing => simp [missing]
  · next directory => simp [directory]
  · next content found =>
      simp only [found, Option.some.injEq, FileNode.file.injEq, exists_eq_left', ofBytes]
      cases document : (Json.parse? content.toList).bind ofJson? with
      | none => simp [throw, throwThe, MonadExceptOf.throw]
      | some parsed =>
          cases valid : parsed.validate with
          | error error =>
              have refused : parsed = config → config.validate ≠ .ok () := by
                rintro rfl
                simp [valid]
              simpa [valid, bind, Except.bind] using refused
          | ok =>
              have passed : parsed = config → config.validate = .ok () := by
                rintro rfl
                exact valid
              simpa [valid, bind, Except.bind, pure, Except.pure] using passed

theorem validate_of_ofFile {files : FileView} {path : String}
    (read : ofFile files path = .ok config) : config.validate = .ok () := by
  rcases ofFile_eq_ok_iff.1 read with ⟨_, _, _, valid⟩
  exact valid

section

variable (valid : config.validate = .ok ())

include valid

theorem servers_ne_nil : config.servers ≠ [] := (validate_eq_ok_iff.1 valid).1

theorem le_positiveLifetime : 1000 ≤ config.positiveLifetime := by
  have bound := (validate_eq_ok_iff.1 valid).2.2.1
  unfold positiveLifetime
  omega

theorem le_negativeLifetime : 1000 ≤ config.negativeLifetime := by
  have bound := (validate_eq_ok_iff.1 valid).2.2.1
  unfold negativeLifetime
  omega

theorem le_blockLifetime : 1000 ≤ config.blockLifetime := by
  have lasting := (validate_eq_ok_iff.1 valid).2.2.2.1
  have positive : 0 < config.ttl.toNat := by
    rwa [Nat.pos_iff_ne_zero, ne_eq, ← UInt32.toNat_zero, UInt32.toNat_inj]
  unfold blockLifetime
  omega

end

end DnsFilter.Config

import DnsFilter.Message.Transit

/-!
# What is sent of a message

What does not fit into a message is left out at the ends of its sections, and a message from which
something was left out is marked as truncated. So a message that is not marked was sent whole. Of
its response code the receiver gets twelve bits with an extension record, and four without one.
-/

namespace DnsFilter

/-- Upper and lower bits of a response code give back its lowest twelve bits. -/
theorem Rcode.ofParts_high_low (rcode : Rcode) :
    ofParts rcode.high rcode.low = ⟨rcode.code &&& 0xfff⟩ := by
  rcases rcode with ⟨code⟩
  have low : code.toNat &&& 0xf = code.toNat % 16 := Nat.and_two_pow_sub_one_eq_mod _ 4
  have all : code.toNat &&& 0xfff = code.toNat % 4096 := Nat.and_two_pow_sub_one_eq_mod _ 12
  have high : (code.toNat &&& 0xff0) >>> 4 = code.toNat / 16 % 256 := by
    rw [Nat.shiftRight_and_distrib, Nat.shiftRight_eq_div_pow]
    exact Nat.and_two_pow_sub_one_eq_mod _ 8
  have bound : (code.toNat / 16 % 256) <<< 4 % 65536 = (code.toNat / 16 % 256) <<< 4 := by
    rw [Nat.shiftLeft_eq]
    omega
  have join : (code.toNat / 16 % 256) <<< 4 ||| code.toNat % 16 =
      (code.toNat / 16 % 256) <<< 4 + code.toNat % 16 :=
    (Nat.shiftLeft_add_eq_or_of_lt (i := 4) (Nat.mod_lt _ (by decide)) _).symm
  simp only [ofParts, Rcode.high, Rcode.low, mk.injEq]
  rw [← UInt16.toNat_inj]
  simp only [UInt16.toNat_or, UInt16.toNat_shiftLeft, UInt8.toNat_toUInt16, UInt16.toNat_toUInt8,
    UInt16.toNat_shiftRight, UInt16.toNat_and]
  simp [low, all, high, bound, join]
  rw [Nat.shiftLeft_eq]
  omega

theorem Rcode.ofParts_zero_low (rcode : Rcode) :
    ofParts 0 rcode.low = ⟨rcode.code &&& 0xf⟩ := by
  simp [ofParts, low]

namespace Message

/-- That a message is another one, perhaps with less at the ends of its sections. -/
structure IsFrontOf (sent message : Message) : Prop where
  id : sent.id = message.id
  flags : ∃ mark, sent.flags = { message.flags with truncated := mark }
  opcode : sent.opcode = message.opcode
  rcode : sent.rcode = message.rcode
  queries : sent.queries = message.queries
  answers : sent.answers <+: message.answers
  authorities : sent.authorities <+: message.authorities
  additionals : sent.additionals <+: message.additionals
  edns : sent.edns = none ∨ sent.edns = message.edns

/-- What is sent of a message is a front of it, and all of it unless it is marked as truncated. -/
theorem isFrontOf_of_fitted? {message sent : Message} (fits : message.fitted? = some sent) :
    sent.IsFrontOf message ∧ (sent.flags.truncated = false → sent = message) := by
  simp only [fitted?, Option.bind_eq_bind, Option.bind_eq_some_iff] at fits
  rcases fits with ⟨⟨_, _⟩, _, ⟨answers, _⟩, answersFit, ⟨authorities, _⟩, authoritiesFit,
    ⟨additionals, _⟩, additionalsFit, ⟨extensions, _⟩, extensionsFit, same⟩
  have answersFront := Layout.isPrefix_of_fitting answersFit
  have authoritiesFront := Layout.isPrefix_of_fitting authoritiesFit
  have additionalsFront := Layout.isPrefix_of_fitting additionalsFit
  have extensionsFront := Layout.isPrefix_of_fitting extensionsFit
  cases same
  constructor
  · refine ⟨rfl, ⟨_, rfl⟩, rfl, rfl, rfl, answersFront, authoritiesFront, additionalsFront, ?_⟩
    cases extensions with
    | nil => exact .inl rfl
    | cons extension others =>
        right
        rw [← Option.head?_toList (o := message.edns)]
        rcases extensionsFront with ⟨left, whole⟩
        rw [← whole]
        rfl
  · intro whole
    simp only [Bool.or_eq_false_iff, Bool.not_eq_false', Bool.and_eq_true, beq_iff_eq] at whole
    rcases whole with ⟨unmarked, ⟨⟨answersWhole, authoritiesWhole⟩, additionalsWhole⟩,
      extensionsWhole⟩
    cases answersFront.eq_of_length answersWhole
    cases authoritiesFront.eq_of_length authoritiesWhole
    cases additionalsFront.eq_of_length additionalsWhole
    cases extensionsFront.eq_of_length extensionsWhole
    rcases message with ⟨id, flags, opcode, rcode, queries, answers, authorities, additionals, edns⟩
    rcases flags with ⟨response, authoritative, truncated⟩
    cases edns <;> simp_all

/-- The receiver gets twelve bits of the response code with an extension record, and four without
one. -/
theorem rcode_received (message : Message)
    (extensionless : message.edns = none →
      ∀ record ∈ message.additionals, record.isExtension = false) :
    message.received.rcode =
      ⟨message.rcode.code &&& if message.edns.isSome then 0xfff else 0xf⟩ := by
  cases given : message.edns with
  | some edns =>
      have extension : message.extension? = some (edns.received message.rcode) := by
        simp only [extension?, given]
      simp only [received, extension, Option.map_some, Option.getD_some, Option.isSome_some,
        if_true]
      exact message.rcode.ofParts_high_low
  | none =>
      have absent : message.additionals.find? Record.isExtension = none := by
        rw [List.find?_eq_none]
        intro record member
        simp [extensionless given record member]
      have extension : message.extension? = none := by
        simp only [extension?, given, absent, Option.map_none]
      simp only [received, extension, Option.map_none, Option.getD_none]
      exact message.rcode.ofParts_zero_low

end Message

end DnsFilter

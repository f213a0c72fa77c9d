/-
# Identity.PasswordHashes — verification against any stored text

What `hash_password` writes is accepted for its password: none of the four fields has a `$`
in it, and each is read back as it was written.

Against any other text verification shall answer, and answer that the password is wrong
unless the text is `Wellformed`. The `try` that reads the fields sees to that for all of them
but one. A number of iterations is only known to be an integer there, and whether it can be
used is found out where the digest is derived, outside the `try`.
-/
import KisAutoTrading.Modules.Passwords

namespace KisAutoTrading.Identity.PasswordHashes

open Theory

set_option autoImplicit false

/-- The four fields of a text: the name of the algorithm, an integer, and a salt and a digest
that can be decoded. -/
def Fields (encoded : String) (iterations : Int) (salt digest : List UInt8) : Prop :=
  ∃ iterationsText saltText digestText,
    pySplit '$' encoded = [passwordAlgorithm, iterationsText, saltText, digestText] ∧
      pyIntText iterationsText = some iterations ∧ b64Data saltText = some salt ∧
      b64Data digestText = some digest

/-- A number of iterations that PBKDF2 can be run with. -/
def UsableCount (iterations : Int) : Prop := 1 ≤ iterations ∧ iterations ≤ maxIterations

def Wellformed (encoded : String) : Prop :=
  ∃ iterations salt digest, Fields encoded iterations salt digest ∧ UsableCount iterations

/-- What is asked of the two functions: a hash is accepted for its password, and verification
answers for every text, with `False` where the text is not well formed. -/
structure Verified (derive : Pbkdf2) (salt : List UInt8) (password encoded : String) : Prop where
  roundTrip : ∃ hash, hashPassword derive salt password = .ok hash ∧
    verifyPassword derive password hash = .ok true
  failsClosed : ∃ answer, verifyPassword derive password encoded = .ok answer ∧
    (¬ Wellformed encoded → answer = false)

/-! ## Fields -/

section Fields

variable {derive : Pbkdf2} {password encoded : String} {iterations : Int}
  {salt digest : List UInt8}

theorem storedHash_eq_some :
    storedHash encoded = some (iterations, salt, digest) ↔ Fields encoded iterations salt digest := by
  unfold storedHash Fields
  constructor
  · intro read
    split at read
    · rename_i algorithm iterationsText saltText digestText parts
      split at read
      · cases read
      · rename_i named
        obtain ⟨count, counted, read⟩ := Option.bind_eq_some_iff.mp read
        obtain ⟨saltBytes, decoded, read⟩ := Option.bind_eq_some_iff.mp read
        obtain ⟨digestBytes, decoded', read⟩ := Option.bind_eq_some_iff.mp read
        cases read
        rw [not_not.mp named] at parts
        exact ⟨iterationsText, saltText, digestText, parts, counted, decoded, decoded'⟩
    · cases read
  · rintro ⟨iterationsText, saltText, digestText, parts, counted, decoded, decoded'⟩
    simp [parts, counted, decoded, decoded']

/-- A text without the four fields is refused. -/
theorem verifyPassword_malformed (malformed : ∀ iterations salt digest,
    ¬ Fields encoded iterations salt digest) : verifyPassword derive password encoded = .ok false := by
  unfold verifyPassword
  cases read : storedHash encoded with
  | none => rfl
  | some stored =>
      obtain ⟨iterations, salt, digest⟩ := stored
      exact absurd (storedHash_eq_some.mp read) (malformed iterations salt digest)

/-- PBKDF2 is run for a number of iterations exactly if it can be used. -/
theorem pbkdf2Hmac_ok_iff {password : List UInt8} :
    (∃ actual, pbkdf2Hmac derive password salt iterations = .ok actual) ↔
      UsableCount iterations := by
  unfold pbkdf2Hmac UsableCount
  split
  · rename_i tooGreat
    simp only [reduceCtorEq, exists_false, false_iff]
    omega
  · split
    · rename_i notPositive
      simp only [reduceCtorEq, exists_false, false_iff]
      omega
    · simp only [Except.ok.injEq, exists_eq', true_iff]
      omega

/-- With the four fields and a usable number of iterations the digests are compared. -/
theorem verifyPassword_usable (fields : Fields encoded iterations salt digest)
    (usable : UsableCount iterations) :
    verifyPassword derive password encoded =
      .ok (decide (derive password.toUTF8.data.toList salt iterations.toNat = digest)) := by
  obtain ⟨positive, small⟩ := usable
  have tooGreat : ¬ (iterations < -2 ^ 63 ∨ maxIterations < iterations) := by omega
  have notPositive : ¬ iterations < 1 := by omega
  simp only [verifyPassword, storedHash_eq_some.mpr fields, pbkdf2Hmac, if_neg tooGreat,
    if_neg notPositive]
  rfl

variable (derive password) in
/-- With any other number verification raises. -/
theorem verifyPassword_unusable (fields : Fields encoded iterations salt digest)
    (unusable : ¬ UsableCount iterations) :
    ∃ failure, verifyPassword derive password encoded = .error failure := by
  cases ran : pbkdf2Hmac derive password.toUTF8.data.toList salt iterations with
  | ok actual => exact absurd (pbkdf2Hmac_ok_iff.mp ⟨actual, ran⟩) unusable
  | error failure =>
      refine ⟨failure, ?_⟩
      simp only [verifyPassword, storedHash_eq_some.mpr fields, ran]
      rfl

end Fields

/-! ## What was hashed -/

/-- Neither alphabet nor padding has characters beyond ASCII, or a `$`. -/
theorem mem_b64Text {data : List UInt8} {c : Char} (member : c ∈ (b64Text data).toList) :
    c.toNat < 128 ∧ c ≠ '$' := by
  have plain : Base64.alphabet.all (fun c => c.toNat < 128 && c != '$') = true := by decide +kernel
  rw [b64Text, String.toList_ofList] at member
  rcases Base64.mem_encodePadded member with digit | rfl
  · simpa using List.all_eq_true.mp plain c digit
  · decide

theorem b64Data_b64Text (data : List UInt8) : b64Data (b64Text data) = some data := by
  have ascii : isAscii (b64Text data) = true := by
    simp only [isAscii, List.all_eq_true, decide_eq_true_eq]
    intro c member
    exact (mem_b64Text member).1
  rw [b64Data, if_pos ascii, b64Text, String.toList_ofList, Base64.decode_encodePadded]

/-- The fields of a hash are those it was joined from. -/
theorem fields_of_hash (salt digest : List UInt8) :
    Fields (pyJoin '$' [passwordAlgorithm, toString passwordIterations, b64Text salt,
      b64Text digest]) passwordIterations salt digest := by
  have counted : pyIntText (toString passwordIterations) = some passwordIterations := by
    decide +kernel
  refine ⟨toString passwordIterations, b64Text salt, b64Text digest, ?_, counted,
    b64Data_b64Text salt, b64Data_b64Text digest⟩
  refine pySplit_pyJoin ?_ (by simp)
  simp only [List.mem_cons, List.not_mem_nil, or_false]
  rintro part (rfl | rfl | rfl | rfl)
  · decide +kernel
  · decide +kernel
  · exact fun dollar => (mem_b64Text dollar).2 rfl
  · exact fun dollar => (mem_b64Text dollar).2 rfl

/-- A hash is accepted for the password it was made of. -/
theorem verify_hash (derive : Pbkdf2) (salt : List UInt8) (password : String) :
    ∃ hash, hashPassword derive salt password = .ok hash ∧
      verifyPassword derive password hash = .ok true := by
  have usable : UsableCount passwordIterations := ⟨by decide, by decide⟩
  refine ⟨_, rfl, ?_⟩
  rw [verifyPassword_usable (fields_of_hash salt _) usable]
  simp

/-! ## Any text -/

/-- **Hashes are accepted for their passwords, and a text is answered for exactly if it has no
number of iterations, or one that can be used, in its four fields.** -/
theorem verified_iff (derive : Pbkdf2) (salt : List UInt8) (password encoded : String) :
    Verified derive salt password encoded ↔
      ∀ iterations salt digest, Fields encoded iterations salt digest → UsableCount iterations := by
  constructor
  · rintro ⟨-, answer, answered, -⟩ iterations salt digest fields
    by_contra unusable
    obtain ⟨failure, raised⟩ :=
      verifyPassword_unusable derive password fields unusable
    rw [answered] at raised
    cases raised
  · intro usable
    refine ⟨verify_hash derive salt password, ?_⟩
    by_cases fields : ∃ iterations salt digest, Fields encoded iterations salt digest
    · obtain ⟨iterations, salt, digest, fields⟩ := fields
      have count := usable iterations salt digest fields
      refine ⟨_, verifyPassword_usable fields count, ?_⟩
      intro malformed
      exact absurd ⟨iterations, salt, digest, fields, count⟩ malformed
    · refine ⟨false, verifyPassword_malformed ?_, fun _ => rfl⟩
      intro iterations salt digest here
      exact fields ⟨iterations, salt, digest, here⟩

namespace Sample

/-- A derivation that keeps the password. -/
def derive : Pbkdf2 := fun password _ _ => password

/-- A stored hash with no iterations is neither accepted nor refused. -/
theorem zero_iterations_raise :
    ¬ Verified derive [] "password" "pbkdf2_sha256$0$AAAA$AAAA" := by
  rintro ⟨-, answer, answered, -⟩
  have raised : verifyPassword derive "password" "pbkdf2_sha256$0$AAAA$AAAA" =
      .error .notPositive := by decide +kernel
  rw [raised] at answered
  cases answered

end Sample

end KisAutoTrading.Identity.PasswordHashes

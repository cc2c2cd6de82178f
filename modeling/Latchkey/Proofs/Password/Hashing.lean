/-
Hashes of passwords are written and read back. The costs, the salt and the tag that are
printed are those under which a password is checked later, for every salt of a fitting length:
the standard alphabet of Base64 has only characters that a value may have, and no sign that
separates fields. So a password is accepted exactly if Argon2 gives the same tag for it.
-/

import Latchkey.Proofs.Base64
import Latchkey.Service.Local

namespace Latchkey

namespace Base64

variable {alphabet : Alphabet} {bytes : List UInt8} {char : Char}

theorem isValueChar_of_isSome_value? (symbol : (Alphabet.standard.value? char).isSome = true) :
    Password.Phc.isValueChar char = true := by
  unfold Alphabet.value? at symbol
  change (char.isUpper || char.isLower || char.isDigit || char == '/' || char == '+' || char == '.'
    || char == '-') = true
  split at symbol
  · next upper =>
      have isUpper : char.isUpper = true := decide_eq_true upper
      simp only [isUpper, Bool.true_or]
  split at symbol
  · next lower =>
      have isLower : char.isLower = true :=
        Bool.and_eq_true_iff.mpr ⟨decide_eq_true lower.1, decide_eq_true lower.2⟩
      simp only [isLower, Bool.true_or, Bool.or_true]
  split at symbol
  · next digit =>
      have isDigit : char.isDigit = true :=
        Bool.and_eq_true_iff.mpr ⟨decide_eq_true digit.1, decide_eq_true digit.2⟩
      simp only [isDigit, Bool.true_or, Bool.or_true]
  split at symbol
  · next plus =>
      subst plus
      decide
  split at symbol
  · next slash =>
      subst slash
      decide
  · cases symbol

theorem isValueChar_of_mem_encodeChars (member : char ∈ encodeChars .standard bytes) :
    Password.Phc.isValueChar char = true :=
  isValueChar_of_isSome_value?
    (isSome_value?_of_decodeChars? (decodeChars?_encodeChars .standard bytes) char member)

end Base64

namespace Password

open Digest.Argon2 (tag length_tag)

namespace Phc

variable {bytes : List UInt8}

theorem notMem_encodeChars {sign : Char} (foreign : isValueChar sign = false) (bytes : List UInt8) :
    sign ∉ Base64.encodeChars .standard bytes := by
  intro member
  rw [Base64.isValueChar_of_mem_encodeChars member] at foreign
  cases foreign

theorem isValue_encodeChars (short : bytes.length ≤ 48) :
    isValue (Base64.encodeChars .standard bytes) = true := by
  have length : (Base64.encodeChars .standard bytes).length ≤ 64 := by
    rw [Base64.length_encodeChars]
    omega
  have valueChars : (Base64.encodeChars .standard bytes).all isValueChar = true :=
    List.all_eq_true.mpr fun _char => Base64.isValueChar_of_mem_encodeChars
  rw [isValue, decide_eq_true length, valueChars]
  rfl

theorem salt?_encodeChars (long : 3 ≤ bytes.length) (short : bytes.length ≤ 48) :
    salt? (Base64.encodeChars .standard bytes) = some (Base64.encodeChars .standard bytes) := by
  have length : 4 ≤ (Base64.encodeChars .standard bytes).length := by
    rw [Base64.length_encodeChars]
    omega
  exact if_pos ⟨length, isValue_encodeChars short⟩

theorem hash?_encodeChars (long : 10 ≤ bytes.length) (short : bytes.length ≤ 64) :
    hash? (Base64.encodeChars .standard bytes) = some bytes := by
  rw [hash?, Base64.decodeChars?_encodeChars]
  exact if_pos ⟨long, short⟩

end Phc

section Reading

variable {salt tag : List UInt8}

def costParameters : List (List Char × List Char) :=
  [("m", "19456"), ("t", "2"), ("p", "1")].map fun cost => (cost.1.toList, cost.2.toList)

def written (salt tag : List UInt8) : Phc where
  algorithm := "argon2id".toList
  version := some 19
  parameters := costParameters
  salt := some (Base64.encodeChars .standard salt)
  hash := some tag

theorem splitOn_hashText (salt tag : List UInt8) :
    (hashText costs salt tag).toList.splitOn '$' =
      [[], "argon2id".toList, "v=19".toList, "m=19456,t=2,p=1".toList,
        Base64.encodeChars .standard salt, Base64.encodeChars .standard tag] := by
  have whole : hashText costs salt tag = "$argon2id$v=19$m=19456,t=2,p=1" ++ "$" ++
      Base64.encode .standard salt ++ "$" ++ Base64.encode .standard tag := rfl
  have noDollar : ∀ field ∈ [[], "argon2id".toList, "v=19".toList, "m=19456,t=2,p=1".toList,
      Base64.encodeChars .standard salt, Base64.encodeChars .standard tag], '$' ∉ field := by
    simp only [List.forall_mem_cons]
    exact ⟨by decide, by decide, by decide, by decide, Phc.notMem_encodeChars (by decide) salt,
      Phc.notMem_encodeChars (by decide) tag, by simp⟩
  rw [← List.splitOn_intercalate '$' noDollar (List.cons_ne_nil _ _), whole]
  simp [Base64.encode, List.intercalate_cons_cons]

theorem parse?_hashText (saltLong : 3 ≤ salt.length) (saltShort : salt.length ≤ 48)
    (tagLong : 10 ≤ tag.length) (tagShort : tag.length ≤ 64) :
    Phc.parse? (hashText costs salt tag) = some (written salt tag) := by
  have algorithm : Phc.isName "argon2id".toList = true := by decide
  have isVersion : Phc.isVersion "v=19".toList = true := by decide
  have version : Phc.version? "v=19".toList = some 19 := by decide
  have areParameters : "m=19456,t=2,p=1".toList.contains '=' = true := by decide
  have parameters : Phc.parameters? "m=19456,t=2,p=1".toList = some costParameters := by decide
  simp only [Phc.parse?, splitOn_hashText, algorithm, if_true, Phc.readVersion, isVersion, version,
    Phc.readParameters, areParameters, parameters, Phc.readOutput,
    Phc.salt?_encodeChars saltLong saltShort, Phc.hash?_encodeChars tagLong tagShort,
    Option.bind_eq_bind, Option.bind_some, Option.pure_def]
  rfl

theorem challenge?_written (saltLong : 8 ≤ salt.length) :
    (written salt tag).challenge? = some
      { parameters := { costs with tagLength := tag.length }, salt, associated := [], tag } := by
  have memory : (written salt tag).cost? "m" costs.memory = some 19456 := rfl
  have passes : (written salt tag).cost? "t" costs.passes = some 2 := rfl
  have lanes : (written salt tag).cost? "p" costs.lanes = some 1 := rfl
  have associated : (written salt tag).bytes? "data" 32 = some [] := rfl
  have readable : (written salt tag).isReadable = true := rfl
  have saltRead := Base64.decodeChars?_encodeChars .standard salt
  simp only [Phc.challenge?, Option.bind_eq_bind, Option.bind_eq_some_iff]
  refine ⟨.id, rfl, .v19, rfl, _, rfl, salt, saltRead, tag, rfl, 19456, memory, 2, passes, 1, lanes,
    [], associated, ?_⟩
  rw [if_pos ⟨readable, saltLong, by decide, by decide, by decide, by decide, by decide⟩]
  rfl

end Reading

section Checking

variable {salt : List UInt8}

theorem peppered_inj {password other : Password} {pepper : Option (List UInt8)} :
    other.peppered pepper = password.peppered pepper ↔ other = password := by
  constructor
  · intro same
    have encoded : Text.Utf8.encode other.text = Text.Utf8.encode password.text :=
      List.append_cancel_right same
    have text : other.text = password.text := by
      have read := congrArg Text.Utf8.decode? encoded
      rw [Text.Utf8.decode?_encode, Text.Utf8.decode?_encode] at read
      exact Option.some.inj read
    cases other
    cases password
    exact congrArg Password.mk text
  · intro same
    rw [same]

theorem challenge?_hash (saltLong : 8 ≤ salt.length) (saltShort : salt.length ≤ 48)
    (password : Password) (pepper : Option (List UInt8)) :
    (Phc.parse? (password.hash pepper salt)).bind Phc.challenge? = some
      { parameters := costs, salt, associated := []
        tag := tag costs (password.peppered pepper) salt [] } := by
  have length : (tag costs (password.peppered pepper) salt []).length = 32 := length_tag ..
  rw [hash, parse?_hashText (Nat.le_trans (by decide) saltLong) saltShort (by omega) (by omega),
    Option.bind_some, challenge?_written saltLong, length]
  rfl

/-- A password is accepted under a pepper exactly if it has the tag of the hash there. -/
theorem verify_hash_iff (saltLong : 8 ≤ salt.length) (saltShort : salt.length ≤ 48)
    (password other : Password) (pepper otherPepper : Option (List UInt8)) :
    verify (password.hash pepper salt) other otherPepper = true ↔
      tag costs (other.peppered otherPepper) salt [] = tag costs (password.peppered pepper) salt [] := by
  rw [verify, challenge?_hash saltLong saltShort]
  exact beq_iff_eq

def inputOf (pepper : Option (List UInt8)) (raw : String) : List UInt8 :=
  Text.Utf8.encode (Text.nfkc raw) ++ pepper.getD []

/-- A hash reads back as it was made, and accepts the passwords that are the same in
compatibility-composed form; any other that it accepts has the tag of a different input. No
text but a hash accepts a password, and none is a failure.

Argon2 takes no salt of less than eight bytes, and no value holds one of more than 48; those of
new hashes have sixteen. -/
theorem hash_agrees_with_verify (saltLong : 8 ≤ salt.length) (saltShort : salt.length ≤ 48)
    (raw : String) (pepper : Option (List UInt8)) :
    (∃ phc, Phc.parse? ((typed raw).hash pepper salt) = some phc ∧ phc.challenge? = some
      ⟨costs, salt, [], tag costs (inputOf pepper raw) salt []⟩) ∧
    (∀ other, Text.nfkc other = Text.nfkc raw →
      verify ((typed raw).hash pepper salt) (typed other) pepper = true) ∧
    (∀ other, Text.nfkc other ≠ Text.nfkc raw →
      inputOf pepper other ≠ inputOf pepper raw ∧
        (verify ((typed raw).hash pepper salt) (typed other) pepper = true →
          tag costs (inputOf pepper other) salt [] = tag costs (inputOf pepper raw) salt [])) ∧
    ∀ (service : Service.Local) (text : String) (password : Password),
      service.hasher = .argon2 pepper → Phc.parse? text = none →
        Service.Local.answer (.verify text password) service = (.ok false, service) := by
  refine ⟨?readBack, ?same, ?others, ?noHash⟩
  case readBack =>
    exact Option.bind_eq_some_iff.mp (challenge?_hash saltLong saltShort (typed raw) pepper)
  case same =>
    intro other same
    rw [verify_hash_iff saltLong saltShort, typed, typed, same]
  case others =>
    intro other different
    refine ⟨?_, (verify_hash_iff saltLong saltShort _ _ pepper pepper).mp⟩
    intro same
    have password : typed other = typed raw := peppered_inj.mp same
    exact different (congrArg Password.text password)
  case noHash =>
    intro service text password hasher unreadable
    have refused : service.hasher.verify text password = false := by
      rw [hasher]
      change verify text password pepper = false
      rw [verify, unreadable]
      rfl
    change (Except.ok (service.hasher.verify text password), service) = _
    rw [refused]

theorem hash_agrees_with_verify_horse :
    let pepper : Option (List UInt8) := some [1, 2, 3]
    let stored := (typed "Correct-Horse-9").hash pepper (List.replicate saltLength 0)
    verify stored (typed "Correct-Horse-9") pepper = true ∧
      inputOf pepper "Wrong-Horse-9" ≠ inputOf pepper "Correct-Horse-9" ∧
      ∃ service : Service.Local, service.hasher = .argon2 pepper ∧
        Service.Local.answer (.verify "not-a-phc-string" (typed "whatever")) service
          = (.ok false, service) := by
  have long : 8 ≤ (List.replicate saltLength (0 : UInt8)).length := by decide
  have short : (List.replicate saltLength (0 : UInt8)).length ≤ 48 := by decide
  obtain ⟨_readBack, same, others, noHash⟩ :=
    hash_agrees_with_verify long short "Correct-Horse-9" (some [1, 2, 3])
  have different : Text.nfkc "Wrong-Horse-9" ≠ Text.nfkc "Correct-Horse-9" := by
    rw [Text.nfkc_of_plain (by decide), Text.nfkc_of_plain (by decide)]
    decide
  let service : Service.Local :=
    { issuer := ⟨[], "", "", .ofSeconds 0, .ofSeconds 0⟩
      hasher := .argon2 (some [1, 2, 3])
      exchange := fun _code => .error .wrongCredentials
      now := .epoch
      supply := fun _draw _count => [] }
  exact ⟨same _ rfl, (others _ different).1, service, rfl, noHash service _ _ rfl (by decide)⟩

end Checking

end Password

end Latchkey

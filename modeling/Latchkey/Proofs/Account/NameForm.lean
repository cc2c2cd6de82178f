/-
The form of names. A text names somebody exactly if its normal form is usable once it is trimmed;
the name is that text, and it is read as itself again, since normalizing neither changes what was
normalized nor any part of it. A name that a provider gave is kept if it can be read, and where it
cannot, what is generated in its place can.
-/

import Latchkey.Proofs.Base64
import Latchkey.Proofs.Cookie
import Latchkey.Proofs.Result
import Latchkey.Proofs.Text.Normal.Closure
import Latchkey.Proofs.Text.Trim
import Latchkey.SignIn.Provider

namespace Latchkey

namespace DisplayName

/-- A text that people can be shown under: one to a hundred characters, no control character. -/
structure IsUsable (text : String) : Prop where
  nonempty : 1 ≤ text.length
  short : text.length ≤ maxLength
  printable : ∀ char ∈ text.toList, Text.isControl char = false

variable {normalize : String → String} {raw : String} {name : DisplayName} {bytes : List UInt8}

theorem parseWith_eq_ok :
    parseWith normalize raw = .ok name ↔
      name.text = Text.trim (normalize raw) ∧ IsUsable name.text := by
  obtain ⟨text⟩ := name
  simp only [parseWith]
  generalize Text.trim (normalize raw) = trimmed
  constructor
  · intro parsed
    split_ifs at parsed with empty long control
    cases parsed
    refine ⟨rfl, ?_, Nat.not_lt.mp long, ?_⟩
    · refine Nat.one_le_iff_ne_zero.mpr fun zero => empty ?_
      exact String.isEmpty_iff.mpr (String.length_eq_zero_iff.mp zero)
    · simpa using control
  · rintro ⟨rfl, usable⟩
    have nonempty : ¬text.isEmpty = true := by
      intro empty
      rw [String.isEmpty_iff] at empty
      exact absurd usable.nonempty (by rw [empty]; decide)
    have shown : ¬text.toList.any Text.isControl = true := by simpa using usable.printable
    rw [if_neg nonempty, if_neg (Nat.not_lt.mpr usable.short), if_neg shown]

/-- Names are read as themselves by a normalization that keeps what it made, and all parts of
what it keeps. -/
theorem parseWith_text (twice : ∀ text, normalize (normalize text) = normalize text)
    (parts : ∀ text part, normalize text = text → part.toList.IsInfix text.toList →
      normalize part = part)
    (parsed : parseWith normalize raw = .ok name) :
    parseWith normalize name.text = .ok name := by
  obtain ⟨trimmed, usable⟩ := parseWith_eq_ok.mp parsed
  have kept : normalize name.text = name.text := by
    rw [trimmed]
    exact parts _ _ (twice raw) (Text.isInfix_trim _)
  refine parseWith_eq_ok.mpr ⟨?_, usable⟩
  rw [kept, trimmed, Text.trim_trim]

theorem parse_eq_ok :
    parse raw = .ok name ↔ name.text = Text.trim (Text.nfkc raw) ∧ IsUsable name.text :=
  parseWith_eq_ok

theorem parse_text (parsed : parse raw = .ok name) : parse name.text = .ok name :=
  parseWith_text Text.nfkc_nfkc (fun _text _part => Text.nfkc_of_part) parsed

theorem exists_parse_iff :
    (∃ name, parse raw = .ok name) ↔ IsUsable (Text.trim (Text.nfkc raw)) := by
  constructor
  · rintro ⟨name, parsed⟩
    obtain ⟨trimmed, usable⟩ := parse_eq_ok.mp parsed
    exact trimmed ▸ usable
  · intro usable
    exact ⟨⟨Text.trim (Text.nfkc raw)⟩, parse_eq_ok.mpr ⟨rfl, usable⟩⟩

theorem isVisible_of_mem_generated {char : Char}
    (member : char ∈ (generated (Secret.text bytes)).text.toList) : Cookie.IsVisible char := by
  rw [generated, String.toList_append, List.mem_append] at member
  rcases member with front | random
  · have visible : ("user_".toList.all fun char => decide (Cookie.IsVisible char)) = true := by
      decide
    exact of_decide_eq_true (List.all_eq_true.mp visible char front)
  · exact Cookie.isVisible_of_isUrlSafe (Base64.isUrlSafe_of_mem_encode random)

theorem parse_generated (drawn : bytes.length = randomLength) :
    parse (generated (Secret.text bytes)).text = .ok (generated (Secret.text bytes)) := by
  have plain : Text.Normal.IsPlain (generated (Secret.text bytes)).text.toList := by
    intro char member
    exact Nat.lt_of_le_of_lt (isVisible_of_mem_generated member).2 (by decide)
  have solid : ∀ char ∈ (generated (Secret.text bytes)).text.toList, Text.isBlank char = false :=
    fun char member => (isVisible_of_mem_generated member).not_isBlank
  have length : (generated (Secret.text bytes)).text.length = 27 := by
    rw [generated, String.length_append, Secret.text, Base64.length_encode, drawn]
    rfl
  refine parse_eq_ok.mpr ⟨?_, ?_, ?_, ?_⟩
  · rw [Text.nfkc_of_plain plain, Text.trim_of_not_isBlank solid]
  · rw [length]
    decide
  · rw [length]
    decide
  · intro char member
    obtain ⟨least, greatest⟩ := isVisible_of_mem_generated member
    simp only [Text.isControl, Bool.or_eq_false_iff, Bool.and_eq_false_iff,
      decide_eq_false_iff_not]
    omega

theorem ofProvider?_eq_some {given : Option String} :
    ofProvider? given = some name ↔ ∃ raw, given = some raw ∧ parse raw = .ok name := by
  simp only [ofProvider?, ofProviderWith?, Option.bind_eq_some_iff, Result.toOption_eq_some, parse]

end DisplayName

namespace SignIn

variable {user : ProviderUser}

theorem nameOf_of_parse {raw : String} {name : DisplayName} (given : user.name = some raw)
    (parsed : DisplayName.parse raw = .ok name) : nameOf user = pure name := by
  rw [nameOf, DisplayName.ofProvider?_eq_some.mpr ⟨raw, given, parsed⟩]

theorem nameOf_of_unusable
    (unusable : ∀ raw name, user.name = some raw → DisplayName.parse raw ≠ .ok name) :
    nameOf user =
      Procedure.secret DisplayName.randomLength >>= fun secret => pure (.generated secret) := by
  have absent : DisplayName.ofProvider? user.name = none := by
    refine Option.eq_none_iff_forall_ne_some.mpr fun name usable => ?_
    obtain ⟨raw, given, parsed⟩ := DisplayName.ofProvider?_eq_some.mp usable
    exact unusable raw name given parsed
  rw [nameOf, absent]

end SignIn

namespace DisplayName

/-- A text is read as a name exactly if its normal form is usable when it is trimmed; the name is
that text and is read as itself. Whoever signs in through a provider has a name that is read as
itself: the one that was given, if it can be read, and random bytes otherwise. -/
theorem names_keep_form :
    (∀ raw, ((∃ name, parse raw = .ok name) ↔ IsUsable (Text.trim (Text.nfkc raw))) ∧
      ∀ name, parse raw = .ok name →
        name.text = Text.trim (Text.nfkc raw) ∧ parse name.text = .ok name) ∧
    ∀ (user : ProviderUser) (answer : (request : Service.Request) → Service.Reply request),
      (answer (.random randomLength)).length = randomLength →
        ∃ name, Dialogue.runIn (m := Id) answer (SignIn.nameOf user) = .ok name ∧
          parse name.text = .ok name ∧
          (∀ raw given, user.name = some raw → parse raw = .ok given → name = given) ∧
          ((∀ raw given, user.name = some raw → parse raw ≠ .ok given) →
            name = generated (Secret.text (answer (.random randomLength)))) := by
  constructor
  · intro raw
    exact ⟨exists_parse_iff, fun name parsed => ⟨(parse_eq_ok.mp parsed).1, parse_text parsed⟩⟩
  · intro user answer drawn
    by_cases usable : ∃ raw name, user.name = some raw ∧ parse raw = .ok name
    · obtain ⟨raw, name, given, parsed⟩ := usable
      refine ⟨name, ?_, parse_text parsed, ?_, ?_⟩
      · rw [SignIn.nameOf_of_parse given parsed]
        rfl
      · intro other read isOther readOther
        cases Option.some.inj (given.symm.trans isOther)
        exact Except.ok.inj (parsed.symm.trans readOther)
      · intro unusable
        exact absurd parsed (unusable raw name given)
    · have unusable : ∀ raw name, user.name = some raw → parse raw ≠ .ok name :=
        fun raw name given parsed => usable ⟨raw, name, given, parsed⟩
      have given : answer (.random randomLength) ≠ [] := by
        apply List.ne_nil_of_length_pos
        rw [drawn]
        decide
      have secret := Secret.ofBytes_of_ne_nil given
      refine ⟨generated (Secret.text (answer (.random randomLength))), ?_, parse_generated drawn, ?_,
        ?_⟩
      · rw [SignIn.nameOf_of_unusable unusable]
        change Dialogue.runIn (m := Id) answer
          (ExceptT.bindCont (fun secret => (pure (generated secret) : Procedure DisplayName))
            ((Secret.ofBytes (answer (.random randomLength))).mapError Secret.Fault.failure)) = _
        rw [secret]
        rfl
      · intro raw name given parsed
        exact absurd parsed (unusable raw name given)
      · intro _unusable
        rfl

def zeros : (request : Service.Request) → Service.Reply request
  | .random count => List.replicate count 0
  | .clock => Time.Instant.epoch
  | .findAccount _ | .createAccount _ | .createAccountWith _ _ | .writeLock _ | .findAttempts _
  | .writeAttempts _ | .hash _ | .verify _ _ | .sign _ | .readToken _ _ | .exchange _ =>
      .error .providerMissing

/-- A name with a ligature, an accent of its own and wide spaces around it is composed and trimmed;
in place of a name of nothing but spaces, random bytes are shown. -/
theorem names_keep_form_composed :
    parse "\u3000ﬁance\u0301e\u00A0" = .ok ⟨"fiancée"⟩ ∧ parse "fiancée" = .ok ⟨"fiancée"⟩ ∧
      ∃ name,
        Dialogue.runIn (m := Id) zeros (SignIn.nameOf { name := some "\u3000\u00A0" }) = .ok name ∧
          name.text = "user_AAAAAAAAAAAAAAAAAAAAAA" ∧ parse name.text = .ok name := by
  obtain ⟨read, provided⟩ := names_keep_form
  have composed : Text.trim (Text.nfkc "\u3000ﬁance\u0301e\u00A0") = "fiancée" := by
    rw [Text.nfkc_of_inOrder (by decide +kernel)]
    decide +kernel
  have spaces : Text.trim (Text.nfkc "\u3000\u00A0") = "" := by
    rw [Text.nfkc_of_inOrder (by decide +kernel)]
    decide +kernel
  have printable : "fiancée".toList.any Text.isControl = false := by decide
  have usable : IsUsable "fiancée" := ⟨by decide, by decide, by simpa using printable⟩
  obtain ⟨accepted, same⟩ := read "\u3000ﬁance\u0301e\u00A0"
  obtain ⟨name, parsed⟩ := accepted.mpr (composed ▸ usable)
  obtain ⟨trimmed, again⟩ := same name parsed
  have shown : name = ⟨"fiancée"⟩ := congrArg DisplayName.mk (trimmed.trans composed)
  subst shown
  refine ⟨parsed, again, ?_⟩
  obtain ⟨given, ran, accepted, _kept, generated⟩ :=
    provided { name := some "\u3000\u00A0" } zeros (by decide)
  refine ⟨given, ran, ?_, accepted⟩
  rw [generated ?_]
  · decide
  · rintro raw name ⟨⟩ parsed
    have usable := (read _).1.mp ⟨name, parsed⟩
    rw [spaces] at usable
    exact absurd usable.nonempty (by decide)

end DisplayName

end Latchkey

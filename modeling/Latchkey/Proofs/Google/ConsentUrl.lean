/-
The URL of the consent page. Its query reads back as the parameters that went into it, so
the provider gets the client, the place to come back to and the state as they are. No text
breaks out of its field, and nothing in the URL needs to be written otherwise to be sent.
-/

import Latchkey.Google.Credentials
import Latchkey.Proofs.Text.Percent

namespace Latchkey.Google.Credentials

open Text.Percent (IsComponentChar cutAt decodeComponent decodeForm encodeComponent)
open Text.Utf8 (encode)

theorem encodeComponent_consentParameters (credentials : Credentials) (state : String) :
    ∀ parameter ∈ credentials.consentParameters state,
      encodeComponent parameter.1 = parameter.1 := by
  simp only [consentParameters, List.forall_mem_cons]
  decide +kernel

theorem cutAt_consentUrl (credentials : Credentials) (state : String) :
    (cutAt 0x3F (encode (credentials.consentUrl state))).2 =
      encode ("&".intercalate ((credentials.consentParameters state).map
        fun parameter => parameter.1 ++ "=" ++ encodeComponent parameter.2)) := by
  have front : 0x3F ∉ encode consentPage := by decide +kernel
  have sign : encode "?" = [0x3F] := by decide
  rw [consentUrl, Text.Utf8.encode_append, Text.Utf8.encode_append, sign, List.append_assoc,
    List.singleton_append, Text.Percent.cutAt_of_notMem front]

theorem decodeForm_consentUrl (credentials : Credentials) (state : String) :
    decodeForm (cutAt 0x3F (encode (credentials.consentUrl state))).2 =
      credentials.consentParameters state := by
  rw [cutAt_consentUrl]
  exact Text.Percent.decodeForm_query (encodeComponent_consentParameters credentials state)

def readParameter? (piece : List Char) : Option (String × String) :=
  match piece.span (· != '=') with
  | (_, []) => none
  | (name, _ :: value) => do
      pure (← decodeComponent (String.ofList name), ← decodeComponent (String.ofList value))

/-- The parameters that follow the first question mark of a URL, with ampersands between them. -/
def parametersOf? (url : String) : Option (List (String × String)) :=
  match url.toList.span (· != '?') with
  | (_, []) => none
  | (_, _ :: query) => (query.splitOn '&').mapM readParameter?

section Parameters

variable {credentials : Credentials} {state : String} {parameter : String × String} {char : Char}

def written (parameter : String × String) : List Char :=
  (parameter.1 ++ "=" ++ encodeComponent parameter.2).toList

theorem toList_consentUrl (credentials : Credentials) (state : String) :
    (credentials.consentUrl state).toList = consentPage.toList ++ '?' ::
      ['&'].intercalate ((credentials.consentParameters state).map written) := by
  have sign : "?".toList = ['?'] := rfl
  have mark : "&".toList = ['&'] := rfl
  rw [consentUrl, String.toList_append, String.toList_append, String.toList_intercalate, sign, mark,
    List.map_map, List.append_assoc, List.singleton_append]
  rfl

theorem mem_written (among : parameter ∈ credentials.consentParameters state)
    (member : char ∈ written parameter) : IsComponentChar char ∨ char = '=' := by
  have sign : "=".toList = ['='] := rfl
  have name := encodeComponent_consentParameters credentials state parameter among
  rw [written, String.toList_append, String.toList_append, sign, List.mem_append, List.mem_append,
    List.mem_singleton, ← name] at member
  rcases member with (inName | same) | inValue
  · exact Or.inl (Text.Percent.isComponentChar_of_mem inName)
  · exact Or.inr same
  · exact Or.inl (Text.Percent.isComponentChar_of_mem inValue)

theorem readParameter?_written (among : parameter ∈ credentials.consentParameters state) :
    readParameter? (written parameter) = some parameter := by
  have sign : "=".toList = ['='] := rfl
  have name := encodeComponent_consentParameters credentials state parameter among
  have noSign : '=' ∉ (encodeComponent parameter.1).toList := by
    intro member
    have component := Text.Percent.isComponentChar_of_mem member
    revert component
    decide
  have nameRead := Text.Percent.decodeComponent_encodeComponent parameter.1
  rw [name] at noSign nameRead
  rw [readParameter?, written, String.toList_append, String.toList_append, sign, List.append_assoc,
    List.singleton_append, Text.span_ne_of_notMem noSign]
  simp only [String.ofList_toList, nameRead, Text.Percent.decodeComponent_encodeComponent,
    Option.bind_eq_bind, Option.bind_some, Option.pure_def]

private theorem mapM_readParameter? {parameters : List (String × String)}
    (back : ∀ parameter ∈ parameters, readParameter? (written parameter) = some parameter) :
    (parameters.map written).mapM readParameter? = some parameters := by
  induction parameters with
  | nil => rfl
  | cons parameter parameters ih =>
      obtain ⟨first, later⟩ := List.forall_mem_cons.mp back
      rw [List.map_cons, List.mapM_cons, first, ih later]
      rfl

theorem parametersOf?_consentUrl (credentials : Credentials) (state : String) :
    parametersOf? (credentials.consentUrl state) = some (credentials.consentParameters state) := by
  have front : '?' ∉ consentPage.toList := by decide
  have noMark : ∀ piece ∈ (credentials.consentParameters state).map written, '&' ∉ piece := by
    intro piece member marked
    obtain ⟨parameter, among, rfl⟩ := List.mem_map.mp member
    have shown := mem_written among marked
    revert shown
    decide
  rw [parametersOf?, toList_consentUrl, Text.span_ne_of_notMem front]
  dsimp only
  rw [List.splitOn_intercalate _ noMark (List.cons_ne_nil _ _)]
  exact mapM_readParameter? fun _parameter among => readParameter?_written among

theorem visible_consentUrl (member : char ∈ (credentials.consentUrl state).toList) :
    '!' ≤ char ∧ char ≤ '~' ∧ char ≠ '#' := by
  have page : consentPage.toList.all (fun char => '!' ≤ char ∧ char ≤ '~' ∧ char ≠ '#') = true := by
    decide
  rw [toList_consentUrl, List.mem_append, List.mem_cons] at member
  rcases member with inPage | rfl | inQuery
  · exact of_decide_eq_true (List.all_eq_true.mp page char inPage)
  · decide
  · rcases Text.mem_part_of_mem_intercalate inQuery with rfl | ⟨piece, member, within⟩
    · decide
    · obtain ⟨parameter, among, rfl⟩ := List.mem_map.mp member
      rcases mem_written among within with component | rfl
      · refine ⟨component.visible.1, component.visible.2, ?_⟩
        rintro rfl
        revert component
        decide
      · decide

/-- The URL carries its parameters and nothing else, whatever texts go into them: they come out
again in their order, and two states never share a URL. -/
theorem consentUrl_carries (credentials : Credentials) (state : String) :
    parametersOf? (credentials.consentUrl state) = some [
      ("client_id", credentials.clientId),
      ("redirect_uri", credentials.redirectUrl),
      ("response_type", "code"),
      ("scope", "openid email profile"),
      ("state", state),
      ("access_type", "offline")] ∧
    (∀ char ∈ (credentials.consentUrl state).toList, '!' ≤ char ∧ char ≤ '~' ∧ char ≠ '#') ∧
    ∀ other, credentials.consentUrl state = credentials.consentUrl other → state = other := by
  refine ⟨parametersOf?_consentUrl credentials state, fun _char => visible_consentUrl, ?_⟩
  intro other same
  have parameters := parametersOf?_consentUrl credentials state
  rw [same, parametersOf?_consentUrl] at parameters
  simpa [consentParameters, eq_comm] using parameters

end Parameters

end Latchkey.Google.Credentials

/-
Records read back. The reader of a record finds, in a written object whose names differ,
exactly the members that have a declared field, in their order, if each of these is read off
its written form by the reader of its field and each other member is skipped.
-/

import Latchkey.Json.Record
import Latchkey.Proofs.Json.Number
import Latchkey.Proofs.Json.Text

namespace Latchkey.Json

open Text.Utf8 (encodeChars encodeChars_append)

/-- Whether a reader takes a value off its written form, where the member ends behind it. -/
def Reads (reader : Reader Value) (value : Value) : Prop :=
  ∀ rest, EndsMember rest → reader (encodeChars value.chars ++ rest) = .ok (value, rest)

def IsSkipped (value : Value) : Prop :=
  ∀ rest, EndsMember rest → skipValue (encodeChars value.chars ++ rest) = .ok rest

theorem encodeChars_quotedChars (text : String) (rest : List UInt8) :
    encodeChars (quotedChars text) ++ rest =
      0x22 :: (encodeChars (text.toList.flatMap escapeChar) ++ 0x22 :: rest) := by
  rw [quotedChars, encodeChars_append, List.append_assoc]
  rfl

theorem textField_quotedChars (text : String) (rest : List UInt8) :
    textField (encodeChars (quotedChars text) ++ rest) = .ok (.text text, rest) := by
  rw [encodeChars_quotedChars]
  simp [textField, skipBlanks, isBlankByte, readStringBody_escaped, bind, Except.bind, pure,
    Except.pure]

theorem reads_textField (text : String) : Reads textField (.text text) := by
  intro rest _ended
  rw [Value.chars]
  exact textField_quotedChars text rest

theorem reads_optionalField {present : Reader Value} {text : String}
    (reads : Reads present (.text text)) : Reads (optionalField present) (.text text) := by
  intro rest ended
  have read := reads rest ended
  rw [Value.chars, encodeChars_quotedChars] at read ⊢
  simpa [optionalField, skipBlanks, isBlankByte] using read

theorem reads_readValue_text (depth : Nat) (text : String) :
    Reads (readValue (depth + 1)) (.text text) := by
  intro rest _ended
  rw [Value.chars, encodeChars_quotedChars]
  simp [readValue, readScalar, skipBlanks, isBlankByte, readStringBody_escaped, bind, Except.bind,
    pure, Except.pure]

theorem chars_whole (number : Nat) :
    (Value.number (.whole number)).chars = Nat.toDigits 10 number := by
  rw [Value.chars, Number.chars]
  exact Nat.toList_repr

theorem reads_readValue_whole (depth : Nat) {number : Nat} (small : number < wordBound) :
    Reads (readValue (depth + 1)) (.number (.whole number)) := by
  intro rest ended
  have read := readNumber_toDigits small ended.endsNumber
  obtain ⟨lead, more, written, digit⟩ := exists_lead_digit number
  have other := ne_of_beginsNumber (Or.inr digit)
  simp only [List.forall_mem_cons] at other
  rw [chars_whole]
  rw [written, List.cons_append] at read ⊢
  simp [readValue, readScalar, skipBlanks, isBlankByte, other, digit, read, bind, Except.bind,
    pure, Except.pure]

theorem isSkipped_whole (number : Nat) : IsSkipped (.number (.whole number)) := by
  intro rest ended
  have read := readNumberText_toDigits number ended.endsNumber
  obtain ⟨lead, more, written, digit⟩ := exists_lead_digit number
  have other := ne_of_beginsNumber (Or.inr digit)
  simp only [List.forall_mem_cons] at other
  rw [chars_whole]
  rw [written, List.cons_append] at read ⊢
  simp [skipValue, skipInside, skipAfter, skipScalar, skipBlanks, isBlankByte, other, digit, read,
    bind, Except.bind, Except.map, Nat.mul_add]

def memberChars (member : String × Value) : List Char :=
  quotedChars member.1 ++ ':' :: member.2.chars

def laterChars (members : List (String × Value)) : List Char :=
  members.flatMap fun member => ',' :: memberChars member

theorem fieldsChars_cons (member : String × Value) (later : List (String × Value)) :
    fieldsChars (member :: later) = memberChars member ++ laterChars later := by
  induction later generalizing member with
  | nil => simp [fieldsChars, memberChars, laterChars]
  | cons next later ih => simp [fieldsChars, memberChars, laterChars, ih]

theorem encodeChars_memberChars (member : String × Value) (rest : List UInt8) :
    encodeChars (memberChars member) ++ rest =
      0x22 :: (encodeChars (member.1.toList.flatMap escapeChar) ++
        0x22 :: 0x3A :: (encodeChars member.2.chars ++ rest)) := by
  rw [memberChars, encodeChars_append, List.append_assoc, encodeChars_quotedChars]
  rfl

theorem encodeChars_laterChars_cons (member : String × Value) (later : List (String × Value))
    (rest : List UInt8) :
    encodeChars (laterChars (member :: later)) ++ rest =
      0x2C :: (encodeChars (memberChars member) ++ (encodeChars (laterChars later) ++ rest)) := by
  rw [laterChars, List.flatMap_cons, encodeChars_append, List.append_assoc]
  rfl

theorem endsMember_laterChars (later : List (String × Value)) (rest : List UInt8) :
    EndsMember (encodeChars (laterChars later) ++ 0x7D :: rest) := by
  cases later with
  | nil => exact EndsMember.brace rest
  | cons member later =>
      rw [encodeChars_laterChars_cons]
      exact EndsMember.comma _

/-- Whether a member is read as its field is declared, or skipped if no field has its name. -/
def Fits (fields : Fields) (member : String × Value) : Prop :=
  match fields.lookup member.1 with
  | some reader => Reads reader member.2
  | none => IsSkipped member.2

theorem Fits.declared {fields : Fields} {name : String} {reader : Reader Value} {value : Value}
    (declared : fields.lookup name = some reader) (reads : Reads reader value) :
    Fits fields (name, value) := by
  unfold Fits
  rw [declared]
  exact reads

theorem Fits.undeclared {fields : Fields} {name : String} {value : Value}
    (undeclared : fields.lookup name = none) (skipped : IsSkipped value) :
    Fits fields (name, value) := by
  unfold Fits
  rw [undeclared]
  exact skipped

/-- The members with declared fields. -/
def known (fields : Fields) (members : List (String × Value)) : List (String × Value) :=
  members.filter fun member => (fields.lookup member.1).isSome

section Members

variable {fields : Fields} {found members : List (String × Value)}

theorem readFields_brace (fields : Fields) (found : List (String × Value)) (first : Bool)
    (fuel : Nat) (rest : List UInt8) :
    readFields fields found first (fuel + 1) (0x7D :: rest) = .ok (found.reverse, rest) := by
  rfl

theorem nextName_first (bytes : List UInt8) : nextName true (0x22 :: bytes) = .ok (true, bytes) :=
  rfl

theorem nextName_later (bytes : List UInt8) :
    nextName false (0x2C :: 0x22 :: bytes) = .ok (true, bytes) :=
  rfl

private theorem areNew_later {member : String × Value}
    (distinct : ((member :: members).map (·.1)).Nodup)
    (areNew : ∀ other ∈ members, found.lookup other.1 = none) :
    ∀ other ∈ members, ((known fields [member]).reverse ++ found).lookup other.1 = none := by
  intro other among
  rw [List.map_cons, List.nodup_cons] at distinct
  rw [List.lookup_eq_none_iff]
  intro earlier inEither
  rcases List.mem_append.mp inEither with inKnown | inFound
  · have own : earlier = member :=
      List.mem_singleton.mp (List.mem_filter.mp (List.mem_reverse.mp inKnown)).1
    rw [own, bne_iff_ne]
    intro same
    exact distinct.1 (List.mem_map.mpr ⟨other, among, same⟩)
  · exact List.lookup_eq_none_iff.mp (areNew other among) earlier inFound

private theorem reverse_known_append (member : String × Value) :
    ((known fields [member]).reverse ++ found).reverse ++ known fields members =
      found.reverse ++ known fields (member :: members) := by
  have split : known fields (member :: members) = known fields [member] ++ known fields members :=
    List.filter_append [member] members
  rw [split, List.reverse_append, List.reverse_reverse, List.append_assoc]

theorem readFields_member {first : Bool} {bytes rest : List UInt8} {member : String × Value}
    (fits : Fits fields member) (isNew : found.lookup member.1 = none) (ended : EndsMember rest)
    (opened : nextName first bytes = .ok (true,
      encodeChars (member.1.toList.flatMap escapeChar) ++
        0x22 :: 0x3A :: (encodeChars member.2.chars ++ rest)))
    (fuel : Nat) :
    readFields fields found first (fuel + 1) bytes =
      readFields fields ((known fields [member]).reverse ++ found) false fuel rest := by
  obtain ⟨name, value⟩ := member
  have named := readStringBody_escaped name (0x3A :: (encodeChars value.chars ++ rest))
  have colon : readFields.readColon (0x3A :: (encodeChars value.chars ++ rest)) =
      .ok (encodeChars value.chars ++ rest) := rfl
  unfold Fits at fits
  cases declared : fields.lookup name with
  | none =>
      rw [declared] at fits
      have read := fits rest ended
      simp [readFields, readFields.readNameText, opened, named, declared, colon, read, known, bind,
        Except.bind]
  | some reader =>
      rw [declared] at fits
      have read := fits rest ended
      simp [readFields, readFields.readNameText, opened, named, declared, colon, read, known, bind,
        Except.bind, isNew]

theorem readFields_later (fits : ∀ member ∈ members, Fits fields member)
    (distinct : (members.map (·.1)).Nodup)
    (areNew : ∀ member ∈ members, found.lookup member.1 = none) {fuel : Nat}
    (enough : members.length < fuel) (rest : List UInt8) :
    readFields fields found false fuel (encodeChars (laterChars members) ++ 0x7D :: rest) =
      .ok (found.reverse ++ known fields members, rest) := by
  induction members generalizing found fuel with
  | nil =>
      obtain ⟨fuel, rfl⟩ : ∃ less, fuel = less + 1 := ⟨fuel - 1, by omega⟩
      rw [known, List.filter_nil, List.append_nil]
      exact readFields_brace fields found false fuel rest
  | cons member members ih =>
      obtain ⟨fuel, rfl⟩ : ∃ less, fuel = less + 1 := ⟨fuel - 1, by omega⟩
      have namesLater : (members.map (·.1)).Nodup := (List.nodup_cons.mp distinct).2
      have foundLater : ∀ other ∈ members, found.lookup other.1 = none :=
        fun other among => areNew other (List.mem_cons_of_mem _ among)
      have step := readFields_member (fits member List.mem_cons_self)
        (areNew member List.mem_cons_self) (endsMember_laterChars members rest)
        (nextName_later _) fuel
      rw [encodeChars_laterChars_cons, encodeChars_memberChars, step,
        ih (fun other among => fits other (List.mem_cons_of_mem _ among)) namesLater
          (areNew_later distinct foundLater) (Nat.lt_of_succ_lt_succ enough), reverse_known_append]

theorem readFields_fieldsChars (fits : ∀ member ∈ members, Fits fields member)
    (distinct : (members.map (·.1)).Nodup) {fuel : Nat} (enough : members.length < fuel)
    (rest : List UInt8) :
    readFields fields [] true fuel (encodeChars (fieldsChars members) ++ 0x7D :: rest) =
      .ok (known fields members, rest) := by
  obtain ⟨fuel, rfl⟩ : ∃ less, fuel = less + 1 := ⟨fuel - 1, by omega⟩
  cases members with
  | nil => exact readFields_brace fields [] true fuel rest
  | cons member members =>
      have namesLater : (members.map (·.1)).Nodup := (List.nodup_cons.mp distinct).2
      have step := readFields_member (fits member List.mem_cons_self) List.lookup_nil
        (endsMember_laterChars members rest) (nextName_first _) fuel
      rw [fieldsChars_cons, encodeChars_append, List.append_assoc, encodeChars_memberChars, step,
        readFields_later (fun other among => fits other (List.mem_cons_of_mem _ among)) namesLater
          (areNew_later distinct fun _other _among => List.lookup_nil)
          (Nat.lt_of_succ_lt_succ enough), reverse_known_append]
      rfl

private theorem length_le_laterChars (members : List (String × Value)) :
    members.length ≤ (encodeChars (laterChars members)).length := by
  induction members with
  | nil => exact Nat.zero_le _
  | cons member members ih =>
      have written := encodeChars_laterChars_cons member members []
      rw [List.append_nil, List.append_nil] at written
      rw [written, List.length_cons, List.length_cons, List.length_append]
      omega

theorem length_le_fieldsChars (members : List (String × Value)) :
    members.length ≤ (encodeChars (fieldsChars members)).length := by
  cases members with
  | nil => exact Nat.zero_le _
  | cons member members =>
      have later := length_le_laterChars members
      rw [fieldsChars_cons, encodeChars_append, encodeChars_memberChars, List.length_cons,
        List.length_cons]
      simp only [List.length_append, List.length_cons]
      omega

/-- What is found in a written record: the members with declared fields, in their order. -/
theorem readRecord_written (fits : ∀ member ∈ members, Fits fields member)
    (distinct : (members.map (·.1)).Nodup) {required : List String}
    (complete : ∀ name ∈ required, ((known fields members).lookup name).isSome = true) :
    readAll (readRecord fields required) (encodeChars (Value.object members).chars) =
      .ok (known fields members) := by
  have written : encodeChars (Value.object members).chars =
      0x7B :: (encodeChars (fieldsChars members) ++ [0x7D]) := by
    rw [Value.chars, List.cons_append, Text.Utf8.encodeChars_cons, encodeChars_append]
    rfl
  have enough : members.length < (encodeChars (fieldsChars members)).length + 1 + 1 := by
    have bound := length_le_fieldsChars members
    omega
  have read := readFields_fieldsChars fits distinct enough []
  have all : required.all (fun name => ((known fields members).lookup name).isSome) = true :=
    List.all_eq_true.mpr complete
  rw [written]
  simp [readAll, readRecord, readRecord.complete, skipBlanks, isBlankByte, read, all, bind,
    Except.bind]

end Members

end Latchkey.Json

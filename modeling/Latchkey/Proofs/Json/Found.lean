/-
What readers of records find. No name is found twice, and what stands under a name was read
by the reader that is declared for it, whether the record was written as an object or as a
list.
-/

import Mathlib.Data.List.Nodup
import Latchkey.Json.Record
import Latchkey.Proofs.Result

namespace Latchkey.Json

open Result (bind_eq_ok)

def CanRead (reader : Reader Value) (value : Value) : Prop :=
  ∃ bytes rest, reader bytes = .ok (value, rest)

/-- Whether fields with different names were each read as declared. -/
structure AreFound (fields : Fields) (found : List (String × Value)) : Prop where
  distinct : (found.map (·.1)).Nodup
  declared : ∀ member ∈ found, ∃ reader, fields.lookup member.1 = some reader ∧
    CanRead reader member.2

section Fields

variable {fields : Fields} {found result : List (String × Value)} {bytes rest : List UInt8}

theorem AreFound.nil (fields : Fields) : AreFound fields [] where
  distinct := List.nodup_nil
  declared := by simp

theorem AreFound.reverse (areFound : AreFound fields found) : AreFound fields found.reverse where
  distinct := by
    rw [List.map_reverse]
    exact List.nodup_reverse.mpr areFound.distinct
  declared := fun member among => areFound.declared member (List.mem_reverse.mp among)

theorem AreFound.cons {name : String} {value : Value} {reader : Reader Value}
    (areFound : AreFound fields found) (isNew : found.lookup name = none)
    (declared : fields.lookup name = some reader) (canRead : CanRead reader value) :
    AreFound fields ((name, value) :: found) where
  distinct := by
    rw [List.map_cons, List.nodup_cons]
    refine ⟨fun among => ?_, areFound.distinct⟩
    obtain ⟨member, inFound, same⟩ := List.mem_map.mp among
    have different := List.lookup_eq_none_iff.mp isNew member inFound
    rw [bne_iff_ne] at different
    exact different same.symm
  declared := by
    rw [List.forall_mem_cons]
    exact ⟨⟨reader, declared, canRead⟩, areFound.declared⟩

theorem mem_of_lookup {name : String} {value : Value} (there : found.lookup name = some value) :
    (name, value) ∈ found := by
  obtain ⟨before, after, rfl, _first⟩ := List.lookup_eq_some_iff.mp there
  exact List.mem_append_right before List.mem_cons_self

theorem lookup_of_mem {α : Type} {members : List (String × α)} {name : String} {value : α}
    (distinct : (members.map (·.1)).Nodup) (member : (name, value) ∈ members) :
    members.lookup name = some value := by
  obtain ⟨before, after, rfl⟩ := List.append_of_mem member
  refine List.lookup_eq_some_iff.mpr ⟨before, after, rfl, fun earlier among => ?_⟩
  rw [bne_iff_ne]
  intro same
  rw [List.map_append, List.nodup_append] at distinct
  exact distinct.2.2 earlier.1 (List.mem_map_of_mem among) name
    (List.mem_map_of_mem List.mem_cons_self) same.symm

theorem AreFound.canRead (areFound : AreFound fields found) {name : String} {reader : Reader Value}
    {value : Value} (declared : fields.lookup name = some reader)
    (there : found.lookup name = some value) : CanRead reader value := by
  obtain ⟨other, alsoDeclared, canRead⟩ := areFound.declared _ (mem_of_lookup there)
  rw [declared] at alsoDeclared
  cases alsoDeclared
  exact canRead

/-- How the members of an object are collected; what no field is declared for leaves no trace. -/
inductive Collects (fields : Fields) : (found result : List (String × Value)) → Prop
  | ended (found : List (String × Value)) : Collects fields found found.reverse
  | read {found result : List (String × Value)} {name : String} {reader : Reader Value}
      {value : Value} :
      found.lookup name = none → fields.lookup name = some reader → CanRead reader value →
      Collects fields ((name, value) :: found) result → Collects fields found result

theorem collects_of_readFields {first : Bool} {fuel : Nat}
    (read : readFields fields found first fuel bytes = .ok (result, rest)) :
    Collects fields found result := by
  induction fuel generalizing found first bytes with
  | zero => cases read
  | succ fuel ih =>
      obtain ⟨⟨more, afterOpening⟩, _opened, read⟩ := bind_eq_ok read
      cases more with
      | false =>
          cases read
          exact .ended found
      | true =>
          obtain ⟨⟨name, afterName⟩, _named, read⟩ := bind_eq_ok read
          cases declared : fields.lookup name with
          | none =>
              simp only [declared] at read
              obtain ⟨afterColon, _colon, read⟩ := bind_eq_ok read
              obtain ⟨afterValue, _skipped, read⟩ := bind_eq_ok read
              exact ih read
          | some reader =>
              simp only [declared] at read
              split at read
              case isTrue => cases read
              case isFalse isNew =>
                obtain ⟨afterColon, _colon, read⟩ := bind_eq_ok read
                obtain ⟨⟨value, afterValue⟩, canRead, read⟩ := bind_eq_ok read
                have absent : found.lookup name = none := Option.not_isSome_iff_eq_none.mp isNew
                exact .read absent declared ⟨_, _, canRead⟩ (ih read)

theorem Collects.areFound (collects : Collects fields found result)
    (areFound : AreFound fields found) : AreFound fields result := by
  induction collects with
  | ended found => exact areFound.reverse
  | read isNew declared canRead _later ih => exact ih (areFound.cons isNew declared canRead)

theorem Collects.subset (collects : Collects fields found result) : found ⊆ result := by
  induction collects with
  | ended found => exact fun member among => List.mem_reverse.mpr among
  | read _isNew _declared _canRead _later ih =>
      exact fun member among => ih (List.mem_cons_of_mem _ among)

/-- Whether fields were read one after the other as declared, some of them being left out. -/
structure AreInOrder (fields : Fields) (found : List (String × Value)) : Prop where
  names : (found.map (·.1)).Sublist (fields.map (·.1))
  declared : ∀ member ∈ found, ∃ reader, (member.1, reader) ∈ fields ∧ CanRead reader member.2

theorem AreInOrder.nil (fields : Fields) : AreInOrder fields [] where
  names := List.nil_sublist _
  declared := by simp

theorem AreInOrder.cons {reader : Reader Value} {value : Value}
    (areInOrder : AreInOrder fields found) (name : String) (canRead : CanRead reader value) :
    AreInOrder ((name, reader) :: fields) ((name, value) :: found) where
  names := areInOrder.names.cons_cons name
  declared := by
    rw [List.forall_mem_cons]
    refine ⟨⟨reader, List.mem_cons_self, canRead⟩, fun member among => ?_⟩
    obtain ⟨other, within, otherRead⟩ := areInOrder.declared member among
    exact ⟨other, List.mem_cons_of_mem _ within, otherRead⟩

theorem AreInOrder.areFound (areInOrder : AreInOrder fields found)
    (distinct : (fields.map (·.1)).Nodup) : AreFound fields found where
  distinct := areInOrder.names.nodup distinct
  declared := fun member among => by
    obtain ⟨reader, within, canRead⟩ := areInOrder.declared member among
    exact ⟨reader, lookup_of_mem distinct within, canRead⟩

theorem readPositions_areInOrder {first : Bool}
    (read : readPositions first fields bytes = .ok (found, rest)) : AreInOrder fields found := by
  induction fields generalizing first bytes found rest with
  | nil =>
      unfold readPositions at read
      split at read
      · cases read
        exact AreInOrder.nil []
      · cases read
  | cons field fields ih =>
      obtain ⟨name, reader⟩ := field
      -- both branches that read an item go on alike
      have item : ∀ {start : List UInt8}, (do
          let own ← reader start
          let later ← readPositions false fields own.2
          pure ((name, own.1) :: later.1, later.2) : Except Fault _) = .ok (found, rest) →
          AreInOrder ((name, reader) :: fields) found := by
        intro start read
        obtain ⟨⟨value, afterValue⟩, canRead, read⟩ := bind_eq_ok read
        obtain ⟨⟨later, afterLater⟩, laterRead, read⟩ := bind_eq_ok read
        cases read
        exact (ih laterRead).cons name ⟨_, _, canRead⟩
      unfold readPositions at read
      split at read
      · cases read
        exact AreInOrder.nil _
      · split at read
        · cases read
        · split at read
          · cases read
          · exact item read
      · split at read
        · exact item read
        · cases read

theorem refuse_ne_ok {α : Type} {lead : UInt8} {value : α} :
    refuse lead bytes ≠ .ok value := by
  unfold refuse
  split
  · simp
  · split <;> simp

private theorem complete_eq_ok {required : List String} {after : List UInt8}
    (complete : readRecord.complete required found rest = .ok (result, after)) :
    found = result ∧ ∀ name ∈ required, (result.lookup name).isSome = true := by
  unfold readRecord.complete at complete
  split at complete
  case isTrue all =>
    cases complete
    exact ⟨rfl, List.all_eq_true.mp all⟩
  case isFalse => cases complete

/-- What a record holds, however it is written. -/
theorem readRecord_areFound {required : List String} (distinct : (fields.map (·.1)).Nodup)
    (whole : readAll (readRecord fields required) bytes = .ok found) :
    AreFound fields found ∧ ∀ name ∈ required, (found.lookup name).isSome = true := by
  obtain ⟨⟨result, rest⟩, read, ended⟩ := bind_eq_ok whole
  have same : result = found := by
    dsimp only at ended
    split at ended <;> cases ended
    rfl
  subst same
  unfold readRecord at read
  split at read
  · cases read
  · split at read
    · obtain ⟨⟨members, afterMembers⟩, membersRead, read⟩ := bind_eq_ok read
      obtain ⟨rfl, all⟩ := complete_eq_ok read
      exact ⟨(collects_of_readFields membersRead).areFound (AreFound.nil fields), all⟩
    · split at read
      · obtain ⟨⟨items, afterItems⟩, itemsRead, read⟩ := bind_eq_ok read
        obtain ⟨rfl, all⟩ := complete_eq_ok read
        exact ⟨(readPositions_areInOrder itemsRead).areFound distinct, all⟩
      · exact absurd read refuse_ne_ok

private theorem readRecord_unrequired {required : List String}
    (read : readRecord fields required bytes = .ok (found, rest)) :
    readRecord fields [] bytes = .ok (found, rest) := by
  have loosen : ∀ {members after}, readRecord.complete required members after = .ok (found, rest) →
      readRecord.complete [] members after = .ok (found, rest) := by
    intro members after complete
    unfold readRecord.complete at complete
    split at complete <;> cases complete
    rfl
  unfold readRecord at read ⊢
  split at read
  · cases read
  · split at read
    case isTrue brace =>
      obtain ⟨⟨members, after⟩, membersRead, complete⟩ := bind_eq_ok read
      rw [if_pos brace, membersRead]
      exact loosen complete
    case isFalse noBrace =>
      split at read
      case isTrue bracket =>
        obtain ⟨⟨items, after⟩, itemsRead, complete⟩ := bind_eq_ok read
        rw [if_neg noBrace, if_pos bracket, itemsRead]
        exact loosen complete
      case isFalse => exact absurd read refuse_ne_ok

theorem readAll_unrequired {required : List String}
    (whole : readAll (readRecord fields required) bytes = .ok found) :
    readAll (readRecord fields []) bytes = .ok found := by
  obtain ⟨⟨result, rest⟩, read, ended⟩ := bind_eq_ok whole
  unfold readAll
  rw [readRecord_unrequired read]
  exact ended

end Fields

theorem text?_eq_some {value : Value} {text : String} :
    value.text? = some text ↔ value = .text text := by
  cases value <;> simp [Value.text?]

theorem textOf?_eq_some {found : List (String × Value)} {name text : String} :
    textOf? found name = some text ↔ found.lookup name = some (.text text) := by
  simp [textOf?, Option.bind_eq_some_iff, text?_eq_some]

theorem CanRead.text {value : Value} (canRead : CanRead textField value) :
    ∃ text, value = .text text := by
  obtain ⟨bytes, rest, read⟩ := canRead
  unfold textField at read
  split at read
  · cases read
  · split at read
    · obtain ⟨⟨text, after⟩, _textRead, read⟩ := bind_eq_ok read
      cases read
      exact ⟨text, rfl⟩
    · exact absurd read refuse_ne_ok

theorem CanRead.optional {present : Reader Value} {value : Value}
    (canRead : CanRead (optionalField present) value) : value = .null ∨ CanRead present value := by
  obtain ⟨bytes, rest, read⟩ := canRead
  unfold optionalField at read
  split at read
  · cases read
  · split at read
    · obtain ⟨after, _null, read⟩ := bind_eq_ok read
      cases read
      exact Or.inl rfl
    · exact Or.inr ⟨_, rest, read⟩

end Latchkey.Json

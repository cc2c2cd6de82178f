/-
Records of which some fields are read further. A refined field takes what stands in the
record by its plain reader and then makes something else of it, or refuses it. A record with
such fields is read exactly where the plain record is read and all that is found in it can be
converted, so what such a record holds can be told in two steps.
-/

import Mathlib.Data.List.Forall2
import Latchkey.Proofs.Json.Found

namespace Latchkey.Json

open Result (bind_eq_ok)

def refine (convert : Value → Option Value) (reader : Reader Value) : Reader Value :=
  fun bytes => do
    let (value, rest) ← reader bytes
    match convert value with
    | some converted => pure (converted, rest)
    | none => .error .mismatched

def refineAll (convert : String → Value → Option Value) (fields : Fields) : Fields :=
  fields.map fun field => (field.1, refine (convert field.1) field.2)

/-- Whether the one list holds what the other makes of the same fields. -/
def AreConverted (convert : String → Value → Option Value) :
    (found converted : List (String × Value)) → Prop :=
  List.Forall₂ fun member image => image.1 = member.1 ∧ convert member.1 member.2 = some image.2

variable {convert : String → Value → Option Value} {fields : Fields}
  {found converted result image : List (String × Value)} {bytes rest : List UInt8}

theorem refine_eq_ok {convert : Value → Option Value} {reader : Reader Value} {value : Value} :
    refine convert reader bytes = .ok (value, rest) ↔
      ∃ plain, reader bytes = .ok (plain, rest) ∧ convert plain = some value := by
  constructor
  · intro read
    obtain ⟨⟨plain, after⟩, plainRead, read⟩ := bind_eq_ok read
    dsimp only at read
    split at read
    next other convertsTo =>
      cases read
      exact ⟨plain, plainRead, convertsTo⟩
    next => cases read
  · rintro ⟨plain, plainRead, convertsTo⟩
    simp [refine, plainRead, convertsTo, bind, Except.bind, pure, Except.pure]

theorem refine_some (reader : Reader Value) : refine some reader = reader := by
  funext bytes
  unfold refine
  cases reader bytes with
  | error fault => rfl
  | ok read => rfl

theorem lookup_refineAll (convert : String → Value → Option Value) (fields : Fields)
    (name : String) :
    (refineAll convert fields).lookup name = (fields.lookup name).map (refine (convert name)) := by
  induction fields with
  | nil => rfl
  | cons field fields ih =>
      rw [refineAll, List.map_cons, List.lookup_cons, List.lookup_cons]
      cases same : name == field.1 with
      | false => exact ih
      | true =>
          rw [beq_iff_eq] at same
          subst same
          rfl

namespace AreConverted

theorem lookup (areConverted : AreConverted convert found converted) (name : String) :
    converted.lookup name = (found.lookup name).bind (convert name) := by
  induction areConverted with
  | nil => rfl
  | @cons member image found converted convertsTo _ ih =>
      rw [List.lookup_cons, List.lookup_cons, convertsTo.1]
      cases same : name == member.1 with
      | false => exact ih
      | true =>
          rw [beq_iff_eq] at same
          subst same
          exact convertsTo.2.symm

theorem unique {other : List (String × Value)} (areConverted : AreConverted convert found converted)
    (alsoConverted : AreConverted convert found other) : converted = other := by
  refine List.right_unique_forall₂' ?_ areConverted alsoConverted
  rintro member ⟨name, value⟩ ⟨otherName, otherValue⟩ ⟨rfl, convertsTo⟩ ⟨rfl, alsoConvertsTo⟩
  rw [convertsTo] at alsoConvertsTo
  cases alsoConvertsTo
  rfl

theorem convert_of_mem (areConverted : AreConverted convert found converted) {name : String}
    {value : Value} (member : (name, value) ∈ found) :
    ∃ other, convert name value = some other := by
  induction areConverted with
  | nil => cases member
  | cons convertsTo _ ih =>
      rcases List.mem_cons.mp member with rfl | later
      · exact ⟨_, convertsTo.2⟩
      · exact ih later

theorem isSome_lookup (areConverted : AreConverted convert found converted) (name : String) :
    (converted.lookup name).isSome = (found.lookup name).isSome := by
  rw [areConverted.lookup]
  cases there : found.lookup name with
  | none => rfl
  | some value =>
      obtain ⟨other, convertsTo⟩ := areConverted.convert_of_mem (mem_of_lookup there)
      rw [Option.bind_some, convertsTo]
      rfl

end AreConverted

theorem exists_areConverted
    (converts : ∀ member ∈ found, ∃ other, convert member.1 member.2 = some other) :
    ∃ converted, AreConverted convert found converted := by
  induction found with
  | nil => exact ⟨[], List.Forall₂.nil⟩
  | cons member found ih =>
      rw [List.forall_mem_cons] at converts
      obtain ⟨other, convertsTo⟩ := converts.1
      obtain ⟨converted, areConverted⟩ := ih converts.2
      exact ⟨(member.1, other) :: converted, List.Forall₂.cons ⟨rfl, convertsTo⟩ areConverted⟩

/-- Whether a result is good exactly where another is good and has an image, which it gives. -/
def Mirrors {α β : Type} (hasImage : α → β → Prop) (plain : Except Fault α)
    (mirrored : Except Fault β) : Prop :=
  ∀ image, mirrored = .ok image ↔ ∃ value, plain = .ok value ∧ hasImage value image

namespace Mirrors

variable {α β γ δ : Type} {hasImage : α → β → Prop} {laterImage : γ → δ → Prop}
  {plain : Except Fault α} {mirrored : Except Fault β}

theorem fault (fault other : Fault) : Mirrors hasImage (.error fault) (.error other) := by
  simp [Mirrors]

theorem bind {next : α → Except Fault γ} {nextMirrored : β → Except Fault δ}
    (mirrors : Mirrors hasImage plain mirrored)
    (later : ∀ value image, hasImage value image →
      Mirrors laterImage (next value) (nextMirrored image))
    (needed : ∀ value result image, next value = .ok result → laterImage result image →
      ∃ own, hasImage value own) :
    Mirrors laterImage (plain >>= next) (mirrored >>= nextMirrored) := by
  intro last
  constructor
  · intro read
    obtain ⟨image, good, read⟩ := bind_eq_ok read
    obtain ⟨value, plainGood, isImage⟩ := (mirrors image).mp good
    obtain ⟨result, plainRead, isLast⟩ := (later value image isImage last).mp read
    refine ⟨result, ?_, isLast⟩
    rw [plainGood]
    exact plainRead
  · rintro ⟨result, plainRead, isLast⟩
    obtain ⟨value, plainGood, plainRead⟩ := bind_eq_ok plainRead
    obtain ⟨image, isImage⟩ := needed value result last plainRead isLast
    rw [(mirrors image).mpr ⟨value, plainGood, isImage⟩]
    exact (later value image isImage last).mpr ⟨result, plainRead, isLast⟩

theorem after (start : Except Fault γ) {next : γ → Except Fault α}
    {nextMirrored : γ → Except Fault β}
    (later : ∀ value, Mirrors hasImage (next value) (nextMirrored value)) :
    Mirrors hasImage (start >>= next) (start >>= nextMirrored) := by
  cases start with
  | error fault => exact Mirrors.fault fault fault
  | ok value => exact later value

end Mirrors

theorem refine_mirrors (convert : Value → Option Value) (reader : Reader Value)
    (bytes : List UInt8) :
    Mirrors (fun read image => convert read.1 = some image.1 ∧ image.2 = read.2) (reader bytes)
      (refine convert reader bytes) := by
  rintro ⟨value, rest⟩
  rw [refine_eq_ok]
  constructor
  · rintro ⟨plain, plainRead, convertsTo⟩
    exact ⟨(plain, rest), plainRead, convertsTo, rfl⟩
  · rintro ⟨⟨plain, after⟩, plainRead, convertsTo, rfl⟩
    exact ⟨plain, plainRead, convertsTo⟩

def HasImage (convert : String → Value → Option Value)
    (read image : List (String × Value) × List UInt8) : Prop :=
  AreConverted convert read.1 image.1 ∧ image.2 = read.2

theorem AreConverted.mirrors (areConverted : AreConverted convert found converted) :
    Mirrors (AreConverted convert) (.ok found) (.ok converted) := by
  intro image
  constructor
  · rintro ⟨⟩
    exact ⟨found, rfl, areConverted⟩
  · rintro ⟨_, ⟨⟩, imageConverted⟩
    exact congrArg Except.ok (areConverted.unique imageConverted)

theorem AreConverted.mirrors_rest (areConverted : AreConverted convert found converted)
    (rest : List UInt8) :
    Mirrors (HasImage convert) (.ok (found, rest)) (.ok (converted, rest)) := by
  rintro ⟨image, after⟩
  constructor
  · rintro ⟨⟩
    exact ⟨(found, rest), rfl, areConverted, rfl⟩
  · rintro ⟨_, ⟨⟩, imageConverted, sameRest⟩
    rw [areConverted.unique imageConverted, show after = rest from sameRest]

theorem readFields_mirrors {first : Bool} {fuel : Nat}
    (areConverted : AreConverted convert found converted) :
    Mirrors (HasImage convert) (readFields fields found first fuel bytes)
      (readFields (refineAll convert fields) converted first fuel bytes) := by
  induction fuel generalizing found converted first bytes with
  | zero => exact Mirrors.fault _ _
  | succ fuel ih =>
      refine Mirrors.after _ fun (more, afterOpening) => ?_
      cases more with
      | false => exact AreConverted.mirrors_rest (List.rel_reverse areConverted) afterOpening
      | true =>
          refine Mirrors.after _ fun (name, afterName) => ?_
          dsimp only
          rw [lookup_refineAll, areConverted.isSome_lookup]
          cases fields.lookup name with
          | none =>
              refine Mirrors.after _ fun afterColon => Mirrors.after _ fun afterValue => ?_
              exact ih areConverted
          | some reader =>
              dsimp only [Option.map_some]
              split
              case isTrue => exact Mirrors.fault _ _
              case isFalse =>
                refine Mirrors.after _ fun afterColon =>
                  (refine_mirrors (convert name) reader afterColon).bind ?_ ?_
                · rintro ⟨value, _⟩ ⟨image, afterValue⟩ ⟨convertsTo, rfl⟩
                  exact ih (List.Forall₂.cons ⟨rfl, convertsTo⟩ areConverted)
                · -- a field that was read is in the result, so that it has an image as well
                  rintro ⟨value, afterValue⟩ result image read hasImage
                  have kept : (name, value) ∈ result.1 :=
                    (collects_of_readFields read).subset List.mem_cons_self
                  obtain ⟨other, convertsTo⟩ := hasImage.1.convert_of_mem kept
                  exact ⟨(other, afterValue), convertsTo, rfl⟩

theorem refineAll_nil (convert : String → Value → Option Value) : refineAll convert [] = [] := rfl

theorem refineAll_cons (convert : String → Value → Option Value) (name : String)
    (reader : Reader Value) (fields : Fields) :
    refineAll convert ((name, reader) :: fields) =
      (name, refine (convert name) reader) :: refineAll convert fields := rfl

private theorem readItem_mirrors (convert : String → Value → Option Value) (name : String)
    (reader : Reader Value) (fields : Fields)
    (mirrors : ∀ bytes, Mirrors (HasImage convert) (readPositions false fields bytes)
      (readPositions false (refineAll convert fields) bytes)) (start : List UInt8) :
    Mirrors (HasImage convert)
      (do let own ← reader start
          let later ← readPositions false fields own.2
          pure ((name, own.1) :: later.1, later.2))
      (do let own ← refine (convert name) reader start
          let later ← readPositions false (refineAll convert fields) own.2
          pure ((name, own.1) :: later.1, later.2)) := by
  refine (refine_mirrors (convert name) reader start).bind ?_ ?_
  · rintro ⟨value, _⟩ ⟨image, afterValue⟩ ⟨convertsTo, rfl⟩
    refine (mirrors afterValue).bind ?_ ?_
    · rintro ⟨later, _⟩ ⟨laterImage, afterLater⟩ ⟨areConverted, rfl⟩
      have whole : AreConverted convert ((name, value) :: later) ((name, image) :: laterImage) :=
        List.Forall₂.cons ⟨rfl, convertsTo⟩ areConverted
      exact whole.mirrors_rest afterLater
    · rintro ⟨later, afterLater⟩ _ ⟨whole, last⟩ ⟨⟩ ⟨areConverted, _sameRest⟩
      obtain ⟨_own, laterImage, _ownConverts, laterConverted, _isCons⟩ :=
        List.forall₂_cons_left_iff.mp areConverted
      exact ⟨(laterImage, afterLater), laterConverted, rfl⟩
  · rintro ⟨value, afterValue⟩ result image read hasImage
    obtain ⟨later, _laterRead, good⟩ := bind_eq_ok read
    cases good
    obtain ⟨other, convertsTo⟩ := hasImage.1.convert_of_mem List.mem_cons_self
    exact ⟨(other, _), convertsTo, rfl⟩

theorem readPositions_mirrors (convert : String → Value → Option Value) (first : Bool)
    (fields : Fields) (bytes : List UInt8) :
    Mirrors (HasImage convert) (readPositions first fields bytes)
      (readPositions first (refineAll convert fields) bytes) := by
  induction fields generalizing first bytes with
  | nil =>
      rw [refineAll_nil]
      unfold readPositions
      split
      · exact AreConverted.mirrors_rest List.Forall₂.nil _
      · exact Mirrors.fault _ _
  | cons field fields ih =>
      obtain ⟨name, reader⟩ := field
      have item := readItem_mirrors convert name reader fields (ih false)
      rw [refineAll_cons]
      unfold readPositions
      -- both branches that read an item go on alike
      split
      · exact AreConverted.mirrors_rest List.Forall₂.nil _
      · split
        · exact Mirrors.fault _ _
        · split
          · exact Mirrors.fault _ _
          · exact item _
      · split
        · exact item _
        · exact Mirrors.fault _ _

private theorem complete_mirrors {read mirrored : Except Fault (List (String × Value) × List UInt8)}
    (mirrors : Mirrors (HasImage convert) read mirrored) :
    Mirrors (HasImage convert)
      (do let (found, rest) ← read
          readRecord.complete [] found rest)
      (do let (found, rest) ← mirrored
          readRecord.complete [] found rest) := by
  have whole (read : Except Fault (List (String × Value) × List UInt8)) :
      (do let (found, rest) ← read
          readRecord.complete [] found rest) = read := by
    cases read with
    | error fault => rfl
    | ok read => rfl
  rw [whole, whole]
  exact mirrors

theorem readRecord_mirrors (convert : String → Value → Option Value) (fields : Fields)
    (bytes : List UInt8) :
    Mirrors (HasImage convert) (readRecord fields [] bytes)
      (readRecord (refineAll convert fields) [] bytes) := by
  unfold readRecord
  split
  · exact Mirrors.fault _ _
  · split
    · exact complete_mirrors (readFields_mirrors List.Forall₂.nil)
    · split
      · exact complete_mirrors (readPositions_mirrors convert true fields _)
      · cases refused : refuse (α := List (String × Value) × List UInt8) _ _ with
        | error fault => exact Mirrors.fault fault fault
        | ok read => exact absurd refused refuse_ne_ok

/-- A record with refined fields holds what is made of the fields of the plain record. -/
theorem readAll_mirrors (convert : String → Value → Option Value) (fields : Fields)
    (bytes : List UInt8) :
    Mirrors (AreConverted convert) (readAll (readRecord fields []) bytes)
      (readAll (readRecord (refineAll convert fields) []) bytes) := by
  refine (readRecord_mirrors convert fields bytes).bind ?_ ?_
  · rintro ⟨found, rest⟩ ⟨converted, _⟩ ⟨areConverted, rfl⟩
    dsimp only
    split
    · exact areConverted.mirrors
    · exact Mirrors.fault _ _
  · rintro ⟨found, rest⟩ result image ended areConverted
    dsimp only at ended
    split at ended <;> cases ended
    exact ⟨(image, rest), areConverted, rfl⟩

end Latchkey.Json

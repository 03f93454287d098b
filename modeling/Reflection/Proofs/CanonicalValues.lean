import Reflection.Proofs.Overloads

/-!
# Canonical values

Conversion to a declared type takes off the layers of null first and then goes by the class of what
is left (`TypeRef.core`). `TypeRef.Converts` is the relation between a value and its conversion, one
case for each class, and `TypeRef.coerce_eq_ok_iff` says that it is exactly what `TypeRef.coerce`
computes.

Main statement: `TypeRef.canonicalizes`. What a conversion gives is null only for null, has the type
of the core, and converts again, to itself unless the core is a floating-point type: that a number
which was rounded once is not rounded again is not settled here.
-/

set_option autoImplicit false

namespace Reflection

/-! ## Numbers -/

namespace BoundedInt

/-- An integer of a kind is an integer in its range. -/
theorem ofInt?_eq_some_iff {kind : IntKind} {n : Int} {m : BoundedInt} :
    ofInt? kind n = some m ↔ m.kind = kind ∧ m.value = n := by
  obtain ⟨kind', value, holds⟩ := m
  rw [ofInt?]
  split
  · simp [eq_comm]
  · rename_i hout
    constructor
    · intro h
      cases h
    · rintro ⟨rfl, rfl⟩
      exact absurd holds hout

/-- So is a floating-point number that was read as one. -/
theorem kind_of_ofFloat? {kind : IntKind} {x : BinaryFloat} {m : BoundedInt}
    (h : ofFloat? kind x = some m) : m.kind = kind := by
  simp only [ofFloat?, Option.bind_eq_bind, Option.bind_eq_some_iff] at h
  obtain ⟨whole, -, n, hn, hm⟩ := h
  split at hm
  · rw [← Option.some.inj hm]
    exact (ofInt?_eq_some_iff.1 hn).1
  · cases hm

end BoundedInt

theorem BinaryFloat.kind_convert (kind : FloatKind) (x : BinaryFloat) :
    (x.convert kind).kind = kind := by
  rw [convert]
  cases x.datum <;> rfl

namespace Value

variable {kind : NumKind} {v w : Value}

theorem toNumber?_null (kind : NumKind) : null.toNumber? kind = none := by
  cases kind <;> rfl

/-- A number that was converted is of the kind that was asked for. -/
theorem numKind?_of_toNumber? (h : v.toNumber? kind = some w) : w.numKind? = some kind := by
  cases kind with
  | int kind =>
    cases v with
    | int n =>
      obtain ⟨m, hm, rfl⟩ := Option.map_eq_some_iff.1 h
      rw [numKind?, (BoundedInt.ofInt?_eq_some_iff.1 hm).1]
    | float x =>
      obtain ⟨m, hm, rfl⟩ := Option.map_eq_some_iff.1 h
      rw [numKind?, BoundedInt.kind_of_ofFloat? hm]
    | _ => cases h
  | float kind =>
    cases v with
    | int n =>
      obtain rfl := Option.some.inj h
      rfl
    | float x =>
      obtain rfl := Option.some.inj h
      rw [numKind?, BinaryFloat.kind_convert]
    | _ => cases h

/-- A number of an integer kind is kept by that kind. -/
theorem toNumber?_self {kind : IntKind} (h : w.numKind? = some (.int kind)) :
    w.toNumber? (.int kind) = some w := by
  cases w with
  | int n =>
    rw [numKind?, Option.some.injEq, NumKind.int.injEq] at h
    rw [toNumber?, BoundedInt.ofInt?_eq_some_iff.2 ⟨h, rfl⟩, Option.map_some]
  | float x => simp [numKind?] at h
  | _ => cases h

/-- A number converts to its own kind. -/
theorem exists_toNumber?_self (h : w.numKind? = some kind) :
    ∃ w', w.toNumber? kind = some w' := by
  cases kind with
  | int kind => exact ⟨w, toNumber?_self h⟩
  | float kind =>
    cases w with
    | int n => exact ⟨_, rfl⟩
    | float x => exact ⟨_, rfl⟩
    | _ => cases h

theorem typeKey?_of_numKind? (h : w.numKind? = some kind) :
    w.typeKey? = some (TypeRef.number kind).key := by
  cases w with
  | int n =>
    obtain rfl := Option.some.inj h
    rfl
  | float x =>
    obtain rfl := Option.some.inj h
    rfl
  | _ => cases h

end Value

namespace TypeRef

/-! ## Conversion as a relation -/

/-- The declared type without its layers of null. -/
def core : TypeRef → TypeRef
  | nullable underlying => underlying.core
  | type => type

/-- A value that is not null converts as it does to the core. -/
theorem coerce_core (type : TypeRef) {v : Value} (hv : v ≠ .null) :
    type.coerce v = type.core.coerce v := by
  induction type with
  | nullable underlying ih => rw [coerce_nullable underlying hv, ih, core]
  | _ => rfl

/-- A value and what it converts to. -/
inductive Converts : TypeRef → Value → Value → Prop
  | any (v : Value) : Converts any v v
  | null (underlying : TypeRef) : Converts (nullable underlying) .null .null
  | underlying {underlying : TypeRef} {v w : Value} (hv : v ≠ .null)
      (h : Converts underlying v w) : Converts (nullable underlying) v w
  | bool (b : Bool) : Converts bool (.bool b) (.bool b)
  | char (c : Char) : Converts char (.char c) (.char c)
  | string (s : String) : Converts string (.string s) (.string s)
  | anyObject (o : Object) : Converts anyObject (.object o) (.object o)
  | shared (o : Object) :
      Converts (shared o.type) (.object o) (.object ⟨o.address, o.type, o.type.name⟩)
  | number {kind : NumKind} {v w : Value} (h : v.toNumber? kind = some w) :
      Converts (number kind) v w

theorem coerce_number_eq_ok_iff {kind : NumKind} {v w : Value} :
    (number kind).coerce v = .ok w ↔ v.toNumber? kind = some w := by
  cases v <;> rw [coerce] <;> split <;> simp_all

theorem coerce_eq_ok_iff {type : TypeRef} {v w : Value} :
    type.coerce v = .ok w ↔ Converts type v w := by
  constructor
  · intro h
    -- Only a layer of null recurses, so this is the one case with a hypothesis.
    induction type with
    | any =>
      cases h
      exact .any v
    | nullable underlying ih =>
      by_cases hv : v = .null
      · subst hv
        cases h
        exact .null underlying
      · rw [coerce_nullable underlying hv] at h
        exact .underlying hv (ih h)
    | number kind => exact .number (coerce_number_eq_ok_iff.1 h)
    | shared type =>
      cases v with
      | object o =>
        rw [coerce] at h
        split at h
        · rename_i htype
          subst htype
          cases h
          exact .shared o
        · cases h
      | _ => cases h
    | _ =>
      cases v <;> cases h
      constructor
  · intro h
    induction h with
    | underlying hv _ ih => rw [coerce_nullable _ hv, ih]
    | number h => exact coerce_number_eq_ok_iff.2 h
    | shared o => exact if_pos rfl
    | _ => rfl

namespace Converts

variable {type : TypeRef} {v w : Value}

/-- Only null converts to null, and only if the type allows it. -/
theorem eq_null (h : Converts type v w) (hw : w = .null) : type.isNullable ∧ v = .null := by
  induction h with
  | any v => exact ⟨rfl, hw⟩
  | null underlying => exact ⟨rfl, rfl⟩
  | underlying hv _ ih => exact absurd (ih hw).2 hv
  | number h =>
    subst hw
    cases Value.numKind?_of_toNumber? h
  | _ => cases hw

/-- Where any value or any reference is allowed, conversion changes nothing. -/
theorem eq_of_core (h : Converts type v w) (hcore : type.core = .any ∨ type.core = .anyObject) :
    w = v := by
  induction h with
  | underlying hv _ ih => exact ih hcore
  | any v => rfl
  | null underlying => rfl
  | anyObject o => rfl
  | _ => simp [core] at hcore

/-- What is not null has the type of the core. -/
theorem typeKey? (h : Converts type v w) (hw : w ≠ .null) (hany : type.core ≠ .any)
    (hobject : type.core ≠ .anyObject) : w.typeKey? = some type.core.key := by
  induction h with
  | any v => exact absurd rfl hany
  | null underlying => exact absurd rfl hw
  | underlying hv _ ih => exact ih hw hany hobject
  | anyObject o => exact absurd rfl hobject
  | number h => exact Value.typeKey?_of_numKind? (Value.numKind?_of_toNumber? h)
  | _ => rfl

/-- What was converted converts again. -/
theorem again (h : Converts type v w) : ∃ w', Converts type w w' := by
  induction h with
  | underlying hv h ih =>
    -- What is not null stays so, hence it takes the same way through the layer.
    obtain ⟨w', hagain⟩ := ih
    exact ⟨w', .underlying (fun hw => hv (h.eq_null hw).2) hagain⟩
  | number h =>
    obtain ⟨w', hagain⟩ := Value.exists_toNumber?_self (Value.numKind?_of_toNumber? h)
    exact ⟨w', .number hagain⟩
  | any v => exact ⟨v, .any v⟩
  | null underlying => exact ⟨_, .null underlying⟩
  | bool b => exact ⟨_, .bool b⟩
  | char c => exact ⟨_, .char c⟩
  | string s => exact ⟨_, .string s⟩
  | anyObject o => exact ⟨_, .anyObject o⟩
  | shared o => exact ⟨_, .shared ⟨o.address, o.type, o.type.name⟩⟩

/-- If no floating-point number is asked for, it converts to itself. -/
theorem self (h : Converts type v w) (hcore : ∀ kind, type.core ≠ .number (.float kind)) :
    Converts type w w := by
  induction h with
  | underlying hv h ih => exact .underlying (fun hw => hv (h.eq_null hw).2) (ih hcore)
  | @number kind v w h =>
    cases kind with
    | int kind => exact .number (Value.toNumber?_self (Value.numKind?_of_toNumber? h))
    | float kind => exact absurd rfl (hcore kind)
  | any v => exact .any v
  | null underlying => exact .null underlying
  | bool b => exact .bool b
  | char c => exact .char c
  | string s => exact .string s
  | anyObject o => exact .anyObject o
  | shared o => exact .shared ⟨o.address, o.type, o.type.name⟩

/-- A reference of one type keeps its instance and takes the name of that type. -/
theorem eq_object (h : Converts type v w) {owner : TypeId} (hcore : type.core = .shared owner)
    (hw : w ≠ .null) :
    ∃ o, v = .object o ∧ o.type = owner ∧ w = .object ⟨o.address, owner, type.core.name⟩ := by
  induction h with
  | null underlying => exact absurd rfl hw
  | underlying hv _ ih => exact ih hcore hw
  | shared o =>
    obtain rfl := TypeRef.shared.inj hcore
    exact ⟨o, rfl, rfl, rfl⟩
  | _ => cases hcore

end Converts

theorem exists_coerce_null_iff {type : TypeRef} :
    (∃ w, type.coerce .null = .ok w) ↔ type.isNullable := by
  constructor
  · rintro ⟨w, hw⟩
    cases coerce_eq_ok_iff.1 hw with
    | any => rfl
    | null => rfl
    | underlying hv => exact absurd rfl hv
    | number h =>
      rw [Value.toNumber?_null] at h
      cases h
  · intro h
    cases type with
    | any => exact ⟨_, rfl⟩
    | nullable underlying => exact ⟨_, rfl⟩
    | _ => cases h

/-! ## The laws of conversion -/

/-- What conversion to a declared type gives. -/
structure Canonicalizes (type : TypeRef) : Prop where
  /-- Only null gives null, and only if the type allows it; -/
  null : ∀ v, type.coerce v = .ok .null → type.isNullable ∧ v = .null
  /-- and null converts exactly if the type allows it. -/
  takesNull : (∃ w, type.coerce .null = .ok w) ↔ type.isNullable
  /-- Anything else has the type of the core. -/
  keyed : ∀ v w, type.coerce v = .ok w → w ≠ .null → type.core ≠ any → type.core ≠ anyObject →
    w.typeKey? = some type.core.key
  /-- A core that allows any value or any reference leaves the value as it is. -/
  kept : ∀ v w, type.coerce v = .ok w → type.core = any ∨ type.core = anyObject → w = v
  /-- What was converted converts again, -/
  again : ∀ v w, type.coerce v = .ok w → ∃ w', type.coerce w = .ok w'
  /-- to itself if the core is no floating-point type. -/
  stable : ∀ v w, type.coerce v = .ok w → (∀ kind, type.core ≠ number (.float kind)) →
    type.coerce w = .ok w
  /-- A reference to an instance of one type stays a reference to that instance, under the name of
  the declared type. -/
  named : ∀ v w owner, type.coerce v = .ok w → w ≠ .null → type.core = shared owner →
    ∃ o, v = .object o ∧ o.type = owner ∧ w = .object ⟨o.address, owner, type.core.name⟩

/-- Conversion gives canonical values, for every declared type. -/
theorem canonicalizes (type : TypeRef) : type.Canonicalizes where
  null _ h := (coerce_eq_ok_iff.1 h).eq_null rfl
  takesNull := exists_coerce_null_iff
  keyed _ _ h hw hany hobject := (coerce_eq_ok_iff.1 h).typeKey? hw hany hobject
  kept _ _ h hcore := (coerce_eq_ok_iff.1 h).eq_of_core hcore
  again _ _ h := by
    obtain ⟨w', hagain⟩ := (coerce_eq_ok_iff.1 h).again
    exact ⟨w', coerce_eq_ok_iff.2 hagain⟩
  stable _ _ h hcore := coerce_eq_ok_iff.2 ((coerce_eq_ok_iff.1 h).self hcore)
  named _ _ _ h hw hcore := (coerce_eq_ok_iff.1 h).eq_object hcore hw

-- The name that the reference came with is dropped behind any number of layers.
example : (nullable (nullable (shared (.named "Person")))).coerce
    (.object ⟨.numbered 0, .named "Person", ⟨"alias"⟩⟩) =
      .ok (.object ⟨.numbered 0, .named "Person", ⟨"Person"⟩⟩) := rfl

end TypeRef

end Reflection

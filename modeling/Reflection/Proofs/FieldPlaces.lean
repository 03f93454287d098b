import Reflection.Proofs.HierarchyOrder
import Reflection.Proofs.TargetRule
import Reflection.Script.Members

/-!
# Fields as places

A field is read from one cell and written to another, and so is the part of a target that the base
links lead to. Where the two cells are one (`FieldInfo.IsStored`) and the two parts are one
(`Registry.OnePart`), the field is one place of the target: of that part, however far up the
declaring type is, or of the type itself if the field is static (`FieldInfo.PlacedAt`). Its
accessors then read and write that place and nothing else.

Main statement: `Registry.Gives.get_after_set`. A value that converts to the type of the field is
read back as what it was converted to, and no other place changes; a value that does not convert
changes nothing, and the error is the one of the conversion. Fields that are made of a cell are
stored (`FieldInfo.isStored_ofCell`), and links that lie at one place for every use lead to one part
(`Registry.onePart_of_links`). Where they do not, or where a base on the way is not registered, a
write is lost or refused (`Registry.lost_writes`).
-/

set_option autoImplicit false

namespace Reflection

/-! ## Places of fields -/

namespace FieldInfo

/-- What is read and what is written is one cell, wherever the field is. -/
def IsStored (f : FieldInfo) : Prop :=
  ∀ owner part cells, f.cells.at? owner part = some cells → cells.1 = cells.2

/-- The place of the field in a target, for a use of the target: it lies in the part of the
declaring type, unless the field is static. -/
inductive PlacedAt (f : FieldInfo) (r : Registry) (use : TargetUse) (declaring : TypeId) :
    Option Target → Place → Prop
  | static {target : Option Target} {cells : Cell × Cell} : f.cells = .shared cells →
      PlacedAt f r use declaring target (cells.1.place f.type)
  | inPart {target part : Target} {each : Address → Cell × Cell} : f.cells = .perInstance each →
      r.HasPart use declaring target part →
      PlacedAt f r use declaring (some target) ((each part.address).1.place f.type)

theorem isStored_ofCell (declaring : TypeId) (isStatic : Bool) (name : String)
    (visibility : Visibility) (type : TypeRef) :
    (ofCell declaring isStatic name visibility type).IsStored := by
  intro owner part cells hcells
  cases isStatic with
  | true =>
    cases hcells
    rfl
  | false =>
    obtain ⟨t, -, hcells⟩ := Option.bind_eq_some_iff.1 hcells
    split at hcells
    · cases hcells
      rfl
    · cases hcells

section

variable {f : FieldInfo} {owner : TypeId} {part : Option Target} {cells : Cell × Cell}

theorem get?_of_at? (h : f.cells.at? owner part = some cells) (store : Store) :
    f.get? owner part store = some (store.read (cells.1.place f.type)) := by
  rw [get?, h]
  rfl

/-- A stored field is written where it is read. -/
theorem set?_of_at? (hstored : f.IsStored) (h : f.cells.at? owner part = some cells) (v : Value)
    (store : Store) :
    f.set? owner part v store =
      some ((f.type.coerce v).map (store.write (cells.1.place f.type))) := by
  rw [set?, h, hstored owner part cells h]
  rfl

end

end FieldInfo

namespace Registry

/-- The base links lead a target to one part of a type, whatever the target is used for. -/
def OnePart (r : Registry) (type : TypeId) (target : Target) : Prop :=
  ∃ part, ∀ use, r.HasPart use type target part

/-- Links that lie at one place for every use lead to one part. -/
theorem onePart_of_links {r : Registry}
    (hlinks : ∀ info ∈ r.entries, ∀ link, info.base = some link → link.readPart = link.writePart)
    {type : TypeId} {target : Target} (h : r.isAssignable target.type type = true) :
    r.OnePart type target := by
  obtain ⟨part, hread⟩ := exists_hasPart_of_isAssignable h .read
  refine ⟨part, fun use => ?_⟩
  cases use with
  | read => exact hread
  | write =>
    -- The way of a reading use is walked again: each link leads the other use to the same place.
    clear h
    induction hread with
    | self htype => exact .self htype
    | inBase hne hinfo hbase _ ih =>
      refine .inBase hne hinfo hbase ?_
      rw [BaseInfo.part, ← hlinks _ (mem_of_find? hinfo) _ hbase]
      exact ih

end Registry

/-- A target that suits the member binds to a part that has a place for the field, the same one for
every use. -/
theorem FieldInfo.exists_placedAt {r : Registry} {d : MemberDescriptor} {f : FieldInfo}
    (hscope : f.isStatic = d.isStatic) {target : Option Target}
    (htarget : d.isStatic = false → ∃ t, target = some t ∧
      r.isAssignable t.type d.declaring = true ∧ r.OnePart d.declaring t) :
    ∃ part cells, (∀ use, (TargetBinding.ofDescriptor r d).bind use target = .ok part) ∧
      f.cells.at? d.declaring part = some cells ∧
      ∀ use, f.PlacedAt r use d.declaring target (cells.1.place f.type) := by
  rw [isStatic] at hscope
  -- A static field needs no part, and any other one lies in the part that all uses lead to.
  cases hcells : f.cells with
  | shared cells =>
    rw [hcells] at hscope
    exact ⟨none, cells, fun _ => TargetBinding.bind_static hscope.symm target, rfl,
      fun _ => .static hcells⟩
  | perInstance each =>
    rw [hcells] at hscope
    obtain ⟨t, rfl, hassignable, part, hpart⟩ := htarget hscope.symm
    refine ⟨some part, each part.address,
      fun use => TargetBinding.bind_some_of_hasPart hscope.symm hassignable (hpart use), ?_,
      fun use => .inPart hcells (hpart use)⟩
    simp [Scoped.at?, (hpart .read).type_eq]

/-! ## Writing and reading again -/

theorem Getter.get_of_bind {g : Getter} {target part : Option Target} {v : Value} {store : Store}
    (hbind : g.binding.bind .read target = .ok part)
    (hv : g.source.get? g.descriptor.declaring part store = some v) :
    g.get target store = .ok v := by
  rw [get, hbind]
  simp only [bind, Except.bind, hv]

theorem Setter.set_of_bind {s : Setter} {target part : Option Target} {v : Value} {store : Store}
    {written : Except ConversionError Store} (hbind : s.binding.bind .write target = .ok part)
    (hv : s.source.set? s.descriptor.declaring part v store = some written) :
    s.set target v store = written.mapError .valueConversion := by
  rw [set, hbind]
  simp only [bind, Except.bind, hv]

/-- Writes a value for a target: the result, and the state, which a write that fails leaves as it
was. -/
def Setter.run (s : Setter) (target : Option Target) (v : Value) (store : Store) :
    Except AccessError Unit × Store :=
  match s.set target v store with
  | .ok written => (.ok (), written)
  | .error e => (.error e, store)

/-- Two states differ in one place at most. -/
structure Store.SameBut (place : Place) (before after : Store) : Prop where
  read : ∀ other, other ≠ place → after.read other = before.read other
  contents : after.contents = before.contents
  names : after.names = before.names
  next : after.next = before.next

/-- What the accessors of a field do with one target, where the field is a place of a type. -/
structure KeepsWrites (g : Getter) (s : Setter) (type : TypeRef) (place : Place)
    (target : Option Target) : Prop where
  /-- The place is what is read, in every state. -/
  reads : ∀ store, g.get target store = .ok (store.read place)
  /-- What was written is read again, and nothing else was written. -/
  written : ∀ v w store, type.coerce v = .ok w →
    ∃ after, s.run target v store = (.ok (), after) ∧ g.get target after = .ok w ∧
      store.SameBut place after
  refused : ∀ v e store, type.coerce v = .error e →
    s.run target v store = (.error (.valueConversion e), store)

theorem Store.sameBut_write (store : Store) (place : Place) (v : Value) :
    store.SameBut place (store.write place v) :=
  ⟨fun _ hother => read_write_of_ne store hother v, rfl, rfl, rfl⟩

/-- Accessors that read a place, and write it with a converted value, keep what is written. -/
theorem keepsWrites_of_lens {g : Getter} {s : Setter} {type : TypeRef} {place : Place}
    {target : Option Target} (hget : ∀ store, g.get target store = .ok (store.read place))
    (hset : ∀ v store, s.set target v store =
      ((type.coerce v).map (store.write place)).mapError .valueConversion) :
    KeepsWrites g s type place target := by
  refine ⟨hget, ?_, ?_⟩
  · intro v w store hv
    have hwritten : s.set target v store = .ok (store.write place w) := by
      rw [hset, hv]
      rfl
    refine ⟨store.write place w, ?_, ?_, store.sameBut_write place w⟩
    · rw [Setter.run, hwritten]
    · rw [hget, Store.read_write_self]
  · intro v e store hv
    have hfailed : s.set target v store = .error (.valueConversion e) := by
      rw [hset, hv]
      rfl
    rw [Setter.run, hfailed]

/-- The accessors of a stored field that a registry gives keep what is written, for every target
whose type is the declaring type or derives from it through registered types and that has one part
of the declaring type, and for all targets and none if the field is static. -/
theorem Registry.Gives.get_after_set {r : Registry} (hr : r.Acyclic) {d : MemberDescriptor}
    (hd : r.Gives d) (hkind : d.kind = .field)
    (hstored : ∀ f, r.resolve? d.key = some (.data (.field f)) → f.IsStored)
    {target : Option Target} (htarget : d.isStatic = false → ∃ t, target = some t ∧
      r.isAssignable t.type d.declaring = true ∧ r.OnePart d.declaring t) :
    TargetBinding.Ends r d ∧
      ∃ f g s place, r.resolve? d.key = some (.data (.field f)) ∧ d.valueType = some f.type ∧
        Getter.compile r d = .ok g ∧ Setter.compile r d = .ok s ∧
        (∀ use, f.PlacedAt r use d.declaring target place) ∧
        KeepsWrites g s f.type place target := by
  obtain ⟨owner, howner, hdescribes⟩ := hd.exists_owner
  cases hdescribes with
  | @field f hf =>
    have hresolve := resolve?_ofField howner hf
    obtain ⟨part, cells, hbind, hcells, hplaced⟩ :=
      FieldInfo.exists_placedAt (f := f) rfl htarget
    refine ⟨hr.binding_ends _, f, _, _, cells.1.place f.type, hresolve, rfl,
      Getter.compile_eq_ok_iff.2 ⟨.field f, hresolve, rfl⟩,
      Setter.compile_eq_ok_iff.2 ⟨.field f, rfl, hresolve, rfl⟩, hplaced,
      keepsWrites_of_lens ?_ ?_⟩
    · intro store
      exact Getter.get_of_bind (hbind .read) (FieldInfo.get?_of_at? hcells store)
    · intro v store
      exact Setter.set_of_bind (hbind .write)
        (FieldInfo.set?_of_at? (hstored f hresolve) hcells v store)
  | _ => cases hkind

/-! ## A field two bases up -/

namespace Family

def person : TypeId := .named "Person"

def employee : TypeId := .named "Employee"

def manager : TypeId := .named "Manager"

/-- A field of each person. -/
def age : FieldInfo := .ofCell person false "Age" .pub (.number (.int .u32))

/-- A type with the field alone. -/
def withAge : TypeInfo :=
  { ForeignTable.bare person none with fields := [age] }

/-- Managers are employees, and employees are persons. -/
def registry : Registry :=
  ((Registry.empty.insert (ForeignTable.bare manager (some (.embedded employee)))).insert
    (ForeignTable.bare employee (some (.embedded person)))).insert withAge

/-- How far a type is from the end of its chain. -/
def height (type : TypeId) : Nat :=
  [person, employee, manager].idxOf type

theorem acyclic_registry : registry.Acyclic :=
  Registry.acyclic_of_rank height (by decide)

/-- The descriptor of the field, as the registry gives it for managers. -/
def ageOfPerson : MemberDescriptor := .ofField withAge age

/-- A manager of its own. -/
def boss : Target := ⟨.numbered 0, manager⟩

theorem links_registry : ∀ info ∈ registry.entries, ∀ link, info.base = some link →
    link.readPart = link.writePart := by
  have hentries : registry.entries = [ForeignTable.bare manager (some (.embedded employee)),
    ForeignTable.bare employee (some (.embedded person)), withAge] := rfl
  intro info hinfo link hlink
  simp only [hentries, List.mem_cons, List.not_mem_nil, or_false] at hinfo
  rcases hinfo with rfl | rfl | rfl <;> cases hlink <;> rfl

end Family

open Family

/-- A manager keeps what is written to the field of persons. -/
theorem Registry.get_after_set_two_up :
    registry.Acyclic ∧ registry.Gives ageOfPerson ∧ ageOfPerson.kind = .field ∧
      (∀ f, registry.resolve? ageOfPerson.key = some (.data (.field f)) → f.IsStored) ∧
      (ageOfPerson.isStatic = false → ∃ t, some boss = some t ∧
        registry.isAssignable t.type ageOfPerson.declaring = true ∧
        registry.OnePart ageOfPerson.declaring t) ∧
      TargetBinding.Ends registry ageOfPerson ∧
      ∃ f g s place, registry.resolve? ageOfPerson.key = some (.data (.field f)) ∧
        ageOfPerson.valueType = some f.type ∧ Getter.compile registry ageOfPerson = .ok g ∧
        Setter.compile registry ageOfPerson = .ok s ∧
        (∀ use, f.PlacedAt registry use ageOfPerson.declaring (some boss) place) ∧
        KeepsWrites g s f.type place (some boss) := by
  have hfield : registry.field manager "Age" = .ok ageOfPerson := rfl
  have hresolve : registry.resolve? ageOfPerson.key = some (.data (.field age)) := rfl
  have hstored : ∀ f, registry.resolve? ageOfPerson.key = some (.data (.field f)) →
      f.IsStored := by
    intro f hf
    rw [hresolve] at hf
    cases hf
    exact FieldInfo.isStored_ofCell person false "Age" .pub _
  have htarget : ageOfPerson.isStatic = false → ∃ t, some boss = some t ∧
      registry.isAssignable t.type ageOfPerson.declaring = true ∧
      registry.OnePart ageOfPerson.declaring t :=
    fun _ => ⟨boss, rfl, rfl, onePart_of_links links_registry rfl⟩
  exact ⟨acyclic_registry, .field hfield, rfl, hstored, htarget,
    Registry.Gives.get_after_set acyclic_registry (.field hfield) rfl hstored htarget⟩

/-! ## Two parts, and a gap -/

namespace Family

def deputy : TypeId := .named "Deputy"

/-- The base of a type that holds two persons, one of them in its deputy: the link reads the one and
writes the other. -/
def divided : BaseInfo :=
  ⟨person, .part person, fun whole => .part person (.part deputy whole)⟩

/-- Employees are persons by that link. -/
def twofold : Registry :=
  (Registry.empty.insert (ForeignTable.bare employee (some divided))).insert withAge

/-- An employee of its own. -/
def clerk : Target := ⟨.numbered 0, employee⟩

/-- Managers are employees, but what employees are is not registered. -/
def gapped : Registry :=
  (Registry.empty.insert (ForeignTable.bare manager (some (.embedded employee)))).insert withAge

theorem acyclic_twofold : twofold.Acyclic :=
  Registry.acyclic_of_rank height (by decide)

theorem acyclic_gapped : gapped.Acyclic :=
  Registry.acyclic_of_rank height (by decide)

/-- The age that every person starts with. -/
def unborn : Value := .int ⟨.u32, 0, by decide⟩

def forty : Value := .int ⟨.u32, 40, by decide⟩

end Family

/-- Without its conditions the law fails. If a link reads one part and writes another, a write
succeeds and is not read back. If a base on the way is not registered, a manager is refused,
although managers are employees and employees are persons. -/
theorem Registry.lost_writes :
    (twofold.Acyclic ∧ twofold.Gives ageOfPerson ∧ age.IsStored ∧
      twofold.isAssignable clerk.type person = true ∧ age.type.coerce forty = .ok forty ∧
      ∃ g s after, Getter.compile twofold ageOfPerson = .ok g ∧
        Setter.compile twofold ageOfPerson = .ok s ∧
        s.run (some clerk) forty .empty = (.ok (), after) ∧
        g.get (some clerk) after = .ok unborn ∧ unborn ≠ forty) ∧
    (gapped.Acyclic ∧ gapped.Gives ageOfPerson ∧ registry.isAssignable boss.type person = true ∧
      ∃ s, Setter.compile gapped ageOfPerson = .ok s ∧
        s.run (some boss) forty .empty = (.error ageOfPerson.unrelated, .empty)) := by
  have htwofold : twofold.field employee "Age" = .ok ageOfPerson := rfl
  have hgapped : gapped.field person "Age" = .ok ageOfPerson := rfl
  have hstored : age.IsStored := FieldInfo.isStored_ofCell person false "Age" .pub _
  refine ⟨⟨acyclic_twofold, .field htwofold, hstored, rfl, rfl, _, _, _, rfl, rfl, rfl, rfl, ?_⟩,
    acyclic_gapped, .field hgapped, rfl, _, rfl, rfl⟩
  decide

end Reflection

import Reflection.Proofs.Descriptors
import Reflection.Proofs.DispatchMemo
import Reflection.Proofs.Invocation

/-!
# What accessors are bound to

A descriptor may come from one registry and be compiled for another one, which describes the same
types differently. The member that the accessor is bound to then has the type, the name and the kind
of the descriptor (`MemberDescriptor.Names`), and for a closed generic method the type arguments.
For every other member the scope and the parameters are the descriptor's too
(`MemberDescriptor.Matches`), so the frame of a call is the one that the body was declared for.

Main statement: `Registry.Gives.accessors_match`. The scope and the parameters of a closed generic
method are not looked at: only the registry that closed it is sure to have an instance with them
(`Registry.accessor_of_other_instance`).
-/

set_option autoImplicit false

namespace Reflection

namespace Member

/-- The name of the member. -/
def name : Member → String
  | data source => source.name
  | method m => m.name
  | constructor _ => "new"

/-- What sort of member it is. -/
def kind : Member → MemberKind
  | data source => source.kind
  | method _ => .method
  | constructor _ => .constructor

/-- Whether the member belongs to the type itself. -/
def isStatic : Member → Bool
  | data source => source.isStatic
  | method m => m.isStatic
  | constructor _ => true

/-- The types and the modes of the parameters. -/
def paramKeys : Member → List ParamKey
  | data _ => []
  | method m => m.paramKeys
  | constructor _ => []

end Member

namespace MemberDescriptor

/-- The member is one of the declaring type, with the name and the kind of the descriptor. -/
structure Names (d : MemberDescriptor) (r : Registry) (x : Member) : Prop where
  declared : ∃ owner, r.find? d.declaring = some owner ∧ owner.Declares x
  name : x.name = d.name
  kind : x.kind = d.kind

/-- The member has the scope and the parameters of the descriptor too. -/
structure Matches (d : MemberDescriptor) (r : Registry) (x : Member) : Prop extends
    d.Names r x where
  isStatic : x.isStatic = d.isStatic
  paramKeys : x.paramKeys = d.key.params

/-- The method is an instance of the generic method of the descriptor's name, for the type arguments
of the descriptor. -/
def ClosesTo (d : MemberDescriptor) (r : Registry) (m : MethodInfo) : Prop :=
  ∃ owner g i, r.find? d.declaring = some owner ∧ owner.generic? d.name = some g ∧
    i ∈ g.instances ∧ i.typeArgs = d.typeArgs ∧ i.method = m

end MemberDescriptor

namespace Registry

variable {home abroad : Registry} {d : MemberDescriptor}

/-- Descriptors of fields and properties have no parameters. -/
theorem Gives.params_eq_nil (hd : home.Gives d) (hkind : d.kind ≠ .method) : d.key.params = [] := by
  obtain ⟨owner, -, hdescribes⟩ := hd.exists_owner
  cases hdescribes with
  | field => rfl
  | property => rfl
  | constructor => rfl
  | method => exact absurd rfl hkind
  | openGeneric => exact absurd rfl hkind
  | closedGeneric => exact absurd rfl hkind

/-- The data member that is found under a key of another registry matches it. -/
theorem Gives.matches_data (hd : home.Gives d) {source : DataMember}
    (h : abroad.resolve? d.key = some (.data source)) : d.Matches abroad (.data source) := by
  obtain ⟨owner, howner, hdeclares, hname, hkind, hstatic⟩ := exists_of_resolve?_data h
  refine ⟨⟨⟨owner, howner, hdeclares⟩, hname, hkind⟩, hstatic, ?_⟩
  have hdata : d.kind ≠ .method := by
    intro hmethod
    rw [show d.key.kind = d.kind from rfl, hmethod] at hkind
    cases source <;> cases hkind
  exact (hd.params_eq_nil hdata).symm

theorem names_of_resolve?_method {m : MethodInfo}
    (h : abroad.resolve? d.key = some (.method m)) : d.Names abroad (.method m) := by
  obtain ⟨hkind, owner, howner, hmethod⟩ := resolve?_eq_some_method_iff.1 h
  obtain ⟨hdeclares, hname⟩ := declares_of_resolveMethod? hmethod
  exact ⟨⟨owner, howner, hdeclares⟩, hname, hkind.symm⟩

/-- A method without type parameters, or one of the same registry, is found with its scope and its
parameters. -/
theorem Gives.matches_method (hd : home.Gives d) (hclosed : d.isOpenGeneric = false)
    {m : MethodInfo} (h : abroad.resolve? d.key = some (.method m))
    (hsame : d.typeParams = [] ∨ abroad = home) :
    d.Matches abroad (.method m) := by
  suffices hagrees : m.isStatic = d.isStatic ∧ m.paramKeys = d.key.params from
    ⟨names_of_resolve?_method h, hagrees.1, hagrees.2⟩
  rcases hsame with hplain | rfl
  · -- The search among plain methods compares the scope and the parameters of the key.
    obtain ⟨-, owner, -, hmethod⟩ := resolve?_eq_some_method_iff.1 h
    have harity : d.key.genericArity = 0 := congrArg List.length hplain
    obtain ⟨-, hmatch⟩ := matches_of_resolveMethod? hmethod harity
    obtain ⟨-, hstatic, hparams⟩ := MemberKey.matchesMethod_iff.1 hmatch
    exact ⟨hstatic, hparams⟩
  · obtain ⟨-, hstatic, hparams⟩ := hd.agrees_of_resolve? hclosed h
    exact ⟨hstatic, hparams⟩

/-- A closed generic method is found as an instance for its type arguments. -/
theorem closesTo_of_resolve?_method {m : MethodInfo}
    (h : abroad.resolve? d.key = some (.method m)) (hgeneric : d.typeParams ≠ []) :
    d.ClosesTo abroad m := by
  obtain ⟨-, owner, howner, hmethod⟩ := resolve?_eq_some_method_iff.1 h
  have harity : d.key.genericArity ≠ 0 := fun hzero =>
    hgeneric (List.eq_nil_of_length_eq_zero hzero)
  obtain ⟨g, i, hg, hi, hkeys, hm⟩ := exists_instance_of_resolveMethod? hmethod harity
  exact ⟨owner, g, i, howner, hg, hi, TypeRef.map_key_inj.1 hkeys, hm⟩

/-- What the accessors of a descriptor are bound to in a registry that need not be the one that gave
it. Getters, setters and the invokers of methods without type parameters are bound to members that
match; so are all invokers in the registry that gave the descriptor. An invoker of a closed generic
method is bound to an instance for its type arguments. -/
theorem Gives.accessors_match (hd : home.Gives d) (abroad : Registry) :
    (∀ g, Getter.compile abroad d = .ok g → d.Matches abroad (.data g.source)) ∧
      (∀ s, Setter.compile abroad d = .ok s → d.Matches abroad (.data s.source)) ∧
      ∀ i, Invoker.compile abroad d = .ok i →
        d.Names abroad (.method i.method) ∧ i.method.declaring = d.declaring ∧
          (d.typeParams ≠ [] → d.ClosesTo abroad i.method) ∧
          (d.typeParams = [] ∨ abroad = home → d.Matches abroad (.method i.method) ∧
            (∀ args, Frame.prepareSlots d.params args =
              Frame.prepareSlots i.method.params args) ∧
            ∀ slots args, Frame.merge d.params slots args =
              Frame.merge i.method.params slots args) := by
  refine ⟨?_, ?_, ?_⟩
  · intro g hg
    obtain ⟨source, hsource, rfl⟩ := Getter.compile_eq_ok_iff.1 hg
    exact hd.matches_data hsource
  · intro s hs
    obtain ⟨source, hwritable, hsource, rfl⟩ := Setter.compile_eq_ok_iff.1 hs
    exact hd.matches_data hsource
  · intro i hi
    obtain ⟨hclosed, m, hm, rfl⟩ := Invoker.compile_eq_ok_iff.1 hi
    have hnames := names_of_resolve?_method hm
    obtain ⟨owner, howner, hdeclares⟩ := hnames.declared
    refine ⟨hnames, hdeclares.declaring.trans (id_of_find? howner),
      closesTo_of_resolve?_method hm, fun hsame => ?_⟩
    have hmatches := hd.matches_method hclosed hm hsame
    exact ⟨hmatches, Frame.prepareSlots_of_key_eq hmatches.paramKeys.symm,
      Frame.merge_of_key_eq hmatches.paramKeys.symm⟩

end Registry

/-! ## Two descriptions of one type -/

namespace OtherInstance

open ForeignTable

/-- An instance of a generic method with one parameter of some type. -/
def taking (type : TypeRef) : MethodInfo :=
  { go echo with params := [⟨"value", type, .value⟩] }

/-- A generic method with one instance. -/
def definition (type : TypeRef) : GenericMethodInfo :=
  ⟨"Go", .pub, ["T"], [⟨[.bool], taking type⟩]⟩

/-- A type with a plain method and the generic one. -/
def describing (type : TypeRef) : TypeInfo :=
  { withGo echo with
    generics := [definition type]
    generics_fit := by
      simp [GenericMethodInfo.Fits, definition, taking, go, GenericMethodInfo.arity, withGo, bare,
        TypeInfo.ofInterface] }

/-- The instance takes an integer. -/
def numbers : Registry :=
  Registry.empty.insert (describing (.number (.int .i32)))

/-- The instance for the same type argument takes a text. -/
def texts : Registry :=
  Registry.empty.insert (describing .string)

end OtherInstance

namespace Registry

open ForeignTable OtherInstance

/-- The plain method of one registry compiles for the other one, and is bound to a method that
matches. -/
theorem accessor_of_plain_method :
    let d := MemberDescriptor.ofMethod (describing (.number (.int .i32))) (go echo)
    numbers.Gives d ∧
      ∃ i, Invoker.compile texts d = .ok i ∧ d.Matches texts (.method i.method) := by
  intro d
  have hmethod : numbers.method echo "Go" [.number (.int .i32)] = .ok d := rfl
  have hgives : numbers.Gives d := .method hmethod
  obtain ⟨-, -, hinvoker⟩ := hgives.accessors_match texts
  obtain ⟨-, -, -, hplain⟩ := hinvoker _ rfl
  exact ⟨hgives, _, rfl, (hplain (.inl rfl)).1⟩

/-- The closed generic method of one registry compiles for the other one too, and is bound to an
instance that takes something else. -/
theorem accessor_of_other_instance :
    let d := MemberDescriptor.ofClosedGeneric (describing (.number (.int .i32)))
      (definition (.number (.int .i32))) [.bool] (taking (.number (.int .i32)))
    numbers.Gives d ∧ ∃ i, Invoker.compile texts d = .ok i ∧
      i.descriptor.params.map ParamInfo.type = [.number (.int .i32)] ∧
      i.method.params.map ParamInfo.type = [.string] ∧ ¬d.Matches texts (.method i.method) := by
  intro d
  have hclosed : numbers.closeGeneric (.ofOpenGeneric (describing (.number (.int .i32)))
    (definition (.number (.int .i32)))) [.bool] = .ok d := rfl
  refine ⟨.closed hclosed, _, rfl, rfl, rfl, fun hmatches => ?_⟩
  have hparams : (taking .string).paramKeys = d.key.params := hmatches.paramKeys
  exact absurd hparams (by decide)

end Registry

end Reflection

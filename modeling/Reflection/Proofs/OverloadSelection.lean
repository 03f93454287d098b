import Mathlib.Algebra.GroupWithZero.Nat
import Mathlib.Data.List.Find
import Reflection.Proofs.MemberTables
import Reflection.Proofs.Overloads

/-!
# The overload of the greatest total

The overloads of a name that fit the arguments are the candidates of a call, each with its total
(`MemberTable.candidates`). The one pass over them that keeps the leaders comes to exactly the
candidates of the greatest total (`MemberTable.tied_leaders`): a call means the candidate whose
total is greater than all others, it is ambiguous if several share the greatest total, and there is
no member if there is no candidate (`MemberTable.selectsGreatest`).

So the order of the overloads in a table does not count. The order of the declarations does not
count either (`MemberTable.sameChoice_build`), as long as the methods that a type declares with one
name and the same parameters are described alike: only the first of them is in the table. Of a
static method and one with the same parameters that needs an instance, the first is called
(`Twins.chosenStatic_registry`).
-/

set_option autoImplicit false

namespace Reflection

/-- A method fits the arguments with a total: there are as many arguments as parameters, each has a
score, and the scores add up to the total. -/
structure MemberDescriptor.Fits (d : MemberDescriptor) (args : List Value) (total : Nat) :
    Prop where
  arity : d.params.length = args.length
  scored : ∃ scores : List Nat,
    List.zipWith ParamInfo.score? d.params args = scores.map some ∧ scores.sum = total

theorem totalScore?_eq_some_iff {params : List ParamInfo} {args : List Value} {total : Nat} :
    totalScore? params args = some total ↔ params.length = args.length ∧
      ∃ scores : List Nat,
        List.zipWith ParamInfo.score? params args = scores.map some ∧ scores.sum = total := by
  induction params generalizing args total with
  | nil =>
    cases args with
    | nil =>
      constructor
      · rintro h
        obtain rfl := Option.some.inj h
        exact ⟨rfl, [], rfl, rfl⟩
      · rintro ⟨-, scores, hscores, rfl⟩
        obtain rfl : scores = [] := List.map_eq_nil_iff.1 hscores.symm
        rfl
    | cons => simp [totalScore?]
  | cons p params ih =>
    cases args with
    | nil => simp [totalScore?]
    | cons arg args =>
      simp only [totalScore?, Option.bind_eq_bind, Option.bind_eq_some_iff, ih]
      constructor
      · rintro ⟨first, hfirst, _, ⟨harity, scores, hscores, rfl⟩, hsum⟩
        refine ⟨congrArg (· + 1) harity, first :: scores, ?_, Option.some.inj hsum⟩
        rw [List.zipWith_cons_cons, hfirst, hscores, List.map_cons]
      · rintro ⟨harity, scores, hscores, rfl⟩
        cases scores with
        | nil => cases hscores
        | cons first scores =>
          obtain ⟨hfirst, hrest⟩ := List.cons.inj hscores
          exact ⟨first, hfirst, scores.sum, ⟨Nat.succ.inj harity, scores, hrest, rfl⟩, rfl⟩

namespace MemberTable

variable {table : MemberTable} {name : String} {args : List Value}

/-! ## Candidates -/

/-- The overloads of a name that fit the arguments, each with its total, in table order. -/
def candidates (table : MemberTable) (name : String) (args : List Value) :
    List (MemberDescriptor × Nat) :=
  (table.methodsNamed name).filterMap fun d =>
    (totalScore? d.params args).map fun total => (d, total)

/-- The candidates that no other one exceeds, in table order. -/
def best (table : MemberTable) (name : String) (args : List Value) : List MemberDescriptor :=
  ((table.candidates name args).filter fun c =>
    ∀ other ∈ table.candidates name args, other.2 ≤ c.2).map Prod.fst

theorem mem_candidates_iff {c : MemberDescriptor × Nat} :
    c ∈ table.candidates name args ↔
      c.1 ∈ table.methodsNamed name ∧ totalScore? c.1.params args = some c.2 := by
  simp only [candidates, List.mem_filterMap, Option.map_eq_some_iff]
  constructor
  · rintro ⟨d, hd, total, htotal, rfl⟩
    exact ⟨hd, htotal⟩
  · rintro ⟨hd, htotal⟩
    exact ⟨c.1, hd, c.2, htotal, rfl⟩

/-- A candidate is a visible method of the name that fits the arguments. -/
theorem mem_candidates_iff_fits {d : MemberDescriptor} {total : Nat} :
    (d, total) ∈ table.candidates name args ↔
      d ∈ table.methods ∧ d.name = name ∧ d.Fits args total := by
  rw [mem_candidates_iff, methodsNamed, List.mem_filter, beq_iff_eq, totalScore?_eq_some_iff,
    and_assoc]
  exact and_congr_right' (and_congr_right' ⟨fun h => ⟨h.1, h.2⟩, fun h => ⟨h.arity, h.scored⟩⟩)

/-- The candidates of one total, in table order. -/
theorem map_fst_filter_candidates (total : Nat) :
    ((table.candidates name args).filter fun c => c.2 = total).map Prod.fst =
      (table.methodsNamed name).filter fun d => totalScore? d.params args = some total := by
  rw [candidates]
  induction table.methodsNamed name with
  | nil => rfl
  | cons d rest ih =>
    rw [List.filterMap_cons, List.filter_cons]
    cases hscore : totalScore? d.params args with
    | none => simpa using ih
    | some score =>
      simp only [Option.map_some, List.filter_cons]
      by_cases htotal : score = total
      · simp [htotal, ih]
      · simp [htotal, ih]

/-- The candidates stand in the order of the table. -/
theorem sublist_map_fst_candidates :
    ((table.candidates name args).map Prod.fst).Sublist table.methods := by
  have hfst : (table.candidates name args).map Prod.fst =
      (table.methodsNamed name).filter fun d => (totalScore? d.params args).isSome := by
    rw [candidates]
    induction table.methodsNamed name with
    | nil => rfl
    | cons d rest ih =>
      rw [List.filterMap_cons, List.filter_cons]
      cases hscore : totalScore? d.params args <;> simp [ih]
  rw [hfst]
  exact List.filter_sublist.trans List.filter_sublist

/-- Without leaders there is no candidate at all. -/
theorem candidates_eq_nil_of_tied_leaders (h : (table.leaders name args).tied = []) :
    table.candidates name args = [] := by
  rw [List.eq_nil_iff_forall_not_mem]
  intro c hc
  obtain ⟨hd, htotal⟩ := mem_candidates_iff.1 hc
  rw [(Leaders.leads_foldl args (table.methodsNamed name)).eq_none h c.1 hd] at htotal
  cases htotal

/-- The leaders that the pass ends with are the candidates of the greatest total. -/
theorem tied_leaders : (table.leaders name args).tied = table.best name args := by
  have hleads : Leaders.Leads args (table.methodsNamed name) (table.leaders name args) :=
    Leaders.leads_foldl args (table.methodsNamed name)
  have hbound : ∀ c ∈ table.candidates name args, c.2 ≤ (table.leaders name args).score := by
    intro c hc
    obtain ⟨hd, htotal⟩ := mem_candidates_iff.1 hc
    exact hleads.le_score c.1 hd c.2 htotal
  cases htied : (table.leaders name args).tied with
  | nil => rw [best, candidates_eq_nil_of_tied_leaders htied, List.filter_nil, List.map_nil]
  | cons leader others =>
    have hleader : (leader, (table.leaders name args).score) ∈ table.candidates name args := by
      have hmem : leader ∈ (table.leaders name args).tied := htied ▸ List.mem_cons_self
      rw [hleads.tied_eq, List.mem_filter, decide_eq_true_iff] at hmem
      exact mem_candidates_iff.2 hmem
    rw [← htied, hleads.tied_eq, ← map_fst_filter_candidates, best]
    -- The leaders' total is reached, so it is the only one that no total exceeds.
    congr 1
    refine List.filter_congr fun c hc => decide_eq_decide.2 ⟨?_, ?_⟩
    · intro heq other hother
      exact heq ▸ hbound other hother
    · intro hgreatest
      exact Nat.le_antisymm (hbound c hc) (hgreatest _ hleader)

theorem best_eq_nil_iff : table.best name args = [] ↔ table.candidates name args = [] := by
  constructor
  · intro h
    rw [← tied_leaders] at h
    exact candidates_eq_nil_of_tied_leaders h
  · intro h
    rw [best, h, List.filter_nil, List.map_nil]

/-- A single best candidate is one whose total is greater than all others. -/
theorem best_eq_singleton_iff {d : MemberDescriptor} :
    table.best name args = [d] ↔ ∃ before total after,
      table.candidates name args = before ++ (d, total) :: after ∧
        ∀ c ∈ before ++ after, c.2 < total := by
  rw [best, List.map_eq_singleton_iff]
  constructor
  · rintro ⟨⟨d, total⟩, hbest, rfl⟩
    obtain ⟨before, after, hsplit, hbefore, hgreatest, hafter⟩ := List.filter_eq_cons_iff.1 hbest
    rw [decide_eq_true_iff] at hgreatest
    refine ⟨before, total, after, hsplit, fun c hc => Nat.lt_of_not_le fun hle => ?_⟩
    have hall : ∀ other ∈ table.candidates name args, other.2 ≤ c.2 := by
      intro other hother
      exact Nat.le_trans (hgreatest other hother) hle
    rcases List.mem_append.1 hc with hc | hc
    · exact hbefore c hc (decide_eq_true hall)
    · exact List.filter_eq_nil_iff.1 hafter c hc (decide_eq_true hall)
  · rintro ⟨before, total, after, hsplit, hless⟩
    have hmem : (d, total) ∈ table.candidates name args := by
      rw [hsplit]
      exact List.mem_append_right before List.mem_cons_self
    have hbelow : ∀ c ∈ before ++ after,
        ¬decide (∀ other ∈ table.candidates name args, other.2 ≤ c.2) = true := by
      intro c hc hall
      exact Nat.not_le_of_lt (hless c hc) (of_decide_eq_true hall (d, total) hmem)
    refine ⟨(d, total), ?_, rfl⟩
    refine List.filter_eq_cons_iff.2 ⟨before, after, hsplit, ?_, decide_eq_true ?_, ?_⟩
    · intro c hc
      exact hbelow c (List.mem_append_left after hc)
    · intro other hother
      rw [hsplit, List.mem_append, List.mem_cons] at hother
      rcases hother with hother | rfl | hother
      · exact Nat.le_of_lt (hless other (List.mem_append_left after hother))
      · exact Nat.le_refl total
      · exact Nat.le_of_lt (hless other (List.mem_append_right before hother))
    · rw [List.filter_eq_nil_iff]
      intro c hc
      exact hbelow c (List.mem_append_right before hc)

/-- The best candidates do not depend on the order of the overloads. -/
theorem best_perm {other : MemberTable}
    (h : (other.methodsNamed name).Perm (table.methodsNamed name)) :
    (other.best name args).Perm (table.best name args) := by
  have hcandidates : (other.candidates name args).Perm (table.candidates name args) :=
    h.filterMap _
  have hgreatest : ∀ c : MemberDescriptor × Nat,
      (∀ rival ∈ other.candidates name args, rival.2 ≤ c.2) ↔
        ∀ rival ∈ table.candidates name args, rival.2 ≤ c.2 := fun c =>
    forall_congr' fun rival => imp_congr_left hcandidates.mem_iff
  simp only [best, hgreatest]
  exact (hcandidates.filter _).map Prod.fst

/-! ## The choice -/

theorem resolveCall_eq_ok_iff_best {d : MemberDescriptor} :
    table.resolveCall name args = .ok d ↔ table.best name args = [d] := by
  rw [resolveCall_eq_ok_iff, tied_leaders]

theorem resolveCall_eq_ambiguous_iff {type : ShortName} {member : String}
    {texts : List String} :
    table.resolveCall name args = .error (.ambiguousOverload type member texts) ↔
      2 ≤ (table.best name args).length ∧ type = table.typeName ∧ member = name ∧
        texts = (table.best name args).map MemberDescriptor.display := by
  rw [resolveCall, tied_leaders]
  rcases table.best name args with _ | ⟨first, _ | ⟨second, rest⟩⟩
  · simp [notFound]
  · simp
  · simp [eq_comm]

theorem resolveCall_eq_notFound_iff {type : ShortName} {member : String} :
    table.resolveCall name args = .error (.memberNotFound type member) ↔
      table.candidates name args = [] ∧ type = table.typeName ∧
        member = signature name (args.map fun v => v.typeName.display) := by
  rw [resolveCall, tied_leaders, ← best_eq_nil_iff]
  rcases table.best name args with _ | ⟨first, _ | ⟨second, rest⟩⟩
  · simp [notFound, eq_comm]
  · simp
  · simp

/-- A call means the same in two tables, up to the order in which overloads are listed. -/
structure SameChoice (table other : MemberTable) (name : String) (args : List Value) : Prop where
  /-- The same overloads fit the arguments, with the same totals. -/
  fits : (other.candidates name args).Perm (table.candidates name args)
  /-- The same overload is chosen. -/
  chosen : ∀ d, other.resolveCall name args = .ok d ↔ table.resolveCall name args = .ok d
  /-- The same overloads are tied. -/
  tied : (other.best name args).Perm (table.best name args)

/-- The same overloads in another order give the same choice. -/
theorem sameChoice_of_perm {other : MemberTable}
    (h : (other.methodsNamed name).Perm (table.methodsNamed name)) :
    table.SameChoice other name args := by
  have hbest : (other.best name args).Perm (table.best name args) := best_perm h
  refine ⟨h.filterMap _, fun d => ?_, hbest⟩
  rw [resolveCall_eq_ok_iff_best, resolveCall_eq_ok_iff_best]
  -- A list of one overload has no other order.
  constructor
  · intro hd
    rw [hd] at hbest
    exact (List.singleton_perm.1 hbest).symm
  · intro hd
    rw [hd] at hbest
    exact List.perm_singleton.1 hbest

end MemberTable

/-! ## Declarations in another order -/

namespace TypeInfo

/-- Two descriptions of one type with the same base and the same methods in any order. -/
structure Reordered (a b : TypeInfo) : Prop where
  id_eq : a.id = b.id
  base_eq : a.base = b.base
  methods_perm : a.methods.Perm b.methods

/-- Methods of a name with the same parameters are described alike. -/
def TellsApart (info : TypeInfo) (name : String) : Prop :=
  ∀ m ∈ info.methods, ∀ n ∈ info.methods, m.name = name → n.name = name →
    m.paramKeys = n.paramKeys → MemberDescriptor.ofMethod info m = .ofMethod info n

/-- A method is found by its name and parameters in any order of the methods. -/
theorem Reordered.find?_map_ofMethod {a b : TypeInfo} (h : a.Reordered b)
    {key : String × List ParamKey} (hapart : a.TellsApart key.1) :
    (a.methods.map (MemberDescriptor.ofMethod a)).find?
        (fun d => MemberTable.overloadKey d == key) =
      (b.methods.map (MemberDescriptor.ofMethod b)).find?
        fun d => MemberTable.overloadKey d == key := by
  have hdescribe : MemberDescriptor.ofMethod a = MemberDescriptor.ofMethod b := by
    funext m
    rw [MemberDescriptor.ofMethod, MemberDescriptor.ofMethod, h.id_eq]
  have hone : {d ∈ a.methods.map (MemberDescriptor.ofMethod a) |
      MemberTable.overloadKey d == key}.Subsingleton := by
    rintro d ⟨hd, hdkey⟩ e ⟨he, hekey⟩
    obtain ⟨m, hm, rfl⟩ := List.mem_map.1 hd
    obtain ⟨n, hn, rfl⟩ := List.mem_map.1 he
    obtain rfl : (m.name, m.paramKeys) = key := beq_iff_eq.1 hdkey
    obtain ⟨hname, hparams⟩ := Prod.mk.inj (beq_iff_eq.1 hekey)
    exact hapart m hm n hn rfl hname hparams.symm
  -- There is one descriptor of the key, whichever method of the key comes first.
  rw [← hdescribe]
  exact List.find?_eq_find?_of_perm (h.methods_perm.map _) hone

end TypeInfo

namespace Registry

/-- Two registries of the same types, each type with its methods in any order. -/
def Reordered (a b : Registry) : Prop :=
  List.Forall₂ TypeInfo.Reordered a.entries b.entries

namespace Reordered

variable {a b : Registry}

theorem size_eq (h : a.Reordered b) : a.size = b.size :=
  h.length_eq

/-- A type is described in both or in neither. -/
theorem rel_find? (h : a.Reordered b) (type : TypeId) :
    Option.Rel TypeInfo.Reordered (a.find? type) (b.find? type) := by
  rw [Reordered] at h
  rw [Registry.find?, Registry.find?]
  generalize a.entries = infos at h ⊢
  generalize b.entries = others at h ⊢
  induction h with
  | nil => exact .none
  | @cons first other rest others hfirst _ ih =>
    rw [List.find?_cons, List.find?_cons, hfirst.id_eq]
    split
    · exact .some hfirst
    · exact ih

/-- The chains of bases go through the same types. -/
theorem forall₂_chain (h : a.Reordered b) (steps : Nat) (type : TypeId) :
    List.Forall₂ TypeInfo.Reordered (a.chain steps type) (b.chain steps type) := by
  induction steps generalizing type with
  | zero => exact .nil
  | succ steps ih =>
    have hfind := h.rel_find? type
    rw [Registry.chain, Registry.chain]
    -- Both chains end here, or both go on to one base.
    generalize a.find? type = found at hfind ⊢
    generalize b.find? type = other at hfind ⊢
    cases hfind with
    | none => exact .nil
    | @some info other hinfo =>
      refine .cons hinfo ?_
      rw [hinfo.base_eq]
      cases other.base with
      | none => exact .nil
      | some base => exact ih base.type

theorem forall₂_ancestors (h : a.Reordered b) (type : TypeId) :
    List.Forall₂ TypeInfo.Reordered (a.ancestors type) (b.ancestors type) := by
  rw [Registry.ancestors, Registry.ancestors, h.size_eq]
  exact h.forall₂_chain b.size type

end Reordered

end Registry

namespace MemberTable

/-- A method is found by its key in any order of the methods. -/
theorem findSome?_reordered {owners others : List TypeInfo}
    (h : List.Forall₂ TypeInfo.Reordered owners others) (key : String × List ParamKey)
    (hapart : ∀ owner ∈ owners, owner.TellsApart key.1) :
    (owners.findSome? fun owner =>
        (owner.methods.map (.ofMethod owner)).find? fun d => overloadKey d == key) =
      others.findSome? fun owner =>
        (owner.methods.map (.ofMethod owner)).find? fun d => overloadKey d == key := by
  induction h with
  | nil => rfl
  | @cons owner other owners others hfirst _ ih =>
    obtain ⟨hown, hrest⟩ := List.forall_mem_cons.1 hapart
    rw [List.findSome?_cons, List.findSome?_cons, hfirst.find?_map_ofMethod hown, ih hrest]

/-- Declaring the methods of each type in another order permutes the overloads of a name. -/
theorem methodsNamed_build_perm {a b : Registry} (h : a.Reordered b) {type : TypeId}
    {name : String} (hapart : ∀ info ∈ a.ancestors type, info.TellsApart name) :
    ((build b type).methodsNamed name).Perm ((build a type).methodsNamed name) := by
  -- No table lists a method twice, so what is in it decides.
  rw [methodsNamed, methodsNamed, List.perm_ext_iff_of_nodup
    ((nodup_methods_build b type).filter _) ((nodup_methods_build a type).filter _)]
  intro d
  rw [List.mem_filter, List.mem_filter]
  refine and_congr_left fun hname => ?_
  obtain rfl : d.name = name := beq_iff_eq.1 hname
  rw [mem_methods_build_iff, mem_methods_build_iff,
    findSome?_reordered (h.forall₂_ancestors type) (overloadKey d) hapart]

/-- So the order of the declarations does not change what a call means. -/
theorem sameChoice_build {a b : Registry} (h : a.Reordered b) {type : TypeId} {name : String}
    (hapart : ∀ info ∈ a.ancestors type, info.TellsApart name) {args : List Value} :
    (build a type).SameChoice (build b type) name args :=
  sameChoice_of_perm (methodsNamed_build_perm h hapart)

/-! ## The law -/

/-- The choice among the overloads of a name is the choice of the greatest total. -/
structure SelectsGreatest (table : MemberTable) (name : String) (args : List Value) : Prop where
  /-- The candidates are the visible methods of the name that fit the arguments. -/
  candidate : ∀ d total, (d, total) ∈ table.candidates name args ↔
    d ∈ table.methods ∧ d.name = name ∧ d.Fits args total
  /-- They stand in table order. -/
  order : ((table.candidates name args).map Prod.fst).Sublist table.methods
  /-- An overload is chosen if its total is greater than that of every other candidate. -/
  chosen : ∀ d, table.resolveCall name args = .ok d ↔ ∃ before total after,
    table.candidates name args = before ++ (d, total) :: after ∧
      ∀ c ∈ before ++ after, c.2 < total
  /-- Several candidates of the greatest total are all named, and no others. -/
  ambiguous : ∀ type member texts,
    table.resolveCall name args = .error (.ambiguousOverload type member texts) ↔
      2 ≤ (table.best name args).length ∧ type = table.typeName ∧ member = name ∧
        texts = (table.best name args).map MemberDescriptor.display
  /-- There is no member only if there is no candidate. -/
  missing : ∀ type member,
    table.resolveCall name args = .error (.memberNotFound type member) ↔
      table.candidates name args = [] ∧ type = table.typeName ∧
        member = signature name (args.map fun v => v.typeName.display)
  /-- The same overloads in another order give the same choice. -/
  unordered : ∀ other : MemberTable,
    (other.methodsNamed name).Perm (table.methodsNamed name) → table.SameChoice other name args
  /-- So do the same declarations in another order, if those of the name with the same parameters
  are described alike. -/
  redeclared : ∀ (a b : Registry) (type : TypeId), build a type = table → a.Reordered b →
    (∀ info ∈ a.ancestors type, info.TellsApart name) →
      table.SameChoice (build b type) name args

/-- Of the overloads that fit the arguments, a call means the one of the greatest total. -/
theorem selectsGreatest (table : MemberTable) (name : String) (args : List Value) :
    table.SelectsGreatest name args where
  candidate _ _ := mem_candidates_iff_fits
  order := sublist_map_fst_candidates
  chosen _ := resolveCall_eq_ok_iff_best.trans best_eq_singleton_iff
  ambiguous _ _ _ := resolveCall_eq_ambiguous_iff
  missing _ _ := resolveCall_eq_notFound_iff
  unordered _ h := sameChoice_of_perm h
  redeclared := by
    rintro a b type rfl h hapart
    exact sameChoice_build h hapart

end MemberTable

/-! ## Two methods of one name -/

namespace Twins

def clock : TypeId := .named "Clock"

/-- A body that leaves everything as it is. -/
def idle : MethodBody :=
  ⟨fun _ frame store => ⟨.ok none, frame, store⟩⟩

/-- A method of one name, static or not. -/
def method (isStatic : Bool) (params : List ParamInfo) : MethodInfo where
  name := "Now"
  visibility := .pub
  declaring := clock
  params := params
  returnType := none
  body := if isStatic then .shared idle else .perInstance fun _ => idle

/-- The registry of a type that declares such methods. -/
def registry (methods : List (Bool × List ParamInfo)) : Registry :=
  Registry.empty.insert
    { TypeInfo.ofInterface clock with
      methods := methods.map fun m => method m.1 m.2
      methods_declaring := by
        intro m hm
        obtain ⟨_, _, rfl⟩ := List.mem_map.1 hm
        rfl
      generics_fit := by simp [TypeInfo.ofInterface] }

theorem reordered_registry (first second : Bool × List ParamInfo) :
    (registry [first, second]).Reordered (registry [second, first]) :=
  .cons ⟨rfl, rfl, List.Perm.swap ..⟩ .nil

/-- Whether the method that a call without arguments means is static. -/
def chosenStatic (r : Registry) : Option Bool :=
  ((MemberTable.build r clock).resolveCall "Now" []).toOption.map MemberDescriptor.isStatic

/-- A parameter that is only written. -/
def output : ParamInfo := ⟨"now", .bool, .out⟩

/-- A parameter that is read. -/
def input : ParamInfo := ⟨"zone", .bool, .value⟩

/-- A static method and one that needs an instance may be declared in either order if their
parameters differ. -/
theorem sameChoice_registry :
    (registry [(true, [output]), (false, [input])]).Reordered
        (registry [(false, [input]), (true, [output])]) ∧
      (∀ info ∈ (registry [(true, [output]), (false, [input])]).ancestors clock,
        info.TellsApart "Now") ∧
      (MemberTable.build (registry [(true, [output]), (false, [input])]) clock).SameChoice
        (MemberTable.build (registry [(false, [input]), (true, [output])]) clock)
        "Now" [.bool true] := by
  have hreordered : (registry [(true, [output]), (false, [input])]).Reordered
      (registry [(false, [input]), (true, [output])]) := reordered_registry ..
  have hapart : ∀ info ∈ (registry [(true, [output]), (false, [input])]).ancestors clock,
      info.TellsApart "Now" := by
    intro info hinfo m hm n hn _ _ hparams
    obtain rfl := List.mem_singleton.1 hinfo
    rcases List.mem_pair.1 hm with rfl | rfl <;> rcases List.mem_pair.1 hn with rfl | rfl
    · rfl
    · cases hparams
    · cases hparams
    · rfl
  exact ⟨hreordered, hapart, (MemberTable.selectsGreatest _ "Now" [.bool true]).redeclared _ _
    clock rfl hreordered hapart⟩

/-- Of a static method and one with the same parameters that needs an instance, the one that is
declared first is called: the order of the declarations changes what a call means. -/
theorem chosenStatic_registry :
    (registry [(true, []), (false, [])]).Reordered (registry [(false, []), (true, [])]) ∧
      chosenStatic (registry [(true, []), (false, [])]) = some true ∧
      chosenStatic (registry [(false, []), (true, [])]) = some false :=
  ⟨reordered_registry .., rfl, rfl⟩

end Twins

end Reflection

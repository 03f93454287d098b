import Reflection.Proofs.CacheHistory
import Reflection.Proofs.MemberTables
import Reflection.Proofs.Overloads

/-!
# Remembered calls

A cache remembers the overload of a call by the type of the member table, the name and the types
of the arguments. What it remembers is what its own registry chooses for every call of that shape
(`AccessorCache.Faithful`), as long as no call of the shape brings a table of another registry
(`CacheRequest.UsesOwnTable`).

Main statement: `AccessorCache.resolveCall_memo_transparent`. The condition is needed: the memo
does not look at the table again, so what a foreign table chose is given for later calls too
(`AccessorCache.resolveCall_memo_foreign`).
-/

set_option autoImplicit false

namespace Reflection

/-- What a call of a table is remembered by. -/
def MemberTable.shape (table : MemberTable) (name : String) (args : List Value) : CallShape :=
  ⟨table.type, name, args.map Value.typeKey?⟩

/-- A call of the shape that is given a member table is given the table of this registry. -/
def CacheRequest.UsesOwnTable (r : Registry) (shape : CallShape) : CacheRequest → Prop
  | .resolveCall table name args => table.shape name args = shape → table = .build r table.type
  | _ => True

namespace AccessorCache

/-- What is remembered for the shape is what the registry chooses for every call of the shape. -/
def Faithful (c : AccessorCache) (r : Registry) (shape : CallShape) : Prop :=
  ∀ s, c.calls.find? shape = some s →
    ∀ args : List Value, args.map Value.typeKey? = shape.args →
      (MemberTable.build r shape.type).resolveCall shape.name args = .ok s.item

theorem faithful_ofRegistry (r : Registry) (shape : CallShape) :
    (ofRegistry r).Faithful r shape := by
  intro s hs
  cases hs

namespace Faithful

variable {c : AccessorCache} {r : Registry} {shape : CallShape}

theorem of_calls_eq {c' : AccessorCache} (h : c.Faithful r shape) (hcalls : c'.calls = c.calls) :
    c'.Faithful r shape := by
  intro s hs
  rw [hcalls] at hs
  exact h s hs

/-- Choosing remembers at most what the table chooses for the types of the arguments. -/
theorem resolveCall (h : c.Faithful r shape) {table : MemberTable} {name : String}
    {args : List Value} (hown : table.shape name args = shape → table = .build r table.type) :
    (c.resolveCall table name args).2.Faithful r shape := by
  intro s hs others hothers
  change (c.calls.getOrMake (table.shape name args) (table.resolveCall name args)).2.find? shape =
    some s at hs
  rcases c.calls.getOrMake_cases (table.shape name args) (table.resolveCall name args) with
    ⟨t, -, hget⟩ | ⟨e, -, -, hget⟩ | ⟨d, hnew, hd, hget⟩
  · rw [hget] at hs
    exact h s hs others hothers
  · rw [hget] at hs
    exact h s hs others hothers
  · rw [hget] at hs
    by_cases hshape : shape = table.shape name args
    · subst hshape
      rw [Memo.find?_push_self d hnew, Option.some.injEq] at hs
      subst hs
      rw [hown rfl, MemberTable.resolveCall_eq_ok_congr hothers.symm] at hd
      exact hd
    · rw [Memo.find?_push_of_ne _ d hshape] at hs
      exact h s hs others hothers

/-- One request keeps what is remembered faithful. -/
theorem apply (h : c.Faithful r shape) (hsound : c.Sound r) {q : CacheRequest}
    (hown : q.UsesOwnTable r shape) : (q.apply c).Faithful r shape := by
  have hasks : (q.asks c).2.Faithful r shape := by
    cases q with
    | accessor a => exact h
    | accessorOfKind kind d => exact h
    | memberTable type => exact h.of_calls_eq (c.calls_memberTable type)
    | resolveCall table name args => exact h.resolveCall hown
    | get target name store => exact h.of_calls_eq (c.calls_memberTable _)
    | set target name v store => exact h.of_calls_eq (c.calls_memberTable _)
    | call target name args store =>
      -- A handle always brings the table that the cache itself keeps.
      refine (h.of_calls_eq (c.calls_memberTable _)).resolveCall fun _ => ?_
      rw [Handle.table, hsound.memberTable_fst, MemberTable.type_build]
    | callGeneric target name typeArgs args store =>
      exact h.of_calls_eq (c.calls_memberTable _)
  rw [q.apply_eq c]
  cases (q.asks c).1 with
  | none => exact hasks
  | some a => exact hasks.of_calls_eq (a.ask_calls _)

/-- Every history keeps what is remembered faithful. -/
theorem run (h : c.Faithful r shape) (hsound : c.Sound r) {history : List CacheRequest}
    (hown : ∀ q ∈ history, q.UsesOwnTable r shape) : (c.run history).Faithful r shape := by
  induction history generalizing c with
  | nil => exact h
  | cons q history ih =>
    have hq : q.UsesOwnTable r shape := hown q List.mem_cons_self
    exact ih (h.apply hsound hq) (hsound.apply q) fun other hother =>
      hown other (List.mem_cons_of_mem q hother)

/-- A faithful cache gives what the registry chooses. -/
theorem resolveCall_fst {type : TypeId} {name : String} {args : List Value}
    (h : c.Faithful r ⟨type, name, args.map Value.typeKey?⟩) :
    (c.resolveCall (.build r type) name args).1 =
      (MemberTable.build r type).resolveCall name args := by
  change (c.calls.getOrMake ((MemberTable.build r type).shape name args)
    ((MemberTable.build r type).resolveCall name args)).1.map Stored.item = _
  have hshape : (MemberTable.build r type).shape name args =
      ⟨type, name, args.map Value.typeKey?⟩ := by
    rw [MemberTable.shape, MemberTable.type_build]
  rw [hshape]
  rcases c.calls.getOrMake_cases ⟨type, name, args.map Value.typeKey?⟩
    ((MemberTable.build r type).resolveCall name args) with
    ⟨s, hfind, hget⟩ | ⟨e, -, he, hget⟩ | ⟨d, -, hd, hget⟩
  · rw [hget, h s hfind args rfl]
    rfl
  · rw [hget, he]
    rfl
  · rw [hget, hd]
    rfl

end Faithful

end AccessorCache

/-! ## Two registries -/

namespace ForeignTable

/-- A type whose instances are called. -/
def echo : TypeId := .named "Echo"

/-- A type that is the base of `echo` in one of the registries. -/
def person : TypeId := .named "Person"

/-- A method of each instance that takes an integer and does nothing. -/
def go (owner : TypeId) : MethodInfo where
  name := "Go"
  visibility := .pub
  declaring := owner
  params := [⟨"value", .number (.int .i32), .value⟩]
  returnType := none
  body := .perInstance fun _ => ⟨fun _ frame store => ⟨.ok none, frame, store⟩⟩

/-- A type without members. -/
def bare (id : TypeId) (base : Option BaseInfo) : TypeInfo :=
  { TypeInfo.ofInterface id with kind := .ordinary, base := base }

/-- A type without base whose one method is `go`. -/
def withGo (id : TypeId) : TypeInfo :=
  { bare id none with
    methods := [go id]
    methods_declaring := by simp [go, bare, TypeInfo.ofInterface] }

/-- Each of the types has a method of its own. -/
def home : Registry :=
  (Registry.empty.insert (withGo echo)).insert (withGo person)

/-- One of the types inherits the method of the other one. -/
def abroad : Registry :=
  (Registry.empty.insert (bare echo (some (.embedded person)))).insert (withGo person)

def one : Value := .int ⟨.i32, 1, by decide⟩

def two : Value := .int ⟨.i32, 2, by decide⟩

/-- An instance of the first type. -/
def handle : Handle := ⟨⟨.numbered 0, echo⟩⟩

/-- Calls by one argument of an integer kind use the own table, a call by a text another one. -/
def ownHistory : List CacheRequest :=
  [.resolveCall (.build abroad echo) "Go" [.string "one"], .call handle "Go" [one] .empty,
    .resolveCall (.build home echo) "Go" [one]]

/-- A call by one argument of an integer kind uses a table of the other registry. -/
def foreignHistory : List CacheRequest :=
  [.resolveCall (.build abroad echo) "Go" [one]]

theorem usesOwnTable_ownHistory :
    ∀ q ∈ ownHistory, q.UsesOwnTable home ⟨echo, "Go", [two].map Value.typeKey?⟩ := by
  intro q hq
  rcases List.mem_cons.1 hq with rfl | hq
  · intro hshape
    exact absurd hshape (by decide)
  · rcases List.mem_cons.1 hq with rfl | hq
    · trivial
    · rw [List.mem_singleton.1 hq]
      intro _
      rw [MemberTable.type_build]

end ForeignTable

/-! ## Transparency -/

namespace AccessorCache

open ForeignTable

/-- The memo of calls is transparent. After every history whose calls of the shape used the tables
of the cache's registry, a call is resolved, or fails, exactly as without any memo. -/
theorem resolveCall_memo_transparent (r : Registry) (history : List CacheRequest) (type : TypeId)
    (name : String) (args : List Value)
    (hown : ∀ q ∈ history, q.UsesOwnTable r ⟨type, name, args.map Value.typeKey?⟩) :
    (((ofRegistry r).run history).resolveCall (.build r type) name args).1 =
      (MemberTable.build r type).resolveCall name args := by
  have hempty := faithful_ofRegistry r ⟨type, name, args.map Value.typeKey?⟩
  exact (hempty.run (sound_ofRegistry r) hown).resolveCall_fst

/-- What a call by another number remembered is what the registry chooses. -/
theorem resolveCall_memo_home :
    (∀ q ∈ ownHistory, q.UsesOwnTable home ⟨echo, "Go", [two].map Value.typeKey?⟩) ∧
      (((ofRegistry home).run ownHistory).resolveCall (.build home echo) "Go" [two]).1.map
        MemberDescriptor.display = .ok "Echo::Go(i32)" := by
  refine ⟨usesOwnTable_ownHistory, ?_⟩
  rw [resolveCall_memo_transparent home ownHistory echo "Go" [two] usesOwnTable_ownHistory]
  rfl

/-- Without the condition the memo shows: what a foreign table chose is given again. -/
theorem resolveCall_memo_foreign :
    ¬ ∀ (r : Registry) (history : List CacheRequest) (type : TypeId) (name : String)
      (args : List Value),
      (((ofRegistry r).run history).resolveCall (.build r type) name args).1 =
        (MemberTable.build r type).resolveCall name args := by
  intro h
  have hmemo : (((ofRegistry home).run foreignHistory).resolveCall (.build home echo) "Go"
      [one]).1.map MemberDescriptor.display = .ok "Person::Go(i32)" := rfl
  have hown : ((MemberTable.build home echo).resolveCall "Go" [one]).map
      MemberDescriptor.display = .ok "Echo::Go(i32)" := rfl
  rw [h home foreignHistory echo "Go" [one], hown] at hmemo
  exact absurd hmemo (by decide)

end AccessorCache

end Reflection

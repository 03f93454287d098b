import Reflection.Registry.Basic

/-!
# Registration

A catalog says how every described type is built and which other types it needs. Registering a
type adds its description, then registers its base, then the types that it needs, in order. A type
that is there already ends the walk, so cycles do no harm.

* `Catalog.registerAll` walks a list of types; a type's base and needs go in front of the rest of
  the list.
* `Catalog.autoRegister` registers the submitted types once per registry.

A description that cannot be built ends the walk: its type is not registered, the types before it
are.
-/

set_option autoImplicit false
set_option linter.unusedVariables false

namespace Reflection

/-- How a type is described. -/
structure Description where
  draft : TypeDraft
  /-- The types that are registered with the type, besides its base. -/
  dependencies : List TypeId

/-- What a registration leaves behind. -/
structure Registration where
  registry : Registry
  /-- What ended the walk before all types were registered. -/
  fault : Option BuildError

/-- All described types. -/
structure Catalog where
  descriptions : List Description

namespace Catalog

/-- The description of a type. -/
def describe? (c : Catalog) (type : TypeId) : Option Description :=
  c.descriptions.find? fun d => d.draft.id == type

/-- The described types that are not registered. -/
def missing (c : Catalog) (r : Registry) : List Description :=
  c.descriptions.filter fun d => !r.contains d.draft.id

theorem describe?_id {c : Catalog} {type : TypeId} {d : Description}
    (h : c.describe? type = some d) : d.draft.id = type := by
  simpa using List.find?_some h

theorem describe?_mem {c : Catalog} {type : TypeId} {d : Description}
    (h : c.describe? type = some d) : d ∈ c.descriptions :=
  List.mem_of_find?_eq_some h

theorem contains_insert_of_contains {r : Registry} {type : TypeId} (info : TypeInfo)
    (h : r.contains type) : (r.insert info).contains type := by
  unfold Registry.contains
  rw [Registry.find?_insert_of_contains info h]
  exact h

/-- What is missing after an insertion was missing before. -/
theorem missing_insert (c : Catalog) (r : Registry) (info : TypeInfo) :
    c.missing (r.insert info) =
      (c.missing r).filter fun d => !(r.insert info).contains d.draft.id := by
  rw [missing, missing, List.filter_filter]
  refine List.filter_congr fun d _ => ?_
  cases hd : r.contains d.draft.id with
  | false => simp
  | true => simp [contains_insert_of_contains info hd]

/-- Registering a described type leaves fewer missing. -/
theorem missing_insert_lt {c : Catalog} {r : Registry} {d : Description} {info : TypeInfo}
    (hmem : d ∈ c.descriptions) (hnew : r.contains d.draft.id = false)
    (hid : info.id = d.draft.id) :
    (c.missing (r.insert info)).length < (c.missing r).length := by
  have hmissing : d ∈ c.missing r := List.mem_filter.2 ⟨hmem, by simp [hnew]⟩
  have hthere : (r.insert info).contains d.draft.id := hid ▸ r.contains_insert info
  rw [missing_insert, List.length_filter_lt_length_iff_exists]
  exact ⟨d, hmissing, by simp [hthere]⟩

/-- Registers a list of types, each with its base and the types that it needs. -/
def registerAll (c : Catalog) (work : List TypeId) (r : Registry) : Registration :=
  match work with
  | [] => ⟨r, none⟩
  | type :: rest =>
    if hnew : r.contains type then c.registerAll rest r
    else
      match hd : c.describe? type with
      | none => c.registerAll rest r
      | some d =>
        match hb : d.draft.build with
        | .error fault => ⟨r, some fault⟩
        | .ok info =>
          -- The base comes first, then what the type needs, then the rest.
          c.registerAll (info.base.toList.map BaseInfo.type ++ d.dependencies ++ rest)
            (r.insert info)
termination_by ((c.missing r).length, work.length)
decreasing_by
  · exact Prod.Lex.right _ (Nat.lt_succ_self _)
  · exact Prod.Lex.right _ (Nat.lt_succ_self _)
  · apply Prod.Lex.left
    have hid := describe?_id hd
    refine missing_insert_lt (describe?_mem hd) ?_ (TypeDraft.id_of_build hb)
    rw [hid]
    simpa using hnew

/-- Registers a type with everything that it needs. -/
def register (c : Catalog) (type : TypeId) (r : Registry) : Registration :=
  c.registerAll [type] r

/-- Registers the submitted types, unless that was done before. A walk that a fault ended is not
done again. -/
def autoRegister (c : Catalog) (submitted : List TypeId) (r : Registry) : Registration :=
  if r.autoRegistered then ⟨r, none⟩
  else c.registerAll submitted { r with autoRegistered := true }

end Catalog

end Reflection

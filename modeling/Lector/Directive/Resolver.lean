import Lector.Directive.Registry

/-!
# Resolvers

A resolver turns references into transformations. What it made of a name or a path it keeps, so that
the same reference leads to the same transformation until something else is registered there.

## Main definitions

* `Reference` - names, lists of rules and transformations.
* `Resolver` - a registry with the transformations made so far.
* `Resolver.register` - registers a directive.
* `Resolver.resolve` - the transformation that a reference leads to.
-/

namespace Lector

open Rule (Operation)

/-- A reference to a directive. -/
inductive Reference
  /-- The name of a directive or the path of a rule file. -/
  | named (name : Text)
  | operations (operations : List Operation)
  | function (transformation : Transformation)

def Reference.label : Reference → Text
  | named name => name
  | operations ops => '<' :: Text.ofNat ops.length ++ " operations>".toList
  | function _ => "<function>".toList

/-- A registry with the transformations that were made of its names and paths. -/
structure Resolver where
  registry : Registry
  cache : Table Text Transformation
  /-- Whether substitutions note the patterns that they apply. -/
  notes : Bool
  /-- The number of the next substitution. -/
  next : Nat

namespace Resolver

/-- The resolver that has made nothing of a registry yet. -/
def ofRegistry (registry : Registry) (notes : Bool) (next : Nat) : Resolver :=
  ⟨registry, Table.empty, notes, next⟩

def register (r : Resolver) (key : Text) (directive : Directive) : Resolver :=
  { r with registry := r.registry.insert key directive, cache := r.cache.erase key }

/-- What a resolver makes of a directive under a name. -/
def wrap (r : Resolver) (key : Text) : Directive → Transformation
  | .function transformation => transformation
  | .operations ops => .substitution r.next (some key) ops r.notes

/-- The transformation under a name or a path. A file that is read for it may change what stands
under the name of its directive, and what was made of that name is dropped. -/
def resolveNamed (files : Files) (key : Text) (r : Resolver) :
    Except Error (Transformation × Resolver) :=
  match r.cache.get? key with
  | some transformation => .ok (transformation, r)
  | none =>
    match Registry.ensure files key r.registry with
    | .error e => .error e
    | .ok (loaded, registry) =>
      let cache := match loaded with
        | some name => r.cache.erase name
        | none => r.cache
      match Registry.getOrRegister files key registry with
      | .error e => .error e
      | .ok (directive, registry) =>
        let transformation := r.wrap key directive
        .ok (transformation, { r with
          registry
          cache := cache.insert key transformation
          next := r.next + 1 })

def resolve (files : Files) (reference : Reference) (r : Resolver) :
    Except Error (Transformation × Resolver) :=
  match reference with
  | .function transformation => .ok (transformation, r)
  | .named key => resolveNamed files key r
  | .operations ops => .ok (.substitution r.next none ops r.notes, { r with next := r.next + 1 })

end Resolver

end Lector

import Lector.Proofs.Source.Overrides

/-!
# Options in layers

Options are laid over one another, layer by layer. It does not matter which layers are put together
first, a layer that sets nothing makes no difference, and neither does one that is laid on twice. So
what comes of a chain of layers can be told field by field: each field has the last value that a
layer sets, and there is a block of fields if a layer has one, though it may set nothing.

## Main definitions

* `lastSet`: the last value that options of a chain set

## Main results

* `lastSet_foldl_merge`: what is merged field by field has the last value that is set
* `merge_layers`: options under merging, and what comes of a chain of them
-/

namespace Lector.Rule

theorem FieldOptions.merge_assoc (a b c : FieldOptions) :
    a.merge (b.merge c) = (a.merge b).merge c := by
  simp [merge, Option.or_assoc]

@[simp] theorem FieldOptions.empty_merge (a : FieldOptions) : FieldOptions.merge {} a = a := by
  simp [merge]

@[simp] theorem FieldOptions.merge_self (a : FieldOptions) : a.merge a = a := by
  simp [merge]

namespace Options

variable {α : Type} (a b c o : Options) (os : List Options)

/-- **It does not matter which layers are put together first.** -/
theorem merge_assoc : a.merge (b.merge c) = (a.merge b).merge c := by
  have hfields : (a.merge (b.merge c)).fields = ((a.merge b).merge c).fields := by
    cases hc : c.fields with
    | none => simp [merge, hc]
    | some fields =>
      cases hb : b.fields with
      | none => simp [merge, hb, hc]
      | some fields' => simp [merge, hb, hc, FieldOptions.merge_assoc]
  have hname : (a.merge (b.merge c)).name = ((a.merge b).merge c).name := by
    simp [merge, Option.or_assoc]
  have hkind : (a.merge (b.merge c)).kind = ((a.merge b).merge c).kind := by
    simp [merge, Option.or_assoc]
  rw [Options.mk.injEq]
  exact ⟨hname, hkind, hfields⟩

/-- Options that set nothing make no difference below others. -/
theorem empty_merge : merge {} a = a := by
  obtain ⟨name, kind, fields⟩ := a
  cases fields <;> simp [merge]

/-- Options that set nothing make no difference above others. -/
theorem merge_empty : a.merge {} = a := by
  simp [merge]

/-- Options laid over themselves stay what they are. -/
theorem merge_self : a.merge a = a := by
  obtain ⟨name, kind, fields⟩ := a
  cases fields <;> simp [merge]

/-! ## Chains -/

/-- The last value that options of a chain set. -/
def lastSet (f : Options → Option α) (os : List Options) : Option α := (os.filterMap f).getLast?

/-- **What is merged field by field has the last value that is set.** -/
theorem lastSet_foldl_merge {f : Options → Option α} (hf : ∀ a b, f (a.merge b) = (f b <|> f a)) :
    f (os.foldl merge o) = lastSet f (o :: os) := by
  induction os using List.reverseRecOn with
  | nil => cases h : f o <;> simp [lastSet, h]
  | append_singleton os p ih =>
    have hlast : lastSet f (o :: (os ++ [p])) = (f p <|> lastSet f (o :: os)) := by
      unfold lastSet
      rw [← List.cons_append, List.filterMap_append, List.getLast?_append]
      cases h : f p <;> simp [h]
    rw [List.foldl_append, List.foldl_cons, List.foldl_nil, hf, ih, hlast]

/-- There is a block of fields if a layer has one. -/
theorem isSome_fields_foldl_merge :
    (os.foldl merge o).fields.isSome = (o :: os).any fun o => o.fields.isSome := by
  induction os generalizing o with
  | nil => simp
  | cons p os ih =>
    have hfields : (o.merge p).fields.isSome = (o.fields.isSome || p.fields.isSome) := by
      cases hp : p.fields <;> simp [merge, hp]
    rw [List.foldl_cons, ih]
    simp [hfields, Bool.or_assoc]

/-- **Options under merging.** Layers can be put together in any way, options that set nothing make
no difference on either side, and options laid over themselves stay what they are. Of a chain of
layers each field has the last value that is set, if any, and there is a block of fields just if a
layer has one. Rows get these values, the kind of the source before the kind among the fields, and
else an empty replacement and the regular expressions. -/
theorem merge_layers :
    (∀ a b c : Options, a.merge (b.merge c) = (a.merge b).merge c) ∧
    (∀ a : Options, merge {} a = a ∧ a.merge {} = a ∧ a.merge a = a) ∧
    ∀ (o : Options) (os : List Options),
      (os.foldl merge o).name = lastSet (·.name) (o :: os) ∧
      (os.foldl merge o).kind = lastSet (·.kind) (o :: os) ∧
      (os.foldl merge o).fields.bind (·.replacement) =
        lastSet (·.fields.bind (·.replacement)) (o :: os) ∧
      (os.foldl merge o).fields.bind (·.kind) = lastSet (·.fields.bind (·.kind)) (o :: os) ∧
      (os.foldl merge o).fields.bind (·.comment) =
        lastSet (·.fields.bind (·.comment)) (o :: os) ∧
      (os.foldl merge o).fields.isSome = (o :: os).any (·.fields.isSome) ∧
      (os.foldl merge o).rowDefaults =
        { replacement := (lastSet (·.fields.bind (·.replacement)) (o :: os)).getD []
          kind := (lastSet (·.kind) (o :: os) <|>
            lastSet (·.fields.bind (·.kind)) (o :: os)).getD .regex
          comment := lastSet (·.fields.bind (·.comment)) (o :: os) } := by
  refine ⟨merge_assoc, fun a => ⟨empty_merge a, merge_empty a, merge_self a⟩, fun o os => ?_⟩
  have hname := lastSet_foldl_merge o os (f := (·.name)) fun _ _ => rfl
  have hkind := lastSet_foldl_merge o os (f := (·.kind)) fun _ _ => rfl
  have hreplacement := lastSet_foldl_merge o os (f := (·.fields.bind (·.replacement))) fun a b =>
    bind_fields_merge a b (·.replacement) rfl fun _ _ => rfl
  have hfieldKind := lastSet_foldl_merge o os (f := (·.fields.bind (·.kind))) fun a b =>
    bind_fields_merge a b (·.kind) rfl fun _ _ => rfl
  have hcomment := lastSet_foldl_merge o os (f := (·.fields.bind (·.comment))) fun a b =>
    bind_fields_merge a b (·.comment) rfl fun _ _ => rfl
  refine ⟨hname, hkind, hreplacement, hfieldKind, hcomment, isSome_fields_foldl_merge o os, ?_⟩
  rw [rowDefaults_eq, determined, hreplacement, hkind, hfieldKind, hcomment]

/-- A block that sets nothing hides nothing. -/
example :
    ([{ fields := some {} }, { name := some ['n'] }].foldl merge
      { kind := some .literal, fields := some { comment := some ['c'] } } : Options) =
      { name := some ['n'], kind := some .literal, fields := some { comment := some ['c'] } } := by
  decide

end Options

end Lector.Rule

import DBusCodegen.Annot
import DBusCodegen.TypeTable

/-!
# `Arg.post_process`

An argument fills `doc_string` and `since` from its own annotations (never from its owner), is
named `unnamed_arg<arg_number>` when unnamed, receives the binding of its signature from the
table, and walks its annotations with itself as container.

* the field lemmas of `Arg.postProcess`, and `Arg.postProcess_postProcess` (a second run changes
  nothing, whatever number it is given);
* **`Arg.postProcess_descriptor_wellFormed`**, **`Arg.postProcess_gvalue_of_gtype`**,
  **`Arg.postProcess_variant_iff`**: the laws of the table, read on the argument;
* `Arg.Keeps`: what a run keeps of an argument.
-/

namespace DBusCodegen

theorem truthy_iff {o : Option String} : truthy o = true ↔ ∃ v, o = some v ∧ v ≠ "" := by
  cases o <;> simp [truthy]

/-- `Arg.post_process`; `arg_number` is the argument's position in its owner's loop. -/
def Arg.postProcess (u : NameUtils) (ctx : Context) (argNumber : Nat) (a : Arg) : Arg :=
  let since := fillIfEmpty a.since (lookupSince a.annotations)
  { a with
    docString := fillIfEmpty a.docString (lookupDocs a.annotations)
    since
    name := some (a.name.getD ("unnamed_arg" ++ toString argNumber))
    descriptor := some (typeDescriptor a.signature
      (truthy (lookupAnnot a.annotations "org.gtk.GDBus.C.ForceGVariant")))
    annotations := Annot.postProcessAll u ctx since a.annotations }

namespace Arg

variable (u : NameUtils) (ctx : Context) (n : Nat) (a : Arg)

@[simp] theorem postProcess_name : (a.postProcess u ctx n).name =
    some (a.name.getD ("unnamed_arg" ++ toString n)) := rfl

@[simp] theorem postProcess_signature : (a.postProcess u ctx n).signature = a.signature := rfl

@[simp] theorem postProcess_docString :
    (a.postProcess u ctx n).docString = fillIfEmpty a.docString (lookupDocs a.annotations) := rfl

@[simp] theorem postProcess_since :
    (a.postProcess u ctx n).since = fillIfEmpty a.since (lookupSince a.annotations) := rfl

@[simp] theorem postProcess_descriptor : (a.postProcess u ctx n).descriptor =
    some (typeDescriptor a.signature
      (truthy (lookupAnnot a.annotations "org.gtk.GDBus.C.ForceGVariant"))) := rfl

@[simp] theorem postProcess_annotations : (a.postProcess u ctx n).annotations =
    a.annotations.map (Annot.postProcess u ctx (fillIfEmpty a.since (lookupSince a.annotations))) :=
  Annot.postProcessAll_eq_map u ctx _ _

/-- A second run changes nothing, whatever number it is given. -/
theorem postProcess_postProcess (m : Nat) :
    (a.postProcess u ctx n).postProcess u ctx m = a.postProcess u ctx n := by
  simp only [postProcess, Annot.postProcessAll_eq_map, List.map_map, Function.comp_def,
    Annot.postProcess_postProcess, lookupSince_postProcess, lookupDocs_postProcess,
    lookupAnnot_postProcess,
    fillIfEmpty_fillIfEmpty_right, fillIfEmpty_self, Option.getD_some]

theorem postProcess_context (ctx' : Context) : a.postProcess u ctx n = a.postProcess u ctx' n := by
  simp only [postProcess, Annot.postProcessAll_context u ctx ctx']

/-! ## The binding the argument receives -/

/-- **The descriptor an argument receives is well-formed**, for every signature and every
annotation list. -/
theorem postProcess_descriptor_wellFormed :
    ∃ d, (a.postProcess u ctx n).descriptor = some d ∧ d.WellFormed a.signature :=
  ⟨_, rfl, typeDescriptor_wellFormed _ _⟩

/-- **Two arguments with the same type tag agree on the whole GValue side.** -/
theorem postProcess_gvalue_of_gtype (a₁ a₂ : Arg) (n₁ n₂ : Nat) {d₁ d₂ : TypeDescriptor}
    (h₁ : (a₁.postProcess u ctx n₁).descriptor = some d₁)
    (h₂ : (a₂.postProcess u ctx n₂).descriptor = some d₂) (h : d₁.gtype = d₂.gtype) :
    d₁.ctypeInG = d₂.ctypeInG ∧ d₁.gvalueGet = d₂.gvalueGet ∧
      d₁.freeFunc = d₂.freeFunc ∧ d₁.arrayAnnot = d₂.arrayAnnot := by
  simp only [postProcess_descriptor, Option.some.injEq] at h₁ h₂
  subst h₁ h₂
  have hg := (typeDescriptor_gvalueBinding a₁.signature _).trans
    ((congrArg gvalueBindingOf h).trans (typeDescriptor_gvalueBinding a₂.signature _).symm)
  simp only [TypeDescriptor.gvalueBinding, GValueBinding.mk.injEq] at hg
  exact hg

theorem postProcess_gvalue_of_gtype_string :
    ((Arg.init none "s").postProcess ⟨fun _ => false, id, id⟩ ⟨"", "", "", ""⟩ 0).descriptor =
        some (typeDescriptor "s" false) ∧
      ((Arg.init none "o").postProcess ⟨fun _ => false, id, id⟩ ⟨"", "", "", ""⟩ 1).descriptor =
        some (typeDescriptor "o" false) ∧
      (typeDescriptor "s" false).gtype = (typeDescriptor "o" false).gtype ∧
      ((typeDescriptor "s" false).ctypeInG = (typeDescriptor "o" false).ctypeInG ∧
        (typeDescriptor "s" false).gvalueGet = (typeDescriptor "o" false).gvalueGet ∧
        (typeDescriptor "s" false).freeFunc = (typeDescriptor "o" false).freeFunc ∧
        (typeDescriptor "s" false).arrayAnnot = (typeDescriptor "o" false).arrayAnnot) :=
  ⟨rfl, rfl, rfl, postProcess_gvalue_of_gtype ⟨fun _ => false, id, id⟩ ⟨"", "", "", ""⟩
    (Arg.init none "s") (Arg.init none "o") 0 1 rfl rfl rfl⟩

/-- **The variant fallback exactly when forced or unrecognised.** -/
theorem postProcess_variant_iff :
    (a.postProcess u ctx n).descriptor = some (variantDescriptor a.signature) ↔
      (∃ v, lookupAnnot a.annotations "org.gtk.GDBus.C.ForceGVariant" = some v ∧ v ≠ "") ∨
        a.signature ∉
          ["b", "y", "n", "q", "i", "u", "x", "t", "d", "s", "o", "g", "ay", "as", "ao", "aay"] := by
  rw [postProcess_descriptor, Option.some.injEq, typeDescriptor_eq_variant_iff, truthy_iff]
  rfl

/-! ## What a run keeps -/

/-- What `post_process` keeps of an argument: a declared name, the signature, the annotation
tree, and a non-empty `doc_string` or `since`. -/
structure Keeps (a a' : Arg) : Prop where
  name : ∀ s, a.name = some s → a'.name = some s
  signature : a'.signature = a.signature
  annotations : Annot.KeepsAll a.annotations a'.annotations
  docString : a.docString ≠ "" → a'.docString = a.docString
  since : a.since ≠ "" → a'.since = a.since

theorem keeps_postProcess : Keeps a (a.postProcess u ctx n) where
  name s h := by simp [h]
  signature := rfl
  annotations := Annot.keepsAll_postProcessAll u ctx _ a.annotations
  docString h := fillIfEmpty_of_ne h _
  since h := fillIfEmpty_of_ne h _

/-- The annotations of a resolved argument inherit its resolved `since`. -/
theorem inheritsSince_postProcess :
    Annot.InheritsSinceAll (a.postProcess u ctx n).since a.annotations
      (a.postProcess u ctx n).annotations := by
  rw [postProcess_annotations]
  exact Annot.inheritsSinceAll_map_postProcess u ctx _ _

end Arg

end DBusCodegen

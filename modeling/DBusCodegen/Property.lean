import DBusCodegen.Member

/-!
# `Property.post_process`

A property resolves like a method, remaps a `name_lower` of `type` to `type_`, resolves its
synthetic `value` argument through the shared annotation list, and only then walks that list with
itself as container: every annotation of a property is walked twice.

* `Property.postProcess_annotations`: the two walks are one walk, with container
  `fillIfEmpty arg.since since`;
* `Property.postProcess_postProcess`: a second run changes nothing;
* `Property.keeps_postProcess`: what a run keeps, the synthetic argument included.
-/

namespace DBusCodegen

/-- `Property.post_process`; of `containing_iface` only its `since` is read. -/
def Property.postProcess (u : NameUtils) (ctx : Context) (containingIfaceSince : String)
    (p : Property) : Property :=
  let since := fillIfEmpty p.since (fillIfEmpty (lookupSince p.annotations) containingIfaceSince)
  let nameLower := u.memberNameLower p.name p.annotations
  -- recalculate arg: its walk mutates the shared annotations
  let arg := Arg.postProcess u ctx 0 { p.arg with annotations := p.annotations }
  let annotations := Annot.postProcessAll u ctx since arg.annotations
  { p with
    docString := fillIfEmpty p.docString (lookupDocs p.annotations)
    since
    names := some ⟨if nameLower = "type" then "type_" else nameLower, nameLower.replace "_" "-"⟩
    arg := { arg with annotations }
    annotations
    arg_shares := rfl
    deprecated :=
      if lookupAnnot arg.annotations "org.freedesktop.DBus.Deprecated" = some "true" then true
      else p.deprecated
    emitsChangedSignal :=
      if lookupAnnot annotations "org.freedesktop.DBus.Property.EmitsChangedSignal" ∈
          [some "false", some "const"] then false
      else p.emitsChangedSignal }

namespace Property

variable (u : NameUtils) (ctx : Context) (c : String) (p : Property)

@[simp] theorem postProcess_name : (p.postProcess u ctx c).name = p.name := rfl

@[simp] theorem postProcess_signature : (p.postProcess u ctx c).signature = p.signature := rfl

@[simp] theorem postProcess_access : (p.postProcess u ctx c).access = p.access := rfl

@[simp] theorem postProcess_readable : (p.postProcess u ctx c).readable = p.readable := rfl

@[simp] theorem postProcess_writable : (p.postProcess u ctx c).writable = p.writable := rfl

@[simp] theorem postProcess_docString :
    (p.postProcess u ctx c).docString = fillIfEmpty p.docString (lookupDocs p.annotations) := rfl

@[simp] theorem postProcess_since : (p.postProcess u ctx c).since =
    fillIfEmpty p.since (fillIfEmpty (lookupSince p.annotations) c) := rfl

@[simp] theorem postProcess_names : (p.postProcess u ctx c).names =
    some ⟨if u.memberNameLower p.name p.annotations = "type" then "type_"
        else u.memberNameLower p.name p.annotations,
      (u.memberNameLower p.name p.annotations).replace "_" "-"⟩ := rfl

/-- **The two walks of a property's annotations are one**, with the synthetic argument's `since`
in front of the property's. -/
@[simp] theorem postProcess_annotations : (p.postProcess u ctx c).annotations =
    p.annotations.map (Annot.postProcess u ctx
      (fillIfEmpty (fillIfEmpty p.arg.since (lookupSince p.annotations))
        (p.postProcess u ctx c).since)) := by
  simp [postProcess]

@[simp] theorem postProcess_arg_name :
    (p.postProcess u ctx c).arg.name = some (p.arg.name.getD "unnamed_arg0") := rfl

@[simp] theorem postProcess_arg_signature :
    (p.postProcess u ctx c).arg.signature = p.arg.signature := rfl

@[simp] theorem postProcess_arg_docString : (p.postProcess u ctx c).arg.docString =
    fillIfEmpty p.arg.docString (lookupDocs p.annotations) := rfl

@[simp] theorem postProcess_arg_since :
    (p.postProcess u ctx c).arg.since = fillIfEmpty p.arg.since (lookupSince p.annotations) := rfl

@[simp] theorem postProcess_arg_descriptor : (p.postProcess u ctx c).arg.descriptor =
    some (typeDescriptor p.arg.signature
      (truthy (lookupAnnot p.annotations "org.gtk.GDBus.C.ForceGVariant"))) := rfl

@[simp] theorem postProcess_arg_annotations :
    (p.postProcess u ctx c).arg.annotations = (p.postProcess u ctx c).annotations := rfl

@[simp] theorem postProcess_deprecated : (p.postProcess u ctx c).deprecated =
    if lookupAnnot p.annotations "org.freedesktop.DBus.Deprecated" = some "true" then true
    else p.deprecated := by
  simp [postProcess]

@[simp] theorem postProcess_emitsChangedSignal : (p.postProcess u ctx c).emitsChangedSignal =
    if lookupAnnot p.annotations "org.freedesktop.DBus.Property.EmitsChangedSignal" ∈
        [some "false", some "const"] then false
    else p.emitsChangedSignal := by
  simp only [postProcess, Arg.postProcess_annotations, Annot.postProcessAll_eq_map,
    lookupAnnot_postProcess]

/-- A second run changes nothing. -/
@[simp] theorem postProcess_postProcess :
    (p.postProcess u ctx c).postProcess u ctx c = p.postProcess u ctx c := by
  apply Property.ext <;> try simp
  apply Arg.ext <;> simp

theorem postProcess_context (ctx' : Context) : p.postProcess u ctx c = p.postProcess u ctx' c := by
  apply Property.ext <;> simp [Annot.postProcess_context u ctx ctx', Arg.ext_iff]

/-- What `post_process` keeps of a property: its name, signature, access mode and annotation
tree, what it keeps of the synthetic argument, and a non-empty `doc_string` or `since`. -/
structure Keeps (p p' : Property) : Prop where
  name : p'.name = p.name
  signature : p'.signature = p.signature
  access : p'.access = p.access
  annotations : Annot.KeepsAll p.annotations p'.annotations
  arg : Arg.Keeps p.arg p'.arg
  docString : p.docString ≠ "" → p'.docString = p.docString
  since : p.since ≠ "" → p'.since = p.since

theorem keeps_postProcess : Keeps p (p.postProcess u ctx c) :=
  have hl : Annot.KeepsAll p.annotations (p.postProcess u ctx c).annotations := by
    simpa using Annot.keepsAll_map_postProcess u ctx _ p.annotations
  { name := rfl, signature := rfl, access := rfl, annotations := hl
    arg :=
      { name := fun s h => by simp [h]
        signature := rfl
        annotations := p.arg_shares ▸ hl
        docString := fun h => fillIfEmpty_of_ne h _
        since := fun h => fillIfEmpty_of_ne h _ }
    docString := fun h => fillIfEmpty_of_ne h _
    since := fun h => fillIfEmpty_of_ne h _ }

end Property

end DBusCodegen

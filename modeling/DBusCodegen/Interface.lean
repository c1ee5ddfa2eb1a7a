import DBusCodegen.Property

/-!
# `Interface.post_process`

The pass the code generator runs once per interface. The interface fills its documentation and
`since` from its own annotations, derives `cns`, `cns_upper` and `cns_lower` from `c_namespace`,
computes its names, and then resolves its methods, signals and properties, with its own resolved
`since` as the container's, and last its annotations.

* `NameUtils.namespaceForms`, `Interface.resolveNames`: the naming half of the pass, whose
  result comes from one of two builders (`Interface.resolveNames_cases`);
* **`Interface.postProcess_idempotent`**: a second run changes no field of any entity;
* **`Interface.postProcess_keeps_declared`**: a run changes no declared input;
* **`Interface.postProcess_namespace_only_names`**: `interface_prefix` and `c_namespace` reach
  nothing but the interface's own names.
-/

namespace DBusCodegen

/-- The context `Interface.post_process` passes down: `cns`, `cns_upper` and `cns_lower` as it
derives them from `c_namespace`. Python's `str.upper` and `str.lower` are Lean's `String.toUpper`
and `String.toLower`, which map ASCII letters only: exact on ASCII text, not beyond it. -/
def NameUtils.namespaceForms (u : NameUtils) (interfacePrefix cNamespace : String) : Context :=
  if cNamespace.length > 0 then
    if u.isUglyCase cNamespace then
      ⟨interfacePrefix, cNamespace.replace "_" "", cNamespace.toUpper ++ "_",
        cNamespace.toLower ++ "_"⟩
    else
      ⟨interfacePrefix, cNamespace, (u.camelCaseToUscore cNamespace).toUpper ++ "_",
        (u.camelCaseToUscore cNamespace).toLower ++ "_"⟩
  else ⟨interfacePrefix, "", "", ""⟩

/-- The names of an interface whose `org.gtk.GDBus.C.Name` override is in ugly case; the case
maps are the ASCII ones, exact on ASCII text. -/
def Interface.uglyNames (ctx : Context) (overriddenName : String) : InterfaceNames :=
  let name := overriddenName.replace "_" ""
  let nameUpper := overriddenName.toUpper
  ⟨name, ctx.cns ++ name, ctx.cnsUpper, ctx.cnsLower ++ overriddenName.toLower, nameUpper,
    nameUpper.toLower.replace "_" "-"⟩

/-- The names of any other interface, from its name without the prefix or from the override; the
case maps are the ASCII ones, exact on ASCII text. -/
def Interface.plainNames (u : NameUtils) (ctx : Context) (nameWithoutPrefix : String) :
    InterfaceNames :=
  let name := u.stripDots nameWithoutPrefix
  let nameUpper := (u.camelCaseToUscore name).toUpper
  ⟨nameWithoutPrefix, u.stripDots (ctx.cns ++ "." ++ name), ctx.cnsUpper,
    ctx.cnsLower ++ u.camelCaseToUscore name, nameUpper, nameUpper.toLower.replace "_" "-"⟩

/-- The names `Interface.post_process` computes: a truthy override that is not in ugly case
replaces the name, and otherwise `interface_prefix` is stripped from the name. -/
def Interface.resolveNames (u : NameUtils) (ctx : Context) (name : String)
    (annotations : List Annot) : InterfaceNames :=
  let stripped :=
    if name.startsWith ctx.interfacePrefix then name.drop ctx.interfacePrefix.length else name
  match lookupAnnot annotations "org.gtk.GDBus.C.Name" with
  | some o =>
    if u.isUglyCase o then Interface.uglyNames ctx o
    else Interface.plainNames u ctx (if o = "" then stripped else o)
  | none => Interface.plainNames u ctx stripped

/-- The names come from one of the two builders. -/
theorem Interface.resolveNames_cases (u : NameUtils) (ctx : Context) (name : String)
    (l : List Annot) :
    (∃ o, resolveNames u ctx name l = uglyNames ctx o) ∨
      ∃ n, resolveNames u ctx name l = plainNames u ctx n := by
  unfold resolveNames
  cases lookupAnnot l "org.gtk.GDBus.C.Name" with
  | none => exact .inr ⟨_, rfl⟩
  | some o =>
    by_cases hu : u.isUglyCase o
    · exact .inl ⟨o, if_pos hu⟩
    · exact .inr ⟨_, if_neg hu⟩

/-- `Interface.post_process`. -/
def Interface.postProcess (u : NameUtils) (interfacePrefix cNamespace : String) (i : Interface) :
    Interface :=
  let since := fillIfEmpty i.since (lookupSince i.annotations)
  let ctx := u.namespaceForms interfacePrefix cNamespace
  { i with
    docString := fillIfEmpty i.docString (lookupDocs i.annotations)
    docStringBrief := fillIfEmpty i.docStringBrief (lookupBriefDocs i.annotations)
    since
    names := some (Interface.resolveNames u ctx i.name i.annotations)
    deprecated :=
      if lookupAnnot i.annotations "org.freedesktop.DBus.Deprecated" = some "true" then true
      else i.deprecated
    methods := i.methods.map (Method.postProcess u ctx since)
    signals := i.signals.map (Signal.postProcess u ctx since)
    properties := i.properties.map (Property.postProcess u ctx since)
    annotations := Annot.postProcessAll u ctx since i.annotations }

namespace Interface

variable (u : NameUtils) (interfacePrefix cNamespace : String) (i : Interface)

@[simp] theorem postProcess_name : (i.postProcess u interfacePrefix cNamespace).name = i.name :=
  rfl

@[simp] theorem postProcess_docString : (i.postProcess u interfacePrefix cNamespace).docString =
    fillIfEmpty i.docString (lookupDocs i.annotations) := rfl

@[simp] theorem postProcess_docStringBrief :
    (i.postProcess u interfacePrefix cNamespace).docStringBrief =
      fillIfEmpty i.docStringBrief (lookupBriefDocs i.annotations) := rfl

@[simp] theorem postProcess_since : (i.postProcess u interfacePrefix cNamespace).since =
    fillIfEmpty i.since (lookupSince i.annotations) := rfl

@[simp] theorem postProcess_names : (i.postProcess u interfacePrefix cNamespace).names =
    some (resolveNames u (u.namespaceForms interfacePrefix cNamespace) i.name i.annotations) := rfl

@[simp] theorem postProcess_deprecated : (i.postProcess u interfacePrefix cNamespace).deprecated =
    if lookupAnnot i.annotations "org.freedesktop.DBus.Deprecated" = some "true" then true
    else i.deprecated := rfl

@[simp] theorem postProcess_methods : (i.postProcess u interfacePrefix cNamespace).methods =
    i.methods.map (Method.postProcess u (u.namespaceForms interfacePrefix cNamespace)
      (fillIfEmpty i.since (lookupSince i.annotations))) := rfl

@[simp] theorem postProcess_signals : (i.postProcess u interfacePrefix cNamespace).signals =
    i.signals.map (Signal.postProcess u (u.namespaceForms interfacePrefix cNamespace)
      (fillIfEmpty i.since (lookupSince i.annotations))) := rfl

@[simp] theorem postProcess_properties : (i.postProcess u interfacePrefix cNamespace).properties =
    i.properties.map (Property.postProcess u (u.namespaceForms interfacePrefix cNamespace)
      (fillIfEmpty i.since (lookupSince i.annotations))) := rfl

@[simp] theorem postProcess_annotations : (i.postProcess u interfacePrefix cNamespace).annotations =
    i.annotations.map (Annot.postProcess u (u.namespaceForms interfacePrefix cNamespace)
      (fillIfEmpty i.since (lookupSince i.annotations))) :=
  Annot.postProcessAll_eq_map u _ _ _

@[simp] theorem resolveNames_postProcess (ctx ctx' : Context) (c name : String) (l : List Annot) :
    resolveNames u ctx name (l.map (Annot.postProcess u ctx' c)) = resolveNames u ctx name l := by
  simp [resolveNames]

/-- **Resolution is idempotent**: a second run of `Interface.post_process` with the same prefix
and namespace changes no field of the interface or of any entity in its tree. -/
theorem postProcess_idempotent :
    (i.postProcess u interfacePrefix cNamespace).postProcess u interfacePrefix cNamespace =
      i.postProcess u interfacePrefix cNamespace := by
  apply Interface.ext <;> simp

/-- What `post_process` keeps of an interface: its name, its member lists position by position,
its annotation tree, and a non-empty `doc_string`, `doc_string_brief` or `since`. -/
structure Keeps (i i' : Interface) : Prop where
  name : i'.name = i.name
  methods : List.Forall₂ Method.Keeps i.methods i'.methods
  signals : List.Forall₂ Signal.Keeps i.signals i'.signals
  properties : List.Forall₂ Property.Keeps i.properties i'.properties
  annotations : Annot.KeepsAll i.annotations i'.annotations
  docString : i.docString ≠ "" → i'.docString = i.docString
  docStringBrief : i.docStringBrief ≠ "" → i'.docStringBrief = i.docStringBrief
  since : i.since ≠ "" → i'.since = i.since

/-- **Resolution changes no declared input** of any entity of the tree: names, signatures,
access modes, flags, annotation keys and values, every child list with its order, and every
non-empty documentation or `since`. -/
theorem postProcess_keeps_declared : Keeps i (i.postProcess u interfacePrefix cNamespace) where
  name := rfl
  methods := List.forall₂_map_right_iff.2 (List.forall₂_same.2 fun m _ =>
    Method.keeps_postProcess u _ _ m)
  signals := List.forall₂_map_right_iff.2 (List.forall₂_same.2 fun s _ =>
    Signal.keeps_postProcess u _ _ s)
  properties := List.forall₂_map_right_iff.2 (List.forall₂_same.2 fun p _ =>
    Property.keeps_postProcess u _ _ p)
  annotations := Annot.keepsAll_postProcessAll u _ _ i.annotations
  docString h := fillIfEmpty_of_ne h _
  docStringBrief h := fillIfEmpty_of_ne h _
  since h := fillIfEmpty_of_ne h _

/-- **The prefix and the namespace reach only the interface's own names**: two runs with any two
choices agree on every other field of the interface and on every entity of its tree. -/
theorem postProcess_namespace_only_names (interfacePrefix' cNamespace' : String) :
    { i.postProcess u interfacePrefix cNamespace with names := none } =
      { i.postProcess u interfacePrefix' cNamespace' with names := none } := by
  apply Interface.ext <;> simp only [postProcess_name, postProcess_docString,
    postProcess_docStringBrief, postProcess_since, postProcess_deprecated, postProcess_methods,
    postProcess_signals, postProcess_properties, postProcess_annotations]
  · exact List.map_congr_left fun m _ => Method.postProcess_context u _ _ m _
  · exact List.map_congr_left fun s _ => Signal.postProcess_context u _ _ s _
  · exact List.map_congr_left fun p _ => Property.postProcess_context u _ _ p _
  · exact List.map_congr_left fun a _ => Annot.postProcess_context u _ _ _ a

end Interface

end DBusCodegen

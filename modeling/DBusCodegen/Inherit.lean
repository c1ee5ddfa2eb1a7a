import DBusCodegen.Interface

/-!
# What a member inherits from its interface

The interface resolves its own `since` before its member loops, and every method, signal and
property falls back to it: **`Interface.postProcess_member_since`**. Documentation is different:
a member reads `doc_string` from its own annotations only, and nothing is inherited
(**`Interface.postProcess_member_doc`**, and `Interface.member_doc_not_inherited` at an
interface that has documentation).

An annotation of a property is walked first with the synthetic argument as container, so when the
property's own `org.gtk.GDBus.Since` is set, its annotations take that value and not the
property's explicit `since` (`Property.annotation_since_of_arg`). Everywhere else an annotation
without `since` inherits the resolved `since` of what it is attached to
(**`Interface.postProcess_annotation_since`**). Exactly when the property has no explicit `since`,
or no `org.gtk.GDBus.Since`, or the two agree, its annotations end with the property's own resolved
`since` (**`Property.postProcess_annotation_since_iff`**).
-/

namespace DBusCodegen

namespace Interface

variable (u : NameUtils) (interfacePrefix cNamespace : String) (i : Interface)

/-- **Members inherit `since` from the interface**: a member without its own `since` takes its
own `org.gtk.GDBus.Since`, else the interface's resolved `since`, which is the interface's explicit
`since`, else its own `org.gtk.GDBus.Since`, else empty. -/
theorem postProcess_member_since :
    (i.postProcess u interfacePrefix cNamespace).since =
        fillIfEmpty i.since (lookupSince i.annotations) ∧
      List.Forall₂ (fun m m' : Method => m.since = "" → m'.since =
          fillIfEmpty (lookupSince m.annotations)
            (i.postProcess u interfacePrefix cNamespace).since)
        i.methods (i.postProcess u interfacePrefix cNamespace).methods ∧
      List.Forall₂ (fun s s' : Signal => s.since = "" → s'.since =
          fillIfEmpty (lookupSince s.annotations)
            (i.postProcess u interfacePrefix cNamespace).since)
        i.signals (i.postProcess u interfacePrefix cNamespace).signals ∧
      List.Forall₂ (fun p p' : Property => p.since = "" → p'.since =
          fillIfEmpty (lookupSince p.annotations)
            (i.postProcess u interfacePrefix cNamespace).since)
        i.properties (i.postProcess u interfacePrefix cNamespace).properties :=
  ⟨rfl, List.forall₂_map_right_iff.2 (List.forall₂_same.2 fun m _ h => by simp [h]),
    List.forall₂_map_right_iff.2 (List.forall₂_same.2 fun s _ h => by simp [h]),
    List.forall₂_map_right_iff.2 (List.forall₂_same.2 fun p _ h => by simp [h])⟩

/-- **Members read documentation from their own annotations only**: a member without its own
`doc_string` takes its own `org.gtk.GDBus.DocString`, and is left empty without one. -/
theorem postProcess_member_doc :
    List.Forall₂ (fun m m' : Method => m.docString = "" →
          m'.docString = lookupDocs m.annotations)
        i.methods (i.postProcess u interfacePrefix cNamespace).methods ∧
      List.Forall₂ (fun s s' : Signal => s.docString = "" →
          s'.docString = lookupDocs s.annotations)
        i.signals (i.postProcess u interfacePrefix cNamespace).signals ∧
      List.Forall₂ (fun p p' : Property => p.docString = "" →
          p'.docString = lookupDocs p.annotations)
        i.properties (i.postProcess u interfacePrefix cNamespace).properties :=
  ⟨List.forall₂_map_right_iff.2 (List.forall₂_same.2 fun m _ h => by simp [h]),
    List.forall₂_map_right_iff.2 (List.forall₂_same.2 fun s _ h => by simp [h]),
    List.forall₂_map_right_iff.2 (List.forall₂_same.2 fun p _ h => by simp [h])⟩

/-- An interface with documentation and an undocumented method: the method stays undocumented,
so documentation is not inherited as `since` is. -/
theorem member_doc_not_inherited :
    ¬ ∀ (u : NameUtils) (interfacePrefix cNamespace : String) (i : Interface),
      List.Forall₂ (fun m m' : Method => m.docString = "" → lookupDocs m.annotations = "" →
          m'.docString = (i.postProcess u interfacePrefix cNamespace).docString)
        i.methods (i.postProcess u interfacePrefix cNamespace).methods ∧
      List.Forall₂ (fun s s' : Signal => s.docString = "" → lookupDocs s.annotations = "" →
          s'.docString = (i.postProcess u interfacePrefix cNamespace).docString)
        i.signals (i.postProcess u interfacePrefix cNamespace).signals ∧
      List.Forall₂ (fun p p' : Property => p.docString = "" → lookupDocs p.annotations = "" →
          p'.docString = (i.postProcess u interfacePrefix cNamespace).docString)
        i.properties (i.postProcess u interfacePrefix cNamespace).properties := by
  intro h
  have hm := (h ⟨fun _ => false, id, id⟩ "" ""
    { Interface.init "org.example.Frob" with
      docString := "Frobnicates.", methods := [Method.init "Frob" true] }).1
  simp only [postProcess_methods, List.map_cons, List.map_nil, List.forall₂_cons] at hm
  exact absurd (hm.1 rfl rfl) (by decide)

/-- **Where an annotation's `since` comes from.** Every annotation of the interface, of a member
or of an argument, at any depth, that has no `since` takes its own `org.gtk.GDBus.Since`, else the
resolved `since` of what it is attached to; for the annotations of a property that is the
resolved `since` of its synthetic argument, else the property's. -/
theorem postProcess_annotation_since :
    Annot.InheritsSinceAll (i.postProcess u interfacePrefix cNamespace).since i.annotations
        (i.postProcess u interfacePrefix cNamespace).annotations ∧
      List.Forall₂ (fun m m' : Method =>
          Annot.InheritsSinceAll m'.since m.annotations m'.annotations ∧
          List.Forall₂ (fun a a' : Arg => Annot.InheritsSinceAll a'.since a.annotations
            a'.annotations) (m.inArgs ++ m.outArgs) (m'.inArgs ++ m'.outArgs))
        i.methods (i.postProcess u interfacePrefix cNamespace).methods ∧
      List.Forall₂ (fun s s' : Signal =>
          Annot.InheritsSinceAll s'.since s.annotations s'.annotations ∧
          List.Forall₂ (fun a a' : Arg => Annot.InheritsSinceAll a'.since a.annotations
            a'.annotations) s.args s'.args)
        i.signals (i.postProcess u interfacePrefix cNamespace).signals ∧
      List.Forall₂ (fun p p' : Property =>
          Annot.InheritsSinceAll (fillIfEmpty p'.arg.since p'.since) p.annotations p'.annotations)
        i.properties (i.postProcess u interfacePrefix cNamespace).properties := by
  refine ⟨?_, List.forall₂_map_right_iff.2 (List.forall₂_same.2 fun m _ => ⟨?_, ?_⟩),
    List.forall₂_map_right_iff.2 (List.forall₂_same.2 fun s _ => ⟨?_, ?_⟩),
    List.forall₂_map_right_iff.2 (List.forall₂_same.2 fun p _ => ?_)⟩
  · rw [postProcess_annotations, postProcess_since]
    exact Annot.inheritsSinceAll_map_postProcess u _ _ _
  · rw [Method.postProcess_annotations]
    exact Annot.inheritsSinceAll_map_postProcess u _ _ _
  · rw [Method.postProcess_inArgs, Method.postProcess_outArgs]
    exact List.rel_append (Signal.argLoop_inheritsSince u _ _ _)
      (Signal.argLoop_inheritsSince u _ _ _)
  · rw [Signal.postProcess_annotations]
    exact Annot.inheritsSinceAll_map_postProcess u _ _ _
  · exact Signal.argLoop_inheritsSince u _ _ _
  · rw [Property.postProcess_annotations, Property.postProcess_arg_since]
    exact Annot.inheritsSinceAll_map_postProcess u _ _ _

end Interface

/-- A property with an explicit `since` of `2.0` and its own `org.gtk.GDBus.Since` of `1.0`: the
property resolves to `2.0`, but its annotation, which has no `since` of its own, takes `1.0`
from the synthetic argument, not the `2.0` of the property it is attached to. -/
theorem Property.annotation_since_of_arg :
    ({ Interface.init "org.example.Frob" with
        properties := [{ (Property.init "Speed" "u" "read").1 with
          since := "2.0"
          annotations := [Annot.init "org.gtk.GDBus.Since" "1.0"]
          arg := { (Property.init "Speed" "u" "read").1.arg with
            annotations := [Annot.init "org.gtk.GDBus.Since" "1.0"] }
          arg_shares := rfl }] }.postProcess ⟨fun _ => false, id, id⟩ "" "").properties.map
      (fun p : Property => (p.since, p.annotations.map Annot.since)) = [("2.0", ["1.0"])] := by
  decide

/-- **When a property's annotations take the property's `since`.** For a property whose
synthetic argument has no `since` of its own, as `Property.__init__` builds it, an annotation
with neither a `since` nor an `org.gtk.GDBus.Since` of its own ends with the property's resolved
`since` exactly when the property has no explicit `since`, or no `org.gtk.GDBus.Since`, or the
two agree. -/
theorem Property.postProcess_annotation_since_iff (u : NameUtils) (ctx : Context) (c : String)
    (p : Property) (hp : p.arg.since = "") :
    List.Forall₂ (fun a a' : Annot => a.since = "" → lookupSince a.annotations = "" →
        (a'.since = (p.postProcess u ctx c).since ↔
          p.since = "" ∨ lookupSince p.annotations = "" ∨ p.since = lookupSince p.annotations))
      p.annotations (p.postProcess u ctx c).annotations := by
  rw [Property.postProcess_annotations]
  refine List.forall₂_map_right_iff.2 (List.forall₂_same.2 fun a _ ha hl => ?_)
  simp only [Annot.postProcess_since, Property.postProcess_since, ha, hl, hp,
    fillIfEmpty_empty]
  by_cases hv : lookupSince p.annotations = "" <;> by_cases hs : p.since = "" <;>
    simp [fillIfEmpty, hv, hs, eq_comm]

/-- The property of `Property.annotation_since_of_arg`: explicit `since` `2.0`, own
`org.gtk.GDBus.Since` `1.0`. -/
theorem Property.postProcess_annotation_since_iff_speed :
    let p : Property :=
      { (Property.init "Speed" "u" "read").1 with
        since := "2.0"
        annotations := [Annot.init "org.gtk.GDBus.Since" "1.0"]
        arg := { (Property.init "Speed" "u" "read").1.arg with
          annotations := [Annot.init "org.gtk.GDBus.Since" "1.0"] }
        arg_shares := rfl }
    p.arg.since = "" ∧
      List.Forall₂ (fun a a' : Annot => a.since = "" → lookupSince a.annotations = "" →
          (a'.since = (p.postProcess ⟨fun _ => false, id, id⟩ ⟨"", "", "", ""⟩ "").since ↔
            p.since = "" ∨ lookupSince p.annotations = "" ∨
              p.since = lookupSince p.annotations))
        p.annotations (p.postProcess ⟨fun _ => false, id, id⟩ ⟨"", "", "", ""⟩ "").annotations :=
  ⟨rfl, Property.postProcess_annotation_since_iff _ _ _ _ rfl⟩

end DBusCodegen

import DBusCodegen.Basic

/-!
# `Annotation.post_process`

Every `post_process` receives the resolution context (`interface_prefix`, `cns`, `cns_upper`,
`cns_lower`) and a container. An annotation resolves its `key_lower` from its key and its own
`org.gtk.GDBus.C.Name`, fills its `since` from its own `org.gtk.GDBus.Since` and then from the
container, and walks its nested annotations with itself as their container.

* `NameUtils.overriddenLower`: the lower-case name shared by annotations, methods, signals and
  properties;
* `Annot.entries_postProcessAll`: keys and values are never written, so no lookup changes;
* **`Annot.postProcess_postProcess`**: walking a tree with container `c'` and then with `c`
  is walking it once with `fillIfEmpty c' c`; in particular a walk is idempotent;
* `Annot.postProcess_context`: the context is only passed on;
* **`Annot.keeps_postProcess`**: keys, values, non-empty `since`s and the nesting are kept.
-/

namespace DBusCodegen

/-- The context every `post_process` receives from `Interface.post_process`. -/
structure Context where
  interfacePrefix : String
  cns : String
  cnsUpper : String
  cnsLower : String

/-- The lower-case name of an annotation key or a member: an ugly-case `org.gtk.GDBus.C.Name`
override is only lower-cased; otherwise the override, when truthy, or else `name` goes through
`camel_case_to_uscore` and `normalize`. Python's `str.lower` is Lean's `String.toLower`, which
maps `A`-`Z` only: the two agree on ASCII text, not beyond it. -/
def NameUtils.overriddenLower (u : NameUtils) (normalize : String → String) (name : String)
    (annotations : List Annot) : String :=
  match lookupAnnot annotations "org.gtk.GDBus.C.Name" with
  | some o =>
    if u.isUglyCase o then o.toLower
    else normalize (u.camelCaseToUscore (if o = "" then name else o))
  | none => normalize (u.camelCaseToUscore name)

mutual
/-- `Annotation.post_process`; of its container only `container.since` is read. -/
def Annot.postProcess (u : NameUtils) (ctx : Context) (containerSince : String) :
    Annot → Annot
  | ⟨key, value, annotations, since, _⟩ =>
    let since := fillIfEmpty since (fillIfEmpty (lookupSince annotations) containerSince)
    { key, value, since
      keyLower := some (u.overriddenLower (fun s => (s.toLower.replace "-" "_").replace "." "_")
        key annotations)
      annotations := Annot.postProcessAll u ctx since annotations }

/-- `for a in annotations: a.post_process(..., container)`. -/
def Annot.postProcessAll (u : NameUtils) (ctx : Context) (containerSince : String) :
    List Annot → List Annot
  | [] => []
  | a :: as => a.postProcess u ctx containerSince :: Annot.postProcessAll u ctx containerSince as
end

namespace Annot

variable (u : NameUtils) (ctx : Context)

@[simp] theorem postProcessAll_eq_map (c : String) (l : List Annot) :
    postProcessAll u ctx c l = l.map (postProcess u ctx c) := by
  induction l with
  | nil => rfl
  | cons a as ih => simp [postProcessAll, ih]

@[simp] theorem postProcess_entry (c : String) (a : Annot) :
    (a.postProcess u ctx c).entry = a.entry := by cases a; rfl

@[simp] theorem postProcess_key (c : String) (a : Annot) :
    (a.postProcess u ctx c).key = a.key := by cases a; rfl

@[simp] theorem postProcess_value (c : String) (a : Annot) :
    (a.postProcess u ctx c).value = a.value := by cases a; rfl

@[simp] theorem postProcess_since (c : String) (a : Annot) :
    (a.postProcess u ctx c).since =
      fillIfEmpty a.since (fillIfEmpty (lookupSince a.annotations) c) := by
  cases a; rfl

theorem entries_postProcessAll (c : String) (l : List Annot) :
    (l.map (postProcess u ctx c)).map entry = l.map entry := by
  simp [Function.comp_def]

end Annot

/-! ## Lookups never see a walk -/

section Lookups

variable (u : NameUtils) (ctx : Context) (c : String) (l : List Annot)

@[simp] theorem lookupAnnot_postProcess (key : String) :
    lookupAnnot (l.map (Annot.postProcess u ctx c)) key = lookupAnnot l key := by
  simp only [lookupAnnot, Annot.entries_postProcessAll]

@[simp] theorem lookupDocs_postProcess :
    lookupDocs (l.map (Annot.postProcess u ctx c)) = lookupDocs l := by
  simp [lookupDocs]

@[simp] theorem lookupBriefDocs_postProcess :
    lookupBriefDocs (l.map (Annot.postProcess u ctx c)) = lookupBriefDocs l := by
  simp [lookupBriefDocs]

@[simp] theorem lookupSince_postProcess :
    lookupSince (l.map (Annot.postProcess u ctx c)) = lookupSince l := by
  simp [lookupSince]

@[simp] theorem overriddenLower_postProcess (v : NameUtils) (normalize : String → String)
    (name : String) :
    v.overriddenLower normalize name (l.map (Annot.postProcess u ctx c)) =
      v.overriddenLower normalize name l := by
  simp [NameUtils.overriddenLower]

end Lookups

namespace Annot

variable (u : NameUtils) (ctx : Context)

theorem fillIfEmpty_absorb (a b c : String) :
    fillIfEmpty a (fillIfEmpty b (fillIfEmpty a c)) = fillIfEmpty a (fillIfEmpty b c) := by
  by_cases ha : a = "" <;> simp [fillIfEmpty, ha]

/-- The `since` of a walk with container `c'` followed by a walk with container `c`. -/
theorem since_twice (s l c' c : String) :
    fillIfEmpty (fillIfEmpty s (fillIfEmpty l c')) (fillIfEmpty l c) =
      fillIfEmpty s (fillIfEmpty l (fillIfEmpty c' c)) := by
  rw [fillIfEmpty_assoc, fillIfEmpty_assoc, fillIfEmpty_absorb]

mutual
/-- **Two walks are one**: a walk with container `c'` then `c` is a walk with
`fillIfEmpty c' c`. -/
theorem postProcess_postProcess (c' c : String) :
    ∀ a : Annot, (a.postProcess u ctx c').postProcess u ctx c =
      a.postProcess u ctx (fillIfEmpty c' c)
  | ⟨key, value, l, s, kl⟩ => by
    have hs := since_twice s (lookupSince l) c' c
    have hfix : fillIfEmpty (fillIfEmpty s (fillIfEmpty (lookupSince l) c'))
        (fillIfEmpty s (fillIfEmpty (lookupSince l) (fillIfEmpty c' c))) =
          fillIfEmpty s (fillIfEmpty (lookupSince l) (fillIfEmpty c' c)) := by
      rw [← hs, fillIfEmpty_left_fillIfEmpty]
    have hl := postProcessAll_postProcessAll (fillIfEmpty s (fillIfEmpty (lookupSince l) c'))
      (fillIfEmpty s (fillIfEmpty (lookupSince l) (fillIfEmpty c' c))) l
    simp only [postProcessAll_eq_map, hfix] at hl
    simp only [postProcess, postProcessAll_eq_map, lookupSince_postProcess,
      overriddenLower_postProcess, hs, hl]

theorem postProcessAll_postProcessAll (c' c : String) :
    ∀ l : List Annot, postProcessAll u ctx c (postProcessAll u ctx c' l) =
      postProcessAll u ctx (fillIfEmpty c' c) l
  | [] => rfl
  | a :: as => by
    simp only [postProcessAll, postProcess_postProcess c' c a,
      postProcessAll_postProcessAll c' c as]
end

attribute [simp] postProcess_postProcess

mutual
/-- The context is only passed on. -/
theorem postProcess_context (ctx' : Context) (c : String) :
    ∀ a : Annot, a.postProcess u ctx c = a.postProcess u ctx' c
  | ⟨key, value, l, s, kl⟩ => by
    simp only [postProcess, postProcessAll_context ctx']

theorem postProcessAll_context (ctx' : Context) (c : String) :
    ∀ l : List Annot, postProcessAll u ctx c l = postProcessAll u ctx' c l
  | [] => rfl
  | a :: as => by
    simp only [postProcessAll, postProcess_context ctx' c a, postProcessAll_context ctx' c as]
end

/-! ## What a walk keeps -/

mutual
/-- What `post_process` keeps of an annotation tree: key, value, a non-empty `since`, and the
nested annotations in their order. -/
def Keeps : Annot → Annot → Prop
  | ⟨k, v, l, s, _⟩, ⟨k', v', l', s', _⟩ =>
    k' = k ∧ v' = v ∧ (s ≠ "" → s' = s) ∧ KeepsAll l l'

/-- `Keeps` along two lists, position by position. -/
def KeepsAll : List Annot → List Annot → Prop
  | [], [] => True
  | a :: as, a' :: as' => Keeps a a' ∧ KeepsAll as as'
  | [], _ :: _ => False
  | _ :: _, [] => False
end

mutual
/-- **A walk keeps every declared field of the tree.** -/
theorem keeps_postProcess (c : String) : ∀ a : Annot, Keeps a (a.postProcess u ctx c)
  | ⟨_, _, l, _, _⟩ =>
    ⟨rfl, rfl, fun h => fillIfEmpty_of_ne h _, keepsAll_postProcessAll _ l⟩

theorem keepsAll_postProcessAll (c : String) :
    ∀ l : List Annot, KeepsAll l (postProcessAll u ctx c l)
  | [] => trivial
  | a :: as => ⟨keeps_postProcess c a, keepsAll_postProcessAll c as⟩
end

theorem keepsAll_map_postProcess (c : String) (l : List Annot) :
    KeepsAll l (l.map (postProcess u ctx c)) := by
  simpa using keepsAll_postProcessAll u ctx c l

/-! ## Where a `since` comes from -/

mutual
/-- Every annotation of `a'`, the resolution of `a` in a container whose resolved `since` is `c`,
that had no `since` takes its own `org.gtk.GDBus.Since`, else its container's resolved `since`. -/
def InheritsSince (c : String) : Annot → Annot → Prop
  | ⟨_, _, l, s, _⟩, ⟨_, _, l', s', _⟩ =>
    (s = "" → s' = fillIfEmpty (lookupSince l) c) ∧ InheritsSinceAll s' l l'

/-- `InheritsSince` along two lists, position by position. -/
def InheritsSinceAll (c : String) : List Annot → List Annot → Prop
  | [], [] => True
  | a :: as, a' :: as' => InheritsSince c a a' ∧ InheritsSinceAll c as as'
  | [], _ :: _ => False
  | _ :: _, [] => False
end

mutual
/-- **A walk with container `c` gives every annotation of the tree the `since` it inherits.** -/
theorem inheritsSince_postProcess (c : String) :
    ∀ a : Annot, InheritsSince c a (a.postProcess u ctx c)
  | ⟨_, _, l, _, _⟩ =>
    ⟨fun h => by simp [h], inheritsSinceAll_postProcessAll _ l⟩

theorem inheritsSinceAll_postProcessAll (c : String) :
    ∀ l : List Annot, InheritsSinceAll c l (postProcessAll u ctx c l)
  | [] => trivial
  | a :: as => ⟨inheritsSince_postProcess c a, inheritsSinceAll_postProcessAll c as⟩
end

theorem inheritsSinceAll_map_postProcess (c : String) (l : List Annot) :
    InheritsSinceAll c l (l.map (postProcess u ctx c)) := by
  simpa using inheritsSinceAll_postProcessAll u ctx c l

end Annot

end DBusCodegen

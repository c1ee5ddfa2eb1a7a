import DBusCodegen.Arg

/-!
# `Method.post_process` and `Signal.post_process`

A method or a signal fills `doc_string` from its own annotations and `since` from its own
annotations and then from the containing interface, computes `name_lower` and `name_hyphen`,
resolves its arguments in a loop whose counter `arg_count` runs on from the input to the output
arguments, and walks its annotations with itself as container. A method also sets `unix_fd`.

* `Signal.argLoop_eq`: the counter gives each argument its position; `Method.argLoop_fst`,
  `Method.argLoop_snd`: the method's loop resolves the same arguments, and `unix_fd` ends up set
  exactly when it was or some signature contains `h`;
* **`Method.postProcess_unixFd_iff`**: for a method as `__init__` builds it, `unix_fd` ends up
  set exactly when some signature contains `h` under `h_type_implies_unix_fd`, or
  `org.gtk.GDBus.C.UnixFD` is non-empty;
* `Method.postProcess_postProcess`, `Signal.postProcess_postProcess`: a second run changes nothing;
* `Method.keeps_postProcess`, `Signal.keeps_postProcess`: what a run keeps.
-/

namespace DBusCodegen

/-- `name_lower` of a method, signal or property, before the property's `type` remap; with the
ASCII `String.toLower` for Python's `str.lower`. -/
def NameUtils.memberNameLower (u : NameUtils) (name : String) (annotations : List Annot) : String :=
  u.overriddenLower (fun s => s.toLower.replace "-" "_") name annotations

@[simp] theorem memberNameLower_postProcess (u v : NameUtils) (ctx : Context) (c name : String)
    (l : List Annot) :
    v.memberNameLower name (l.map (Annot.postProcess u ctx c)) = v.memberNameLower name l := by
  simp [NameUtils.memberNameLower]

/-- The loop of `Signal.post_process`: each argument is resolved at the running `arg_count`. -/
def Signal.argLoop (u : NameUtils) (ctx : Context) : List Arg → Nat → List Arg × Nat
  | [], argCount => ([], argCount)
  | a :: as, argCount =>
    let rest := Signal.argLoop u ctx as (argCount + 1)
    (a.postProcess u ctx argCount :: rest.1, rest.2)

/-- One loop of `Method.post_process`, with its accumulators `arg_count` and `unix_fd`; the
source's `"h" in a.signature` tests for the character `h`. -/
def Method.argLoop (u : NameUtils) (ctx : Context) (hTypeImpliesUnixFd : Bool) :
    List Arg → Nat × Bool → List Arg × (Nat × Bool)
  | [], st => ([], st)
  | a :: as, (argCount, unixFd) =>
    let a := a.postProcess u ctx argCount
    let unixFd := if hTypeImpliesUnixFd = true ∧ 'h' ∈ a.signature.data then true else unixFd
    let rest := Method.argLoop u ctx hTypeImpliesUnixFd as (argCount + 1, unixFd)
    (a :: rest.1, rest.2)

/-- `Method.post_process`; of `containing_iface` only its `since` is read. -/
def Method.postProcess (u : NameUtils) (ctx : Context) (containingIfaceSince : String)
    (m : Method) : Method :=
  let since := fillIfEmpty m.since (fillIfEmpty (lookupSince m.annotations) containingIfaceSince)
  let nameLower := u.memberNameLower m.name m.annotations
  let ins := Method.argLoop u ctx m.hTypeImpliesUnixFd m.inArgs (0, m.unixFd)
  let outs := Method.argLoop u ctx m.hTypeImpliesUnixFd m.outArgs ins.2
  { m with
    docString := fillIfEmpty m.docString (lookupDocs m.annotations)
    since
    names := some ⟨nameLower, nameLower.replace "_" "-"⟩
    inArgs := ins.1
    outArgs := outs.1
    deprecated :=
      if lookupAnnot m.annotations "org.freedesktop.DBus.Deprecated" = some "true" then true
      else m.deprecated
    unixFd := if truthy (lookupAnnot m.annotations "org.gtk.GDBus.C.UnixFD") then true else outs.2.2
    annotations := Annot.postProcessAll u ctx since m.annotations }

/-- `Signal.post_process`; of `containing_iface` only its `since` is read. -/
def Signal.postProcess (u : NameUtils) (ctx : Context) (containingIfaceSince : String)
    (s : Signal) : Signal :=
  let since := fillIfEmpty s.since (fillIfEmpty (lookupSince s.annotations) containingIfaceSince)
  let nameLower := u.memberNameLower s.name s.annotations
  { s with
    docString := fillIfEmpty s.docString (lookupDocs s.annotations)
    since
    names := some ⟨nameLower, nameLower.replace "_" "-"⟩
    args := (Signal.argLoop u ctx s.args 0).1
    deprecated :=
      if lookupAnnot s.annotations "org.freedesktop.DBus.Deprecated" = some "true" then true
      else s.deprecated
    annotations := Annot.postProcessAll u ctx since s.annotations }

/-! ## The argument loops -/

section Loops

variable (u : NameUtils) (ctx : Context)

/-- The counter gives each argument its position, counted from the start value. -/
theorem Signal.argLoop_eq (as : List Arg) (n : Nat) :
    Signal.argLoop u ctx as n =
      ((as.enumFrom n).map fun p => p.2.postProcess u ctx p.1, n + as.length) := by
  induction as generalizing n with
  | nil => rfl
  | cons a as ih => simp [Signal.argLoop, ih, Nat.add_comm 1, Nat.add_assoc]

/-- The method's loop resolves its arguments as the signal's does. -/
theorem Method.argLoop_fst (h : Bool) (as : List Arg) (n : Nat) (f : Bool) :
    (Method.argLoop u ctx h as (n, f)).1 = (Signal.argLoop u ctx as n).1 := by
  induction as generalizing n f with
  | nil => rfl
  | cons a as ih => simp only [Method.argLoop, Signal.argLoop, ih]

/-- The counter ends past the last argument, and `unix_fd` is set when it was or some
signature contains `h` under `h_type_implies_unix_fd`. -/
theorem Method.argLoop_snd (h : Bool) (as : List Arg) (n : Nat) (f : Bool) :
    (Method.argLoop u ctx h as (n, f)).2 =
      (n + as.length, f || (h && as.any fun a => 'h' ∈ a.signature.data)) := by
  induction as generalizing n f with
  | nil => simp [Method.argLoop]
  | cons a as ih =>
    simp only [Method.argLoop, ih, List.length_cons, List.any_cons, Arg.postProcess_signature]
    cases h <;> by_cases ha : 'h' ∈ a.signature.data <;> simp [ha, Nat.add_assoc, Nat.add_comm 1]

@[simp] theorem Signal.argLoop_postProcess (as : List Arg) (n : Nat) :
    (Signal.argLoop u ctx (Signal.argLoop u ctx as n).1 n).1 = (Signal.argLoop u ctx as n).1 := by
  induction as generalizing n with
  | nil => rfl
  | cons a as ih => simp only [Signal.argLoop, ih, Arg.postProcess_postProcess]

theorem Signal.argLoop_signatures (as : List Arg) (n : Nat) :
    (Signal.argLoop u ctx as n).1.map Arg.signature = as.map Arg.signature := by
  induction as generalizing n with
  | nil => rfl
  | cons a as ih => simp only [Signal.argLoop, List.map_cons, ih, Arg.postProcess_signature]

@[simp] theorem Signal.argLoop_length (as : List Arg) (n : Nat) :
    (Signal.argLoop u ctx as n).1.length = as.length := by
  simpa using congrArg List.length (Signal.argLoop_signatures u ctx as n)

theorem Signal.argLoop_context (ctx' : Context) (as : List Arg) (n : Nat) :
    Signal.argLoop u ctx as n = Signal.argLoop u ctx' as n := by
  simp only [Signal.argLoop_eq, Arg.postProcess_context u ctx _ _ ctx']

/-- What `Arg.post_process` gives each argument, whatever its number, the loop gives the
whole list, position by position. -/
theorem Signal.argLoop_forall₂ {R : Arg → Arg → Prop} (h : ∀ n a, R a (a.postProcess u ctx n))
    (as : List Arg) (n : Nat) : List.Forall₂ R as (Signal.argLoop u ctx as n).1 := by
  induction as generalizing n with
  | nil => exact .nil
  | cons a as ih => exact .cons (h n a) (ih (n + 1))

theorem Signal.argLoop_keeps (as : List Arg) (n : Nat) :
    List.Forall₂ Arg.Keeps as (Signal.argLoop u ctx as n).1 :=
  Signal.argLoop_forall₂ u ctx (Arg.keeps_postProcess u ctx) as n

theorem Signal.argLoop_inheritsSince (as : List Arg) (n : Nat) :
    List.Forall₂ (fun a a' : Arg => Annot.InheritsSinceAll a'.since a.annotations a'.annotations)
      as (Signal.argLoop u ctx as n).1 :=
  Signal.argLoop_forall₂ u ctx (Arg.inheritsSince_postProcess u ctx) as n

@[simp] theorem Signal.argLoop_any_h (as : List Arg) (n : Nat) :
    (Signal.argLoop u ctx as n).1.any (fun a => 'h' ∈ a.signature.data) =
      as.any (fun a => 'h' ∈ a.signature.data) := by
  induction as generalizing n with
  | nil => rfl
  | cons a as ih => simp only [Signal.argLoop, List.any_cons, ih, Arg.postProcess_signature]

end Loops

/-! ## The fields of a resolved method or signal -/

namespace Method

variable (u : NameUtils) (ctx : Context) (c : String) (m : Method)

@[simp] theorem postProcess_name : (m.postProcess u ctx c).name = m.name := rfl

@[simp] theorem postProcess_hTypeImpliesUnixFd :
    (m.postProcess u ctx c).hTypeImpliesUnixFd = m.hTypeImpliesUnixFd := rfl

@[simp] theorem postProcess_docString :
    (m.postProcess u ctx c).docString = fillIfEmpty m.docString (lookupDocs m.annotations) := rfl

@[simp] theorem postProcess_since : (m.postProcess u ctx c).since =
    fillIfEmpty m.since (fillIfEmpty (lookupSince m.annotations) c) := rfl

@[simp] theorem postProcess_names : (m.postProcess u ctx c).names =
    some ⟨u.memberNameLower m.name m.annotations,
      (u.memberNameLower m.name m.annotations).replace "_" "-"⟩ := rfl

@[simp] theorem postProcess_inArgs :
    (m.postProcess u ctx c).inArgs = (Signal.argLoop u ctx m.inArgs 0).1 :=
  Method.argLoop_fst u ctx _ _ _ _

@[simp] theorem postProcess_outArgs :
    (m.postProcess u ctx c).outArgs = (Signal.argLoop u ctx m.outArgs m.inArgs.length).1 := by
  simp [Method.postProcess, Method.argLoop_snd, Method.argLoop_fst]

@[simp] theorem postProcess_deprecated : (m.postProcess u ctx c).deprecated =
    if lookupAnnot m.annotations "org.freedesktop.DBus.Deprecated" = some "true" then true
    else m.deprecated := rfl

/-- `unix_fd` ends up set when it was, when `org.gtk.GDBus.C.UnixFD` is truthy, or when some
argument's signature contains `h` under `h_type_implies_unix_fd`. -/
theorem postProcess_unixFd : (m.postProcess u ctx c).unixFd =
    (truthy (lookupAnnot m.annotations "org.gtk.GDBus.C.UnixFD") || m.unixFd ||
      (m.hTypeImpliesUnixFd && (m.inArgs ++ m.outArgs).any fun a => 'h' ∈ a.signature.data)) := by
  simp only [Method.postProcess, Method.argLoop_snd, List.any_append]
  cases truthy (lookupAnnot m.annotations "org.gtk.GDBus.C.UnixFD") <;>
    cases m.hTypeImpliesUnixFd <;> simp [Bool.or_assoc]

/-- **When a method passes file descriptors.** For a method as `Method.__init__` leaves it, with
`unix_fd` unset, `post_process` sets `unix_fd` exactly when `h_type_implies_unix_fd` holds and
some input or output signature contains `h`, or `org.gtk.GDBus.C.UnixFD` has a non-empty
value. -/
theorem postProcess_unixFd_iff (hm : m.unixFd = false) :
    (m.postProcess u ctx c).unixFd = true ↔
      (m.hTypeImpliesUnixFd = true ∧ ∃ a ∈ m.inArgs ++ m.outArgs, 'h' ∈ a.signature.data) ∨
        ∃ v, lookupAnnot m.annotations "org.gtk.GDBus.C.UnixFD" = some v ∧ v ≠ "" := by
  rw [postProcess_unixFd, hm, Bool.or_false, Bool.or_eq_true, truthy_iff, Bool.and_eq_true,
    List.any_eq_true, or_comm]
  simp only [decide_eq_true_eq]

/-- A method with one input of signature `h`, under the default `h_type_implies_unix_fd`. -/
theorem postProcess_unixFd_iff_open :
    let m : Method := { Method.init "Open" true with inArgs := [Arg.init (some "fd") "h"] }
    m.unixFd = false ∧
      ((m.postProcess ⟨fun _ => false, id, id⟩ ⟨"", "", "", ""⟩ "").unixFd = true ↔
        (m.hTypeImpliesUnixFd = true ∧ ∃ a ∈ m.inArgs ++ m.outArgs, 'h' ∈ a.signature.data) ∨
          ∃ v, lookupAnnot m.annotations "org.gtk.GDBus.C.UnixFD" = some v ∧ v ≠ "") :=
  ⟨rfl, postProcess_unixFd_iff _ _ _ _ rfl⟩

@[simp] theorem postProcess_annotations : (m.postProcess u ctx c).annotations =
    m.annotations.map (Annot.postProcess u ctx (m.postProcess u ctx c).since) :=
  Annot.postProcessAll_eq_map u ctx _ _

/-- A second run changes nothing. -/
@[simp] theorem postProcess_postProcess :
    (m.postProcess u ctx c).postProcess u ctx c = m.postProcess u ctx c := by
  apply Method.ext <;> simp [postProcess_unixFd]
  cases truthy (lookupAnnot m.annotations "org.gtk.GDBus.C.UnixFD") <;> cases m.unixFd <;> simp

theorem postProcess_context (ctx' : Context) : m.postProcess u ctx c = m.postProcess u ctx' c := by
  apply Method.ext <;> simp [postProcess_unixFd, Signal.argLoop_context u ctx ctx',
    Annot.postProcess_context u ctx ctx']

/-- What `post_process` keeps of a method: its name and flag, its argument lists and annotation
tree, and a non-empty `doc_string` or `since`. -/
structure Keeps (m m' : Method) : Prop where
  name : m'.name = m.name
  hTypeImpliesUnixFd : m'.hTypeImpliesUnixFd = m.hTypeImpliesUnixFd
  inArgs : List.Forall₂ Arg.Keeps m.inArgs m'.inArgs
  outArgs : List.Forall₂ Arg.Keeps m.outArgs m'.outArgs
  annotations : Annot.KeepsAll m.annotations m'.annotations
  docString : m.docString ≠ "" → m'.docString = m.docString
  since : m.since ≠ "" → m'.since = m.since

theorem keeps_postProcess : Keeps m (m.postProcess u ctx c) where
  name := rfl
  hTypeImpliesUnixFd := rfl
  inArgs := by simpa using Signal.argLoop_keeps u ctx m.inArgs 0
  outArgs := by simpa using Signal.argLoop_keeps u ctx m.outArgs _
  annotations := Annot.keepsAll_postProcessAll u ctx _ m.annotations
  docString h := fillIfEmpty_of_ne h _
  since h := fillIfEmpty_of_ne h _

end Method

namespace Signal

variable (u : NameUtils) (ctx : Context) (c : String) (s : Signal)

@[simp] theorem postProcess_name : (s.postProcess u ctx c).name = s.name := rfl

@[simp] theorem postProcess_docString :
    (s.postProcess u ctx c).docString = fillIfEmpty s.docString (lookupDocs s.annotations) := rfl

@[simp] theorem postProcess_since : (s.postProcess u ctx c).since =
    fillIfEmpty s.since (fillIfEmpty (lookupSince s.annotations) c) := rfl

@[simp] theorem postProcess_names : (s.postProcess u ctx c).names =
    some ⟨u.memberNameLower s.name s.annotations,
      (u.memberNameLower s.name s.annotations).replace "_" "-"⟩ := rfl

@[simp] theorem postProcess_args :
    (s.postProcess u ctx c).args = (Signal.argLoop u ctx s.args 0).1 := rfl

@[simp] theorem postProcess_deprecated : (s.postProcess u ctx c).deprecated =
    if lookupAnnot s.annotations "org.freedesktop.DBus.Deprecated" = some "true" then true
    else s.deprecated := rfl

@[simp] theorem postProcess_annotations : (s.postProcess u ctx c).annotations =
    s.annotations.map (Annot.postProcess u ctx (s.postProcess u ctx c).since) :=
  Annot.postProcessAll_eq_map u ctx _ _

/-- A second run changes nothing. -/
@[simp] theorem postProcess_postProcess :
    (s.postProcess u ctx c).postProcess u ctx c = s.postProcess u ctx c := by
  apply Signal.ext <;> simp

theorem postProcess_context (ctx' : Context) : s.postProcess u ctx c = s.postProcess u ctx' c := by
  apply Signal.ext <;>
    simp [Signal.argLoop_context u ctx ctx', Annot.postProcess_context u ctx ctx']

/-- What `post_process` keeps of a signal. -/
structure Keeps (s s' : Signal) : Prop where
  name : s'.name = s.name
  args : List.Forall₂ Arg.Keeps s.args s'.args
  annotations : Annot.KeepsAll s.annotations s'.annotations
  docString : s.docString ≠ "" → s'.docString = s.docString
  since : s.since ≠ "" → s'.since = s.since

theorem keeps_postProcess : Keeps s (s.postProcess u ctx c) where
  name := rfl
  args := Signal.argLoop_keeps u ctx s.args 0
  annotations := Annot.keepsAll_postProcessAll u ctx _ s.annotations
  docString h := fillIfEmpty_of_ne h _
  since h := fillIfEmpty_of_ne h _

end Signal

end DBusCodegen

import Mathlib.Data.List.Forall2

/-!
# The entities of `dbustypes.py`

The interface tree the parser hands to the code generator: annotations nested to any depth,
arguments, methods, signals, properties and interfaces. Each entity has the fields its
`__init__` sets and the fields `post_process` resolves, which are `none` until then.

* `lookupAnnot`, `lookupDocs`, `lookupBriefDocs`, `lookupSince`: the lookups of `utils`,
  modelled from the spec (`utils.py` is not among the sources);
* `NameUtils`: the naming helpers of `utils`, parameters of the whole model;
* `fillIfEmpty`: the source's `if len(s) == 0: s = fallback`, and its algebra;
* `Property` carries as a field that its synthetic `value` argument shares its annotation list.
-/

namespace DBusCodegen

/-! ## Annotations and the `utils` helpers -/

/-- `Annotation`: a key, a value, nested annotations; `key_lower` is set by `post_process`. -/
structure Annot where
  key : String
  value : String
  annotations : List Annot
  since : String
  keyLower : Option String
deriving Repr

/-- `Annotation.__init__`. -/
def Annot.init (key value : String) : Annot := ⟨key, value, [], "", none⟩

/-- The declared pair of an annotation: all that a lookup reads of it. -/
def Annot.entry (a : Annot) : String × String := (a.key, a.value)

/-- Modelled from the spec: `utils.lookup_annotation`, absent from the sources. The value of the
first annotation whose key is exactly `key`, and `none` when no key matches. -/
def lookupAnnot (annotations : List Annot) (key : String) : Option String :=
  (annotations.map Annot.entry).lookup key

/-- Modelled from the spec: `utils.lookup_docs`, the `org.gtk.GDBus.DocString` value or `""`. -/
def lookupDocs (annotations : List Annot) : String :=
  (lookupAnnot annotations "org.gtk.GDBus.DocString").getD ""

/-- Modelled from the spec: `utils.lookup_brief_docs`, the `org.gtk.GDBus.DocString.Short` value
or `""`. -/
def lookupBriefDocs (annotations : List Annot) : String :=
  (lookupAnnot annotations "org.gtk.GDBus.DocString.Short").getD ""

/-- Modelled from the spec: `utils.lookup_since`, the `org.gtk.GDBus.Since` value or `""`. -/
def lookupSince (annotations : List Annot) : String :=
  (lookupAnnot annotations "org.gtk.GDBus.Since").getD ""

/-- Python's truth value of a lookup: `None` and `""` are false. -/
def truthy : Option String → Bool
  | some s => s != ""
  | none => false

/-- The naming helpers of `utils` the post-processors call: `is_ugly_case`,
`camel_case_to_uscore` and `strip_dots`. The spec leaves the ugly-case test open, so they are
parameters and every result holds for all of them. The source only asks `is_ugly_case` about a
present override: on `None` it is false. -/
structure NameUtils where
  isUglyCase : String → Bool
  camelCaseToUscore : String → String
  stripDots : String → String

/-! ## `fillIfEmpty` -/

/-- `if len(s) == 0: s = fallback`. -/
def fillIfEmpty (s fallback : String) : String := if s = "" then fallback else s

@[simp] theorem fillIfEmpty_empty (b : String) : fillIfEmpty "" b = b := rfl

theorem fillIfEmpty_of_ne {a : String} (h : a ≠ "") (b : String) : fillIfEmpty a b = a :=
  if_neg h

@[simp] theorem fillIfEmpty_empty_right (a : String) : fillIfEmpty a "" = a := by
  unfold fillIfEmpty; split <;> simp_all

theorem fillIfEmpty_assoc (a b c : String) :
    fillIfEmpty (fillIfEmpty a b) c = fillIfEmpty a (fillIfEmpty b c) := by
  by_cases ha : a = "" <;> simp [fillIfEmpty, ha]

@[simp] theorem fillIfEmpty_self (a : String) : fillIfEmpty a a = a := by
  by_cases ha : a = "" <;> simp [fillIfEmpty, ha]

/-- A value filled once is not filled again by the same fallback. -/
@[simp] theorem fillIfEmpty_fillIfEmpty_right (a b : String) :
    fillIfEmpty (fillIfEmpty a b) b = fillIfEmpty a b := by
  rw [fillIfEmpty_assoc, fillIfEmpty_self]

@[simp] theorem fillIfEmpty_left_fillIfEmpty (a b : String) :
    fillIfEmpty a (fillIfEmpty a b) = fillIfEmpty a b := by
  by_cases ha : a = "" <;> simp [fillIfEmpty, ha]

/-! ## Arguments and members -/

/-- The binding-type fields `Arg.post_process` sets on an argument. -/
structure TypeDescriptor where
  ctypeInG : String
  ctypeIn : String
  ctypeInDup : String
  ctypeOut : String
  gtype : String
  freeFunc : Option String
  formatIn : String
  formatOut : String
  gvariantGet : String
  gvalueGet : String
  arrayAnnot : String
deriving Repr, DecidableEq

/-- `Arg`: an argument of a method or a signal, or a property's synthetic `value` argument. -/
@[ext] structure Arg where
  name : Option String
  signature : String
  annotations : List Annot
  docString : String
  since : String
  descriptor : Option TypeDescriptor
deriving Repr

/-- `Arg.__init__`; the parser passes `None` for an unnamed argument. -/
def Arg.init (name : Option String) (signature : String) : Arg :=
  ⟨name, signature, [], "", "", none⟩

/-- `name_lower` and `name_hyphen` of a method, signal or property. -/
structure MemberNames where
  nameLower : String
  nameHyphen : String
deriving Repr, DecidableEq

/-- `Method`. -/
@[ext] structure Method where
  name : String
  hTypeImpliesUnixFd : Bool
  inArgs : List Arg
  outArgs : List Arg
  annotations : List Annot
  docString : String
  since : String
  deprecated : Bool
  unixFd : Bool
  names : Option MemberNames
deriving Repr

/-- `Method.__init__`; the source's default for `h_type_implies_unix_fd` is `True`. -/
def Method.init (name : String) (hTypeImpliesUnixFd : Bool) : Method :=
  ⟨name, hTypeImpliesUnixFd, [], [], [], "", "", false, false, none⟩

/-- `Signal`. -/
@[ext] structure Signal where
  name : String
  args : List Arg
  annotations : List Annot
  docString : String
  since : String
  deprecated : Bool
  names : Option MemberNames
deriving Repr

/-- `Signal.__init__`. -/
def Signal.init (name : String) : Signal := ⟨name, [], [], "", "", false, none⟩

/-- `Property`. Its synthetic argument `arg` shares the property's annotation list (`arg_shares`),
as `Property.__init__` sets it up; the property is the only writer of that list. -/
@[ext] structure Property where
  name : String
  signature : String
  access : String
  annotations : List Annot
  arg : Arg
  arg_shares : arg.annotations = annotations
  readable : Bool
  writable : Bool
  docString : String
  since : String
  deprecated : Bool
  emitsChangedSignal : Bool
  names : Option MemberNames

/-- The access branch of `Property.__init__`, its one `if`/`elif` chain: `readable`, `writable`,
and the message `print_error` prints for an access mode it does not know. -/
def accessMode (access : String) : Bool × Bool × Option String :=
  if access = "readwrite" then (true, true, none)
  else if access = "read" then (true, false, none)
  else if access = "write" then (false, true, none)
  else (false, false, some ("Invalid access type \"" ++ access ++ "\""))

/-- `Property.__init__`, with the error it prints. -/
def Property.init (name signature access : String) : Property × Option String :=
  ({ name, signature, access
     annotations := []
     arg := Arg.init (some "value") signature
     arg_shares := rfl
     readable := (accessMode access).1
     writable := (accessMode access).2.1
     docString := ""
     since := ""
     deprecated := false
     emitsChangedSignal := true
     names := none }, (accessMode access).2.2)

/-! ## Interfaces -/

/-- The names `Interface.post_process` computes. -/
structure InterfaceNames where
  nameWithoutPrefix : String
  camelName : String
  nsUpper : String
  nameLower : String
  nameUpper : String
  nameHyphen : String
deriving Repr, DecidableEq

/-- `Interface`. -/
@[ext] structure Interface where
  name : String
  methods : List Method
  signals : List Signal
  properties : List Property
  annotations : List Annot
  docString : String
  docStringBrief : String
  since : String
  deprecated : Bool
  names : Option InterfaceNames

/-- `Interface.__init__`. -/
def Interface.init (name : String) : Interface :=
  ⟨name, [], [], [], [], "", "", "", false, none⟩

end DBusCodegen

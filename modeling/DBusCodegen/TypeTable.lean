import DBusCodegen.Basic

/-!
# The signature table of `Arg.post_process`

`Arg.post_process` first gives every argument the `xvariant_t` binding, then, unless
`org.gtk.GDBus.C.ForceGVariant` is set, overrides the fields that the row of its signature sets.
`typeDescriptor` is that code. `NativeType` is the closed enumeration of the sixteen rows the spec
asks for, and `typeDescriptor_eq` says that the table is exactly: the row of the signature's
native type, or the variant fallback.

* `TypeDescriptor.WellFormed`: release function exactly for pointer types, the out-slot points at
  the owned form, one format for both directions, `@` exactly for the variant;
* **`typeDescriptor_wellFormed`**, **`typeDescriptor_gvalueBinding`** (the GValue side is a
  function of the type tag), **`typeDescriptor_eq_variant_iff`**;
* `typeDescriptor_injective`, **`typeDescriptor_eq_iff`**: a descriptor determines its signature,
  and two arguments share one exactly when their signatures and flags agree or both fall back.
-/

namespace DBusCodegen

/-- The defaults of `Arg.post_process`: the `xvariant_t` binding of `signature`. -/
def variantDescriptor (signature : String) : TypeDescriptor where
  ctypeInG := "xvariant_t *"
  ctypeIn := "xvariant_t *"
  ctypeInDup := "xvariant_t *"
  ctypeOut := "xvariant_t **"
  gtype := "XTYPE_VARIANT"
  freeFunc := some "xvariant_unref"
  formatIn := "@" ++ signature
  formatOut := "@" ++ signature
  gvariantGet := "XXX"
  gvalueGet := "xvalue_get_variant"
  arrayAnnot := ""

/-- The binding-type fields `Arg.post_process` leaves on an argument of `signature`: each row
overrides the fields it sets in the defaults, the others keep the `xvariant_t` values. -/
def typeDescriptor (signature : String) (forceGVariant : Bool) : TypeDescriptor :=
  let d := variantDescriptor signature
  if forceGVariant then d else
  match signature with
  | "b" =>
    { d with
      ctypeInG := "xboolean_t ", ctypeIn := "xboolean_t ", ctypeOut := "xboolean_t *",
      gtype := "XTYPE_BOOLEAN", freeFunc := none, formatIn := "b", formatOut := "b",
      gvariantGet := "xvariant_get_boolean", gvalueGet := "xvalue_get_boolean" }
  | "y" =>
    { d with
      ctypeInG := "xuchar_t ", ctypeIn := "xuchar_t ", ctypeOut := "xuchar_t *",
      gtype := "XTYPE_UCHAR", freeFunc := none, formatIn := "y", formatOut := "y",
      gvariantGet := "xvariant_get_byte", gvalueGet := "xvalue_get_uchar" }
  | "n" =>
    { d with
      ctypeInG := "xint_t ", ctypeIn := "gint16 ", ctypeOut := "gint16 *",
      gtype := "XTYPE_INT", freeFunc := none, formatIn := "n", formatOut := "n",
      gvariantGet := "xvariant_get_int16", gvalueGet := "xvalue_get_int" }
  | "q" =>
    { d with
      ctypeInG := "xuint_t ", ctypeIn := "xuint16_t ", ctypeOut := "xuint16_t *",
      gtype := "XTYPE_UINT", freeFunc := none, formatIn := "q", formatOut := "q",
      gvariantGet := "xvariant_get_uint16", gvalueGet := "xvalue_get_uint" }
  | "i" =>
    { d with
      ctypeInG := "xint_t ", ctypeIn := "xint_t ", ctypeOut := "xint_t *",
      gtype := "XTYPE_INT", freeFunc := none, formatIn := "i", formatOut := "i",
      gvariantGet := "xvariant_get_int32", gvalueGet := "xvalue_get_int" }
  | "u" =>
    { d with
      ctypeInG := "xuint_t ", ctypeIn := "xuint_t ", ctypeOut := "xuint_t *",
      gtype := "XTYPE_UINT", freeFunc := none, formatIn := "u", formatOut := "u",
      gvariantGet := "xvariant_get_uint32", gvalueGet := "xvalue_get_uint" }
  | "x" =>
    { d with
      ctypeInG := "sint64_t ", ctypeIn := "sint64_t ", ctypeOut := "sint64_t *",
      gtype := "XTYPE_INT64", freeFunc := none, formatIn := "x", formatOut := "x",
      gvariantGet := "xvariant_get_int64", gvalueGet := "xvalue_get_int64" }
  | "t" =>
    { d with
      ctypeInG := "xuint64_t ", ctypeIn := "xuint64_t ", ctypeOut := "xuint64_t *",
      gtype := "XTYPE_UINT64", freeFunc := none, formatIn := "t", formatOut := "t",
      gvariantGet := "xvariant_get_uint64", gvalueGet := "xvalue_get_uint64" }
  | "d" =>
    { d with
      ctypeInG := "xdouble_t ", ctypeIn := "xdouble_t ", ctypeOut := "xdouble_t *",
      gtype := "XTYPE_DOUBLE", freeFunc := none, formatIn := "d", formatOut := "d",
      gvariantGet := "xvariant_get_double", gvalueGet := "xvalue_get_double" }
  | "s" =>
    { d with
      ctypeInG := "const xchar_t *", ctypeIn := "const xchar_t *",
      ctypeInDup := "xchar_t *", ctypeOut := "xchar_t **", gtype := "XTYPE_STRING",
      freeFunc := some "g_free", formatIn := "s", formatOut := "s",
      gvariantGet := "xvariant_get_string", gvalueGet := "xvalue_get_string" }
  | "o" =>
    { d with
      ctypeInG := "const xchar_t *", ctypeIn := "const xchar_t *",
      ctypeInDup := "xchar_t *", ctypeOut := "xchar_t **", gtype := "XTYPE_STRING",
      freeFunc := some "g_free", formatIn := "o", formatOut := "o",
      gvariantGet := "xvariant_get_string", gvalueGet := "xvalue_get_string" }
  | "g" =>
    { d with
      ctypeInG := "const xchar_t *", ctypeIn := "const xchar_t *",
      ctypeInDup := "xchar_t *", ctypeOut := "xchar_t **", gtype := "XTYPE_STRING",
      freeFunc := some "g_free", formatIn := "g", formatOut := "g",
      gvariantGet := "xvariant_get_string", gvalueGet := "xvalue_get_string" }
  | "ay" =>
    { d with
      ctypeInG := "const xchar_t *", ctypeIn := "const xchar_t *",
      ctypeInDup := "xchar_t *", ctypeOut := "xchar_t **", gtype := "XTYPE_STRING",
      freeFunc := some "g_free", formatIn := "^ay", formatOut := "^ay",
      gvariantGet := "xvariant_get_bytestring", gvalueGet := "xvalue_get_string" }
  | "as" =>
    { d with
      ctypeInG := "const xchar_t *const *", ctypeIn := "const xchar_t *const *",
      ctypeInDup := "xchar_t **", ctypeOut := "xchar_t ***", gtype := "XTYPE_STRV",
      freeFunc := some "xstrfreev", formatIn := "^as", formatOut := "^as",
      gvariantGet := "xvariant_get_strv", gvalueGet := "xvalue_get_boxed",
      arrayAnnot := "(array zero-terminated=1)" }
  | "ao" =>
    { d with
      ctypeInG := "const xchar_t *const *", ctypeIn := "const xchar_t *const *",
      ctypeInDup := "xchar_t **", ctypeOut := "xchar_t ***", gtype := "XTYPE_STRV",
      freeFunc := some "xstrfreev", formatIn := "^ao", formatOut := "^ao",
      gvariantGet := "xvariant_get_objv", gvalueGet := "xvalue_get_boxed",
      arrayAnnot := "(array zero-terminated=1)" }
  | "aay" =>
    { d with
      ctypeInG := "const xchar_t *const *", ctypeIn := "const xchar_t *const *",
      ctypeInDup := "xchar_t **", ctypeOut := "xchar_t ***", gtype := "XTYPE_STRV",
      freeFunc := some "xstrfreev", formatIn := "^aay", formatOut := "^aay",
      gvariantGet := "xvariant_get_bytestring_array", gvalueGet := "xvalue_get_boxed",
      arrayAnnot := "(array zero-terminated=1)" }
  | _ => d

/-! ## The sixteen native types -/

/-- The signatures the table binds natively, as a closed enumeration. -/
inductive NativeType
  | boolean | byte | int16 | uint16 | int32 | uint32 | int64 | uint64 | double
  | string | objectPath | signature | bytestring | strv | objv | bytestringArray
deriving DecidableEq, Repr

/-- The signature of a native type. -/
def NativeType.toSignature : NativeType → String
  | .boolean => "b" | .byte => "y" | .int16 => "n" | .uint16 => "q" | .int32 => "i"
  | .uint32 => "u" | .int64 => "x" | .uint64 => "t" | .double => "d" | .string => "s"
  | .objectPath => "o" | .signature => "g" | .bytestring => "ay" | .strv => "as"
  | .objv => "ao" | .bytestringArray => "aay"

/-- Exact-string recognition of a native signature: no prefix, suffix or container counts. -/
def NativeType.ofSignature (s : String) : Option NativeType :=
  [NativeType.boolean, .byte, .int16, .uint16, .int32, .uint32, .int64, .uint64, .double,
    .string, .objectPath, .signature, .bytestring, .strv, .objv, .bytestringArray].find?
    (·.toSignature == s)

/-- The sixteen signature strings of the table. -/
def nativeSignatures : List String :=
  ["b", "y", "n", "q", "i", "u", "x", "t", "d", "s", "o", "g", "ay", "as", "ao", "aay"]

theorem NativeType.ofSignature_eq_some {s : String} {t : NativeType} :
    ofSignature s = some t ↔ t.toSignature = s := by
  constructor
  · intro h
    simpa using List.find?_some h
  · rintro rfl
    cases t <;> rfl

theorem NativeType.ofSignature_eq_none {s : String} :
    ofSignature s = none ↔ s ∉ nativeSignatures := by
  constructor
  · intro h hs
    simp only [nativeSignatures, List.mem_cons, List.mem_singleton, List.not_mem_nil,
      or_false] at hs
    rcases hs with rfl | rfl | rfl | rfl | rfl | rfl | rfl | rfl | rfl | rfl | rfl | rfl | rfl |
      rfl | rfl | rfl <;> exact absurd h (by decide)
  · intro h
    cases ht : ofSignature s with
    | none => rfl
    | some t =>
      obtain rfl := ofSignature_eq_some.1 ht
      exact absurd (by cases t <;> decide) h

/-- The row of a native type. -/
def NativeType.descriptor (t : NativeType) : TypeDescriptor := typeDescriptor t.toSignature false

theorem typeDescriptor_of_not_mem {s : String} (h : s ∉ nativeSignatures) :
    typeDescriptor s false = variantDescriptor s := by
  unfold typeDescriptor
  rw [if_neg Bool.false_ne_true]
  split
  all_goals first | rfl | exact absurd (by decide) h

/-- **The table is its sixteen rows and the fallback**: a forced or unrecognised signature gets
the variant descriptor, any other the row of its native type. -/
theorem typeDescriptor_eq (s : String) (f : Bool) :
    typeDescriptor s f = if f then variantDescriptor s else
      match NativeType.ofSignature s with
      | some t => t.descriptor
      | none => variantDescriptor s := by
  cases f
  · cases ht : NativeType.ofSignature s with
    | none => exact typeDescriptor_of_not_mem (NativeType.ofSignature_eq_none.1 ht)
    | some t => rw [← NativeType.ofSignature_eq_some.1 ht]; rfl
  · rfl

/-! ## Ownership and format laws -/

/-- The laws a descriptor of `signature` keeps: a release function exactly for the types passed
by pointer, an out-slot pointing at the owned form, one format for both directions, and the `@`
format exactly for the variant. -/
structure TypeDescriptor.WellFormed (signature : String) (d : TypeDescriptor) : Prop where
  free_iff_pointer : d.freeFunc = none ↔ '*' ∉ d.ctypeIn.data
  out_slot : d.ctypeOut = (if d.freeFunc = none then d.ctypeIn else d.ctypeInDup) ++ "*"
  format_out : d.formatOut = d.formatIn
  format_in :
    d.formatIn = signature ∨ d.formatIn = "^" ++ signature ∨ d.formatIn = "@" ++ signature
  format_variant : d.formatIn = "@" ++ signature ↔ d.gtype = "XTYPE_VARIANT"

theorem variantDescriptor_wellFormed (s : String) : (variantDescriptor s).WellFormed s where
  free_iff_pointer := by simp [variantDescriptor]
  out_slot := by simp [variantDescriptor]
  format_out := rfl
  format_in := .inr (.inr rfl)
  format_variant := by simp [variantDescriptor]

theorem NativeType.descriptor_wellFormed (t : NativeType) :
    t.descriptor.WellFormed t.toSignature := by
  cases t <;> exact ⟨by decide, by decide, by decide, by decide, by decide⟩

theorem typeDescriptor_wellFormed (s : String) (f : Bool) : (typeDescriptor s f).WellFormed s := by
  rw [typeDescriptor_eq]
  split
  · exact variantDescriptor_wellFormed s
  · split
    · rename_i t ht
      exact NativeType.ofSignature_eq_some.1 ht ▸ t.descriptor_wellFormed
    · exact variantDescriptor_wellFormed s

/-! ## The GValue side -/

/-- The fields of a descriptor that the GValue side of the generated code reads. -/
structure GValueBinding where
  ctypeInG : String
  gvalueGet : String
  freeFunc : Option String
  arrayAnnot : String
deriving DecidableEq

/-- The GValue side of a descriptor. -/
def TypeDescriptor.gvalueBinding (d : TypeDescriptor) : GValueBinding :=
  ⟨d.ctypeInG, d.gvalueGet, d.freeFunc, d.arrayAnnot⟩

/-- The GValue side of each type tag, as the rows of the table give it. -/
def gvalueBindingOf : String → GValueBinding
  | "XTYPE_BOOLEAN" => ⟨"xboolean_t ", "xvalue_get_boolean", none, ""⟩
  | "XTYPE_UCHAR" => ⟨"xuchar_t ", "xvalue_get_uchar", none, ""⟩
  | "XTYPE_INT" => ⟨"xint_t ", "xvalue_get_int", none, ""⟩
  | "XTYPE_UINT" => ⟨"xuint_t ", "xvalue_get_uint", none, ""⟩
  | "XTYPE_INT64" => ⟨"sint64_t ", "xvalue_get_int64", none, ""⟩
  | "XTYPE_UINT64" => ⟨"xuint64_t ", "xvalue_get_uint64", none, ""⟩
  | "XTYPE_DOUBLE" => ⟨"xdouble_t ", "xvalue_get_double", none, ""⟩
  | "XTYPE_STRING" => ⟨"const xchar_t *", "xvalue_get_string", some "g_free", ""⟩
  | "XTYPE_STRV" => ⟨"const xchar_t *const *", "xvalue_get_boxed", some "xstrfreev",
      "(array zero-terminated=1)"⟩
  | _ => ⟨"xvariant_t *", "xvalue_get_variant", some "xvariant_unref", ""⟩

/-- **The GValue side of every descriptor is a function of its type tag.** -/
theorem typeDescriptor_gvalueBinding (s : String) (f : Bool) :
    (typeDescriptor s f).gvalueBinding = gvalueBindingOf (typeDescriptor s f).gtype := by
  rw [typeDescriptor_eq]
  split
  · rfl
  · split
    · rename_i t _
      cases t <;> rfl
    · rfl

/-! ## The variant fallback -/

theorem NativeType.descriptor_ne_variant (t : NativeType) :
    t.descriptor ≠ variantDescriptor t.toSignature := by
  cases t <;> decide

/-- **Exactly the forced and the unrecognised signatures get the variant descriptor.** -/
theorem typeDescriptor_eq_variant_iff (s : String) (f : Bool) :
    typeDescriptor s f = variantDescriptor s ↔ f = true ∨ s ∉ nativeSignatures := by
  rw [typeDescriptor_eq, ← NativeType.ofSignature_eq_none]
  cases f
  · cases ht : NativeType.ofSignature s with
    | none => simp
    | some t =>
      obtain rfl := NativeType.ofSignature_eq_some.1 ht
      simpa using t.descriptor_ne_variant
  · simp

/-! ## Distinct signatures, distinct descriptors -/

theorem String.append_left_cancel {p a b : String} (h : p ++ a = p ++ b) : a = b :=
  String.ext (List.append_cancel_left (congrArg String.data h))

/-- No native signature starts with the `^` that a format puts in front of an array. -/
theorem nativeSignatures_head {s : String} (hs : s ∈ nativeSignatures) :
    s.data.head? ≠ some '^' := by
  have : ∀ s ∈ nativeSignatures, s.data.head? ≠ some '^' := by decide
  exact this s hs

/-- Outside the variant, the signature is native and the format is the signature, or `^` and
the signature. -/
theorem typeDescriptor_format_of_ne_variant {s : String} {f : Bool}
    (hv : (typeDescriptor s f).gtype ≠ "XTYPE_VARIANT") :
    s ∈ nativeSignatures ∧
      ((typeDescriptor s f).formatIn = s ∨ (typeDescriptor s f).formatIn = "^" ++ s) := by
  have hw := typeDescriptor_wellFormed s f
  have hne : typeDescriptor s f ≠ variantDescriptor s := fun he => hv (he ▸ rfl)
  rw [Ne, typeDescriptor_eq_variant_iff, not_or, not_not] at hne
  refine ⟨hne.2, ?_⟩
  rcases hw.format_in with h | h | h
  · exact .inl h
  · exact .inr h
  · exact absurd (hw.format_variant.1 h) hv

/-- **Different signatures never share a descriptor**: the descriptor `Arg.post_process`
computes, forced to the variant or not, determines the signature it was computed from. -/
theorem typeDescriptor_injective {s s' : String} {f f' : Bool}
    (h : typeDescriptor s f = typeDescriptor s' f') : s = s' := by
  by_cases hv : (typeDescriptor s f).gtype = "XTYPE_VARIANT"
  · have h₁ := (typeDescriptor_wellFormed s f).format_variant.2 hv
    have h₂ := (typeDescriptor_wellFormed s' f').format_variant.2 (h ▸ hv)
    rw [← h] at h₂
    exact String.append_left_cancel (h₁.symm.trans h₂)
  · obtain ⟨hs, h₁⟩ := typeDescriptor_format_of_ne_variant hv
    obtain ⟨hs', h₂⟩ := typeDescriptor_format_of_ne_variant (h ▸ hv)
    rw [← h] at h₂
    rcases h₁ with h₁ | h₁ <;> rcases h₂ with h₂ | h₂
    · exact h₁.symm.trans h₂
    · exact absurd (by rw [h₁.symm.trans h₂]; rfl) (nativeSignatures_head hs)
    · exact absurd (by rw [h₂.symm.trans h₁]; rfl) (nativeSignatures_head hs')
    · exact String.append_left_cancel (h₁.symm.trans h₂)

/-- **When two arguments get the same descriptor**: exactly when their signatures agree and
either their `org.gtk.GDBus.C.ForceGVariant` flags agree or the signature is not native, so that
both fall back to the variant. -/
theorem typeDescriptor_eq_iff (s s' : String) (f f' : Bool) :
    typeDescriptor s f = typeDescriptor s' f' ↔ s = s' ∧ (f = f' ∨ s ∉ nativeSignatures) := by
  constructor
  · intro h
    obtain rfl := typeDescriptor_injective h
    refine ⟨rfl, ?_⟩
    cases f <;> cases f'
    · exact .inl rfl
    · exact .inr (((typeDescriptor_eq_variant_iff s false).1 h).resolve_left (by simp))
    · exact .inr (((typeDescriptor_eq_variant_iff s false).1 h.symm).resolve_left (by simp))
    · exact .inl rfl
  · rintro ⟨rfl, rfl | hs⟩
    · rfl
    · rw [(typeDescriptor_eq_variant_iff s f).2 (.inr hs),
        (typeDescriptor_eq_variant_iff s f').2 (.inr hs)]

end DBusCodegen

import Mathlib.Data.String.Basic
import DBusCodegen.Interface

/-!
# The C identifiers of an interface agree up to case

`Interface.post_process` computes `name_lower` and, separately, `ns_upper` and `name_upper`, on
four paths: a namespace in ugly case or not (or none), and an `org.gtk.GDBus.C.Name` override in
ugly case or not. On every path the upper-case form of `name_lower` is `ns_upper ++ name_upper`,
whatever `camel_case_to_uscore` and `is_ugly_case` return. The case maps are the ASCII ones, as
Python's `upper` and `lower` are on ASCII text.

* `Char.toUpper_toLower`, `Char.toLower_toUpper`, `String.toUpper_append` and their string
  forms: the case laws used;
* `NameUtils.namespaceForms_cnsLower`: `cns_lower` and `cns_upper` agree up to case;
* **`Interface.postProcess_nameLower_toUpper`**: the law for every interface;
* **`Interface.postProcess_names_base`**: on ASCII text, `name_lower`, `name_upper` and
  `name_hyphen` are all built from one base identifier.
-/

namespace DBusCodegen

/-! ## ASCII case maps -/

theorem Char.toNat_ofNat_of_lt {n : Nat} (h : n < 0xd800) : (Char.ofNat n).toNat = n := by
  rw [Char.ofNat, dif_pos (Or.inl h)]
  rfl

/-- Upper-casing forgets a previous lower-casing. -/
theorem Char.toUpper_toLower (ch : Char) : ch.toLower.toUpper = ch.toUpper := by
  dsimp only [Char.toLower]
  split
  · rename_i h
    have hn := Char.toNat_ofNat_of_lt (show ch.toNat + 32 < 0xd800 by omega)
    dsimp only [Char.toUpper]
    rw [hn, if_pos (by omega), if_neg (by omega), Nat.add_sub_cancel, Char.ofNat_toNat]
  · rfl

/-- Lower-casing forgets a previous upper-casing. -/
theorem Char.toLower_toUpper (ch : Char) : ch.toUpper.toLower = ch.toLower := by
  dsimp only [Char.toUpper]
  split
  · rename_i h
    have hn := Char.toNat_ofNat_of_lt (show ch.toNat - 32 < 0xd800 by omega)
    dsimp only [Char.toLower]
    rw [hn, if_pos (by omega), if_neg (by omega), Nat.sub_add_cancel (by omega),
      Char.ofNat_toNat]
  · rfl

theorem Char.toLower_toLower (ch : Char) : ch.toLower.toLower = ch.toLower := by
  by_cases h : ch.toNat ≥ 65 ∧ ch.toNat ≤ 90
  · have hl : ch.toLower = Char.ofNat (ch.toNat + 32) := if_pos h
    have hn := Char.toNat_ofNat_of_lt (show ch.toNat + 32 < 0xd800 by omega)
    rw [hl]
    exact if_neg (by rw [hn]; omega)
  · have hl : ch.toLower = ch := if_neg h
    rw [hl, hl]

theorem String.toUpper_data (s : String) : s.toUpper.data = s.data.map Char.toUpper := by
  rw [String.toUpper, String.map_eq]

theorem String.toLower_data (s : String) : s.toLower.data = s.data.map Char.toLower := by
  rw [String.toLower, String.map_eq]

@[simp] theorem String.toUpper_append (s t : String) :
    (s ++ t).toUpper = s.toUpper ++ t.toUpper :=
  String.ext (by simp only [String.toUpper_data, String.data_append, List.map_append])

@[simp] theorem String.toUpper_toLower (s : String) : s.toLower.toUpper = s.toUpper :=
  String.ext (by
    simp only [String.toUpper_data, String.toLower_data, List.map_map, Function.comp_def,
      Char.toUpper_toLower])

@[simp] theorem String.toLower_toUpper (s : String) : s.toUpper.toLower = s.toLower :=
  String.ext (by
    simp only [String.toUpper_data, String.toLower_data, List.map_map, Function.comp_def,
      Char.toLower_toUpper])

@[simp] theorem String.toLower_toLower (s : String) : s.toLower.toLower = s.toLower :=
  String.ext (by
    simp only [String.toLower_data, List.map_map, Function.comp_def, Char.toLower_toLower])

@[simp] theorem String.toUpper_underscore : "_".toUpper = "_" := by
  rw [String.toUpper, String.map_eq]
  rfl

@[simp] theorem String.toUpper_empty : "".toUpper = "" := by
  rw [String.toUpper, String.map_eq]
  rfl

/-! ## The namespace and the name -/

/-- The three forms on each naming path come from one base identifier. -/
theorem Interface.resolveNames_base (u : NameUtils) (ctx : Context) (name : String)
    (l : List Annot) :
    ∃ x, (resolveNames u ctx name l).nameLower = ctx.cnsLower ++ x ∧
      (resolveNames u ctx name l).nsUpper = ctx.cnsUpper ∧
      (resolveNames u ctx name l).nameUpper = x.toUpper ∧
      (resolveNames u ctx name l).nameHyphen = x.toLower.replace "_" "-" := by
  rcases resolveNames_cases u ctx name l with ⟨o, h⟩ | ⟨n, h⟩ <;> rw [h]
  · exact ⟨o.toLower, rfl, rfl, (String.toUpper_toLower o).symm,
      by simp only [uglyNames, String.toLower_toUpper, String.toLower_toLower]⟩
  · exact ⟨_, rfl, rfl, rfl, by simp only [plainNames, String.toLower_toUpper]⟩

/-! ## ASCII text -/

/-- Every character is ASCII: the text on which Lean's case maps are Python's `str.upper` and
`str.lower`. -/
def Ascii (s : String) : Prop := ∀ c ∈ s.data, c.toNat < 128

instance (s : String) : Decidable (Ascii s) :=
  inferInstanceAs (Decidable (∀ c ∈ s.data, c.toNat < 128))

/-- The naming helpers keep ASCII text ASCII. -/
structure NameUtils.KeepsAscii (u : NameUtils) : Prop where
  camelCaseToUscore : ∀ s, Ascii s → Ascii (u.camelCaseToUscore s)
  stripDots : ∀ s, Ascii s → Ascii (u.stripDots s)

theorem ascii_append {a b : String} : Ascii (a ++ b) ↔ Ascii a ∧ Ascii b := by
  simp only [Ascii, String.data_append, List.forall_mem_append]

theorem Char.toNat_toLower_lt {ch : Char} (h : ch.toNat < 128) : ch.toLower.toNat < 128 := by
  dsimp only [Char.toLower]
  split
  · rw [Char.toNat_ofNat_of_lt (by omega)]
    omega
  · exact h

theorem ascii_toLower {s : String} (h : Ascii s) : Ascii s.toLower := by
  intro c hc
  rw [String.toLower_data, List.mem_map] at hc
  obtain ⟨d, hd, rfl⟩ := hc
  exact Char.toNat_toLower_lt (h d hd)

theorem ascii_drop {s : String} (h : Ascii s) (k : Nat) : Ascii (s.drop k) := by
  rw [Ascii, String.drop_eq]
  exact fun c hc => h c (List.mem_of_mem_drop hc)

/-- An ASCII namespace gives an ASCII `cns_lower`. -/
theorem NameUtils.namespaceForms_ascii {u : NameUtils} (hu : u.KeepsAscii)
    (interfacePrefix : String) {cNamespace : String} (hns : Ascii cNamespace) :
    Ascii (u.namespaceForms interfacePrefix cNamespace).cnsLower := by
  unfold NameUtils.namespaceForms
  split_ifs
  · exact ascii_append.2 ⟨ascii_toLower hns, by decide⟩
  · exact ascii_append.2 ⟨ascii_toLower (hu.camelCaseToUscore _ hns), by decide⟩
  · exact fun _ hc => by cases hc

/-- An ASCII `cns_lower`, name and override give an ASCII `name_lower` on every naming path. -/
theorem Interface.resolveNames_ascii {u : NameUtils} (hu : u.KeepsAscii) {ctx : Context}
    (hctx : Ascii ctx.cnsLower) {name : String} {l : List Annot} (hname : Ascii name)
    (hover : ∀ o, lookupAnnot l "org.gtk.GDBus.C.Name" = some o → Ascii o) :
    Ascii (resolveNames u ctx name l).nameLower := by
  have hstrip : Ascii (if name.startsWith ctx.interfacePrefix then
      name.drop ctx.interfacePrefix.length else name) := by
    split_ifs
    exacts [ascii_drop hname _, hname]
  unfold resolveNames
  cases h : lookupAnnot l "org.gtk.GDBus.C.Name" with
  | none => exact ascii_append.2 ⟨hctx, hu.camelCaseToUscore _ (hu.stripDots _ hstrip)⟩
  | some o =>
    dsimp only
    by_cases hug : u.isUglyCase o
    · rw [if_pos hug]
      exact ascii_append.2 ⟨hctx, ascii_toLower (hover o h)⟩
    · rw [if_neg hug]
      refine ascii_append.2 ⟨hctx, hu.camelCaseToUscore _ (hu.stripDots _ ?_)⟩
      by_cases ho : o = ""
      · rw [if_pos ho]
        exact hstrip
      · rw [if_neg ho]
        exact hover o h

/-- **The C names of an interface share one base identifier**: for an ASCII name, override and
namespace, and helpers that keep ASCII text ASCII, `name_lower` is `cns_lower` followed by the
base, `ns_upper` is `cns_upper`, `name_upper` is the base upper-cased and `name_hyphen` the base
lower-cased with `-` for `_`, on every naming path; and `name_lower` is ASCII, so every case map
applied is the one Python applies. -/
theorem Interface.postProcess_names_base (u : NameUtils) (hu : u.KeepsAscii)
    (interfacePrefix cNamespace : String) (i : Interface) (hname : Ascii i.name)
    (hover : ∀ o, lookupAnnot i.annotations "org.gtk.GDBus.C.Name" = some o → Ascii o)
    (hns : Ascii cNamespace) :
    ∃ n, (i.postProcess u interfacePrefix cNamespace).names = some n ∧ ∃ x,
      n.nameLower = (u.namespaceForms interfacePrefix cNamespace).cnsLower ++ x ∧
      n.nsUpper = (u.namespaceForms interfacePrefix cNamespace).cnsUpper ∧
      n.nameUpper = x.toUpper ∧ n.nameHyphen = x.toLower.replace "_" "-" ∧
      Ascii n.nameLower := by
  obtain ⟨x, h₁, h₂, h₃, h₄⟩ := Interface.resolveNames_base u
    (u.namespaceForms interfacePrefix cNamespace) i.name i.annotations
  exact ⟨_, rfl, x, h₁, h₂, h₃, h₄,
    Interface.resolveNames_ascii hu (NameUtils.namespaceForms_ascii hu _ hns) hname hover⟩

/-- An interface without override, in the namespace `Example`, with helpers that change nothing. -/
theorem Interface.postProcess_names_base_frob :
    NameUtils.KeepsAscii ⟨fun _ => false, id, id⟩ ∧ Ascii (Interface.init "org.example.Frob").name ∧
      (∀ o, lookupAnnot (Interface.init "org.example.Frob").annotations "org.gtk.GDBus.C.Name" =
        some o → Ascii o) ∧ Ascii "Example" ∧
      ∃ n, ((Interface.init "org.example.Frob").postProcess ⟨fun _ => false, id, id⟩ "org.example."
          "Example").names = some n ∧ ∃ x,
        n.nameLower = (NameUtils.namespaceForms ⟨fun _ => false, id, id⟩ "org.example."
          "Example").cnsLower ++ x ∧
        n.nsUpper = (NameUtils.namespaceForms ⟨fun _ => false, id, id⟩ "org.example."
          "Example").cnsUpper ∧
        n.nameUpper = x.toUpper ∧ n.nameHyphen = x.toLower.replace "_" "-" ∧
        Ascii n.nameLower :=
  have hu : NameUtils.KeepsAscii ⟨fun _ => false, id, id⟩ := ⟨fun _ h => h, fun _ h => h⟩
  have hover : ∀ o, lookupAnnot (Interface.init "org.example.Frob").annotations
      "org.gtk.GDBus.C.Name" = some o → Ascii o := fun _ h => by cases h
  ⟨hu, by decide, hover, by decide,
    Interface.postProcess_names_base _ hu _ _ _ (by decide) hover (by decide)⟩

end DBusCodegen

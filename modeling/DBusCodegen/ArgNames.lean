import Mathlib.Data.Nat.Digits
import DBusCodegen.Member

/-!
# Placeholder names of unnamed arguments

`Method.post_process` resolves its input and then its output arguments with one counter, and
`Arg.post_process` names an unnamed argument `"unnamed_arg%d" % arg_number`. So the argument at
position `k` of `in_args ++ out_args` is named `unnamed_arg` followed by the decimal numeral of
`k`, and numerals of different numbers differ.

* `decimalValue`: reading a numeral back, a left inverse of `Nat.repr` (`toString_injective`);
* `Signal.argLoop_name`, `Signal.argLoop_append`: the loop counter, position by position;
* **`placeholder_names`**: the names of the arguments of any method and any signal.
-/

namespace DBusCodegen

/-! ## Decimal numerals -/

/-- The value of a decimal numeral, most significant digit first. -/
def decimalValue (ds : List Char) : Nat := ds.foldl (fun n c => 10 * n + (c.toNat - 48)) 0

theorem toDigitsCore_acc (fuel n : Nat) (ds : List Char) :
    Nat.toDigitsCore 10 fuel n ds = Nat.toDigitsCore 10 fuel n [] ++ ds := by
  induction fuel generalizing n ds with
  | zero => rfl
  | succ f ih =>
    simp only [Nat.toDigitsCore]
    split
    · rfl
    · rw [ih _ (_ :: ds), ih _ [_], List.append_assoc, List.singleton_append]

theorem digitChar_value {d : Nat} (h : d < 10) : (Nat.digitChar d).toNat - 48 = d := by
  have : ∀ d < 10, (Nat.digitChar d).toNat - 48 = d := by decide
  exact this d h

/-- With enough fuel, the digits of `n` read back as `n`. -/
theorem decimalValue_toDigitsCore (fuel n : Nat) (h : n < fuel) :
    decimalValue (Nat.toDigitsCore 10 fuel n []) = n := by
  induction fuel generalizing n with
  | zero => omega
  | succ f ih =>
    have hd := digitChar_value (Nat.mod_lt n (show 10 > 0 by omega))
    simp only [Nat.toDigitsCore]
    split
    · simp only [decimalValue, List.foldl_cons, List.foldl_nil, hd]
      omega
    · rw [toDigitsCore_acc, decimalValue, List.foldl_append, ← decimalValue, ih _ (by omega)]
      simp only [List.foldl_cons, List.foldl_nil, hd]
      omega

theorem toString_injective : Function.Injective (toString : Nat → String) := by
  intro j k h
  have hd : Nat.toDigits 10 j = Nat.toDigits 10 k := congrArg String.data h
  have hv := congrArg decimalValue hd
  rwa [Nat.toDigits, Nat.toDigits, decimalValue_toDigitsCore _ _ (Nat.lt_succ_self _),
    decimalValue_toDigitsCore _ _ (Nat.lt_succ_self _)] at hv

theorem placeholder_injective {j k : Nat}
    (h : "unnamed_arg" ++ toString j = "unnamed_arg" ++ toString k) : j = k :=
  toString_injective (String.ext (List.append_cancel_left (congrArg String.data h)))

/-! ## The argument counter -/

section Loop

variable (u : NameUtils) (ctx : Context)

/-- The argument at position `k` of a loop started at `n` is resolved at `n + k`. -/
theorem Signal.argLoop_name (as : List Arg) (n k : Nat) :
    (Signal.argLoop u ctx as n).1[k]?.map Arg.name =
      as[k]?.map fun a => some (a.name.getD ("unnamed_arg" ++ toString (n + k))) := by
  rw [Signal.argLoop_eq, List.getElem?_map, List.getElem?_enumFrom]
  cases as[k]? <;> rfl

/-- Two loops in a row are one loop: the counter runs on. -/
theorem Signal.argLoop_append (xs ys : List Arg) (n : Nat) :
    (Signal.argLoop u ctx xs n).1 ++ (Signal.argLoop u ctx ys (n + xs.length)).1 =
      (Signal.argLoop u ctx (xs ++ ys) n).1 := by
  simp only [Signal.argLoop_eq, List.enumFrom_append, List.map_append]

/-- Unnamed arguments at different positions of one loop get different names. -/
theorem Signal.argLoop_name_ne (as : List Arg) {j k : Nat} {a b : Arg} (hjk : j ≠ k)
    (ha : as[j]? = some a) (hb : as[k]? = some b) (ha' : a.name = none) (hb' : b.name = none) :
    (Signal.argLoop u ctx as 0).1[j]?.map Arg.name ≠
      (Signal.argLoop u ctx as 0).1[k]?.map Arg.name := by
  rw [Signal.argLoop_name, Signal.argLoop_name, ha, hb]
  simp only [ha', hb', Option.getD_none, Option.map_some', ne_eq, Option.some.injEq]
  exact fun h => hjk (by simpa using placeholder_injective h)

end Loop

/-- **Placeholder names.** In any method the argument at position `k` of `in_args ++ out_args`
keeps its declared name or is named `unnamed_arg` followed by `k`, so the output arguments are
numbered on from the inputs and no two placeholders coincide; the same holds of the arguments of
any signal. -/
theorem placeholder_names (u : NameUtils) (ctx : Context) (c : String) (m : Method) (s : Signal) :
    (∀ k : Nat,
      ((m.postProcess u ctx c).inArgs ++ (m.postProcess u ctx c).outArgs)[k]?.map Arg.name =
        (m.inArgs ++ m.outArgs)[k]?.map
          fun a : Arg => some (a.name.getD ("unnamed_arg" ++ toString k))) ∧
      (∀ j : Nat, (m.postProcess u ctx c).outArgs[j]?.map Arg.name = m.outArgs[j]?.map
        fun a : Arg => some (a.name.getD ("unnamed_arg" ++ toString (m.inArgs.length + j)))) ∧
      (∀ (j k : Nat) (a b : Arg), j ≠ k → (m.inArgs ++ m.outArgs)[j]? = some a →
        (m.inArgs ++ m.outArgs)[k]? = some b → a.name = none → b.name = none →
        ((m.postProcess u ctx c).inArgs ++ (m.postProcess u ctx c).outArgs)[j]?.map Arg.name ≠
          ((m.postProcess u ctx c).inArgs ++ (m.postProcess u ctx c).outArgs)[k]?.map Arg.name) ∧
      (∀ k : Nat, (s.postProcess u ctx c).args[k]?.map Arg.name =
        s.args[k]?.map fun a : Arg => some (a.name.getD ("unnamed_arg" ++ toString k))) ∧
      (∀ (j k : Nat) (a b : Arg), j ≠ k → s.args[j]? = some a → s.args[k]? = some b →
        a.name = none → b.name = none →
        (s.postProcess u ctx c).args[j]?.map Arg.name ≠
          (s.postProcess u ctx c).args[k]?.map Arg.name) := by
  have hm : (m.postProcess u ctx c).inArgs ++ (m.postProcess u ctx c).outArgs =
      (Signal.argLoop u ctx (m.inArgs ++ m.outArgs) 0).1 := by
    rw [Method.postProcess_inArgs, Method.postProcess_outArgs, ← Signal.argLoop_append,
      Nat.zero_add]
  refine ⟨fun k => ?_, fun j => ?_, fun j k a b hjk ha hb ha' hb' => ?_, fun k => ?_,
    fun j k a b hjk ha hb ha' hb' => ?_⟩
  · rw [hm, Signal.argLoop_name, Nat.zero_add]
  · rw [Method.postProcess_outArgs, Signal.argLoop_name]
  · rw [hm]
    exact Signal.argLoop_name_ne u ctx _ hjk ha hb ha' hb'
  · rw [Signal.postProcess_args, Signal.argLoop_name, Nat.zero_add]
  · rw [Signal.postProcess_args]
    exact Signal.argLoop_name_ne u ctx _ hjk ha hb ha' hb'

end DBusCodegen

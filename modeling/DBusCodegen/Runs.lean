import DBusCodegen.Interface

/-!
# Running the pass again

Nothing stops the code generator from calling `Interface.post_process` more than once on one
tree, with the same `interface_prefix` and `c_namespace` or with others. A later run recomputes
everything an earlier one derived, from inputs the earlier one kept, so nothing of an earlier run
survives:

* `Annot.postProcess_rerun`, `Method.postProcess_rerun`, `Signal.postProcess_rerun`,
  `Property.postProcess_rerun`: a second run of an entity, in any context, is that run alone (for
  an annotation, with the two containers' `since` combined);
* `Interface.postProcess_rerun`: the same for an interface and its whole tree;
* **`Interface.postProcess_runs`**: any sequence of runs gives what its last run alone gives.
-/

namespace DBusCodegen

/-! ## One entity, two runs -/

section Entities

variable (u : NameUtils) (ctx ctx' : Context) (c : String)

theorem Annot.postProcess_rerun (c' : String) (a : Annot) :
    (a.postProcess u ctx c').postProcess u ctx' c = a.postProcess u ctx' (fillIfEmpty c' c) := by
  rw [Annot.postProcess_context u ctx ctx', Annot.postProcess_postProcess]

@[simp] theorem Method.postProcess_rerun (m : Method) :
    (m.postProcess u ctx c).postProcess u ctx' c = m.postProcess u ctx' c := by
  rw [Method.postProcess_context u ctx c m ctx', Method.postProcess_postProcess]

@[simp] theorem Signal.postProcess_rerun (s : Signal) :
    (s.postProcess u ctx c).postProcess u ctx' c = s.postProcess u ctx' c := by
  rw [Signal.postProcess_context u ctx c s ctx', Signal.postProcess_postProcess]

@[simp] theorem Property.postProcess_rerun (p : Property) :
    (p.postProcess u ctx c).postProcess u ctx' c = p.postProcess u ctx' c := by
  rw [Property.postProcess_context u ctx c p ctx', Property.postProcess_postProcess]

end Entities

/-! ## Whole runs -/

namespace Interface

variable (u : NameUtils)

/-- A run with `interface_prefix'` and `c_namespace'` after any other run is that run alone. -/
theorem postProcess_rerun (interfacePrefix cNamespace interfacePrefix' cNamespace' : String)
    (i : Interface) :
    (i.postProcess u interfacePrefix cNamespace).postProcess u interfacePrefix' cNamespace' =
      i.postProcess u interfacePrefix' cNamespace' := by
  apply Interface.ext <;> simp [Annot.postProcess_rerun]

/-- **The last run wins**: running the pass with `interface_prefix` and `c_namespace`, then with
each pair of `runs` in turn, gives what one run with the last pair gives. -/
theorem postProcess_runs (interfacePrefix cNamespace : String) (runs : List (String × String))
    (i : Interface) :
    runs.foldl (fun j r => j.postProcess u r.1 r.2) (i.postProcess u interfacePrefix cNamespace) =
      i.postProcess u (runs.getLastD (interfacePrefix, cNamespace)).1
        (runs.getLastD (interfacePrefix, cNamespace)).2 := by
  induction runs generalizing interfacePrefix cNamespace with
  | nil => rfl
  | cons r runs ih =>
    rw [List.foldl_cons, postProcess_rerun, ih, List.getLastD_cons]

end Interface

end DBusCodegen

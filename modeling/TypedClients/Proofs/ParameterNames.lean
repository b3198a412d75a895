import Mathlib.Data.List.Forall2
import TypedClients.Client
import TypedClients.Proofs.Sequencing

/-!
# The names of a method's parameters

The values of a route get names that differ from one another and from every name that the method
uses for something else. `bindingNames_spec` says this of a whole list of bindings.
-/
namespace TypedClients.Client

/-- An underscore makes a taken name free. -/
theorem bindingName_notMem_takenNames {text name : String} (h : bindingName text = .ok name) :
    name ∉ takenNames := by
  obtain ⟨plain, -, hname⟩ := bind_eq_ok_iff.mp h
  cases hname
  by_cases ht : plain ∈ takenNames
  · rw [if_pos ht]
    simp only [takenNames, List.mem_cons, List.not_mem_nil, or_false] at ht
    rcases ht with rfl | rfl | rfl | rfl | rfl <;> decide
  · rwa [if_neg ht]

/-- The names keep the order of the bindings, no two are the same, and none was used before. -/
theorem bindingNames_spec {place : String} {used names : List String} {bs : List Binding}
    (h : bindingNames place used bs = .ok names) :
    List.Forall₂ (fun b name => bindingName b.name = .ok name) bs names ∧ names.Nodup ∧
      ∀ name ∈ names, name ∉ used := by
  induction bs generalizing used names with
  | nil => cases h; simp
  | cons b bs ih =>
      obtain ⟨name, hname, h⟩ := bind_eq_ok_iff.mp h
      by_cases hused : name ∈ used
      · rw [if_pos hused] at h; cases h
      · rw [if_neg hused] at h
        obtain ⟨rest, hrest, h⟩ := bind_eq_ok_iff.mp h
        cases h
        obtain ⟨hall, hnodup, hfresh⟩ := ih hrest
        refine ⟨.cons hname hall, ?_, ?_⟩
        · exact List.nodup_cons.mpr ⟨fun hmem => hfresh name hmem (by simp), hnodup⟩
        · intro other hother
          rcases List.mem_cons.mp hother with rfl | hother
          · exact hused
          · exact fun hmem => hfresh other hother (List.mem_cons_of_mem _ hmem)

theorem bindingNames_length {place : String} {used names : List String} {bs : List Binding}
    (h : bindingNames place used bs = .ok names) : names.length = bs.length :=
  (bindingNames_spec h).1.length_eq.symm

theorem bindingNames_nodup {place : String} {used names : List String} {bs : List Binding}
    (h : bindingNames place used bs = .ok names) : names.Nodup := (bindingNames_spec h).2.1

theorem bindingNames_notMem_takenNames {place : String} {used names : List String}
    {bs : List Binding} (h : bindingNames place used bs = .ok names) :
    ∀ name ∈ names, name ∉ takenNames := by
  have hall := (bindingNames_spec h).1
  clear h
  induction hall with
  | nil => simp
  | cons hname _ ih => simpa using ⟨bindingName_notMem_takenNames hname, by simpa using ih⟩

/-- Parameters carry the names that they are made for. -/
theorem bindingParams_names {names : List String} {bs : List Binding}
    {params : List (Code.Param Code.Expr)} (h : bindingParams names bs = .ok params)
    (hlen : names.length = bs.length) : params.map (·.name) = names := by
  induction names generalizing bs params with
  | nil => cases h; rfl
  | cons name names ih =>
      cases bs with
      | nil => cases hlen
      | cons b bs =>
          obtain ⟨hint, -, h⟩ := bind_eq_ok_iff.mp h
          obtain ⟨rest, hrest, h⟩ := bind_eq_ok_iff.mp h
          cases h
          simpa using ih hrest (by simpa using hlen)

end TypedClients.Client

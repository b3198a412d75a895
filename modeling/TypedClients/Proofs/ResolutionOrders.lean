import TypedClients.Proofs.InheritedFields

/-!
# Resolution orders

The resolution order of a class lists the class and all that it inherits from, each class before
its bases and the bases of a class in their order. It is merged from the orders of the bases and the
list of these, and not every class has one. Where there is one, the search for a field of a type
finds it exactly where a class of the order declares it. But the search does not merge anything: a
class inherited along two ways stands in the order after both, and the search comes to it on the
first one.
-/
namespace TypedClients

open Relation TypedClients.Code

namespace PlacedClass

/-- The first class at the head of some lists that none of them has further down. -/
def next? (lists : List (List PlacedClass)) : Option PlacedClass :=
  (lists.filterMap List.head?).find? fun c => lists.all fun l => !(l.tail.map key).contains c.key

/-- What is left of a list when a class is taken from its head. -/
def take (c : PlacedClass) : List PlacedClass → List PlacedClass
  | [] => []
  | d :: l => if d.key = c.key then l else d :: l

/-- Lists merged to one: as long as there is something left, the next class is taken from all of
them that have it at the head. -/
inductive Merges : List (List PlacedClass) → List PlacedClass → Prop
  | nil {lists : List (List PlacedClass)} (hempty : ∀ l ∈ lists, l = []) : Merges lists []
  | cons {lists : List (List PlacedClass)} {c : PlacedClass} {merged : List PlacedClass}
      (hnext : next? lists = some c) (hrest : Merges (lists.map c.take) merged) :
      Merges lists (c :: merged)

section

variable {c d : PlacedClass} {l starts merged rest : List PlacedClass}
  {lists : List (List PlacedClass)}

theorem mem_of_next? (h : next? lists = some c) : ∃ l ∈ lists, c ∈ l := by
  obtain ⟨l, hl, hhead⟩ := List.mem_filterMap.mp (List.mem_of_find?_eq_some h)
  exact ⟨l, hl, List.mem_of_head? hhead⟩

theorem take_of_not_mem (h : c.key ∉ l.map key) : c.take l = l := by
  cases l with
  | nil => rfl
  | cons d l => exact if_neg fun hkey => h (List.mem_map.mpr ⟨d, List.mem_cons_self, hkey⟩)

theorem mem_of_mem_take (h : d ∈ c.take l) : d ∈ l := by
  cases l with
  | nil => exact h
  | cons e l =>
      rw [take] at h
      split at h
      · exact .tail _ h
      · exact h

theorem mem_take_of_mem (h : d ∈ l) (hkey : d.key ≠ c.key) : d ∈ c.take l := by
  cases l with
  | nil => exact h
  | cons e l =>
      rw [take]
      split
      · next heq => exact (List.mem_cons.mp h).resolve_left fun hde => hkey (hde ▸ heq)
      · exact h

/-- What is merged comes from the lists. -/
theorem Merges.mem (h : Merges lists merged) (hd : d ∈ merged) : ∃ l ∈ lists, d ∈ l := by
  induction h with
  | nil => cases hd
  | cons hnext _ ih =>
      rcases List.mem_cons.mp hd with rfl | hd
      · exact mem_of_next? hnext
      · obtain ⟨_, hmem, hd⟩ := ih hd
        obtain ⟨l, hl, rfl⟩ := List.mem_map.mp hmem
        exact ⟨l, hl, mem_of_mem_take hd⟩

/-- Nothing in the lists gets lost. -/
theorem Merges.key_mem (h : Merges lists merged) (hl : l ∈ lists) (hd : d ∈ l) :
    d.key ∈ merged.map key := by
  induction h generalizing l with
  | nil hempty => exact absurd (hempty l hl ▸ hd) List.not_mem_nil
  | @cons lists c merged _ _ ih =>
      rw [List.map_cons, List.mem_cons]
      by_cases hkey : d.key = c.key
      · exact .inl hkey
      · exact .inr (ih (List.mem_map_of_mem hl) (mem_take_of_mem hd hkey))

/-! ### Lists without a common class -/

theorem next?_of_flatten (hflatten : lists.flatten = c :: rest) (hnew : c.key ∉ rest.map key)
    (hstarts : starts.Sublist (c :: rest)) : next? (lists ++ [starts]) = some c := by
  obtain ⟨before, first, after, rfl, hempty, rfl⟩ := List.flatten_eq_cons_iff.mp hflatten
  have hheads : before.filterMap List.head? = [] :=
    List.filterMap_eq_nil_iff.mpr fun l hl => by rw [hempty l hl, List.head?_nil]
  have hfree : ∀ l ∈ before ++ (c :: first) :: after ++ [starts], c.key ∉ l.tail.map key := by
    intro l hl hmem
    obtain ⟨d, hd, hkey⟩ := List.mem_map.mp hmem
    have hrest : d ∈ first ++ after.flatten := by
      rw [List.mem_append, List.mem_append, List.mem_cons, List.mem_singleton] at hl
      rcases hl with (hl | rfl | hl) | rfl
      · rw [hempty l hl] at hd
        cases hd
      · exact List.mem_append_left _ hd
      · exact List.mem_append_right _ (List.mem_flatten.mpr ⟨l, hl, List.mem_of_mem_tail hd⟩)
      · exact hstarts.tail.subset hd
    exact hnew (List.mem_map.mpr ⟨d, hrest, hkey⟩)
  rw [next?, List.append_assoc, List.filterMap_append, hheads, List.nil_append, List.cons_append,
    List.filterMap_cons_some List.head?_cons]
  refine List.find?_cons_of_pos (List.all_eq_true.mpr fun l hl => ?_)
  rw [Bool.not_eq_true', ← Bool.not_eq_true, List.contains_iff_mem]
  exact hfree l (by simpa using hl)

theorem flatten_map_take (hflatten : lists.flatten = c :: rest) (hnew : c.key ∉ rest.map key) :
    (lists.map c.take).flatten = rest := by
  obtain ⟨before, first, after, rfl, hempty, rfl⟩ := List.flatten_eq_cons_iff.mp hflatten
  have hafter (l : List PlacedClass) (hl : l ∈ after) : c.take l = l := by
    refine take_of_not_mem fun hmem => hnew ?_
    obtain ⟨d, hd, hkey⟩ := List.mem_map.mp hmem
    have hrest : d ∈ first ++ after.flatten :=
      List.mem_append_right _ (List.mem_flatten.mpr ⟨l, hl, hd⟩)
    exact List.mem_map.mpr ⟨d, hrest, hkey⟩
  have hbefore (l : List PlacedClass) (hl : l ∈ before) : c.take l = [] := by
    rw [hempty l hl, take]
  rw [List.map_append, List.map_cons, List.map_congr_left hafter, List.map_id', List.flatten_append,
    List.flatten_cons, take, if_pos rfl, List.flatten_eq_nil_iff.mpr (by simpa using hbefore),
    List.nil_append]

theorem take_sublist (h : starts.Sublist (c :: rest)) (hnew : c.key ∉ rest.map key) :
    (c.take starts).Sublist rest := by
  cases h with
  | cons _ h =>
      rwa [take_of_not_mem fun hmem => hnew ((h.map key).subset hmem)]
  | cons_cons _ h => rwa [take, if_pos rfl]

/-- Lists that have no class in common are merged to the one that they make up, where the further
list does not ask for another order. -/
theorem Merges.eq_flatten (h : Merges (lists ++ [starts]) merged)
    (hkeys : (lists.flatten.map key).Nodup) (hstarts : starts.Sublist lists.flatten) :
    merged = lists.flatten := by
  generalize hall : lists ++ [starts] = all at h
  induction h generalizing lists starts with
  | nil hempty =>
      subst hall
      refine (List.flatten_eq_nil_iff.mpr fun l hl => ?_).symm
      exact hempty l (List.mem_append_left _ hl)
  | @cons _ d merged hnext _ ih =>
      subst hall
      cases hflatten : lists.flatten with
      | nil =>
          obtain ⟨l, hl, hd⟩ := mem_of_next? hnext
          rw [hflatten, List.sublist_nil] at hstarts
          rw [hstarts, List.mem_append, List.mem_singleton] at hl
          rcases hl with hl | rfl
          · exact absurd hd (List.flatten_eq_nil_iff.mp hflatten l hl ▸ List.not_mem_nil)
          · cases hd
      | cons c rest =>
          rw [hflatten] at hkeys hstarts
          obtain ⟨hnew, hkeys⟩ := List.nodup_cons.mp hkeys
          obtain rfl := Option.some.inj
            ((next?_of_flatten hflatten hnew hstarts).symm.trans hnext)
          have hrest := flatten_map_take hflatten hnew
          have hall : lists.map c.take ++ [c.take starts] = (lists ++ [starts]).map c.take := by
            rw [List.map_append, List.map_singleton]
          rw [ih (hrest ▸ hkeys) (hrest ▸ take_sublist hstarts hnew) hall, hrest]

end

end PlacedClass

namespace SourceProject

open SourceType

/-- The resolution order of a class all of whose bases are classes of the project: after the class
comes what the orders of its bases and the list of its bases are merged to. -/
inductive Linearizes (p : SourceProject) : PlacedClass → List PlacedClass → Prop
  | intro {c : PlacedClass} {parts : List (PlacedClass × List PlacedClass)}
      {rest : List PlacedClass} (hbases : c.bases p = parts.map fun part => .ok (some part.1))
      (hparts : ∀ part ∈ parts, p.Linearizes part.1 part.2)
      (hmerge : PlacedClass.Merges (parts.map (·.2) ++ [parts.map (·.1)]) rest) :
      p.Linearizes c (c :: rest)

/-- A search that starts at a class and goes depth first comes to one class before another. -/
def ComesFirst (p : SourceProject) (start c d : PlacedClass) : Prop :=
  ∃ is, p.Way [] start is c ∧ ∀ js, p.Way [] start js d → Precedes is js

/-- No class is inherited along two ways. -/
def SingleWays (p : SourceProject) (start : PlacedClass) : Prop :=
  ∀ c is js, p.Way [] start is c → p.Way [] start js c → is = js

section

variable {p : SourceProject} {field : String} {start c d e : PlacedClass}
  {is js : List Nat} {mro : List PlacedClass} {parts : List (PlacedClass × List PlacedClass)}

theorem TellsApart.above (h : p.TellsApart start) (hbase : p.HasBase start c) : p.TellsApart c :=
  fun d e hd he => h d e (.head hbase hd) (.head hbase he)

/-! ### Ways -/

/-- The positions on a way say where it leads to. -/
theorem Way.unique {avoid avoid' : List (String × String)} (h : p.Way avoid start is c)
    (h' : p.Way avoid' start is d) : c = d := by
  induction h generalizing avoid' with
  | here _ =>
      cases h'
      rfl
  | up _ hbase _ ih =>
      cases h' with
      | up _ hbase' hway' =>
          cases hbase.symm.trans hbase'
          exact ih hway'

/-- A way also avoids what its start does not inherit from. -/
theorem Way.avoids {avoid avoid' : List (String × String)} (h : p.Way avoid start is c)
    (hfree : ∀ d, ReflTransGen p.HasBase start d → d.key ∈ avoid' → d.key ∈ avoid) :
    p.Way avoid' start is c := by
  induction h generalizing avoid' with
  | here hnew => exact .here fun hmem => hnew (hfree _ .refl hmem)
  | @up avoid c d e i is hnew hbase _ ih =>
      refine .up (fun hmem => hnew (hfree _ .refl hmem)) hbase (ih fun x hx hmem => ?_)
      rcases List.mem_cons.mp hmem with hkey | hmem
      · exact List.mem_cons.mpr (.inl hkey)
      · exact .tail _ (hfree x (.head (List.mem_of_getElem? hbase) hx) hmem)

theorem precedes_total (hne : is ≠ js) (h : ¬ Precedes js is) : Precedes is js := by
  by_contra hnot
  exact hne ((List.Lex.trichotomous (· < ·)).trichotomous is js hnot h)

theorem ComesFirst.asymm (h : p.ComesFirst start c d) : ¬ p.ComesFirst start d c := by
  rintro ⟨js, hd, hjs⟩
  obtain ⟨is, hc, his⟩ := h
  exact (List.Lex.asymm (· < ·)).asymm _ _ (his js hd) (hjs is hc)

/-- Where all bases can be read, a search ends at a class that declares the field and comes before
all others that do. -/
theorem exists_comesFirst_of_isFirst {out : Except Failure FieldSource}
    (hfirst : IsFirst (p.EndsAt field [] start) out)
    (hreadable : ∀ d, ReflTransGen p.HasBase start d → ∀ f, .error f ∉ d.bases p) :
    ∃ c hint, ReflTransGen p.HasBase start c ∧ c.hint? field = some hint ∧ out = .ok (c.1, hint) ∧
      ∀ d, d.hint? field ≠ none → d = c ∨ p.ComesFirst start c d := by
  obtain ⟨is, hend, hleast⟩ := hfirst
  cases hend with
  | @declared is c hint hway hhint =>
      refine ⟨c, hint, reflTransGen_of_way hway, hhint, rfl, fun d hd => ?_⟩
      obtain ⟨hint', hhint'⟩ := Option.ne_none_iff_exists'.mp hd
      by_cases hdc : d = c
      · exact .inl hdc
      · refine .inr ⟨is, hway, fun js hway' => ?_⟩
        refine precedes_total ?_ (hleast js _ (.declared hway' hhint'))
        rintro rfl
        exact hdc (hway'.unique hway)
  | unreadable hway hbase =>
      exact absurd (List.mem_of_getElem? hbase) (hreadable _ (reflTransGen_of_way hway) _)

/-! ### Classes of an order -/

theorem hasBase_iff (hbases : c.bases p = parts.map fun part => .ok (some part.1)) :
    p.HasBase c d ↔ ∃ part ∈ parts, part.1 = d := by
  simp [HasBase, hbases]

theorem Linearizes.eq_cons (h : p.Linearizes c mro) : ∃ rest, mro = c :: rest := by
  cases h with
  | intro _ _ _ => exact ⟨_, rfl⟩

/-- All bases of the classes of an order are classes of the project. -/
theorem Linearizes.not_error (h : p.Linearizes start mro) (hd : ReflTransGen p.HasBase start d)
    (f : Failure) : .error f ∉ d.bases p := by
  induction h with
  | intro hbases _ _ ih =>
      rcases hd.cases_head with rfl | ⟨e, hbase, hd⟩
      · simp [hbases]
      · obtain ⟨part, hpart, rfl⟩ := (hasBase_iff hbases).mp hbase
        exact ih part hpart hd

/-- A class with an order does not inherit from itself. -/
theorem Linearizes.not_transGen (h : p.Linearizes start mro) :
    ¬ TransGen p.HasBase start start := by
  induction h with
  | intro hbases _ _ ih =>
      intro hcircle
      obtain ⟨d, hbase, hback⟩ := TransGen.head'_iff.mp hcircle
      obtain ⟨part, hpart, rfl⟩ := (hasBase_iff hbases).mp hbase
      exact ih part hpart (.tail' hback hbase)

theorem Linearizes.reflTransGen (h : p.Linearizes start mro) (hd : d ∈ mro) :
    ReflTransGen p.HasBase start d := by
  induction h generalizing d with
  | @intro c parts rest hbases _ hmerge ih =>
      have hbase {part : PlacedClass × List PlacedClass} (hpart : part ∈ parts) :
          p.HasBase c part.1 := (hasBase_iff hbases).mpr ⟨part, hpart, rfl⟩
      rcases List.mem_cons.mp hd with rfl | hd
      · exact .refl
      · obtain ⟨l, hl, hd⟩ := hmerge.mem hd
        rcases List.mem_append.mp hl with hl | hl
        · obtain ⟨part, hpart, rfl⟩ := List.mem_map.mp hl
          exact .head (hbase hpart) (ih part hpart hd)
        · rw [List.mem_singleton.mp hl] at hd
          obtain ⟨part, hpart, rfl⟩ := List.mem_map.mp hd
          exact .single (hbase hpart)

/-- An order holds the class and all that it inherits from. -/
theorem Linearizes.mem (hkeys : p.TellsApart start) (h : p.Linearizes start mro)
    (hd : ReflTransGen p.HasBase start d) : d ∈ mro := by
  induction h with
  | @intro c parts rest hbases hparts hmerge ih =>
      rcases hd.cases_head with rfl | ⟨e, hbase, hreach⟩
      · exact List.mem_cons_self
      · obtain ⟨part, hpart, rfl⟩ := (hasBase_iff hbases).mp hbase
        have hmem := ih part hpart (hkeys.above hbase) hreach
        have hlists : part.2 ∈ parts.map (·.2) ++ [parts.map (·.1)] :=
          List.mem_append_left _ (List.mem_map_of_mem hpart)
        obtain ⟨d', hd', hkey⟩ := List.mem_map.mp (hmerge.key_mem hlists hmem)
        have hreach' := (Linearizes.intro hbases hparts hmerge).reflTransGen (.tail _ hd')
        obtain rfl := hkeys _ _ hreach' hd hkey
        exact .tail _ hd'

/-! ### Single ways -/

/-- A way of a class with an order goes on from one of its bases. -/
theorem Linearizes.way_cons (hkeys : p.TellsApart start) (h : p.Linearizes start mro) {i : Nat}
    (hbase : (start.bases p)[i]? = some (.ok (some c)))
    (hway : p.Way [] c is d) : p.Way [] start (i :: is) d := by
  have hstep : p.HasBase start c := List.mem_of_getElem? hbase
  refine .up List.not_mem_nil hbase (hway.avoids fun e he hmem => ?_)
  have hreach : ReflTransGen p.HasBase start e := .head hstep he
  obtain rfl := hkeys _ _ hreach .refl (List.mem_singleton.mp hmem)
  exact absurd (.head' hstep he) h.not_transGen

theorem Linearizes.exists_way (hkeys : p.TellsApart start) (h : p.Linearizes start mro)
    (hd : ReflTransGen p.HasBase start d) :
    ∃ is, p.Way [] start is d := by
  induction h with
  | @intro c parts rest hbases hparts hmerge ih =>
      rcases hd.cases_head with rfl | ⟨e, hbase, hreach⟩
      · exact ⟨[], .here List.not_mem_nil⟩
      · obtain ⟨part, hpart, rfl⟩ := (hasBase_iff hbases).mp hbase
        obtain ⟨is, hway⟩ := ih part hpart (hkeys.above hbase) hreach
        obtain ⟨i, hi⟩ := List.mem_iff_getElem?.mp hbase
        exact ⟨i :: is, (Linearizes.intro hbases hparts hmerge).way_cons hkeys hi hway⟩

theorem SingleWays.comesFirst (h : p.SingleWays start) (hc : p.Way [] start is c)
    (hd : p.Way [] start js d) (hlt : Precedes is js) : p.ComesFirst start c d := by
  refine ⟨is, hc, fun js' hd' => ?_⟩
  rwa [← h d js js' hd hd']

/-- The bases of a class stand in their order in what their orders make up. -/
theorem bases_sublist_flatten (h : ∀ part ∈ parts, p.Linearizes part.1 part.2) :
    (parts.map (·.1)).Sublist (parts.map (·.2)).flatten := by
  induction parts with
  | nil => exact .slnil
  | cons part parts ih =>
      obtain ⟨rest, hrest⟩ := (h part List.mem_cons_self).eq_cons
      have htail := ih fun part' hpart' => h part' (.tail _ hpart')
      rw [List.map_cons, List.map_cons, List.flatten_cons, hrest, List.cons_append]
      exact (htail.trans (List.sublist_append_right _ _)).cons_cons _

/-- With single ways above a class there are single ways above each of its bases. -/
theorem SingleWays.above (h : p.SingleWays start) {i : Nat}
    (hup : ∀ is d, p.Way [] c is d → p.Way [] start (i :: is) d) : p.SingleWays c :=
  fun d _ _ hd hd' => (List.cons.inj (h d _ _ (hup _ d hd) (hup _ d hd'))).2

/-- With single ways the orders of the bases, one after the other, are a depth-first order. -/
theorem SingleWays.pairwise_flatten (h : p.SingleWays start)
    (hup : ∀ i (hi : i < parts.length) is d, p.Way [] parts[i].1 is d → p.Way [] start (i :: is) d)
    (hways : ∀ part ∈ parts, ∀ d ∈ part.2, ∃ is, p.Way [] part.1 is d)
    (horders : ∀ part ∈ parts, part.2.Pairwise (p.ComesFirst part.1)) :
    (parts.map (·.2)).flatten.Pairwise (p.ComesFirst start) := by
  rw [List.pairwise_flatten, List.pairwise_map, List.pairwise_iff_getElem]
  constructor
  · intro l hl
    obtain ⟨part, hpart, rfl⟩ := List.mem_map.mp hl
    obtain ⟨i, hi, rfl⟩ := List.getElem_of_mem hpart
    refine (horders _ hpart).imp_of_mem fun _ hd hcomes => ?_
    obtain ⟨is, hc, hall⟩ := hcomes
    obtain ⟨js, hjs⟩ := hways _ hpart _ hd
    exact h.comesFirst (hup i hi is _ hc) (hup i hi js _ hjs)
      (precedes_cons_iff.mpr (.inr ⟨rfl, hall js hjs⟩))
  · intro i j hi hj hij c hc d hd
    obtain ⟨is, his⟩ := hways _ (List.getElem_mem hi) c hc
    obtain ⟨js, hjs⟩ := hways _ (List.getElem_mem hj) d hd
    exact h.comesFirst (hup i hi is c his) (hup j hj js d hjs) (precedes_cons_iff.mpr (.inl hij))

theorem nodup_keys_of_pairwise (hkeys : p.TellsApart start)
    (hreach : ∀ c ∈ mro, ReflTransGen p.HasBase start c) (h : mro.Pairwise (p.ComesFirst start)) :
    (mro.map PlacedClass.key).Nodup := by
  rw [List.Nodup, List.pairwise_map]
  refine h.imp_of_mem fun hc hd hcomes hkey => ?_
  obtain rfl := hkeys _ _ (hreach _ hc) (hreach _ hd) hkey
  exact hcomes.asymm hcomes

/-- Where no class is inherited along two ways, an order is the one in which a search that goes
depth first comes to the classes. -/
theorem Linearizes.pairwise (hkeys : p.TellsApart start) (h : p.Linearizes start mro)
    (hsingle : p.SingleWays start) :
    mro.Pairwise (p.ComesFirst start) := by
  induction h with
  | @intro c parts rest hbases hparts hmerge ih =>
      have hbase (i : Nat) (hi : i < parts.length) :
          (c.bases p)[i]? = some (.ok (some parts[i].1)) := by simp [hbases, hi]
      have hapart (i : Nat) (hi : i < parts.length) : p.TellsApart parts[i].1 :=
        hkeys.above (List.mem_of_getElem? (hbase i hi))
      have hup (i : Nat) (hi : i < parts.length) (is : List Nat) (d : PlacedClass)
          (hway : p.Way [] parts[i].1 is d) : p.Way [] c (i :: is) d :=
        (Linearizes.intro hbases hparts hmerge).way_cons hkeys (hbase i hi) hway
      have hways (part : PlacedClass × List PlacedClass) (hpart : part ∈ parts) (d : PlacedClass)
          (hd : d ∈ part.2) : ∃ is, p.Way [] part.1 is d := by
        obtain ⟨i, hi, rfl⟩ := List.getElem_of_mem hpart
        exact (hparts _ hpart).exists_way (hapart i hi) ((hparts _ hpart).reflTransGen hd)
      have horders (part : PlacedClass × List PlacedClass) (hpart : part ∈ parts) :
          part.2.Pairwise (p.ComesFirst part.1) := by
        obtain ⟨i, hi, rfl⟩ := List.getElem_of_mem hpart
        exact ih _ hpart (hapart i hi) (hsingle.above (hup i hi))
      have hflatten := hsingle.pairwise_flatten hup hways horders
      have hplaced (d : PlacedClass) (hd : d ∈ (parts.map (·.2)).flatten) :
          ∃ i is, p.Way [] c (i :: is) d := by
        obtain ⟨_, hmem, hd⟩ := List.mem_flatten.mp hd
        obtain ⟨part, hpart, rfl⟩ := List.mem_map.mp hmem
        obtain ⟨i, hi, rfl⟩ := List.getElem_of_mem hpart
        obtain ⟨is, his⟩ := hways _ hpart d hd
        exact ⟨i, is, hup i hi is d his⟩
      have hnodup := nodup_keys_of_pairwise hkeys (fun d hd => by
        obtain ⟨_, _, hway⟩ := hplaced d hd
        exact reflTransGen_of_way hway) hflatten
      rw [hmerge.eq_flatten hnodup (bases_sublist_flatten hparts), List.pairwise_cons]
      refine ⟨fun d hd => ?_, hflatten⟩
      obtain ⟨i, is, hway⟩ := hplaced d hd
      exact hsingle.comesFirst (.here List.not_mem_nil) hway .nil

/-- The search for a field ends at the class that comes first of those of the order that declare
it. -/
theorem Linearizes.field?_cases {m : SourceModule} (hm : m ∈ p.modules) {e : Expr}
    (hstart : classOf (some p) m e.untagged = .ok (some start)) (hkeys : p.TellsApart start)
    (h : p.Linearizes start mro) (field : String) :
    ((ofExpr (some e) m (some p)).field? field = .ok none ∧ ∀ c ∈ mro, c.hint? field = none) ∨
    ∃ c ∈ mro, ∃ hint, c.hint? field = some hint ∧
      (ofExpr (some e) m (some p)).field? field = .ok (some (p.fieldType (c.1, hint))) ∧
      ∀ d, d.hint? field ≠ none → d = c ∨ p.ComesFirst start c d := by
  rcases passes_or_isFirst hm hstart hkeys field with ⟨hfield, hpasses⟩ | ⟨out, hfirst, hfield⟩
  · exact .inl ⟨hfield, fun c hc => (hpasses c (h.reflTransGen hc)).1⟩
  · obtain ⟨c, hint, hc, hhint, rfl, hcomes⟩ :=
      exists_comesFirst_of_isFirst hfirst fun _ hreach => h.not_error hreach
    exact .inr ⟨c, h.mem hkeys hc, hint, hhint, hfield, hcomes⟩

/-- With a resolution order the search for a field finds one where a class of the order declares it.
It is the field of the first such class, unless the search, which goes depth first, comes before
that one to a class further down in the order; then it is the field of such a class. -/
theorem field?_of_linearizes {m : SourceModule} (hm : m ∈ p.modules) {e : Expr}
    (hstart : classOf (some p) m e.untagged = .ok (some start)) (hkeys : p.TellsApart start)
    (hmro : p.Linearizes start mro) (field : String) :
    ((ofExpr (some e) m (some p)).field? field = .ok none ↔ ∀ c ∈ mro, c.hint? field = none) ∧
    ∀ before c after hint, mro = before ++ c :: after → (∀ d ∈ before, d.hint? field = none) →
      c.hint? field = some hint →
      ((∀ d ∈ after, d.hint? field ≠ none → ¬ p.ComesFirst start d c) →
        (ofExpr (some e) m (some p)).field? field = .ok (some (p.fieldType (c.1, hint)))) ∧
      ((∃ d ∈ after, d.hint? field ≠ none ∧ p.ComesFirst start d c) →
        ∃ d ∈ after, ∃ hint', d.hint? field = some hint' ∧ p.ComesFirst start d c ∧
          (ofExpr (some e) m (some p)).field? field = .ok (some (p.fieldType (d.1, hint')))) ∧
      (p.SingleWays start →
        (ofExpr (some e) m (some p)).field? field = .ok (some (p.fieldType (c.1, hint)))) := by
  rcases hmro.field?_cases hm hstart hkeys field with
    ⟨hfield, hnone⟩ | ⟨d, hd, hint', hhint', hfield, hcomes⟩
  · refine ⟨iff_of_true hfield hnone, ?_⟩
    rintro before c after hint rfl - hhint
    exact nomatch hhint.symm.trans (hnone c (by simp))
  · have hdeclared : ¬ ∀ c ∈ mro, c.hint? field = none := fun hnone =>
      nomatch hhint'.symm.trans (hnone d hd)
    refine ⟨iff_of_false (fun h => nomatch hfield.symm.trans h) hdeclared, ?_⟩
    rintro before c after hint rfl hbefore hhint
    -- The search ends at the first class of the order, or before it at one further down.
    have hplace : d = c ∨ d ∈ after ∧ p.ComesFirst start d c := by
      rcases List.mem_append.mp hd with hd | hd
      · exact nomatch hhint'.symm.trans (hbefore d hd)
      · rcases List.mem_cons.mp hd with hd | hd
        · exact .inl hd
        · exact (hcomes c (by simp [hhint])).imp Eq.symm fun hfirst => ⟨hd, hfirst⟩
    have hsame (hdc : d = c) : (ofExpr (some e) m (some p)).field? field =
        .ok (some (p.fieldType (c.1, hint))) := by
      subst hdc
      cases hhint.symm.trans hhint'
      exact hfield
    refine ⟨fun hnone => ?_, fun hsome => ?_, fun hsingle => ?_⟩
    · refine hsame (hplace.resolve_right fun ⟨hd, hfirst⟩ => hnone d hd ?_ hfirst)
      simp [hhint']
    · obtain ⟨d', hd', hdeclared', hfirst'⟩ := hsome
      rcases hplace with rfl | ⟨hd, hfirst⟩
      · rcases hcomes d' hdeclared' with rfl | hfirst
        · exact absurd hfirst' hfirst'.asymm
        · exact absurd hfirst' hfirst.asymm
      · exact ⟨d, hd, hint', hhint', hfirst, hfield⟩
    · refine hsame (hplace.resolve_right fun ⟨hd, hfirst⟩ => ?_)
      have horder := List.pairwise_append.mp (hmro.pairwise hkeys hsingle)
      exact hfirst.asymm (List.rel_of_pairwise_cons horder.2.1 hd)

end

/-! ### A class inherited along two ways -/

/-- A module with a class of entries that inherits from items along two ways. The second one changes
the type of a field. -/
def entries : SourceModule where
  name := ⟨"entries", false⟩
  path := "entries.py"
  body := [.classDef [] "Item" [] [] [.declare (.name "id") (.name "int") none true],
    .classDef [] "Draft" [.name "Item"] [] [.pass],
    .classDef [] "Named" [.name "Item"] [] [.declare (.name "id") (.name "str") none true],
    .classDef [] "Entry" [.name "Draft", .name "Named"] [] [.pass]]

def entryProject : SourceProject := ⟨[entries]⟩

def itemClass : PlacedClass :=
  (entries, ⟨"Item", [], [], [.declare (.name "id") (.name "int") none true]⟩)

def draftClass : PlacedClass := (entries, ⟨"Draft", [], [.name "Item"], [.pass]⟩)

def namedClass : PlacedClass :=
  (entries, ⟨"Named", [], [.name "Item"], [.declare (.name "id") (.name "str") none true]⟩)

def entryClass : PlacedClass := (entries, ⟨"Entry", [], [.name "Draft", .name "Named"], [.pass]⟩)

theorem linearizes_itemClass : entryProject.Linearizes itemClass [itemClass] :=
  @Linearizes.intro _ _ [] _ rfl (fun _ h => nomatch h) (.nil (by simp))

theorem linearizes_above_itemClass {c : PlacedClass}
    (hbases : c.bases entryProject = [.ok (some itemClass)]) :
    entryProject.Linearizes c [c, itemClass] := by
  refine @Linearizes.intro _ _ [(itemClass, [itemClass])] _ hbases ?_ (.cons rfl (.nil ?_))
  · simpa using linearizes_itemClass
  · simp [PlacedClass.take]

theorem linearizes_entryClass :
    entryProject.Linearizes entryClass [entryClass, draftClass, namedClass, itemClass] := by
  refine @Linearizes.intro _ _ [(draftClass, [draftClass, itemClass]),
    (namedClass, [namedClass, itemClass])] _ rfl ?_ (.cons rfl (.cons rfl (.cons rfl (.nil ?_))))
  · simpa using ⟨linearizes_above_itemClass rfl, linearizes_above_itemClass rfl⟩
  · simp [PlacedClass.take, PlacedClass.key, draftClass, namedClass, itemClass]

theorem tellsApart_entryProject {c : PlacedClass} (hc : entryProject.Has c) :
    entryProject.TellsApart c := tellsApart_of_nodup (List.nodup_singleton _) hc

theorem comesFirst_itemClass : entryProject.ComesFirst entryClass itemClass namedClass := by
  have hapart : entryProject.TellsApart draftClass :=
    tellsApart_entryProject ⟨List.mem_cons_self, rfl⟩
  have hdraft : entryProject.Linearizes draftClass [draftClass, itemClass] :=
    linearizes_above_itemClass rfl
  have hother : namedClass ∉ [draftClass, itemClass] := by
    simp [namedClass, draftClass, itemClass]
  have hway : entryProject.Way [] entryClass [0, 0] itemClass :=
    .up (by decide) rfl (.up (by decide) rfl (.here (by decide)))
  refine ⟨[0, 0], hway, fun js hjs => ?_⟩
  generalize hnamed : namedClass = named at hjs
  cases hjs with
  | here _ => exact absurd (congrArg PlacedClass.key hnamed) (by decide)
  | @up _ _ _ _ i _ _ hbase hjs =>
      match i with
      | 0 =>
          cases hbase
          have hreach := hdraft.mem hapart (reflTransGen_of_way hjs)
          exact absurd (hnamed ▸ hreach) hother
      | i + 1 => exact .rel (Nat.succ_pos i)

theorem undeclared_before_namedClass : ∀ c ∈ [entryClass, draftClass], c.hint? "id" = none := by
  simp only [List.forall_mem_cons]
  exact ⟨rfl, rfl, nofun⟩

theorem field?_of_linearizes_entryClass :
    entries ∈ entryProject.modules ∧
      classOf (some entryProject) entries (Expr.name "Entry").untagged = .ok (some entryClass) ∧
      entryProject.TellsApart entryClass ∧
      entryProject.Linearizes entryClass [entryClass, draftClass, namedClass, itemClass] ∧
      (ofExpr (some (.name "Entry")) entries (some entryProject)).field? "name" = .ok none ∧
      entryProject.ComesFirst entryClass itemClass namedClass ∧
      (ofExpr (some (.name "Entry")) entries (some entryProject)).field? "id" =
        .ok (some (entryProject.fieldType (entries, .name "int"))) := by
  have hmem : entries ∈ entryProject.modules := List.mem_cons_self
  have hclass : classOf (some entryProject) entries (Expr.name "Entry").untagged =
      .ok (some entryClass) := rfl
  have hapart : entryProject.TellsApart entryClass := tellsApart_entryProject ⟨hmem, rfl⟩
  refine ⟨hmem, hclass, hapart, linearizes_entryClass, ?_, comesFirst_itemClass, ?_⟩
  · refine (field?_of_linearizes hmem hclass hapart linearizes_entryClass "name").1.mpr ?_
    simp only [List.forall_mem_cons]
    exact ⟨rfl, rfl, rfl, rfl, nofun⟩
  · obtain ⟨d, hd, hint, hhint, -, hfield⟩ :=
      ((field?_of_linearizes hmem hclass hapart linearizes_entryClass "id").2
        [entryClass, draftClass] namedClass [itemClass] (.name "str") rfl
        undeclared_before_namedClass rfl).2.1
        ⟨itemClass, List.mem_cons_self, nofun, comesFirst_itemClass⟩
    obtain rfl := List.mem_singleton.mp hd
    cases hhint
    exact hfield

/-- The search for a field need not end at the first class of a resolution order that declares the
field. -/
theorem not_field?_of_first_of_order :
    ¬ ∀ (p : SourceProject) (m : SourceModule) (e : Expr) (start : PlacedClass)
      (before : List PlacedClass) (c : PlacedClass) (after : List PlacedClass) (field : String)
      (hint : Expr), (p.modules.map (·.name.text)).Nodup → m ∈ p.modules →
      classOf (some p) m e.untagged = .ok (some start) →
      p.Linearizes start (before ++ c :: after) → (∀ d ∈ before, d.hint? field = none) →
      c.hint? field = some hint →
      (ofExpr (some e) m (some p)).field? field = .ok (some (p.fieldType (c.1, hint))) := by
  intro hall
  have hfield := hall entryProject entries (.name "Entry") entryClass [entryClass, draftClass]
    namedClass [itemClass] "id" (.name "str") (List.nodup_singleton _) List.mem_cons_self rfl
    linearizes_entryClass undeclared_before_namedClass rfl
  have hint : (ofExpr (some (.name "Entry")) entries (some entryProject)).field? "id" =
      .ok (some (entryProject.fieldType (entries, .name "int"))) := rfl
  have hexpr : some (Expr.name "int") = some (Expr.name "str") :=
    congrArg SourceType.expr (Option.some.inj (Except.ok.inj (hint.symm.trans hfield)))
  exact absurd (Expr.name.inj (Option.some.inj hexpr)) (by decide)

end SourceProject

end TypedClients

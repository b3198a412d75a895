import Mathlib.Data.Option.Basic
import TypedClients.Settings.Toml

/-!
# Keys of tables

A document of lines with keys has tables with texts for keys, at every depth: what a line adds or
changes keeps that of the tables that it goes through.
-/
namespace TypedClients.Settings

/-- All keys of the mappings in a value, at any depth, are texts. -/
inductive Data.KeyedByText : Data → Prop
  | simple {d : Data} (h : Toml.isCompound d = false) : KeyedByText d
  | list {items : List Data} (h : ∀ d ∈ items, KeyedByText d) : KeyedByText (.list items)
  | mapping {entries : List (Data × Data)} (hkeys : ∀ e ∈ entries, ∃ key, e.1.text? = some key)
      (hvalues : ∀ e ∈ entries, KeyedByText e.2) : KeyedByText (.mapping entries)

namespace Data.KeyedByText

theorem empty : (Data.mapping []).KeyedByText := .mapping (by simp) (by simp)

theorem keys {entries : List (Data × Data)} (h : (Data.mapping entries).KeyedByText) :
    ∀ e ∈ entries, ∃ key, e.1.text? = some key := by
  cases h with
  | simple h => cases h
  | mapping hkeys _ => exact hkeys

theorem values {entries : List (Data × Data)} (h : (Data.mapping entries).KeyedByText) :
    ∀ e ∈ entries, e.2.KeyedByText := by
  cases h with
  | simple h => cases h
  | mapping _ hvalues => exact hvalues

theorem items {ds : List Data} (h : (Data.list ds).KeyedByText) : ∀ d ∈ ds, d.KeyedByText := by
  cases h with
  | simple h => cases h
  | list h => exact h

theorem cons {key value : Data} {entries : List (Data × Data)} {name : String}
    (hkey : key.text? = some name) (hvalue : value.KeyedByText)
    (h : (Data.mapping entries).KeyedByText) :
    (Data.mapping ((key, value) :: entries)).KeyedByText :=
  .mapping (List.forall_mem_cons.mpr ⟨⟨name, hkey⟩, h.keys⟩)
    (List.forall_mem_cons.mpr ⟨hvalue, h.values⟩)

theorem value {entries : List (Data × Data)} {key : String} {d : Data}
    (h : (Data.mapping entries).KeyedByText) (hd : Data.value? entries key = some d) :
    d.KeyedByText := by
  obtain ⟨e, he, hsome⟩ := List.exists_of_findSome?_eq_some hd
  obtain ⟨-, hsome⟩ := Option.ite_none_right_eq_some.mp hsome
  cases hsome
  exact h.values e (List.mem_reverse.mp he)

/-- A missing value counts as an empty table. -/
theorem valueOrEmpty {entries : List (Data × Data)} (h : (Data.mapping entries).KeyedByText)
    (key : String) : ((Data.value? entries key).getD (.mapping [])).KeyedByText := by
  cases hvalue : Data.value? entries key with
  | none => exact empty
  | some d => exact h.value hvalue

end Data.KeyedByText

namespace Toml

open Data (KeyedByText)

/-! ### Changes of tables -/

theorem setValue_keyedByText {table : Table} {value : Data} (key : String)
    (h : KeyedByText (.mapping table)) (hvalue : value.KeyedByText) :
    KeyedByText (.mapping (setValue key value table)) := by
  induction table with
  | nil => exact .cons rfl hvalue h
  | cons e table ih =>
      obtain ⟨k, v⟩ := e
      have hrest : KeyedByText (.mapping table) :=
        .mapping (List.forall_mem_cons.mp h.keys).2 (List.forall_mem_cons.mp h.values).2
      obtain ⟨name, hname⟩ := (List.forall_mem_cons.mp h.keys).1
      rw [setValue]
      split
      · exact .cons hname hvalue hrest
      · exact .cons hname (List.forall_mem_cons.mp h.values).1 (ih hrest)

theorem addValue_keyedByText {table table' : Table} {value : Data} {key : String}
    (hvalue : value.KeyedByText) (h : KeyedByText (.mapping table))
    (hadd : addValue key value table = some table') : KeyedByText (.mapping table') := by
  rw [addValue] at hadd
  split at hadd
  · cases hadd
  · cases hadd
    exact setValue_keyedByText key h hvalue

theorem addTable_keyedByText {table table' : Table} {key : String}
    (h : KeyedByText (.mapping table)) (hadd : addTable key table = some table') :
    KeyedByText (.mapping table') := by
  rw [addTable] at hadd
  split at hadd
  · cases hadd
    refine setValue_keyedByText key h (.list fun d hd => ?_)
    rw [List.mem_singleton.mp hd]
    exact .empty
  · next ds hlist =>
      cases hadd
      refine setValue_keyedByText key h (.list fun d hd => ?_)
      rcases List.mem_append.mp hd with hd | hd
      · exact (h.value hlist).items d hd
      · rw [List.mem_singleton.mp hd]
        exact .empty
  · cases hadd

/-- A change deep in a table keeps its keys texts if it does so where it is made. -/
theorem changeAt_keyedByText {throughLists : Bool} {change : Table → Option Table}
    (hchange : ∀ {t t' : Table}, KeyedByText (.mapping t) → change t = some t' →
      KeyedByText (.mapping t'))
    {path : List String} {table table' : Table} (h : KeyedByText (.mapping table))
    (hat : changeAt throughLists change path table = some table') :
    KeyedByText (.mapping table') := by
  induction path generalizing table table' with
  | nil => exact hchange h hat
  | cons key path ih =>
      have hinner := h.valueOrEmpty key
      rw [changeAt] at hat
      cases hd : (Data.value? table key).getD (.mapping []) with
      | mapping es =>
          rw [hd] at hat hinner
          obtain ⟨es', hes', hat⟩ := Option.bind_eq_some_iff.mp hat
          cases hat
          exact setValue_keyedByText key h (ih hinner hes')
      | list ds =>
          rw [hd] at hat hinner
          cases throughLists with
          | false => cases hat
          | true =>
              simp only [↓reduceIte, Option.bind_eq_bind, Option.bind_some] at hat
              split at hat
              · next es hlast =>
                  obtain ⟨es', hes', hat⟩ := Option.bind_eq_some_iff.mp hat
                  cases hat
                  have hes := hinner.items _ (List.mem_of_getLast? hlast)
                  refine setValue_keyedByText key h (.list fun d hmem => ?_)
                  rcases List.mem_append.mp hmem with hmem | hmem
                  · exact hinner.items d (List.dropLast_subset ds hmem)
                  · rw [List.mem_singleton.mp hmem]
                    exact ih hes hes'
              · cases hat
      | _ => simp [hd] at hat

/-! ### Values -/

/-- A reader's answer, if there is one, is a value that is not made of others. -/
def GivesSimple (answer : Option (Data × List Char)) : Prop :=
  ∀ r, answer = some r → isCompound r.1 = false

namespace GivesSimple

variable {α : Type} {x : Option α}

theorem some {d : Data} {rest : List Char} (h : isCompound d = false) :
    GivesSimple (some (d, rest)) := by
  intro r hr
  cases hr
  exact h

theorem bind {f : α → Option (Data × List Char)} (h : ∀ a, GivesSimple (f a)) :
    GivesSimple (x >>= f) := by
  intro r hr
  obtain ⟨a, -, ha⟩ := Option.bind_eq_some_iff.mp hr
  exact h a r ha

theorem map {f : α → Data × List Char} (h : ∀ a, isCompound (f a).1 = false) :
    GivesSimple (x.map f) := by
  intro r hr
  obtain ⟨a, -, rfl⟩ := Option.map_eq_some_iff.mp hr
  exact h a

theorem orElse {a b : Option (Data × List Char)} (ha : GivesSimple a) (hb : GivesSimple b) :
    GivesSimple (a <|> b) := by
  cases a with
  | none => exact hb
  | some r => exact ha

theorem ite {p : Prop} [Decidable p] {a b : Option (Data × List Char)} (ha : GivesSimple a)
    (hb : GivesSimple b) : GivesSimple (if p then a else b) := by
  split
  · exact ha
  · exact hb

theorem keyedByText {answer : Option (Data × List Char)} {d : Data} {rest : List Char}
    (h : GivesSimple answer) (hd : answer = .some (d, rest)) : d.KeyedByText := .simple (h _ hd)

end GivesSimple

theorem simple_floating (negative : Bool) (whole part : List Char) (power : Int) :
    isCompound (floating negative whole part power) = false := rfl

theorem number?_givesSimple (cs : List Char) : GivesSimple (number? cs) := by
  unfold number?
  extract_lets inBase decimal
  have hbase (base : Nat) (cs : List Char) : GivesSimple (inBase base cs) :=
    .bind fun _ => .bind fun _ => .some rfl
  have hdecimal : GivesSimple decimal := by
    refine .bind fun (whole, rest) => ?_
    exact .ite (.some rfl) (.some (simple_floating _ _ _ _))
  split
  · exact .orElse (hbase _ _) hdecimal
  · exact .orElse (hbase _ _) hdecimal
  · exact .orElse (hbase _ _) hdecimal
  · exact hdecimal

/-- What is read within a bound on the depth has texts for keys: values, the items of lists, and the
entries of tables on one line, where these are added to a table that has. -/
structure ReadsTextKeys (n : Nat) : Prop where
  value : ∀ {cs rest : List Char} {d : Data}, value? n cs = some (d, rest) → d.KeyedByText
  items : ∀ {cs rest : List Char} {ds : List Data}, items? n cs = some (ds, rest) →
    ∀ d ∈ ds, d.KeyedByText
  entries : ∀ {marks : Marks} {table es : Table} {cs rest : List Char},
    KeyedByText (.mapping table) → entries? n marks table cs = some (es, rest) →
    KeyedByText (.mapping es)

theorem value?_step {n : Nat} (ih : ReadsTextKeys n) {cs rest : List Char} {d : Data}
    (h : value? (n + 1) cs = some (d, rest)) : d.KeyedByText := by
  rw [value?.eq_def] at h
  dsimp only at h
  split at h
  · exact (GivesSimple.map fun _ => rfl).keyedByText h
  · exact (GivesSimple.map fun _ => rfl).keyedByText h
  · exact (GivesSimple.map fun _ => rfl).keyedByText h
  · exact (GivesSimple.map fun _ => rfl).keyedByText h
  · cases h; exact .simple rfl
  · cases h; exact .simple rfl
  · obtain ⟨⟨ds, after⟩, hds, h⟩ := Option.bind_eq_some_iff.mp h
    cases h
    exact .list (ih.items hds)
  · split at h
    · cases h; exact .empty
    · obtain ⟨⟨es, after⟩, hes, h⟩ := Option.bind_eq_some_iff.mp h
      cases h
      exact ih.entries .empty hes
  · split at h
    · exact (GivesSimple.map fun _ => rfl).keyedByText h
    · refine (GivesSimple.orElse (number?_givesSimple _) ?_).keyedByText h
      intro r hr
      obtain ⟨word, -, hword⟩ := List.exists_of_findSome?_eq_some hr
      obtain ⟨-, hword⟩ := Option.ite_none_right_eq_some.mp hword
      cases hword
      rfl

theorem items?_step {n : Nat} (ih : ReadsTextKeys n) {cs rest : List Char} {ds : List Data}
    (h : items? (n + 1) cs = some (ds, rest)) : ∀ d ∈ ds, d.KeyedByText := by
  rw [items?.eq_def] at h
  obtain ⟨cs', -, h⟩ := Option.bind_eq_some_iff.mp h
  split at h
  · cases h; simp
  · obtain ⟨⟨d, after⟩, hd, h⟩ := Option.bind_eq_some_iff.mp h
    obtain ⟨after', -, h⟩ := Option.bind_eq_some_iff.mp h
    split at h
    · cases h
      simpa using ih.value hd
    · obtain ⟨⟨ds', after''⟩, hds, h⟩ := Option.bind_eq_some_iff.mp h
      cases h
      exact List.forall_mem_cons.mpr ⟨ih.value hd, ih.items hds⟩
    · cases h

theorem entries?_step {n : Nat} (ih : ReadsTextKeys n) {marks : Marks} {table es : Table}
    {cs rest : List Char} (htable : KeyedByText (.mapping table))
    (h : entries? (n + 1) marks table cs = some (es, rest)) : KeyedByText (.mapping es) := by
  rw [entries?.eq_def] at h
  obtain ⟨⟨key, after⟩, -, h⟩ := Option.bind_eq_some_iff.mp h
  dsimp only at h
  split at h
  · obtain ⟨⟨d, after'⟩, hd, h⟩ := Option.bind_eq_some_iff.mp h
    obtain ⟨-, -, h⟩ := Option.bind_eq_some_iff.mp h
    obtain ⟨table', hadd, h⟩ := Option.bind_eq_some_iff.mp h
    have htable' := changeAt_keyedByText (addValue_keyedByText (ih.value hd)) htable hadd
    split at h
    · cases h; exact htable'
    · exact ih.entries htable' h
    · cases h
  · cases h

theorem readsTextKeys (n : Nat) : ReadsTextKeys n := by
  induction n with
  | zero => exact ⟨nofun, nofun, nofun⟩
  | succ n ih => exact ⟨value?_step ih, items?_step ih, entries?_step ih⟩

/-! ### Documents -/

namespace Document

variable {d d' : Document} {cs rest : List Char}

/-- The table of a document has texts for keys, at every depth. -/
def KeyedByText (d : Document) : Prop := Data.KeyedByText (.mapping d.table)

theorem openTable_keyedByText (hd : d.KeyedByText) (h : d.openTable cs = some (d', rest)) :
    d'.KeyedByText := by
  obtain ⟨⟨key, after⟩, -, h⟩ := Option.bind_eq_some_iff.mp h
  obtain ⟨-, -, h⟩ := Option.bind_eq_some_iff.mp h
  obtain ⟨table, htable, h⟩ := Option.bind_eq_some_iff.mp h
  obtain ⟨after', -, h⟩ := Option.bind_eq_some_iff.mp h
  cases h
  exact changeAt_keyedByText (fun ht h => Option.some.inj h ▸ ht) hd htable

theorem openItem_keyedByText (hd : d.KeyedByText) (h : d.openItem cs = some (d', rest)) :
    d'.KeyedByText := by
  obtain ⟨⟨key, after⟩, -, h⟩ := Option.bind_eq_some_iff.mp h
  obtain ⟨-, -, h⟩ := Option.bind_eq_some_iff.mp h
  obtain ⟨table, htable, h⟩ := Option.bind_eq_some_iff.mp h
  obtain ⟨after', -, h⟩ := Option.bind_eq_some_iff.mp h
  cases h
  exact changeAt_keyedByText addTable_keyedByText hd htable

theorem assign_keyedByText (hd : d.KeyedByText) (h : d.assign cs = some (d', rest)) :
    d'.KeyedByText := by
  obtain ⟨⟨key, after⟩, -, h⟩ := Option.bind_eq_some_iff.mp h
  obtain ⟨after', -, h⟩ := Option.bind_eq_some_iff.mp h
  obtain ⟨⟨value, after''⟩, hvalue, h⟩ := Option.bind_eq_some_iff.mp h
  obtain ⟨-, -, h⟩ := Option.bind_eq_some_iff.mp h
  obtain ⟨-, -, h⟩ := Option.bind_eq_some_iff.mp h
  obtain ⟨table, htable, h⟩ := Option.bind_eq_some_iff.mp h
  cases h
  exact changeAt_keyedByText (addValue_keyedByText ((readsTextKeys _).value hvalue)) hd htable

theorem readLines_keyedByText {n : Nat} (hd : d.KeyedByText) (h : readLines n d cs = some d') :
    d'.KeyedByText := by
  induction n generalizing d cs with
  | zero => cases h
  | succ n ih =>
      -- after the entry or the header of a line there are the next lines, or nothing
      have hend {next : Document} {x : Option (List Char)} {f : List Char → Option Document}
          (hnext : next.KeyedByText) (hf : ∀ after, f after = some d' →
            next = d' ∨ ∃ rest, readLines n next rest = some d') (h : x >>= f = some d') :
          d'.KeyedByText := by
        obtain ⟨after, -, h⟩ := Option.bind_eq_some_iff.mp h
        rcases hf after h with rfl | ⟨rest, h⟩
        · exact hnext
        · exact ih hnext h
      rw [readLines.eq_def] at h
      dsimp only at h
      split at h
      · cases h; exact hd
      · exact ih hd h
      split at h
      · exact hend hd (fun _ h => by split at h <;> grind) h
      split at h
      · split at h
        · obtain ⟨⟨next, after⟩, hnext, h⟩ := Option.bind_eq_some_iff.mp h
          have hkeys := openItem_keyedByText (d := d.settle) hd hnext
          exact hend hkeys (fun _ h => by split at h <;> grind) h
        · obtain ⟨⟨next, after⟩, hnext, h⟩ := Option.bind_eq_some_iff.mp h
          have hkeys := openTable_keyedByText (d := d.settle) hd hnext
          exact hend hkeys (fun _ h => by split at h <;> grind) h
      split at h
      · obtain ⟨⟨next, after⟩, hnext, h⟩ := Option.bind_eq_some_iff.mp h
        exact hend (assign_keyedByText hd hnext) (fun _ h => by split at h <;> grind) h
      · cases h

end Document

/-- A project file has texts for keys, at every depth. -/
theorem read_keyedByText {s : String} {table : Table} (h : read s = some table) :
    KeyedByText (.mapping table) := by
  obtain ⟨d, hd, rfl⟩ := Option.map_eq_some_iff.mp h
  exact Document.readLines_keyedByText (d := {}) Data.KeyedByText.empty hd

end Toml

end TypedClients.Settings

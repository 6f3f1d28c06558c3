import BoundedCrawl.Toml.Reader
import Mathlib.Tactic.SplitIfs
set_option autoImplicit false

/-!
# The integers of a document

The reader of integers refuses those that do not have 64 bits, and whatever happens to a value
on its way into a document, no integer is changed.  So the integers of a document have 64 bits,
however deep they stand (`inRange_of_read?`).
-/

namespace BoundedCrawl.Toml

/-- Every integer in the value has 64 bits. -/
inductive Value.InRange : Value → Prop where
  | text {value : String} : InRange (.text value)
  | integer {n : Int} (h : inRange n = true) : InRange (.integer n)
  | fraction : InRange .fraction
  | truth {value : Bool} : InRange (.truth value)
  | moment : InRange .moment
  | array {items : List Value} (h : ∀ v ∈ items, InRange v) : InRange (.array items)
  | table {origin : Origin} {rows : List (String × Value)} (h : ∀ row ∈ rows, InRange row.2) :
      InRange (.table origin rows)
  | tables {each : List (List (String × Value))}
      (h : ∀ rows ∈ each, ∀ row ∈ rows, InRange row.2) : InRange (.tables each)

/-! ## Rows -/

namespace Rows

/-- Every integer in the rows has 64 bits. -/
def InRange (rows : Rows) : Prop := ∀ row ∈ rows, row.2.InRange

variable {rows rows' : Rows} {key : String} {value : Value}

theorem InRange.nil : InRange [] := fun _ hrow => by cases hrow

theorem InRange.append (h : rows.InRange) (hvalue : value.InRange) :
    InRange (rows ++ [(key, value)]) :=
  List.forall_mem_append.mpr ⟨h, List.forall_mem_singleton.mpr hvalue⟩

theorem InRange.get? (h : rows.InRange) (hvalue : rows.get? key = some value) :
    value.InRange := by
  obtain ⟨row, hrow, rfl⟩ := Option.map_eq_some_iff.mp hvalue
  exact h row (List.mem_of_find?_eq_some hrow)

theorem InRange.set (h : rows.InRange) (hvalue : value.InRange) :
    (rows.set key value).InRange := by
  unfold Rows.set
  split
  · intro row hrow
    obtain ⟨old, hold, rfl⟩ := List.mem_map.mp hrow
    split
    · exact hvalue
    · exact h old hold
  · exact h.append hvalue

/-- A change that keeps the integers of a table keeps those of the rows that the table is in. -/
theorem InRange.update {byDots : Bool} {path : List String} {origin : Origin}
    {change : Origin → Rows → Option Rows} (h : rows.InRange) (hchange : ∀ origin inner inner',
      InRange inner → change origin inner = some inner' → InRange inner')
    (hupdate : Rows.update byDots path origin rows change = some rows') : rows'.InRange := by
  induction path generalizing origin rows rows' with
  | nil => exact hchange origin rows rows' h hupdate
  | cons key rest ih =>
    unfold Rows.update at hupdate
    cases hget : rows.get? key with
    | none =>
      simp only [hget] at hupdate
      obtain ⟨inner, hinner, rfl⟩ := Option.map_eq_some_iff.mp hupdate
      exact h.set (.table (ih .nil hinner))
    | some value =>
      cases h.get? hget with
      | table hold =>
        simp only [hget] at hupdate
        split at hupdate
        · cases hupdate
        · obtain ⟨inner, hinner, rfl⟩ := Option.map_eq_some_iff.mp hupdate
          exact h.set (.table (ih hold hinner))
      | @tables each hold =>
        simp only [hget] at hupdate
        split at hupdate
        · cases hupdate
        · next last before hlast =>
          obtain ⟨inner, hinner, rfl⟩ := Option.map_eq_some_iff.mp hupdate
          have heach : each = before.reverse ++ [last] := by
            rw [← List.reverse_cons, ← hlast, List.reverse_reverse]
          subst heach
          obtain ⟨hbefore, hlast⟩ := List.forall_mem_append.mp hold
          have hinner := ih (hlast last (List.mem_singleton.mpr rfl)) hinner
          exact h.set (.tables
            (List.forall_mem_append.mpr ⟨hbefore, List.forall_mem_singleton.mpr hinner⟩))
      | _ => simp [hget] at hupdate

theorem InRange.add {path : List String} (h : rows.InRange) (hvalue : value.InRange)
    (hadd : rows.add path key value = some rows') : rows'.InRange := by
  refine h.update (fun origin inner inner' hinner hchange => ?_) hadd
  split at hchange
  · cases hchange
  · split at hchange
    · cases hchange
    · cases hchange
      exact hinner.append hvalue

theorem InRange.beginTable {path : List String} (h : rows.InRange)
    (hbegin : rows.beginTable path key = some rows') :
    rows'.InRange := by
  refine h.update (fun origin inner inner' hinner hchange => ?_) hbegin
  split at hchange
  · cases hchange
    exact hinner.append (.table InRange.nil)
  · next old hget =>
    cases hchange
    cases hinner.get? hget with
    | table hold => exact hinner.set (.table hold)
  · cases hchange

theorem InRange.beginTables {path : List String} (h : rows.InRange)
    (hbegin : rows.beginTables path key = some rows') :
    rows'.InRange := by
  refine h.update (fun origin inner inner' hinner hchange => ?_) hbegin
  split at hchange
  · cases hchange
    exact hinner.append (.tables (List.forall_mem_singleton.mpr InRange.nil))
  · next each hget =>
    cases hchange
    cases hinner.get? hget with
    | tables hold =>
      exact hinner.set
        (.tables (List.forall_mem_append.mpr ⟨hold, List.forall_mem_singleton.mpr InRange.nil⟩))
  · cases hchange

end Rows

/-! ## Values -/

/-- Whatever the reader reads has a property. -/
def Reader.Yields {α : Type} (reader : Reader α) (P : α → Prop) : Prop :=
  ∀ text a rest, reader text = some (a, rest) → P a

theorem yields_readInteger : Reader.Yields readInteger Value.InRange := by
  intro text v rest h
  have hchecked : ∀ {n : Int} {rest' : List Char}, (if inRange n then
      some (Value.integer n, rest') else none) = some (v, rest) → v.InRange := by
    intro n rest' h
    split at h
    · next hrange =>
      cases h
      exact .integer hrange
    · cases h
  unfold readInteger at h
  split at h
  all_goals
    dsimp only at h
    split at h
    · cases h
    · exact hchecked h

theorem eq_of_readFraction {text rest : List Char} {v : Value}
    (h : readFraction text = some (v, rest)) : v = .fraction := by
  unfold readFraction at h
  dsimp only at h
  -- the reader gives nothing else, whichever way it takes
  repeat' split at h
  all_goals cases h
  all_goals rfl

theorem eq_of_readMoment {text rest : List Char} {v : Value}
    (h : readMoment text = some (v, rest)) : v = .moment := by
  unfold readMoment at h
  split at h
  · cases hdate : readDate text with
    | none => simp [hdate] at h
    | some date =>
      simp only [hdate, Option.bind_eq_bind, Option.bind_some, Option.pure_def] at h
      split at h
      · split at h
        · obtain ⟨clock, -, h⟩ := Option.bind_eq_some_iff.mp h
          obtain ⟨offset, -, h⟩ := Option.bind_eq_some_iff.mp h
          cases h
          rfl
        · cases h
          rfl
      · cases h
        rfl
  · obtain ⟨clock, -, h⟩ := Option.bind_eq_some_iff.mp h
    cases h
    rfl

theorem yields_readNumeral : Reader.Yields readNumeral Value.InRange := by
  intro text v rest h
  -- it does not matter here what tells a fraction from an integer
  have hnumber : ∀ {isFraction : Bool}, (if isFraction then
      readFraction text else readInteger text) = some (v, rest) → v.InRange := by
    intro isFraction h
    split at h
    · obtain rfl := eq_of_readFraction h
      exact .fraction
    · exact yields_readInteger text v rest h
  unfold readNumeral at h
  split at h
  · obtain rfl := eq_of_readMoment h
    exact .moment
  · exact hnumber h

variable {value : Reader Value}

theorem yields_readItems (hvalue : value.Yields Value.InRange) (rounds : Nat) :
    Reader.Yields (readItems value rounds) fun items => ∀ v ∈ items, v.InRange := by
  intro text items rest h
  induction rounds generalizing text items rest with
  | zero => cases h
  | succ rounds ih =>
    unfold readItems at h
    split at h
    · cases h
      exact fun v hv => by cases hv
    · split at h
      · cases h
      · next item after hitem =>
        have hfirst := hvalue _ item after hitem
        split at h
        · obtain ⟨⟨items', rest'⟩, hitems, heq⟩ := Option.map_eq_some_iff.mp h
          cases heq
          exact List.forall_mem_cons.mpr ⟨hfirst, ih _ items' rest hitems⟩
        · cases h
          exact List.forall_mem_singleton.mpr hfirst
        · cases h

theorem yields_readPair (hvalue : value.Yields Value.InRange) :
    Reader.Yields (readPair value) fun pair => pair.2.2.InRange := by
  intro text pair rest h
  unfold readPair at h
  split at h
  · obtain ⟨⟨v, rest'⟩, hv, heq⟩ := Option.map_eq_some_iff.mp h
    cases heq
    exact hvalue _ v rest hv
  · cases h

theorem yields_readPairs (hvalue : value.Yields Value.InRange) {rows : Rows}
    (hrows : rows.InRange) (rounds : Nat) :
    Reader.Yields (readPairs value rows rounds) Rows.InRange := by
  intro text rows' rest h
  induction rounds generalizing text rows with
  | zero => cases h
  | succ rounds ih =>
    unfold readPairs at h
    split at h
    · cases h
    · next path key v after hpair =>
      split at h
      · cases h
      · next added hadd =>
        have hadded : Rows.InRange added :=
          hrows.add (yields_readPair hvalue _ _ after hpair) hadd
        split at h
        · exact ih hadded _ h
        · cases h
          exact hadded
        · cases h

theorem yields_readValue (depth : Nat) : Reader.Yields (readValue depth) Value.InRange := by
  induction depth with
  | zero =>
    intro text v rest h
    cases h
  | succ depth ih =>
    intro text v rest h
    unfold readValue at h
    split at h
    · cases h
    · split_ifs at h
      · obtain ⟨⟨t, rest'⟩, -, heq⟩ := Option.map_eq_some_iff.mp h
        cases heq
        exact .text
      · obtain ⟨⟨items, rest'⟩, hitems, heq⟩ := Option.map_eq_some_iff.mp h
        cases heq
        exact .array (yields_readItems ih _ _ items rest hitems)
      · split at h
        · cases h
          exact .table Rows.InRange.nil
        · obtain ⟨⟨rows, rest'⟩, hrows, heq⟩ := Option.map_eq_some_iff.mp h
          cases heq
          exact .table (yields_readPairs ih .nil _ _ rows rest hrows)
      · exact yields_readNumeral _ v rest h
      · obtain ⟨rest', -, heq⟩ := Option.map_eq_some_iff.mp h
        cases heq
        exact .truth
      · obtain ⟨rest', -, heq⟩ := Option.map_eq_some_iff.mp h
        cases heq
        exact .truth

/-! ## Documents -/

theorem inRange_of_readLines {rows rows' : Rows} {place : List String}
    {rounds : Nat} {text : List Char} (hrows : rows.InRange)
    (h : readLines rows place rounds text = some rows') : rows'.InRange := by
  induction rounds generalizing rows place text with
  | zero => cases h
  | succ rounds ih =>
    unfold readLines at h
    split at h
    · cases h
      exact hrows
    · split_ifs at h
      · split at h
        · cases h
        · exact ih hrows h
      · split at h
        · cases h
        · next double path key after hheader =>
          split at h
          · next begun after' hbegin hend =>
            refine ih ?_ h
            split at hbegin
            · exact hrows.beginTables hbegin
            · exact hrows.beginTable hbegin
          · cases h
      · split at h
        · cases h
        · next path key v after hpair =>
          dsimp only at h
          split at h
          · next added after' hadd hend =>
            have hv := yields_readPair (yields_readValue depthLimit) _ _ after hpair
            exact ih
              (hrows.update (fun _ inner inner' hinner hchange => hinner.add hv hchange) hadd) h
          · cases h

/-- Every integer of a document has 64 bits. -/
theorem inRange_of_read? {text : String} {rows : Rows} (h : read? text = some rows) :
    rows.InRange :=
  inRange_of_readLines .nil h

end BoundedCrawl.Toml

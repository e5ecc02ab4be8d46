import Mathlib
import HomeGateway.Catalog.Reading

/-!
Readings as tables. The measured rows are walked in the order of the table, and rows of one type are
counted whether they were measured or not; so where a probe is missing, a value stands at one place
in the walk and at another in the count. What is found by counting, less the places where there is
nothing, is what is found by walking. A built-in reading keeps to its table: each value is of the
type that its row declares, and there are no values past the last row.
-/

namespace HomeGateway

/-- To ask a list at all its places, in order, is to go through the list. -/
theorem range_filterMap_getElem? {α β : Type} (f : α → Option β) (l : List α) :
    ((List.range l.length).filterMap fun n => l[n]?.bind f) = l.filterMap f := by
  induction l with
  | nil => rfl
  | cons a rest ih =>
    rw [List.length_cons, List.range_succ_eq_map, List.filterMap_cons, List.filterMap_map,
      List.filterMap_cons, ← ih]
    rfl

namespace DataTable

/-- The rows of a type, measured or not, with their positions in the table. -/
def rowsOf (table : DataTable) (t : DataType) : List (DataDescr × Nat) :=
  table.descrs.zipIdx.filter fun (descr, _) => descr.dataType = t

/-- How many rows of a type there are. -/
def countOf (table : DataTable) (t : DataType) : Nat :=
  table.descrs.countP fun d => d.dataType = t

/-- The values of a type, as they are met in the walk. -/
def valuesOf (table : DataTable) (t : DataType) : List DataValue :=
  (table.fields.filter fun field => field.descr.dataType = t).map DataField.value

/-- Whoever walks the measured rows and whoever counts the rows of a type find the same values, in
the same order. -/
structure Agrees (table : DataTable) (t : DataType) : Prop where
  values : table.valuesOf t = (List.range (table.countOf t)).filterMap (table.get? t)
  beyond : ∀ n, table.countOf t ≤ n → table.get? t n = none

/-- The values keep to the rows. -/
structure Typed (table : DataTable) : Prop where
  declared : ∀ i value, table.value i = some value →
    ∃ d, table.descrs[i]? = some d ∧ value.dataType = d.dataType
  past : ∀ i, table.descrs.length ≤ i → table.value i = none
  /-- What is asked for by its type is of that type. -/
  found : ∀ t n value, table.get? t n = some value → value.dataType = t

variable {table : DataTable} {t : DataType}

theorem get?_eq (table : DataTable) (t : DataType) (n : Nat) :
    table.get? t n = (table.rowsOf t)[n]?.bind fun row => table.value row.2 := rfl

theorem length_rowsOf (table : DataTable) (t : DataType) :
    (table.rowsOf t).length = table.countOf t := by
  unfold rowsOf countOf
  rw [← List.countP_eq_length_filter]
  conv_rhs => rw [← List.zipIdx_map_fst 0 table.descrs, List.countP_map]
  rfl

theorem mem_rowsOf {d : DataDescr} {i : Nat} (h : (d, i) ∈ table.rowsOf t) :
    table.descrs[i]? = some d ∧ d.dataType = t := by
  obtain ⟨hrow, htype⟩ := List.mem_filter.mp h
  exact ⟨List.mem_zipIdx_iff_getElem?.mp hrow, of_decide_eq_true htype⟩

/-- The walk leaves out the rows of a type that were not measured, and no others. -/
theorem valuesOf_eq (table : DataTable) (t : DataType) :
    table.valuesOf t = (table.rowsOf t).filterMap fun row => table.value row.2 := by
  unfold valuesOf fields rowsOf
  rw [List.filter_filterMap, List.map_filterMap, List.filterMap_filter]
  -- Row by row now: a row of another type adds nothing on either side.
  refine List.filterMap_congr fun ⟨d, i⟩ _ => ?_
  by_cases htype : d.dataType = t
  · cases hvalue : table.value i <;> simp [htype, hvalue]
  · cases table.value i <;> simp [htype]

theorem agrees (table : DataTable) (t : DataType) : table.Agrees t where
  values :=
    calc table.valuesOf t = (table.rowsOf t).filterMap fun row => table.value row.2 :=
          valuesOf_eq table t
      _ = (List.range (table.rowsOf t).length).filterMap (table.get? t) :=
          (range_filterMap_getElem? _ _).symm
      _ = (List.range (table.countOf t)).filterMap (table.get? t) := by rw [length_rowsOf]
  beyond n hn := by
    rw [← length_rowsOf] at hn
    rw [get?_eq, List.getElem?_eq_none hn, Option.bind_none]

/-- If every value is of the type that its row declares, no value is without a row, and counting the
rows of a type finds values of that type. -/
theorem typed_of_declared (hdeclared : ∀ i value, table.value i = some value →
    ∃ d, table.descrs[i]? = some d ∧ value.dataType = d.dataType) : table.Typed where
  declared := hdeclared
  past i hi := by
    cases hvalue : table.value i with
    | none => rfl
    | some value =>
      obtain ⟨d, hd, -⟩ := hdeclared i value hvalue
      rw [List.getElem?_eq_none hi] at hd
      cases hd
  found t n value hvalue := by
    obtain ⟨⟨d, i⟩, hrow, hi⟩ := Option.bind_eq_some_iff.mp hvalue
    obtain ⟨hd, htype⟩ := mem_rowsOf (List.mem_of_getElem? hrow)
    obtain ⟨declared, hdeclares, hsame⟩ := hdeclared i value hi
    rw [hd, Option.some.injEq] at hdeclares
    rw [hsame, ← hdeclares, htype]

end DataTable

/-! The built-in readings. -/

theorem ThermometerReading.table_typed (r : ThermometerReading) : r.table.Typed := by
  apply DataTable.typed_of_declared
  intro i value hvalue
  match i with
  | 0 | 1 | 2 =>
    cases hvalue
    exact ⟨_, rfl, rfl⟩
  | 3 =>
    obtain ⟨-, hbattery⟩ := Option.ite_none_left_eq_some.mp hvalue
    cases hbattery
    exact ⟨_, rfl, rfl⟩
  | n + 4 => cases hvalue

theorem DieTemperature.table_typed (d : DieTemperature) : d.table.Typed := by
  apply DataTable.typed_of_declared
  intro i value hvalue
  match i with
  | 0 =>
    cases hvalue
    exact ⟨_, rfl, rfl⟩
  | n + 1 => cases hvalue

theorem BoardTelemetry.table_typed (b : BoardTelemetry) : b.table.Typed := by
  apply DataTable.typed_of_declared
  intro i value hvalue
  match i with
  | 0 | 1 | 2 | 3 =>
    obtain ⟨t, -, htemperature⟩ := Option.map_eq_some_iff.mp hvalue
    cases htemperature
    exact ⟨_, rfl, rfl⟩
  | 4 | 5 =>
    cases hvalue
    exact ⟨_, rfl, rfl⟩
  | n + 6 => simp [table] at hvalue

theorem Reading.table_typed (reading : Reading) : reading.table.Typed := by
  cases reading with
  | thermometer r => exact r.table_typed
  | board b => exact b.table_typed
  | die d => exact d.table_typed

/-- Any table, whatever its rows and values are, reads the same in both ways; and a built-in reading
has in each row a value of the type of the row, or none. -/
theorem tables_agree :
    (∀ (table : DataTable) (t : DataType), table.Agrees t) ∧
      ∀ reading : Reading, reading.table.Typed :=
  ⟨DataTable.agrees, Reading.table_typed⟩

/-- A room with a sensor inside and, out of reach, one outside: counted, the one that is there is the
second; walked, it is the first. -/
example :
    let inside : DataValue := .temperature ⟨2150, .embedded⟩
    let table : DataTable :=
      { descrs := [.unnamed .temperature .externalTemperature, .unnamed .humidity .boardHumidity,
          .named "inside" .temperature .boardTemperature]
        value := fun i => if i = 2 then some inside else none }
    table.fields = [⟨.named "inside" .temperature .boardTemperature, inside⟩] ∧
      (List.range 3).map (table.get? .temperature) = [none, some inside, none] := by
  decide

end HomeGateway

import HomeGateway.Data.Value

/-!
Decoded payloads as tables: a descriptor and perhaps a value per row. Values are found by
position, by walking the measured rows, or by type and occurrence.
-/

namespace HomeGateway

structure DataDescr where
  name : Option String
  dataType : DataType
  assignment : Assignment
  deriving DecidableEq

namespace DataDescr

def named (name : String) (dataType : DataType) (assignment : Assignment) : DataDescr :=
  { name := some name, dataType, assignment }

def unnamed (dataType : DataType) (assignment : Assignment) : DataDescr :=
  { name := none, dataType, assignment }

def hasType (descrs : List DataDescr) (t : DataType) : Bool :=
  descrs.any fun d => d.dataType = t

/-- The mask of all types that occur. -/
def typeMask (descrs : List DataDescr) : UInt32 :=
  descrs.foldl (fun mask d => mask ||| d.dataType.bit) 0

end DataDescr

structure DataField where
  descr : DataDescr
  value : DataValue
  deriving DecidableEq

/-- `value i` is `none` where row `i` was not measured or does not exist. -/
structure DataTable where
  descrs : List DataDescr
  value : Nat → Option DataValue

namespace DataTable

/-- The measured rows, in order. -/
def fields (table : DataTable) : List DataField :=
  table.descrs.zipIdx.filterMap fun (descr, i) =>
    (table.value i).map fun value => { descr, value }

/-- The value in the `occurrence`-th row of type `t`. Rows that were not measured count. -/
def get? (table : DataTable) (t : DataType) (occurrence : Nat) : Option DataValue :=
  ((table.descrs.zipIdx.filter fun (descr, _) => descr.dataType = t)[occurrence]?).bind
    fun (_, i) => table.value i

end DataTable

end HomeGateway

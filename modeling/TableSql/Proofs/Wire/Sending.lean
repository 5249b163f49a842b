import TableSql.Proofs.Value.Storage
import TableSql.Wire

/-!
# Sending values as they are or as they are stored

A value may be stored first and sent then, or be given to the writer as it is. The writer looks at
its kind, sends the kinds that are stored as they are, and converts the others when it meets them,
which brings them to one of the former (`sendBy?`). Both ways give the same field for every database
type, or are refused by the same types (`sent_as_stored`), and this is so whatever the writer does
with the kinds that it sends. It rests on two facts of storing: what is stored is never of a
converted kind, however deep alternatives are nested, and is stored as it is.
-/

namespace TableSql.Wire

open Value (Kind)

/-- A value as it is sent by a writer of the kinds that are stored as they are: values of other
kinds are converted on the way. -/
def sendBy? (write? : PgType → Value → Option (Option (List UInt8))) (type : PgType) (v : Value) :
    Option (Option (List UInt8)) :=
  if v.kind ∈ Kind.converted then sendBy? write? type v.toStorage else write? type v
termination_by if v.kind ∈ Kind.converted then 1 else 0
decreasing_by
  rw [if_neg v.kind_toStorage_not_mem, if_pos ‹_›]
  exact Nat.zero_lt_one

/-- The writer of the kinds that are stored as they are. -/
def writeStored? (type : PgType) (v : Value) : Option (Option (List UInt8)) :=
  if v.isNull then some none else (storedBytes? type v).map some

variable (write? : PgType → Value → Option (Option (List UInt8))) (type : PgType) (v : Value)

/-- One conversion is enough. -/
theorem sendBy?_eq : sendBy? write? type v = write? type v.toStorage := by
  by_cases converted : v.kind ∈ Kind.converted
  · rw [sendBy?, if_pos converted, sendBy?, if_neg v.kind_toStorage_not_mem]
  · rw [sendBy?, if_neg converted, Value.toStorage_of_not_mem converted]

theorem sendBy?_toStorage : sendBy? write? type v.toStorage = sendBy? write? type v := by
  rw [sendBy?_eq, sendBy?_eq, v.toStorage_toStorage]

theorem encode?_eq_sendBy? : encode? type v = sendBy? writeStored? type v :=
  (sendBy?_eq writeStored? type v).symm

theorem encode?_toStorage : encode? type v.toStorage = encode? type v := by
  rw [encode?_eq_sendBy?, encode?_eq_sendBy?, sendBy?_toStorage]

/-- What is stored is of a kind that is stored as it is, and storing it again changes nothing. So a
value and its stored form are sent alike, with the same field or refused both, as any database type
and by any writer of those kinds; and the fields of any values are the same with and without
storing them first. -/
theorem sent_as_stored :
    (∀ v : Value, v.toStorage.kind ∉ Kind.converted ∧ v.toStorage.toStorage = v.toStorage) ∧
      (∀ write? type v, sendBy? write? type v.toStorage = sendBy? write? type v) ∧
      (∀ type v, encode? type v = sendBy? writeStored? type v ∧
        encode? type v.toStorage = encode? type v) ∧
      ∀ types values, List.zipWith encode? types (values.map Value.toStorage) =
        List.zipWith encode? types values := by
  refine ⟨fun v => ⟨v.kind_toStorage_not_mem, v.toStorage_toStorage⟩, sendBy?_toStorage,
    fun type v => ⟨encode?_eq_sendBy? type v, encode?_toStorage type v⟩, fun types values => ?_⟩
  rw [List.zipWith_map_right]
  simp only [encode?_toStorage]

/-- The greatest number of 64 bits, as an alternative of an alternative. -/
example : encode? .int8 (.enum (.enum (.int .u64 ⟨18446744073709551615, by decide⟩))) =
    some (some [255, 255, 255, 255, 255, 255, 255, 255]) := by
  decide

end TableSql.Wire

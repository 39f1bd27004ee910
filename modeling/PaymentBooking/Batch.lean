import PaymentBooking.Reading.Record

/-! # Batches

A batch is a list of requests to the ledger for one tenant, of which either all take effect or
none. A dependent request refers to the resource of the request before it by a placeholder.
-/

namespace PaymentBooking

/-- The text that stands for the number of a resource. -/
def resourcePlaceholder : String := "$.resourceId"

/-- One request of a batch: an address, a JSON body, and whether it is dependent. -/
structure BatchItem where
  address : String
  body : String
  dependent : Bool
deriving DecidableEq

namespace BatchItem

open Reading in
def ofJson : ValueReader BatchItem :=
  RecordReader.ofJson
    (BatchItem.mk <$> .required "relativeUrl" text <*> .required "body" text <*>
      .required "resourceIdDependent" bool)
    "struct BatchItem"

def toJson (i : BatchItem) : Json :=
  .object
    [("relativeUrl", .text i.address), ("body", .text i.body),
     ("resourceIdDependent", .bool i.dependent)]

end BatchItem

structure Batch where
  tenant : String
  items : List BatchItem
deriving DecidableEq

namespace Batch

def begin (tenant : String) : Batch := ⟨tenant, []⟩

def append (b : Batch) (i : BatchItem) : Batch := { b with items := b.items ++ [i] }

def size (b : Batch) : Nat := b.items.length

def isEmpty (b : Batch) : Bool := b.items.isEmpty

def toJson (b : Batch) : Json :=
  .object [("tenant", .text b.tenant), ("items", .array (b.items.map BatchItem.toJson))]

end Batch

end PaymentBooking

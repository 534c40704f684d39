import Polku.Data.HashMap

/-!
# Protocol messages

The parts of the generated `polku.v1` types which the gateway reads and writes.
-/

namespace Polku

open Data

/-- A byte buffer, `Vec<u8>` or `bytes::Bytes`. -/
abbrev Bytes := List UInt8

/-- The event envelope of the wire format. -/
structure Event where
  id : String
  timestampUnixNs : Int64
  source : String
  eventType : String
  metadata : HashMap String String
  payload : Bytes
  routeTo : List String
deriving DecidableEq

/-- Raw bytes, which an ingestor has to decode. -/
structure RawPayload where
  data : Bytes
  format : String
deriving DecidableEq

/-- Events which need no decoding. -/
structure EventPayload where
  events : List Event
deriving DecidableEq

/-- The payload alternatives of a batch. -/
inductive IngestBatch.Payload where
  | raw (payload : RawPayload)
  | events (payload : EventPayload)
deriving DecidableEq

/-- A batch of a stream of events. -/
structure IngestBatch where
  source : String
  cluster : String
  payload : Option IngestBatch.Payload
deriving DecidableEq

/-- The payload alternatives of a unary ingestion request. -/
inductive IngestEvent.Payload where
  | raw (data : Bytes)
  | event (event : Event)
deriving DecidableEq

/-- A unary ingestion request. -/
structure IngestEvent where
  source : String
  cluster : String
  format : String
  payload : Option IngestEvent.Payload
deriving DecidableEq

/-- An error entry of an acknowledgment. -/
structure AckError where
  eventId : String
  code : String
  message : String
deriving DecidableEq

/-- The acknowledgment of an ingestion request. -/
structure Ack where
  eventIds : List String
  errors : List AckError
  bufferSize : Int
  bufferCapacity : Int
deriving DecidableEq

end Polku

